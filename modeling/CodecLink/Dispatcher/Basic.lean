import CodecLink.Engine.Basic
import CodecLink.Record.Applied
import CodecLink.SessionConfig.Payload
import CodecLink.Text.Duration

/-! The host's side of a session: each primitive is routed to the engine chosen when the session
was opened. Nothing a peer sends and nothing an engine answers stops the routing but the end of the
session; what cannot be used is counted and dropped. -/
namespace CodecLink

structure DispatchSummary where
  primitives : Nat := 0
  dropped : Nat := 0
  engineErrors : Nat := 0
  tasks : Nat := 0
  /-- Whether the session ended with a farewell. -/
  deinit : Bool := false
  deriving DecidableEq, Repr

inductive Flow
  | resume
  | stop
  deriving DecidableEq, Repr

structure DispatchSettings where
  defaultSession : SessionConfig := {}
  maxTries : Nat := 3
  /-- The pause between two tries. -/
  retryPause : Millis := 1
  deriving DecidableEq, Repr

structure HostSession where
  config : SessionConfig
  applied : AppliedConfig
  task : Task := {}
  deriving DecidableEq, Repr

structure Dispatcher (σ : Type) where
  settings : DispatchSettings := {}
  regions : RegionTable := {}
  engine : σ
  session : Option HostSession := none
  summary : DispatchSummary := {}
  /-- Every engine call so far, in order. -/
  calls : List EngineCall := []

namespace Dispatcher

variable {σ : Type} (host : EngineHost σ)

def countPrimitive (d : Dispatcher σ) : Dispatcher σ :=
  { d with summary.primitives := d.summary.primitives + 1 }

def countDropped (d : Dispatcher σ) : Dispatcher σ :=
  { d with summary.dropped := d.summary.dropped + 1 }

def countEngineError (d : Dispatcher σ) : Dispatcher σ :=
  { d with summary.engineErrors := d.summary.engineErrors + 1 }

def perform (operation : EngineOperation) (d : Dispatcher σ) :
    EngineResult Unit × Dispatcher σ :=
  let (result, regions, engine) := host.perform operation d.regions d.engine
  (result, { d with regions, engine, calls := d.calls ++ [.perform operation] })

/-- An engine call of which only the failures count. -/
def attempt (operation : EngineOperation) (d : Dispatcher σ) : Dispatcher σ :=
  match d.perform host operation with
  | (.ok (), d) => d
  | (.error _, d) => d.countEngineError

def wait (task : Task) (d : Dispatcher σ) : EngineResult Feedback × Dispatcher σ :=
  let (result, regions, engine) := host.wait task d.regions d.engine
  (result, { d with regions, engine, calls := d.calls ++ [.wait task] })

/-- Asks for the task's result, again and at most `more` times while it is not ready. -/
def collect (task : Task) : Nat → Dispatcher σ → EngineResult Feedback × Dispatcher σ
  | 0, d => d.wait host task
  | more + 1, d =>
    match d.wait host task with
    | (.error .notReady, d) => collect task more d
    | outcome => outcome

def openSession (config : SessionConfig) (d : Dispatcher σ) : Dispatcher σ :=
  match host.create config.backend d.engine with
  | none => d.countEngineError
  | some engine =>
    match { d with engine }.perform host (.init config) with
    | (.error _, d) => d.countEngineError
    | (.ok (), d) =>
      { d with session := some { config, applied := .blank config.backend.codec } }

/-- An empty payload asks for the default session. -/
def onInit (payload : Bytes) (d : Dispatcher σ) : Dispatcher σ :=
  if d.session.isSome then d.countDropped
  else if payload.isEmpty then d.openSession host d.settings.defaultSession
  else match SessionConfig.ofPayload? payload with
    | none => d.countDropped
    | some config => d.openSession host config

def onDeinit (d : Dispatcher σ) : Dispatcher σ :=
  let d := { d with session := none }.attempt host .deinit
  { d with summary.deinit := true }

/-- The buffer named by a payload; an empty payload names none. -/
def importPayload (payload : Bytes) (d : Dispatcher σ) : Except DescriptorError (Option Buffer) :=
  if payload.isEmpty then .ok none
  else do
    let descriptor ← Descriptor.decode payload
    return some (← d.regions.importBuffer descriptor)

def onStart (payload : Bytes) (s : HostSession) (d : Dispatcher σ) : Dispatcher σ :=
  match d.importPayload payload with
  | .error _ => d.countDropped
  | .ok input =>
    let task : Task := { sequence := s.task.sequence + 1, input }
    { d with session := some { s with task } }.attempt host (.start task)

/-- Only a session that waits for replies is told of a failure. -/
def failedReply (s : HostSession) (tag : Option UInt64) : Option WaitReply :=
  match s.config.completion with
  | .roundTrip _ => some (.failed tag)
  | .polling _ _ => none

def doneReply (output : Option Buffer) (feedback : Feedback) (tag : Option UInt64) : WaitReply :=
  let descriptor := (output.map (·.descriptor)).getD (.heap 0)
  { output := { descriptor with size := feedback.outputSize }, tag }

/-- The size in the ready word, which never looks like the word of an unfinished task. -/
def publishedSize (size : UInt64) : UInt32 := .ofNat (min size.toNat (readySentinel.toNat - 1))

def publish (output : Option Buffer) (feedback : Feedback) (d : Dispatcher σ) : Dispatcher σ :=
  match output.bind (·.region) with
  | none => d
  | some id =>
    { d with regions := d.regions.publish id (publishedSize feedback.outputSize) }

def finishTask (output : Option Buffer) (tag : Option UInt64) (s : HostSession)
    (d : Dispatcher σ) : Dispatcher σ × Option WaitReply :=
  match d.collect host { s.task with output } (d.settings.maxTries - 1) with
  | (.error _, d) =>
    let s := { s with task.output := none }
    ({ d with session := some s }.countEngineError, failedReply s tag)
  | (.ok feedback, d) =>
    let s := { s with task.output := none, applied := s.applied.clearChanges }
    let d := { d with session := some s, summary.tasks := d.summary.tasks + 1 }
    match s.config.completion with
    | .roundTrip _ => (d, some (doneReply output feedback tag))
    | .polling _ _ => (d.publish output feedback, none)

def decodeWait (payload : Bytes) : Except DescriptorError (Option WaitRequest) :=
  if payload.isEmpty then .ok none else (WaitRequest.decode payload).map some

def onWait (payload : Bytes) (s : HostSession) (d : Dispatcher σ) :
    Dispatcher σ × Option WaitReply :=
  match decodeWait payload with
  | .error _ => (d.countDropped, none)
  | .ok none => d.finishTask host none none s
  | .ok (some request) =>
    match d.regions.importBuffer request.output with
    | .error _ => (d.countDropped, failedReply s request.tag)
    | .ok buffer => d.finishTask host (some buffer) request.tag s

/-- A payload is measured before it is read. -/
def onRecord (kind : RecordKind) (payload : Bytes) (s : HostSession) (d : Dispatcher σ) :
    Dispatcher σ :=
  if payload.length ≠ ConfigRequest.size s.config.backend.codec kind then d.countDropped
  else
    let applied := do
      let request ← ConfigRequest.decode s.config.backend.codec kind payload
      return (request, ← s.applied.apply request)
    match applied with
    | .error _ => d.countDropped
    | .ok (request, applied) =>
      { d with session := some { s with applied } }.attempt host (.control (.configure request))

def route (kind : PrimitiveCode) (payload : Bytes) (s : HostSession) (d : Dispatcher σ) :
    Dispatcher σ × Flow × Option WaitReply :=
  match kind with
  | .undefined => (d.countDropped, .resume, none)
  | .init => (d.onInit host payload, .resume, none)
  | .deinit => (d.onDeinit host, .stop, none)
  | .regs => (d.attempt host (.prepare s.task), .resume, none)
  | .start => (d.onStart host payload s, .resume, none)
  | .wait =>
    let (d, reply) := d.onWait host payload s
    (d, .resume, reply)
  | .controlPrep => (d.onRecord host .prep payload s, .resume, none)
  | .controlRc => (d.onRecord host .rc payload s, .resume, none)
  | .controlCodec => (d.onRecord host .codec payload s, .resume, none)
  | .controlSei => (d.onRecord host .sei payload s, .resume, none)
  | .control => (d.attempt host (.control (.raw payload)), .resume, none)
  | .reset => (d.attempt host .reset, .resume, none)
  | .flush => (d.attempt host .flush, .resume, none)

/-- Handles one primitive. There is at most one reply, and it is the last thing that happens. -/
def dispatch (p : Primitive) (d : Dispatcher σ) : Dispatcher σ × Flow × Option WaitReply :=
  let d := d.countPrimitive
  match p.kind?, d.session with
  | none, _ => (d.countDropped, .resume, none)
  | some kind, some s => d.route host kind p.payload s
  | some .init, none => (d.onInit host p.payload, .resume, none)
  | some _, none => (d.countDropped, .resume, none)

/-- The engine of a session that did not end with a farewell is let go all the same. -/
def release (d : Dispatcher σ) : Dispatcher σ :=
  if d.session.isSome then ({ d with session := none }.perform host .deinit).2 else d

end Dispatcher

end CodecLink
