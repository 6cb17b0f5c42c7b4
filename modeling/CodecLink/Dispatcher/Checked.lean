import CodecLink.Checked.Messages
import CodecLink.Dispatcher.Serve
import CodecLink.Engine.Checked

/-! The host's side of a session by checked steps: everything that is counted, looked up, copied or
asked for on the way of a primitive. -/
namespace CodecLink

namespace Dispatcher

variable {σ : Type} (host : CheckedHost σ)

def countDroppedChecked (d : Dispatcher σ) : Checked (Dispatcher σ) :=
  Checked.counted d.summary.dropped d.countDropped

def countEngineErrorChecked (d : Dispatcher σ) : Checked (Dispatcher σ) :=
  Checked.counted d.summary.engineErrors d.countEngineError

def performChecked (operation : EngineOperation) (d : Dispatcher σ) :
    Checked (EngineResult Unit × Dispatcher σ) := do
  let (result, regions, engine) ← host.perform operation d.regions d.engine
  return (result, { d with regions, engine, calls := d.calls ++ [.perform operation] })

def attemptChecked (operation : EngineOperation) (d : Dispatcher σ) : Checked (Dispatcher σ) := do
  match ← d.performChecked host operation with
  | (.ok (), d) => return d
  | (.error _, d) => d.countEngineErrorChecked

def waitChecked (task : Task) (d : Dispatcher σ) :
    Checked (EngineResult Feedback × Dispatcher σ) := do
  let (result, regions, engine) ← host.wait task d.regions d.engine
  return (result, { d with regions, engine, calls := d.calls ++ [.wait task] })

def collectChecked (task : Task) :
    Nat → Dispatcher σ → Checked (EngineResult Feedback × Dispatcher σ)
  | 0, d => d.waitChecked host task
  | more + 1, d => do
    match ← d.waitChecked host task with
    | (.error .notReady, d) => collectChecked task more d
    | outcome => return outcome

def openSessionChecked (config : SessionConfig) (d : Dispatcher σ) : Checked (Dispatcher σ) :=
  match host.create config.backend d.engine with
  | none => d.countEngineErrorChecked
  | some engine => do
    match ← { d with engine }.performChecked host (.init config) with
    | (.error _, d) => d.countEngineErrorChecked
    | (.ok (), d) =>
      return { d with session := some { config, applied := .blank config.backend.codec } }

def onInitChecked (payload : Bytes) (d : Dispatcher σ) : Checked (Dispatcher σ) :=
  if d.session.isSome then d.countDroppedChecked
  else if payload.isEmpty then d.openSessionChecked host d.settings.defaultSession
  else match SessionConfig.ofPayload? payload with
    | none => d.countDroppedChecked
    | some config => d.openSessionChecked host config

def onDeinitChecked (d : Dispatcher σ) : Checked (Dispatcher σ) := do
  let d ← { d with session := none }.attemptChecked host .deinit
  return { d with summary.deinit := true }

def importPayloadChecked (payload : Bytes) (d : Dispatcher σ) :
    Checked (Except DescriptorError (Option Buffer)) :=
  if payload.isEmpty then return .ok none
  else do
    match ← Descriptor.decodeChecked payload with
    | .error e => return .error e
    | .ok descriptor => return (d.regions.importBuffer descriptor).map some

def onStartChecked (payload : Bytes) (s : HostSession) (d : Dispatcher σ) :
    Checked (Dispatcher σ) := do
  match ← d.importPayloadChecked payload with
  | .error _ => d.countDroppedChecked
  | .ok input =>
    let sequence ← Checked.increment s.task.sequence
    let task : Task := { sequence, input }
    { d with session := some { s with task } }.attemptChecked host (.start task)

def finishTaskChecked (output : Option Buffer) (tag : Option UInt64) (s : HostSession)
    (d : Dispatcher σ) : Checked (Dispatcher σ × Option WaitReply) := do
  match ← d.collectChecked host { s.task with output } (d.settings.maxTries - 1) with
  | (.error _, d) =>
    let s := { s with task.output := none }
    let d ← { d with session := some s }.countEngineErrorChecked
    return (d, failedReply s tag)
  | (.ok feedback, d) =>
    let s := { s with task.output := none, applied := s.applied.clearChanges }
    let tasks ← Checked.add d.summary.tasks 1
    let d := { d with session := some s, summary.tasks := tasks }
    match s.config.completion with
    | .roundTrip _ => return (d, some (doneReply output feedback tag))
    | .polling _ _ => return (d.publish output feedback, none)

def decodeWaitChecked (payload : Bytes) :
    Checked (Except DescriptorError (Option WaitRequest)) :=
  if payload.isEmpty then return .ok none
  else do
    let request ← WaitRequest.decodeChecked payload
    return request.map some

def onWaitChecked (payload : Bytes) (s : HostSession) (d : Dispatcher σ) :
    Checked (Dispatcher σ × Option WaitReply) := do
  match ← decodeWaitChecked payload with
  | .error _ => return (← d.countDroppedChecked, none)
  | .ok none => d.finishTaskChecked host none none s
  | .ok (some request) =>
    match d.regions.importBuffer request.output with
    | .error _ => return (← d.countDroppedChecked, failedReply s request.tag)
    | .ok buffer => d.finishTaskChecked host (some buffer) request.tag s

def onRecordChecked (kind : RecordKind) (payload : Bytes) (s : HostSession) (d : Dispatcher σ) :
    Checked (Dispatcher σ) :=
  if payload.length ≠ ConfigRequest.size s.config.backend.codec kind then d.countDroppedChecked
  else do
    let decoded ← ConfigRequest.decodeChecked s.config.backend.codec kind payload
    match decoded.bind fun request => (s.applied.apply request).map (request, ·) with
    | .error _ => d.countDroppedChecked
    | .ok (request, applied) =>
      let d := { d with session := some { s with applied } }
      d.attemptChecked host (.control (.configure request))

/-- The bytes of a raw command are copied out of its primitive. -/
def onControlChecked (payload : Bytes) (d : Dispatcher σ) : Checked (Dispatcher σ) := do
  Checked.allocate payload.length
  d.attemptChecked host (.control (.raw payload))

def routeChecked (kind : PrimitiveCode) (payload : Bytes) (s : HostSession) (d : Dispatcher σ) :
    Checked (Dispatcher σ × Flow × Option WaitReply) :=
  let silent (d : Checked (Dispatcher σ)) := d.map fun d => (d, Flow.resume, none)
  match kind with
  | .undefined => silent d.countDroppedChecked
  | .init => silent (d.onInitChecked host payload)
  | .deinit => (d.onDeinitChecked host).map fun d => (d, .stop, none)
  | .regs => silent (d.attemptChecked host (.prepare s.task))
  | .start => silent (d.onStartChecked host payload s)
  | .wait => (d.onWaitChecked host payload s).map fun (d, reply) => (d, .resume, reply)
  | .controlPrep => silent (d.onRecordChecked host .prep payload s)
  | .controlRc => silent (d.onRecordChecked host .rc payload s)
  | .controlCodec => silent (d.onRecordChecked host .codec payload s)
  | .controlSei => silent (d.onRecordChecked host .sei payload s)
  | .control => silent (d.onControlChecked host payload)
  | .reset => silent (d.attemptChecked host .reset)
  | .flush => silent (d.attemptChecked host .flush)

def dispatchChecked (p : Primitive) (d : Dispatcher σ) :
    Checked (Dispatcher σ × Flow × Option WaitReply) := do
  let d ← Checked.counted d.summary.primitives d.countPrimitive
  match p.kind?, d.session with
  | none, _ => return (← d.countDroppedChecked, .resume, none)
  | some kind, some s => d.routeChecked host kind p.payload s
  | some .init, none => return (← d.onInitChecked host p.payload, .resume, none)
  | some _, none => return (← d.countDroppedChecked, .resume, none)

/-- A frame that is longer than the limit is refused before there is memory for it. -/
def layOut (most : Nat) (p : Primitive) : Checked Unit := do
  let size ← Checked.add (Header.encode p.code p.payload.length).length p.payload.length
  if size ≤ most then Checked.allocate size else return

/-- A reply is encoded, and its frame laid out, before anything is written. -/
def sendReplyChecked (reply : Option WaitReply) (c : Channel) :
    Checked (Except ChannelError Unit × Channel) :=
  match reply with
  | none => return (.ok (), c)
  | some reply => do
    let payload ← reply.encodeChecked
    let p : Primitive := .of .wait payload
    layOut c.limits.maxFrame p
    return c.send p

def releaseChecked (d : Dispatcher σ) : Checked (Dispatcher σ) :=
  if d.session.isSome then do
    let (_, d) ← { d with session := none }.performChecked host .deinit
    return d
  else return d

/-- The reply is sent before anything else is read. -/
def handleChecked (p : Primitive) (d : Dispatcher σ) (c : Channel) :
    Checked (Dispatcher σ × Flow × Except ChannelError Unit × Channel) := do
  let (d, flow, reply) ← d.dispatchChecked host p
  let (sent, c) ← sendReplyChecked reply c
  return (d, flow, sent, c)

/-- What is left of a worker that came to a step it could not take. -/
structure Crashed where
  crash : Crash
  channel : Channel

def endedChecked (d : Dispatcher σ) (c : Channel) : Except Crashed (Served σ) :=
  match d.releaseChecked host with
  | .error crash => .error ⟨crash, c⟩
  | .ok d => .ok ⟨d, c, .ended⟩

theorem sendReplyChecked_backlog {reply : Option WaitReply} {c after : Channel}
    {result : Except ChannelError Unit} (sent : sendReplyChecked reply c = .ok (result, after)) :
    after.backlog = c.backlog := by
  cases reply with
  | none =>
    cases sent
    rfl
  | some reply =>
    obtain ⟨payload, -, sent⟩ := Checked.bind_ok.1 sent
    obtain ⟨-, -, sent⟩ := Checked.bind_ok.1 sent
    cases sent
    rfl

theorem handleChecked_backlog {p : Primitive} {d : Dispatcher σ} {c : Channel}
    {outcome : Dispatcher σ × Flow × Except ChannelError Unit × Channel}
    (handled : d.handleChecked host p c = .ok outcome) : outcome.2.2.2.backlog = c.backlog := by
  obtain ⟨⟨d, flow, reply⟩, -, handled⟩ := Checked.bind_ok.1 handled
  obtain ⟨⟨result, after⟩, sent, handled⟩ := Checked.bind_ok.1 handled
  cases handled
  exact sendReplyChecked_backlog sent

/-- Serves as `serve` does, up to a step that cannot be taken. -/
def serveChecked (stops : List Bool) (d : Dispatcher σ) (c : Channel) :
    Except Crashed (Served σ) :=
  if stops.head? = some true then d.endedChecked host c
  else match _received : c.recv with
    | (.error error, after) =>
      match _judged : verdict error with
      | .retry =>
        if _quiet : after.isQuiet then .ok ⟨d, after, .waiting⟩
        else serveChecked (stops.drop 1) d after
      | .finish => d.endedChecked host after
      | .skip =>
        match d.countDroppedChecked with
        | .error crash => .error ⟨crash, after⟩
        | .ok d => serveChecked (stops.drop 1) d after
      | .fail error => .ok ⟨d, after, .failed error⟩
    | (.ok p, after) =>
      match _handled : d.handleChecked host p after with
      | .error crash => .error ⟨crash, after⟩
      | .ok (d, _, .error (.disconnected _), after) => d.endedChecked host after
      | .ok (d, _, .error error, after) => .ok ⟨d, after, .failed error⟩
      | .ok (d, .stop, .ok (), after) => d.endedChecked host after
      | .ok (d, .resume, .ok (), after) => serveChecked (stops.drop 1) d after
termination_by c.backlog
decreasing_by
  · rcases Channel.recv_progress _received with less | closed | ⟨_, quiet⟩
    · exact less
    · cases closed
      cases _judged
    · exact absurd quiet _quiet
  · rcases Channel.recv_progress _received with less | closed | ⟨⟨_, timeout⟩, _⟩
    · exact less
    · cases closed
      cases _judged
    · cases timeout
      cases _judged
  · have less := Channel.backlog_lt_of_recv_ok _received
    have same := handleChecked_backlog host _handled
    dsimp only at same
    omega

end Dispatcher

end CodecLink
