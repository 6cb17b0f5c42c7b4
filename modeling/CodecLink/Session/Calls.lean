import CodecLink.Session.Basic
import CodecLink.SessionConfig.Payload
import CodecLink.Waiting

/-! The calls of a session. A wait has two parts, submitting the request and awaiting its
completion; in between the other side does its work. -/
namespace CodecLink

structure TaskOutput where
  length : UInt64
  feedback : Feedback
  timedOut : Bool
  deriving DecidableEq, Repr

namespace TaskOutput

def ofOutcome (outcome : WaitOutcome) : TaskOutput :=
  { length := outcome.size
    feedback := if outcome = .failed then .failed else .done outcome.size
    timedOut := outcome.isTimeout }

def empty : TaskOutput := ⟨0, .done 0, false⟩

end TaskOutput

/-- What completes a submitted wait. -/
inductive Awaited
  | reply (tag : UInt64)
  | word
  | nothing
  deriving DecidableEq, Repr

namespace Session

def attach (c : Channel) (s : Session) : Answer Unit :=
  match s.require "attach" [.uninitialized, .disconnected] with
  | .error error => (.error error, s)
  | .ok () =>
    match c.send (.of .init s.config.toPayload) with
    | (.error error, c) => (.error (.connection error), { s with retired := some c })
    | (.ok (), c) => (.ok (), { s with channel := some c, state := .connected })

/-- Attaches the channel that an attempt to connect gave. -/
def init (attempt : Except ChannelError Channel) (s : Session) : Answer Unit :=
  match s.require "init" [.uninitialized, .disconnected] with
  | .error error => (.error error, s)
  | .ok () =>
    match attempt with
    | .error error => (.error (.connection error), s)
    | .ok c => s.attach c

def validate (request : ConfigRequest) (backend : Backend) : Except RecordError Unit :=
  match request with
  | .prep record => record.validate backend
  | _ => .ok ()

def recordRequest (request : ConfigRequest) (s : Session) : Except SessionError Session :=
  match validate request s.config.backend with
  | .error error => .error (.invalidConfig error)
  | .ok () =>
    match s.configs.record request with
    | .error error => .error (.invalidConfig error)
    | .ok configs => .ok { s with configs }

/-- Requests for records that the backend does not take are passed over. -/
def control (request : ConfigRequest) (s : Session) : Answer Unit :=
  match s.require "control" [.connected, .configured] with
  | .error error => (.error error, s)
  | .ok () =>
    if !s.config.backend.accepted.has request.kind then (.ok (), s)
    else match s.recordRequest request with
      | .error error => (.error error, s)
      | .ok recorded =>
        match recorded.deliverPending with
        | (.error error, s) => (.error error, s)
        | (.ok (), s) => (.ok (), { s with state := .configured })

def genRegs (s : Session) : Answer Unit :=
  match s.require "gen_regs" [.connected, .configured] with
  | .error error => (.error error, s)
  | .ok () => s.send .regs []

/-- A heap buffer means nothing to the other side, so its descriptor is not sent. -/
def startPayload (input : Descriptor) : Bytes := if input.isShared then input.encode else []

def start (input : Descriptor) (s : Session) : Answer Unit :=
  match s.require "start" [.connected, .configured, .waiting] with
  | .error error => (.error error, s)
  | .ok () =>
    match s.deliverPending with
    | (.error error, s) => (.error error, s)
    | (.ok (), s) =>
      match s.send .start (startPayload input) with
      | (.error error, s) => (.error error, s)
      | (.ok (), s) => (.ok (), { s with state := .running })

/-- Tags count up and skip zero, which stands for no tag. -/
def nextTag (tag : UInt64) : UInt64 := if tag + 1 = 0 then 1 else tag + 1

/-- Whether a wait looks at a ready word, which is armed before the request is sent. -/
def watchesWord (output : Descriptor) (hasFlag : Bool) (s : Session) : Bool :=
  s.config.completion.isPolling && hasFlag && output.isShared

def submit (awaited : Awaited) (payload : Bytes) (s : Session) : Answer Awaited :=
  match s.send .wait payload with
  | (.error error, s) => (.error error, s)
  | (.ok (), s) => (.ok awaited, s)

def submitWait (output : Descriptor) (hasFlag : Bool) (s : Session) : Answer Awaited :=
  match s.require "wait" [.running] with
  | .error error => (.error error, s)
  | .ok () =>
    let s := { s with state := .waiting }
    if s.config.completion.isPolling then
      if s.watchesWord output hasFlag then s.submit .word output.encode
      else s.submit .nothing []
    else
      let tag := nextTag s.waitTag
      { s with waitTag := tag }.submit (.reply tag) (WaitRequest.encode ⟨output, some tag⟩)

def complete (flag : Option ReadyFlag) (tag : Option UInt64) (s : Session) :
    Except SessionError TaskOutput × Option ReadyFlag × Session :=
  match s.channel with
  | none => (.error (.invalidState "wait" s.state), flag, s)
  | some c =>
    match c.awaitCompletion s.config.completion flag tag with
    | (.error error, flag, c) =>
      (.error (.connection error), flag, { s with channel := some c }.fail error)
    | (.ok outcome, flag, c) =>
      (.ok (.ofOutcome outcome), flag, { s with channel := some c, state := .configured })

def finishWait (awaited : Awaited) (flag : Option ReadyFlag) (s : Session) :
    Except SessionError TaskOutput × Option ReadyFlag × Session :=
  match awaited with
  | .nothing => (.ok .empty, flag, { s with state := .configured })
  | .word => s.complete flag none
  | .reply tag =>
    let (result, _, s) := s.complete none (some tag)
    (result, flag, s)

/-- The ready word is armed only once the call is known to be allowed. -/
def armFor (output : Descriptor) (flag : Option ReadyFlag) (s : Session) : Option ReadyFlag :=
  if s.state = .running && s.watchesWord output flag.isSome then flag.map ReadyFlag.arm else flag

def wait (output : Descriptor) (flag : Option ReadyFlag) (s : Session) :
    Except SessionError TaskOutput × Option ReadyFlag × Session :=
  let flag := s.armFor output flag
  match s.submitWait output flag.isSome with
  | (.error error, s) => (.error error, flag, s)
  | (.ok awaited, s) => s.finishWait awaited flag

def requireConnected (operation : String) (s : Session) : Except SessionError Unit :=
  s.require operation [.connected, .configured, .running, .waiting, .resetting]

def interrupt (operation : String) (kind : PrimitiveCode) (s : Session) : Answer Unit :=
  match s.requireConnected operation with
  | .error error => (.error error, s)
  | .ok () =>
    match { s with state := .resetting }.send kind [] with
    | (.error error, s) => (.error error, s)
    | (.ok (), s) => (.ok (), { s with state := .configured })

def reset (s : Session) : Answer Unit := s.interrupt "reset" .reset

def flush (s : Session) : Answer Unit := s.interrupt "flush" .flush

def deinit (s : Session) : Answer Unit :=
  match s.requireConnected "deinit" with
  | .error error => (.error error, s)
  | .ok () =>
    (.ok (), { s with
      channel := none, retired := s.channel.map Channel.disconnect, state := .disconnected })

end Session

end CodecLink
