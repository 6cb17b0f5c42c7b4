import CodecLink.Channel.Basic
import CodecLink.Engine.Basic
import CodecLink.Record.Pending

/-! A client's session: its state, the channel it holds and the records still to be delivered. Each
call is allowed in some states only, and a refused call changes nothing. -/
namespace CodecLink

inductive SessionState
  | uninitialized | connected | configured | running | waiting | resetting | disconnected
  deriving DecidableEq, Repr

namespace SessionState

def all : List SessionState :=
  [uninitialized, connected, configured, running, waiting, resetting, disconnected]

def name : SessionState → String
  | uninitialized => "uninitialized"
  | connected => "connected"
  | configured => "configured"
  | running => "running"
  | waiting => "waiting"
  | resetting => "resetting"
  | disconnected => "disconnected"

def ofName? (text : String) : Option SessionState := all.find? fun state => state.name == text

end SessionState

inductive SessionError
  | connection (error : ChannelError)
  | invalidState (operation : String) (state : SessionState)
  | invalidConfig (error : RecordError)
  | descriptor (error : DescriptorError)
  | allocation (reason : String)
  deriving DecidableEq, Repr

def SessionError.message : SessionError → String
  | connection error => "connection error: " ++ error.message
  | invalidState operation state => operation ++ " not allowed in state " ++ state.name
  | invalidConfig error => "invalid configuration: " ++ error.message
  | descriptor error => "invalid buffer descriptor: " ++ error.message
  | allocation reason => "session allocation failed: " ++ reason

structure Session where
  config : SessionConfig
  state : SessionState := .uninitialized
  channel : Option Channel := none
  /-- The last channel that was given up. -/
  retired : Option Channel := none
  configs : ConfigSet
  waitTag : UInt64 := 0
  deriving DecidableEq, Repr

namespace Session

abbrev Answer (α : Type) := Except SessionError α × Session

def ofConfig (config : SessionConfig) : Session :=
  { config, configs := .blank config.backend.codec }

def require (operation : String) (allowed : List SessionState) (s : Session) :
    Except SessionError Unit :=
  if s.state ∈ allowed then .ok () else .error (.invalidState operation s.state)

/-- After a failure other than a timeout the channel is closed and given up. -/
def fail (error : ChannelError) (s : Session) : Session :=
  if error.isFatal then
    { s with channel := none, retired := s.channel.map Channel.shutdown, state := .disconnected }
  else s

def send (kind : PrimitiveCode) (payload : Bytes) (s : Session) : Answer Unit :=
  match s.channel with
  | none => (.error (.invalidState kind.name s.state), s)
  | some c =>
    match c.send (.of kind payload) with
    | (.ok (), c) => (.ok (), { s with channel := some c })
    | (.error error, c) => (.error (.connection error), { s with channel := some c }.fail error)

/-- Delivers records in the order given; one counts as delivered only after it was sent. -/
def deliver : List RecordKind → Session → Answer Unit
  | [], s => (.ok (), s)
  | kind :: rest, s =>
    match s.send kind.primitive (s.configs.encoded kind) with
    | (.error error, s) => (.error error, s)
    | (.ok (), s) => deliver rest { s with configs := s.configs.delivered kind }

def deliverPending (s : Session) : Answer Unit := s.deliver s.configs.pending.toList

end Session

end CodecLink
