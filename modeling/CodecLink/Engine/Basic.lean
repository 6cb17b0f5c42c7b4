import CodecLink.Record.Basic
import CodecLink.Region
import CodecLink.SessionConfig.Basic
import CodecLink.WaitMessage

/-! What a session asks of its engine and what an engine answers. An engine is any state with a way
to perform calls on it; calls may change shared regions. -/
namespace CodecLink

structure Task where
  sequence : UInt64 := 0
  input : Option Buffer := none
  output : Option Buffer := none
  deriving DecidableEq, Repr

structure Feedback where
  status : TaskStatus
  outputSize : UInt64
  detail : UInt64
  deriving DecidableEq, Repr

namespace Feedback

/-- The detail counts bits, in sixty-four of them. -/
def done (size : UInt64) : Feedback := ⟨.done, size, size * 8⟩

def failed : Feedback := ⟨.failed, 0, 0⟩

end Feedback

inductive EngineError
  | notReady
  | notInitialized
  | unsupported (operation : String)
  | invalidInput (reason : String)
  | failed (reason : String)
  deriving DecidableEq, Repr

namespace EngineError

def message : EngineError → String
  | notReady => "engine has no output ready"
  | notInitialized => "engine not initialized"
  | unsupported operation => "operation not supported: " ++ operation
  | invalidInput reason => "invalid input: " ++ reason
  | failed reason => "engine failure: " ++ reason

end EngineError

inductive EngineControl
  | configure (request : ConfigRequest)
  | raw (payload : Bytes)
  deriving DecidableEq, Repr

namespace EngineControl

def name : EngineControl → String
  | configure (.prep _) => "prep"
  | configure (.rc _) => "rc"
  | configure (.codec _) => "codec"
  | configure (.sei _) => "sei"
  | raw _ => "raw"

def payload : EngineControl → Bytes
  | configure request => request.encode
  | raw payload => payload

end EngineControl

/-- The calls that answer nothing but success or an error. -/
inductive EngineOperation
  | init (config : SessionConfig)
  | deinit
  | prepare (task : Task)
  | start (task : Task)
  | reset
  | flush
  | control (command : EngineControl)
  deriving DecidableEq, Repr

inductive EngineCall
  | perform (operation : EngineOperation)
  | wait (task : Task)
  deriving DecidableEq, Repr

namespace EngineCall

def bufferText : Option Buffer → String
  | none => "none"
  | some buffer =>
    let d := buffer.descriptor
    d.kind.name ++ s!":{d.handle.toNat}:{d.size.toNat}"

def taskText (verb : String) (task : Task) : String :=
  verb ++ s!" {task.sequence.toNat} in=" ++ bufferText task.input ++ " out="
    ++ bufferText task.output

def text : EngineCall → String
  | perform (.init config) => "init " ++ config.backend.name ++ " " ++ config.completion.name
  | perform .deinit => "deinit"
  | perform (.prepare task) => taskText "prepare" task
  | perform (.start task) => taskText "start" task
  | perform .reset => "reset"
  | perform .flush => "flush"
  | perform (.control command) => "control " ++ command.name ++ " " ++ command.payload.toHex
  | wait task => taskText "wait" task

end EngineCall

abbrev EngineResult (α : Type) := Except EngineError α

/-- Where engines come from and how they behave. The state covers the engine in use and whatever
outlives it. -/
structure EngineHost (σ : Type) where
  create : Backend → σ → Option σ
  perform : EngineOperation → RegionTable → σ → EngineResult Unit × RegionTable × σ
  wait : Task → RegionTable → σ → EngineResult Feedback × RegionTable × σ

end CodecLink
