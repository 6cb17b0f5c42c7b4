import CodecLink.Checked.Steps
import CodecLink.Engine.Scripted

/-! Engines whose calls are made of checked steps. The copying engine asks for memory for what it
copies, and of a heap input for as many bytes as its descriptor says. -/
namespace CodecLink

structure CheckedHost (σ : Type) where
  create : Backend → σ → Option σ
  perform : EngineOperation → RegionTable → σ → Checked (EngineResult Unit × RegionTable × σ)
  wait : Task → RegionTable → σ → Checked (EngineResult Feedback × RegionTable × σ)

namespace Feedback

def doneChecked (size : UInt64) : Checked Feedback := do
  let bits ← Checked.times size.toNat 8
  return ⟨.done, size, .ofNat bits⟩

end Feedback

namespace Passthrough

/-- Of a command that is kept, only raw bytes are memory of their own. -/
def copyChecked : EngineControl → Checked Unit
  | .configure _ => return
  | .raw payload => Checked.allocate payload.length

/-- More bytes than any command takes in the list of commands. -/
def commandSize : Nat := 64

/-- A list that grows asks for twice its room. -/
def growControls (controls : List EngineControl) : Checked Unit :=
  Checked.allocate (commandSize * max 4 (2 * controls.length))

def inputChecked (task : Task) (t : RegionTable) : Checked Produced :=
  match task.input with
  | none => return .bytes []
  | some buffer =>
    match buffer.region.bind t.region? with
    | some r => do
      Checked.allocate r.data.length
      return .bytes (r.data.take buffer.descriptor.size.toNat)
    | none => do
      Checked.allocate buffer.descriptor.size.toNat
      return .zeros buffer.descriptor.size.toNat

def performChecked (operation : EngineOperation) (t : RegionTable) (e : Passthrough) :
    Checked (EngineResult Unit × Passthrough) :=
  match operation with
  | .start task =>
    if e.initialized then do
      let produced ← inputChecked task t
      return (.ok (), { e with pending := some produced })
    else return (.error .notInitialized, e)
  | .control command =>
    if e.initialized then do
      copyChecked command
      growControls e.controls
      return (.ok (), { e with controls := e.controls ++ [command] })
    else return (.error .notInitialized, e)
  | operation => return e.perform operation t

def waitChecked (task : Task) (t : RegionTable) (e : Passthrough) :
    Checked (EngineResult Feedback × RegionTable × Passthrough) :=
  if !e.initialized then return (.error .notInitialized, t, e)
  else match e.pending with
    | none => return (.error .notReady, t, e)
    | some produced =>
      let e := { e with pending := none }
      let produced := match task.output with
        | none => produced
        | some buffer => produced.take buffer.descriptor.size.toNat
      match deliver produced task.output t with
      | .error fault => return (.error fault, t, e)
      | .ok t => do
        let feedback ← Feedback.doneChecked (.ofNat produced.size)
        return (.ok feedback, t, e)

end Passthrough

namespace ScriptedEngine

def performChecked (operation : EngineOperation) (t : RegionTable) (s : ScriptedEngine) :
    Checked (EngineResult Unit × RegionTable × ScriptedEngine) :=
  match s.take (.ofOperation operation) with
  | (.fail error, s) => return (.error error, t, s)
  | (_, s) => do
    let (result, engine) ← s.engine.performChecked operation t
    return (result, t, { s with engine })

def waitChecked (task : Task) (t : RegionTable) (s : ScriptedEngine) :
    Checked (EngineResult Feedback × RegionTable × ScriptedEngine) :=
  match s.take .wait with
  | (.fail error, s) => return (.error error, t, s)
  | (.report feedback, s) => return (.ok feedback, t, s)
  | (.reach, s) => do
    let (result, t, engine) ← s.engine.waitChecked task t
    return (result, t, { s with engine })

def checkedHost (registry : EngineRegistry) : CheckedHost ScriptedEngine where
  create := (host registry).create
  perform := performChecked
  wait := waitChecked

end ScriptedEngine

end CodecLink
