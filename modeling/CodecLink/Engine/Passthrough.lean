import CodecLink.Engine.Basic

/-! The engine that copies its input to its output. Of a heap input only the size is known, and the
output is that many zero bytes. -/
namespace CodecLink

/-- What a started task will produce. -/
inductive Produced
  | bytes (content : Bytes)
  | zeros (count : Nat)
  deriving DecidableEq, Repr

namespace Produced

def size : Produced → Nat
  | bytes content => content.length
  | zeros count => count

def take (most : Nat) : Produced → Produced
  | bytes content => bytes (content.take most)
  | zeros count => zeros (min most count)

def toBytes : Produced → Bytes
  | bytes content => content
  | zeros count => List.replicate count 0

@[simp] theorem length_toBytes (p : Produced) : p.toBytes.length = p.size := by
  cases p <;> simp [toBytes, size]

end Produced

structure Passthrough where
  initialized : Bool := false
  pending : Option Produced := none
  controls : List EngineControl := []
  deriving DecidableEq, Repr

namespace Passthrough

/-- The input's content, cut to the size that its descriptor gives. -/
def inputOf (task : Task) (t : RegionTable) : Produced :=
  match task.input with
  | none => .bytes []
  | some buffer =>
    match buffer.region.bind t.region? with
    | some r => .bytes (r.data.take buffer.descriptor.size.toNat)
    | none => .zeros buffer.descriptor.size.toNat

def perform (operation : EngineOperation) (t : RegionTable) (e : Passthrough) :
    EngineResult Unit × Passthrough :=
  match operation with
  | .init _ => (.ok (), { e with initialized := true })
  | .deinit => (.ok (), { e with initialized := false, pending := none })
  | .reset => (.ok (), { e with pending := none })
  | .flush => (.ok (), { e with pending := none })
  | .prepare _ => if e.initialized then (.ok (), e) else (.error .notInitialized, e)
  | .start task =>
    if e.initialized then (.ok (), { e with pending := some (inputOf task t) })
    else (.error .notInitialized, e)
  | .control command =>
    if e.initialized then (.ok (), { e with controls := e.controls ++ [command] })
    else (.error .notInitialized, e)

/-- Puts the content into the output's region; too much content is refused without being laid out. -/
def deliver (produced : Produced) (output : Option Buffer) (t : RegionTable) :
    EngineResult RegionTable :=
  match output.bind (·.region) with
  | none => .ok t
  | some id =>
    match t.region? id with
    | none => .ok t
    | some r =>
      if r.capacity < produced.size then
        .error (.failed (DescriptorError.regionTooSmall produced.size r.capacity).message)
      else match t.write id produced.toBytes with
        | .ok t => .ok t
        | .error e => .error (.failed e.message)

def wait (task : Task) (t : RegionTable) (e : Passthrough) :
    EngineResult Feedback × RegionTable × Passthrough :=
  if !e.initialized then (.error .notInitialized, t, e)
  else match e.pending with
    | none => (.error .notReady, t, e)
    | some produced =>
      let e := { e with pending := none }
      let produced := match task.output with
        | none => produced
        | some buffer => produced.take buffer.descriptor.size.toNat
      match deliver produced task.output t with
      | .error fault => (.error fault, t, e)
      | .ok t => (.ok (.done (.ofNat produced.size)), t, e)

end Passthrough

end CodecLink
