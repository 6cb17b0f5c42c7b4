import CodecLink.Engine.Scripted
import CodecLink.Session.Link
import CodecLink.Tool.Arguments
import CodecLink.Tool.Failure

/-! Running one frame through a host of its own: a session over a channel to a dispatcher, with one
region for the frame and one for the result. -/
namespace CodecLink

structure EncodeResult where
  options : EncodeOptions
  inputSize : Nat
  output : TaskOutput
  summary : DispatchSummary
  deriving DecidableEq, Repr

namespace EncodeResult

def statusText (r : EncodeResult) : String :=
  if r.output.timedOut then "timeout" else r.output.feedback.status.name

def report (r : EncodeResult) : Report where
  title := "Encode"
  fields :=
    [ ("backend", .ofString r.options.backend.name),
      ("completion", .ofString r.options.completion.name), ("input_size", .ofNat r.inputSize),
      ("length", .ofNat r.output.length.toNat), ("status", .ofString r.statusText),
      ("result_bits", .ofNat r.output.feedback.detail.toNat),
      ("timed_out", .bool r.output.timedOut), ("engine_tasks", .ofNat r.summary.tasks),
      ("engine_errors", .ofNat r.summary.engineErrors) ]
  rows :=
    [ ("backend", r.options.backend.name), ("completion", r.options.completion.name),
      ("input size", toString r.inputSize), ("output length", toString r.output.length.toNat),
      ("status", r.statusText), ("result bits", toString r.output.feedback.detail.toNat),
      ("engine tasks", toString r.summary.tasks),
      ("engine errors", toString r.summary.engineErrors) ]

end EncodeResult

namespace Encode

def engines : EngineHost ScriptedEngine := ScriptedEngine.host .full

/-- The regions of a frame and of its result. A region has at least one byte. -/
def stage (frame : Bytes) : Except DescriptorError (Region × Region × RegionTable) := do
  let capacity := max frame.length 1
  let (input, t) := ({} : RegionTable).allocate capacity
  let (output, t) := t.allocate capacity
  match t.find? input.handle with
  | none => return (input, output, t)
  | some id => return (input, output, ← t.write id frame)

abbrev Step (α : Type) := ExceptT Failure (StateM (Link ScriptedEngine)) α

/-- A call whose failure ends the command. -/
def attempt {α : Type} (context : String)
    (call : Link ScriptedEngine → Except SessionError α × Link ScriptedEngine) : Step α := do
  match ← modifyGet call with
  | .ok value => return value
  | .error error => throw (.ofSession context error)

def perform (options : EncodeOptions) (size : Nat) (input output : Region) : Step TaskOutput := do
  if options.backend.isEncoder then
    let geometry := ConfigRequest.prep (.input options.width options.height)
    attempt "input configuration rejected" (·.call engines (·.control geometry))
  attempt "regs failed" (·.call engines (·.genRegs))
  let frame := { input.descriptor with size := .ofNat size }
  attempt "start failed" (·.call engines (·.start frame))
  let flag := (← get).host.regions.find? output.handle
  let result ← attempt "wait failed" (·.wait engines output.descriptor flag)
  attempt "deinit failed" (·.call engines (·.deinit))
  return result

def run (options : EncodeOptions) (frame : Bytes) : Except Failure EncodeResult := do
  let (input, output, regions) ← (stage frame).mapError fun error =>
    .within "input staging failed" .internal error.message
  let (attached, l) := Link.attach engines ⟨options.backend, options.completion⟩
    { regions, engine := {} }
  attached.mapError (.ofSession "init failed")
  let (result, l) := (perform options frame.length input output).run.run l
  let result ← result
  match l.finished with
  | some (.error error) => throw (.ofChannel "engine host failed" error)
  | _ => return ⟨options, frame.length, result, l.host.summary⟩

end Encode

end CodecLink
