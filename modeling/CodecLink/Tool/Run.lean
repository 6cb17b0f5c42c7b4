import CodecLink.Tool.Encode
import CodecLink.Tool.Listing
import CodecLink.Tool.Probe
import CodecLink.Tool.Version

/-! Running a command line: what it prints, how it ends and what it leaves behind. -/
namespace CodecLink

/-- What a run finds around it. -/
structure Surroundings where
  files : FileTree := {}
  /-- The value of the variable that names the endpoint. -/
  endpoint : Option String := none
  /-- The host that runs beside it. -/
  hosting : Option Hosting := none
  build : BuildInfo := {}
  measured : Measured := {}
  /-- Seconds on the clock. -/
  clock : Nat := 0

structure RunResult where
  code : ExitCode
  output : String := ""
  /-- What is said of a failure. -/
  complaint : Option String := none
  deriving DecidableEq, Repr

namespace RunResult

def ofFailure (failure : Failure) (lines : List String) : RunResult :=
  ⟨failure.code, outputOf lines, some ("error: " ++ failure.message)⟩

def ofLines (code : ExitCode) (lines : List String) : RunResult := ⟨code, outputOf lines, none⟩

def errorLines (r : RunResult) : List String :=
  match r.complaint with
  | none => []
  | some text =>
    (Segments.ofString '\n' text).filter fun line => "error: ".toList.isPrefixOf line.toList

end RunResult

namespace Tool

def usageLine : String :=
  "Usage: rvpu [OPTIONS] <serve|probe|encode|decode-frames|version>"

def readFile (path : String) (s : Surroundings) : Except Failure Bytes :=
  (s.files.read path).mapError (.ofFault ("failed reading " ++ path))

def encode (format : ReportFormat) (options : EncodeOptions) (s : Surroundings) :
    Except Failure RunResult := do
  let result ← Encode.run options (← readFile options.file s)
  return .ofLines (if result.output.timedOut then .timeout else .success)
    (result.report.lines format)

/-- The primitives before the first error, and that error. -/
def untilError : List (Except FrameError Primitive) → List Primitive × Option FrameError
  | [] => ([], none)
  | .error error :: _ => ([], some error)
  | .ok p :: rest =>
    let (ps, error) := untilError rest
    (p :: ps, error)

def decodeFrames (format : ReportFormat) (file : String) (s : Surroundings) :
    Except Failure RunResult := do
  let (ps, error) := untilError (Frame.decodeStream (← readFile file s)).1
  let lines := Listing.lines format ps
  match error with
  | none => return .ofLines .success lines
  | some error =>
    let context := s!"stream corrupt after {ps.length} primitives"
    return .ofFailure (.ofFrame context error) lines

/-- Once a host is over its socket is gone, and its reports are the output. -/
def conclude (h : Hosting) (s : Surroundings) : RunResult × Surroundings :=
  let lines := h.lines s.clock
  (if h.crashed then .ofFailure Failure.crashed lines else .ofLines .success lines,
    { s with hosting := none, files := h.socket.release s.files })

def serve (format : ReportFormat) (endpoint : String) (count : Option Nat) (s : Surroundings) :
    Except Failure (RunResult × Surroundings) := do
  let (h, files) ← Hosting.start endpoint count format s.files
  let s := { s with files, hosting := some h }
  return if h.isOver then conclude h s else (.ofLines .success [], s)

def probe (format : ReportFormat) (options : ProbeOptions) (s : Surroundings) :
    Except Failure (RunResult × Surroundings) := do
  let (result, h) ← Probe.run options s.measured s.hosting s.files
  return (.ofLines .success (result.report.lines format), { s with hosting := some h })

def version (format : ReportFormat) (extended : Bool) (s : Surroundings) : RunResult :=
  let report := s.build.report (Rendezvous.pathOf s.endpoint)
  .ofLines .success (if extended then report.lines format else [BuildInfo.line])

def execute (i : Invocation) (s : Surroundings) : Except Failure (RunResult × Surroundings) :=
  match i.command with
  | .serve endpoint count => serve i.format endpoint count s
  | .probe options => probe i.format options s
  | .encode options => (encode i.format options s).map (·, s)
  | .decodeFrames file => (decodeFrames i.format file s).map (·, s)
  | .version extended => .ok (version i.format extended s, s)

/-- A host that is not over yet stays in the surroundings, and its reports are still to come. -/
def run (arguments : List String) (s : Surroundings) : RunResult × Surroundings :=
  match Invocation.parse arguments s.endpoint with
  | .error .badArguments => (⟨.badArguments, "", none⟩, s)
  | .error .help => (.ofLines .success [usageLine], s)
  | .error .version => (.ofLines .success [BuildInfo.line], s)
  | .ok i =>
    match execute i s with
    | .error failure => (.ofFailure failure [], s)
    | .ok answer => answer

end Tool

end CodecLink
