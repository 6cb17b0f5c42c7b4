import CodecLink.Tool.Run

/-! The program. It reads the one file that a command line names and hands it to the tool. No
client reaches a host that it starts; such a host ends with the program's input. -/
namespace CodecLink.Main

def faultOf : IO.Error → Fault
  | .noFileOrDirectory _ _ _ => .noSuchFile
  | .permissionDenied _ _ _ => .permissionDenied
  | .inappropriateType _ 20 _ => .notADirectory
  | .inappropriateType _ 21 _ => .isADirectory
  | error => ⟨.other, toString error⟩

def readFile (path : String) : IO (Except Fault Bytes) := do
  try return .ok (← IO.FS.readBinFile path).toList
  catch error => return .error (faultOf error)

/-- The file that the command reads, as a tree, or the fault in the way. -/
def filesFor (arguments : List String) (endpoint : Option String) :
    IO (Except Failure FileTree) := do
  match (Invocation.parse arguments endpoint).toOption.bind (·.command.file?) with
  | none => return .ok {}
  | some path =>
    match ← readFile path with
    | .ok content => return .ok (.ofFiles [(path, content)])
    | .error fault => return .error (.ofFault ("failed reading " ++ path) fault)

partial def awaitEnd (input : IO.FS.Stream) : IO Unit := do
  if !(← input.getLine).isEmpty then awaitEnd input

def run (arguments : List String) : IO RunResult := do
  let endpoint ← IO.getEnv Rendezvous.pathVariable
  match ← filesFor arguments endpoint with
  | .error failure => return .ofFailure failure []
  | .ok files =>
    let (result, s) := Tool.run arguments { files, endpoint }
    match s.hosting with
    | none => return result
    | some h =>
      awaitEnd (← IO.getStdin)
      return (Tool.conclude h.interrupt s).1

end CodecLink.Main

def main (arguments : List String) : IO UInt32 := do
  let result ← CodecLink.Main.run arguments
  (← IO.getStdout).putStr result.output
  for text in result.complaint do
    (← IO.getStderr).putStrLn text
  return .ofNat result.code.number
