import CodecLink.Endpoint.Rendezvous
import CodecLink.SessionConfig.Basic
import CodecLink.Tool.LogFilter
import CodecLink.Tool.Report

/-! What is asked for on a command line. Options of every command may stand before or after the
command's name, and the one after it counts. Words are taken in order, and the first one that asks
for help or cannot be understood ends the reading. -/
namespace CodecLink

inductive Word
  | terminator
  | long (name : String) (value : Option String)
  | short (letters : List Char)
  | plain (text : String)
  deriving DecidableEq, Repr

def Word.ofArgument (argument : String) : Word :=
  match argument.toList with
  | ['-', '-'] => terminator
  | '-' :: '-' :: cs =>
    let value := match cs.dropWhile (· ≠ '=') with
      | [] => none
      | _ :: value => some (String.ofList value)
    long (String.ofList (cs.takeWhile (· ≠ '='))) value
  | '-' :: c :: cs => short (c :: cs)
  | _ => plain argument

/-- Why no command is run. -/
inductive Refusal
  | badArguments
  | help
  | version
  deriving DecidableEq, Repr

structure OptionSpec where
  name : String
  /-- The values it takes; a switch takes none. -/
  accepts : Option (String → Bool)

structure Grammar where
  options : List OptionSpec
  /-- How many words may stand without an option. -/
  operands : Nat := 0
  /-- Whether such a word names a command, which ends the reading. -/
  isRoot : Bool := false

structure Scanned where
  options : List (String × String) := []
  operands : List String := []
  command : Option (String × List String) := none
  deriving DecidableEq, Repr

namespace Scanned

/-- An option may be given once. -/
def addOption (name value : String) (s : Scanned) : Except Refusal Scanned :=
  if s.options.any fun option => option.1 == name then .error .badArguments
  else .ok { s with options := s.options ++ [(name, value)] }

def has (name : String) (s : Scanned) : Bool := s.options.any fun option => option.1 == name

def value? (name : String) (s : Scanned) : Option String :=
  (s.options.find? fun option => option.1 == name).map (·.2)

end Scanned

namespace Grammar

/-- An operand is a path and as such not empty. -/
def addOperand (g : Grammar) (text : String) (s : Scanned) : Except Refusal Scanned :=
  if s.operands.length < g.operands && text ≠ "" then
    .ok { s with operands := s.operands ++ [text] }
  else .error .badArguments

def letterRefusal (g : Grammar) : List Char → Refusal
  | 'h' :: _ => .help
  | 'V' :: _ => if g.isRoot then .version else .badArguments
  | _ => .badArguments

def nameRefusal (g : Grammar) (name : String) (value : Option String) : Refusal :=
  if value.isSome then .badArguments
  else if name = "help" then .help
  else if name = "version" && g.isRoot then .version
  else .badArguments

def find? (g : Grammar) (name : String) : Option OptionSpec :=
  g.options.find? fun option => option.name == name

def addValue (accepts : String → Bool) (name value : String) (s : Scanned) :
    Except Refusal Scanned :=
  if accepts value then s.addOption name value else .error .badArguments

def scan (g : Grammar) : List String → Scanned → Except Refusal Scanned
  | [], s => .ok s
  | argument :: rest, s =>
    match Word.ofArgument argument with
    | .terminator => rest.foldlM (fun s text => g.addOperand text s) s
    | .plain text =>
      if g.isRoot then .ok { s with command := some (text, rest) }
      else match g.addOperand text s with
        | .error refusal => .error refusal
        | .ok s => g.scan rest s
    | .short letters => .error (g.letterRefusal letters)
    | .long name value =>
      match g.find? name, value with
      | none, _ => .error (g.nameRefusal name value)
      | some ⟨_, none⟩, some _ => .error .badArguments
      | some ⟨_, none⟩, none =>
        match s.addOption name "" with
        | .error refusal => .error refusal
        | .ok s => g.scan rest s
      | some ⟨_, some accepts⟩, some value =>
        match addValue accepts name value s with
        | .error refusal => .error refusal
        | .ok s => g.scan rest s
      | some ⟨_, some accepts⟩, none =>
        match rest with
        | [] => .error .badArguments
        | next :: rest =>
          match Word.ofArgument next with
          | .plain value =>
            match addValue accepts name value s with
            | .error refusal => .error refusal
            | .ok s => g.scan rest s
          | _ => .error .badArguments

end Grammar

/-- How the completion of a task is asked for on the command line. -/
def Completion.ofOption? : String → Option Completion
  | "polling" => some .defaultPolling
  | "round-trip" => some .defaultRoundTrip
  | _ => none

structure EncodeOptions where
  file : String
  backend : Backend
  completion : Completion
  width : UInt16
  height : UInt16
  deriving DecidableEq, Repr

structure ProbeOptions where
  endpoint : String
  backend : Backend
  /-- The connection timeout as it was typed. -/
  timeout : String
  deriving DecidableEq, Repr

inductive Command
  | serve (endpoint : String) (count : Option Nat)
  | probe (options : ProbeOptions)
  | encode (options : EncodeOptions)
  | decodeFrames (file : String)
  | version (extended : Bool)
  deriving DecidableEq, Repr

/-- The file that a command reads. -/
def Command.file? : Command → Option String
  | encode options => some options.file
  | decodeFrames file => some file
  | _ => none

structure Invocation where
  format : ReportFormat := .json
  /-- Whether log lines are written as JSON. -/
  structuredLog : Bool := false
  log : LogFilter := {}
  command : Command
  deriving DecidableEq, Repr

namespace Invocation

def word? (text : String) : Option Nat :=
  (Numeral.signed? text.toList).bind fun n => if 0 ≤ n && n < 65536 then some n.toNat else none

def count? (text : String) : Option Nat := Numeral.unsigned? (UInt64.size - 1) text.toList

def isLogFormat (text : String) : Bool := text == "text" || text == "json"

def isPath (text : String) : Bool := text ≠ ""

def valued {α : Type} (name : String) (read : String → Option α) : OptionSpec :=
  ⟨name, some fun text => (read text).isSome⟩

def path (name : String) : OptionSpec := ⟨name, some isPath⟩

def switch (name : String) : OptionSpec := ⟨name, none⟩

def shared : List OptionSpec :=
  [ valued "format" ReportFormat.ofName?, ⟨"log-format", some isLogFormat⟩,
    valued "log-level" LogLevel.ofName?, switch "trace-wire" ]

def root : Grammar := { options := shared, isRoot := true }

def grammar? : String → Option Grammar
  | "serve" => some { options := shared ++ [valued "count" count?], operands := 1 }
  | "probe" => some
    { options := shared ++ [valued "backend" Backend.ofName?, ⟨"timeout", some fun _ => true⟩]
      operands := 1 }
  | "encode" => some
    { options := shared ++ [path "file", valued "backend" Backend.ofName?,
        valued "mode" Completion.ofOption?, valued "width" word?, valued "height" word?] }
  | "decode-frames" => some { options := shared ++ [path "file"] }
  | "version" => some { options := shared ++ [switch "extended"] }
  | _ => none

/-- The endpoint given, or the variable's value, which may not be empty then. -/
def endpointOf (s : Scanned) (variableValue : Option String) : Except Refusal String :=
  match s.operands, variableValue with
  | path :: _, _ => .ok path
  | [], some path => if isPath path then .ok path else .error .badArguments
  | [], none => .ok Rendezvous.defaultPath

def fileOf (s : Scanned) : Except Refusal String :=
  match s.value? "file" with
  | some path => .ok path
  | none => .error .badArguments

def commandOf (name : String) (s : Scanned) (variableValue : Option String) :
    Except Refusal Command := do
  let backend := ((s.value? "backend").bind Backend.ofName?).getD .h264Encoder
  match name with
  | "serve" => return .serve (← endpointOf s variableValue) ((s.value? "count").bind count?)
  | "probe" =>
    let timeout := (s.value? "timeout").getD "5s"
    return .probe { endpoint := ← endpointOf s variableValue, backend, timeout }
  | "encode" =>
    let completion := ((s.value? "mode").bind Completion.ofOption?).getD .defaultPolling
    let width := ((s.value? "width").bind word?).getD 1280
    let height := ((s.value? "height").bind word?).getD 720
    return .encode
      { file := ← fileOf s, backend, completion, width := .ofNat width, height := .ofNat height }
  | "decode-frames" => return .decodeFrames (← fileOf s)
  | _ => return .version (s.has "extended")

/-- Help may be asked for about one command, or about help itself. -/
def helpOn : List String → Refusal
  | [] => .help
  | [topic] => if topic = "help" || (grammar? topic).isSome then .help else .badArguments
  | _ => .badArguments

/-- Options after the command's name go before those in front of it. -/
def parse (arguments : List String) (variableValue : Option String) :
    Except Refusal Invocation := do
  let before ← root.scan arguments {}
  let some (name, rest) := before.command | throw .badArguments
  if name = "help" then throw (helpOn rest)
  let some grammar := grammar? name | throw .badArguments
  let after ← grammar.scan rest {}
  let all : Scanned := { after with options := after.options ++ before.options }
  return {
    format := ((all.value? "format").bind ReportFormat.ofName?).getD .json
    structuredLog := all.value? "log-format" = some "json"
    log :=
      { level := ((all.value? "log-level").bind LogLevel.ofName?).getD .info
        traceWire := all.has "trace-wire" }
    command := ← commandOf name all variableValue }

end Invocation

end CodecLink
