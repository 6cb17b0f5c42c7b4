import CodecLink.Json.Text
import CodecLink.SessionConfig.Basic

/-! A session's configuration as the text that opens it. Objects may hold keys of no meaning, and a
record may also be written as the list of its fields. -/
namespace CodecLink

namespace Json

abbrev Fields := List (String × Json)

def decodeKeys (members : List (Text × Json)) : Option Fields :=
  members.mapM fun member => member.1.decode?.map (·, member.2)

def valuesOf (key : String) (fields : Fields) : List Json :=
  (fields.filter fun field => field.1 == key).map (·.2)

def required? (key : String) (fields : Fields) : Option Json :=
  match valuesOf key fields with
  | [value] => some value
  | _ => none

/-- Refuses a key given twice; a key not given at all is `some none`. -/
def optional? (key : String) (fields : Fields) : Option (Option Json) :=
  match valuesOf key fields with
  | [] => some none
  | [value] => some (some value)
  | _ => none

def unsigned? (limit : Nat) : Json → Option Nat
  | number n => n.unsigned? limit
  | _ => none

def string? : Json → Option String
  | text t => t.decode?
  | _ => none

end Json

def Backend.ofJson? : Json → Option Backend
  | .text t => t.decode?.bind ofName?
  | .object [(key, .null)] => key.decode?.bind ofName?
  | _ => none

namespace Completion

/-- How deep a value may nest below a completion. -/
def maxDepth : Nat := 125

def fieldNames : String → Option (List String)
  | "round_trip" => some ["timeout_ms"]
  | "polling" => some ["interval_ms", "max_polls"]
  | _ => none

def ofFields? (mode : String) (values : List Json) : Option Completion :=
  match mode, values with
  | "round_trip", [timeout] => do
    return roundTrip (.ofNat (← timeout.unsigned? (UInt64.size - 1)))
  | "polling", [interval, polls] => do
    return polling (.ofNat (← interval.unsigned? (UInt64.size - 1)))
      (.ofNat (← polls.unsigned? (UInt32.size - 1)))
  | _, _ => none

def ofJson? : Json → Option Completion
  | .object members => do
    let fields ← Json.decodeKeys members
    let mode ← (← Json.required? "mode" fields).string?
    if fields.all fun field => field.1 == "mode" || field.2.isPlain maxDepth then
      let values ← (← fieldNames mode).mapM fun name => Json.required? name fields
      ofFields? mode values
    else none
  | .array (first :: values) => do
    let mode ← first.string?
    if values.all (Json.isPlain maxDepth) then ofFields? mode values else none
  | _ => none

def toJson : Completion → Json
  | roundTrip timeoutMs =>
    .ofFields [("mode", .ofString "round_trip"), ("timeout_ms", .ofNat timeoutMs.toNat)]
  | polling intervalMs maxPolls =>
    .ofFields [("mode", .ofString "polling"), ("interval_ms", .ofNat intervalMs.toNat),
      ("max_polls", .ofNat maxPolls.toNat)]

end Completion

namespace SessionConfig

def ofJson? : Json → Option SessionConfig
  | .object members => do
    let fields ← Json.decodeKeys members
    let backend ← Backend.ofJson? (← Json.required? "backend" fields)
    match ← Json.optional? "completion" fields with
    | none => return { backend }
    | some completion => return { backend, completion := ← Completion.ofJson? completion }
  | .array [backend] => do return { backend := ← Backend.ofJson? backend }
  | .array [backend, completion] => do
    return { backend := ← Backend.ofJson? backend, completion := ← Completion.ofJson? completion }
  | _ => none

def toJson (config : SessionConfig) : Json :=
  .ofFields [("backend", .ofString config.backend.name),
    ("completion", config.completion.toJson)]

def ofPayload? (payload : Bytes) : Option SessionConfig := (Json.parse payload).bind ofJson?

def toPayload (config : SessionConfig) : Bytes := config.toJson.write

end SessionConfig

end CodecLink
