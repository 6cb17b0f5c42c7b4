import CodecLink.Json.Text
import CodecLink.Tool.Table

/-! What a command reports, as a line of JSON, as a table or as a list. -/
namespace CodecLink

inductive ReportFormat
  | json
  | table
  | pretty
  deriving DecidableEq, Repr

namespace ReportFormat

def ofName? : String → Option ReportFormat
  | "json" => some json
  | "table" => some table
  | "pretty" => some pretty
  | _ => none

end ReportFormat

structure Report where
  title : String
  fields : List (String × Json)
  rows : List (String × String)

namespace Report

def prettyLines (r : Report) : List String :=
  let width := r.rows.foldl (fun most row => max most row.1.length) 0
  (r.title ++ ":") :: r.rows.map fun row =>
    "  " ++ row.1 ++ String.ofList (List.replicate (width - row.1.length + 2) ' ') ++ row.2

def lines (format : ReportFormat) (r : Report) : List String :=
  match format with
  | .json => [(Json.ofFields r.fields).render]
  | .table => (Table.mk ["FIELD", "VALUE"] (r.rows.map fun row => [row.1, row.2])).lines
  | .pretty => r.prettyLines

end Report

/-- Each line with its end. -/
def outputOf (lines : List String) : String := String.join (lines.map (· ++ "\n"))

end CodecLink
