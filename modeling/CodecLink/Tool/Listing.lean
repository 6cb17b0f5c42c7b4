import CodecLink.Frame.Codec
import CodecLink.Tool.Report

/-! Captured primitives for reading. A payload is shown as it is if it is text, and otherwise as
the beginning of its hexadecimal form. -/
namespace CodecLink

namespace Primitive

/-- How many bytes of a binary payload are shown. -/
def previewSize : Nat := 32

def binaryPreview (payload : Bytes) : String :=
  let shown := Bytes.toHex (payload.take previewSize)
  if previewSize < payload.length then shown ++ s!"... <binary {payload.length} bytes>" else shown

/-- A zero byte makes a payload binary. -/
def preview (payload : Bytes) : String :=
  match Utf8.decode? payload with
  | some cs => if cs.contains '\x00' then binaryPreview payload else String.ofList cs
  | none => binaryPreview payload

end Primitive

namespace Listing

def jsonLine (index : Nat) (p : Primitive) : String :=
  Json.render <| .ofFields
    [ ("index", .ofNat index), ("code", .ofNat p.code.toNat), ("name", .ofString p.name),
      ("payload_size", .ofNat p.payload.length), ("payload", .ofString (Primitive.preview p.payload)) ]

def row (index : Nat) (p : Primitive) : List String :=
  [toString index, toString p.code.toNat, p.name, toString p.payload.length,
    Primitive.preview p.payload]

def prettyLine (index : Nat) (p : Primitive) : String :=
  s!"#{index} code={p.code.toNat} ({p.name}) size={p.payload.length} payload="
    ++ Primitive.preview p.payload

def lines (format : ReportFormat) (ps : List Primitive) : List String :=
  match format with
  | .json => ps.mapIdx jsonLine
  | .table => (Table.mk ["#", "CODE", "NAME", "SIZE", "PAYLOAD"] (ps.mapIdx row)).lines
  | .pretty => ps.mapIdx prettyLine

end Listing

end CodecLink
