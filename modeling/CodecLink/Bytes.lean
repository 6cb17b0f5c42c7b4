/-! Byte strings, hexadecimal text and fixed little-endian layouts. A layout is a list of field
widths, along which values are packed and bytes unpacked. -/
namespace CodecLink

abbrev Bytes := List UInt8

namespace Bytes

def hexDigit (n : Nat) : Char := if n < 10 then Char.ofNat (48 + n) else Char.ofNat (87 + n)

def toHex (bs : Bytes) : String :=
  String.ofList (bs.flatMap fun b => [hexDigit (b.toNat / 16), hexDigit (b.toNat % 16)])

/-- One byte for each character; meant for texts of seven-bit characters. -/
def ofAscii (s : String) : Bytes := s.toList.map fun c => UInt8.ofNat c.toNat

def littleEndian : Nat → Nat → Bytes
  | 0, _ => []
  | width + 1, n => UInt8.ofNat n :: littleEndian width (n / 256)

def toNat : Bytes → Nat
  | [] => 0
  | b :: bs => b.toNat + 256 * toNat bs

/-- How many bytes a layout takes. -/
def span : List Nat → Nat
  | [] => 0
  | width :: widths => width + span widths

/-- Fields given as width and value, written one after another. -/
def pack (fields : List (Nat × Nat)) : Bytes :=
  fields.flatMap fun field => littleEndian field.1 field.2

def unpack : List Nat → Bytes → List Nat
  | [], _ => []
  | width :: widths, bs => toNat (bs.take width) :: unpack widths (bs.drop width)

@[simp] theorem length_littleEndian (width n : Nat) : (littleEndian width n).length = width := by
  induction width generalizing n <;> simp [littleEndian, *]

theorem length_pack (fields : List (Nat × Nat)) :
    (pack fields).length = span (fields.map (·.1)) := by
  induction fields with
  | nil => rfl
  | cons field fields ih => simp_all [pack, span, List.flatMap_cons]

end Bytes

end CodecLink
