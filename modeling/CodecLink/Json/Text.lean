import CodecLink.Json.Tree
import CodecLink.Text.Utf8

/-! The content of quoted texts and the values that can be held in full: escapes come in valid
pairs, the bytes are valid text, numbers are within the range of double precision, and nesting is
bounded. -/
namespace CodecLink.Json

namespace Text

def isHigh (value : Nat) : Bool := 0xD800 ≤ value && value < 0xDC00

def isLow (value : Nat) : Bool := 0xDC00 ≤ value && value < 0xE000

def joinPair (high low : Nat) : Nat := 0x10000 + (high - 0xD800) * 0x400 + (low - 0xDC00)

/-- The bytes that the units stand for; a half of a pair must have its other half next to it. -/
def bytes? : Text → Option Bytes
  | [] => some []
  | .byte b :: rest => (bytes? rest).map (b :: ·)
  | .code value :: rest =>
    if isLow value then none
    else if isHigh value then
      match rest with
      | .code low :: rest =>
        if isLow low then
          (bytes? rest).map (String.utf8EncodeChar (Char.ofNat (joinPair value low)) ++ ·)
        else none
      | _ => none
    else (bytes? rest).map (String.utf8EncodeChar (Char.ofNat value) ++ ·)

def decode? (text : Text) : Option String := do
  return String.ofList (← Utf8.decode? (← bytes? text))

def ofBytes (bs : Bytes) : Text := bs.map .byte

def ofString (s : String) : Text := ofBytes (Utf8.encode s)

end Text

def ofString (s : String) : Json := text (.ofString s)

def ofFields (fields : List (String × Json)) : Json :=
  object (fields.map fun field => (.ofString field.1, field.2))

/-- The text as characters; every text made from characters can be read back so. -/
def render (value : Json) : String := String.ofList ((Utf8.decode? value.write).getD [])

namespace Number

/-- The digits as a whole number times a power of ten. Digits past the reach of a sixty-four bit
number are dropped: before the point they count for the power, after it for nothing. -/
structure Scaled where
  value : Nat := 0
  power : Int := 0
  full : Bool := false

namespace Scaled

def limit : Nat := UInt64.size - 1

def addWhole (s : Scaled) (digit : UInt8) : Scaled :=
  let next := s.value * 10 + Numeral.digitValue digit
  if s.full || limit < next then { s with power := s.power + 1, full := true }
  else { s with value := next }

def addFraction (s : Scaled) (digit : UInt8) : Scaled :=
  let next := s.value * 10 + Numeral.digitValue digit
  if s.full || limit < next then { s with full := true }
  else { s with value := next, power := s.power - 1 }

end Scaled

def scaled (n : Number) : Scaled :=
  let whole := n.whole.foldl Scaled.addWhole {}
  let digits := (n.fraction.getD []).foldl Scaled.addFraction { whole with full := false }
  match n.exponent with
  | none => digits
  | some e =>
    let shift : Int := Numeral.value e.digits
    { digits with power := if e.negative then digits.power - shift else digits.power + shift }

/-- The nearest number with fifty-three significant bits, a tie going to the even one. -/
def roundBits (n : Nat) : Nat :=
  let excess := n.log2 + 1 - 53
  let unit := 1 <<< excess
  let quotient := n / unit
  let twice := 2 * (n % unit)
  if unit < twice || (twice == unit && quotient % 2 == 1) then (quotient + 1) * unit
  else quotient * unit

/-- Whether the number rounds to a finite one of double precision. -/
def inRange (n : Number) : Bool :=
  let s := n.scaled
  if s.value = 0 || s.power < 0 then true
  else if 308 < s.power then false
  else roundBits s.value * roundBits (Nat.pow 10 s.power.toNat) < (1 <<< 1024) - (1 <<< 970)

/-- The value of a number written without sign, fraction and exponent, if it is small enough. -/
def unsigned? (limit : Nat) (n : Number) : Option Nat :=
  if n.negative || n.fraction.isSome || n.exponent.isSome then none
  else
    let value := Numeral.value n.whole
    if value ≤ limit then some value else none

end Number

/-- Whether the value can be held in full with at most `depth` containers inside one another. -/
def isPlain : Nat → Json → Bool
  | _, null => true
  | _, bool _ => true
  | _, number n => n.inRange
  | _, text t => t.decode?.isSome
  | 0, array _ => false
  | 0, object _ => false
  | depth + 1, array items => items.all (isPlain depth)
  | depth + 1, object members =>
    members.all fun member => member.1.decode?.isSome && isPlain depth member.2

end CodecLink.Json
