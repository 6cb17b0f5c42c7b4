import CodecLink.Bytes

/-! Numbers as text: decimal digits in bytes, hexadecimal and octal words, and the decimal
readings that command lines use. -/
namespace CodecLink.Numeral

def digits (n : Nat) : Bytes :=
  if n < 10 then [UInt8.ofNat (48 + n)] else digits (n / 10) ++ [UInt8.ofNat (48 + n % 10)]
termination_by n

def isDigit (b : UInt8) : Bool := 48 ≤ b && b ≤ 57

def digitValue (b : UInt8) : Nat := b.toNat - 48

/-- The value of a run of digits, most significant first. -/
def value (bs : Bytes) : Nat := bs.foldl (fun acc b => acc * 10 + digitValue b) 0

def hexText (n : Nat) : String := "0x" ++ String.ofList (Nat.toDigits 16 n)

def byteText (b : UInt8) : String := "0x" ++ Bytes.toHex [b]

def octalText (n : Nat) : String := String.ofList (Nat.toDigits 8 n)

def digitRun? (cs : List Char) : Option Nat :=
  if cs.isEmpty || !cs.all (fun c => '0' ≤ c && c ≤ '9') then none
  else some (cs.foldl (fun acc c => acc * 10 + (c.toNat - 48)) 0)

def unsigned? (limit : Nat) (cs : List Char) : Option Nat := do
  let n ← digitRun? (match cs with | '+' :: rest => rest | _ => cs)
  if n ≤ limit then some n else none

def signed? (cs : List Char) : Option Int :=
  match cs with
  | '-' :: rest => do
    let n ← digitRun? rest
    if n ≤ UInt64.size / 2 then some (-(n : Int)) else none
  | _ => do
    let n ← unsigned? (UInt64.size / 2 - 1) cs
    some n

end CodecLink.Numeral
