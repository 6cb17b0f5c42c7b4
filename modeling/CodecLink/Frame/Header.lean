import CodecLink.Primitive
import CodecLink.Text.Numeral

/-! The header of a frame: a code and a payload length in decimal digits, each ended by a colon or
a zero byte. A token has one to ten digits and a value of at most thirty-two bits. -/
namespace CodecLink

inductive HeaderFault
  | emptyToken
  | tokenTooLong
  | nonNumeric
  | overflow
  | missingDelimiter
  | other (reason : String)
  deriving DecidableEq, Repr

def HeaderFault.reason : HeaderFault → String
  | emptyToken => "empty token"
  | tokenTooLong => "token too long"
  | nonNumeric => "non-numeric token"
  | overflow => "value overflows u32"
  | missingDelimiter => "missing delimiter"
  | other reason => reason

structure Header where
  code : UInt32
  length : Nat
  consumed : Nat
  deriving DecidableEq, Repr

namespace Header

def maxDigits : Nat := 10

def maxValue : Nat := UInt32.size - 1

def isDelimiter (b : UInt8) : Bool := b == 58 || b == 0

/-- Scans one token: its value and the bytes taken with its delimiter, or nothing while the
delimiter has not arrived. `count` digits of value `acc` came before. -/
def scanToken (count acc : Nat) : Bytes → Except HeaderFault (Option (Nat × Nat))
  | [] => .ok none
  | b :: rest =>
    if isDelimiter b then
      if count = 0 then .error .emptyToken
      else if maxValue < acc then .error .overflow
      else .ok (some (acc, count + 1))
    else if maxDigits ≤ count then .error .tokenTooLong
    else if !Numeral.isDigit b then .error .nonNumeric
    else scanToken (count + 1) (acc * 10 + Numeral.digitValue b) rest

/-- The header at the front of the bytes, or nothing while it is unfinished. -/
def scan (bs : Bytes) : Except HeaderFault (Option Header) := do
  match ← scanToken 0 0 bs with
  | none => return none
  | some (code, codeSize) =>
    match ← scanToken 0 0 (bs.drop codeSize) with
    | none => return none
    | some (length, lengthSize) => return some ⟨UInt32.ofNat code, length, codeSize + lengthSize⟩

def read (bs : Bytes) : Except HeaderFault Header := do
  match ← scan bs with
  | none => throw .missingDelimiter
  | some header => return header

def kind? (header : Header) : Option PrimitiveCode := PrimitiveCode.ofWire? header.code

def encode (code : UInt32) (length : Nat) : Bytes :=
  Numeral.digits code.toNat ++ [58] ++ Numeral.digits length ++ [58]

theorem scanToken_consumed {bs : Bytes} {count acc value size : Nat}
    (found : scanToken count acc bs = .ok (some (value, size))) :
    0 < size ∧ size ≤ count + bs.length := by
  induction bs generalizing count acc with
  | nil => simp [scanToken] at found
  | cons b rest ih =>
    rw [scanToken] at found
    split at found
    · split at found
      · cases found
      · split at found
        · cases found
        · simp only [Except.ok.injEq, Option.some.injEq, Prod.mk.injEq] at found
          obtain ⟨_, rfl⟩ := found
          simp only [List.length_cons]
          omega
    · split at found
      · cases found
      · split at found
        · cases found
        · have := ih found
          simp only [List.length_cons]
          omega

theorem scan_consumed {bs : Bytes} {header : Header} (found : scan bs = .ok (some header)) :
    0 < header.consumed ∧ header.consumed ≤ bs.length := by
  simp only [scan, bind, Except.bind, pure, Except.pure] at found
  split at found
  · cases found
  · rename_i first outcome
    split at found
    · simp at found
    · rename_i code codeSize
      split at found
      · cases found
      · rename_i second outcome2
        split at found
        · simp at found
        · rename_i length lengthSize
          simp only [Except.ok.injEq, Option.some.injEq] at found
          subst found
          have a := scanToken_consumed outcome
          have b := scanToken_consumed outcome2
          simp only [List.length_drop] at b
          simp only
          omega

end Header

end CodecLink
