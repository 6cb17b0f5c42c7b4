import CodecLink.Bytes

/-! The encoding of characters as one to four bytes. Decoding refuses overlong forms, surrogates,
values past the last code point and sequences cut short. -/
namespace CodecLink.Utf8

def encode (s : String) : Bytes := s.toList.flatMap String.utf8EncodeChar

def isTail (b : UInt8) : Bool := 0x80 ≤ b && b < 0xC0

def tailBits (b : UInt8) : Nat := b.toNat % 64

def twoByte (a b : UInt8) : Option Char :=
  if 0xC2 ≤ a && a < 0xE0 && isTail b then
    some (Char.ofNat ((a.toNat % 32) * 64 + tailBits b))
  else none

def threeByte (a b c : UInt8) : Option Char :=
  let value := (a.toNat % 16) * 4096 + tailBits b * 64 + tailBits c
  if 0xE0 ≤ a && a < 0xF0 && isTail b && isTail c && 0x800 ≤ value
      && !(0xD800 ≤ value && value < 0xE000) then
    some (Char.ofNat value)
  else none

def fourByte (a b c d : UInt8) : Option Char :=
  let value := (a.toNat % 8) * 262144 + tailBits b * 4096 + tailBits c * 64 + tailBits d
  if 0xF0 ≤ a && a < 0xF5 && isTail b && isTail c && isTail d && 0x10000 ≤ value
      && value < 0x110000 then
    some (Char.ofNat value)
  else none

def decode? : Bytes → Option (List Char)
  | [] => some []
  | a :: rest =>
    if a < 0x80 then (decode? rest).map (Char.ofNat a.toNat :: ·)
    else match rest with
      | [] => none
      | b :: rest =>
        match twoByte a b with
        | some ch => (decode? rest).map (ch :: ·)
        | none =>
          match rest with
          | [] => none
          | c :: rest =>
            match threeByte a b c with
            | some ch => (decode? rest).map (ch :: ·)
            | none =>
              match rest with
              | [] => none
              | d :: rest =>
                match fourByte a b c d with
                | some ch => (decode? rest).map (ch :: ·)
                | none => none

def valid (bs : Bytes) : Bool := (decode? bs).isSome

end CodecLink.Utf8
