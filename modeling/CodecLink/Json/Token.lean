import CodecLink.Text.Numeral

/-! The words of the data notation that sessions are configured in: punctuation, three names,
numbers and quoted texts. Scanning skips blanks between words. A quoted text is kept in units, so
that its bytes are judged only where its content matters. -/
namespace CodecLink.Json

/-- A byte of a quoted text, plain or behind a short escape, or a number from a `\u` escape. -/
inductive TextUnit
  | byte (b : UInt8)
  | code (value : Nat)
  deriving DecidableEq, Repr

abbrev Text := List TextUnit

structure Exponent where
  negative : Bool
  digits : Bytes
  deriving DecidableEq, Repr

structure Number where
  negative : Bool := false
  whole : Bytes
  fraction : Option Bytes := none
  exponent : Option Exponent := none
  deriving DecidableEq, Repr

inductive Token
  | openArray | closeArray | openObject | closeObject | colon | comma
  | null
  | bool (value : Bool)
  | number (value : Number)
  | text (value : Text)
  deriving DecidableEq, Repr

def isBlank (b : UInt8) : Bool := b == 32 || b == 10 || b == 13 || b == 9

namespace TextUnit

def hexValue? (b : UInt8) : Option Nat :=
  if 48 ≤ b && b ≤ 57 then some (b.toNat - 48)
  else if 97 ≤ b && b ≤ 102 then some (b.toNat - 87)
  else if 65 ≤ b && b ≤ 70 then some (b.toNat - 55)
  else none

def hexWord? (a b c d : UInt8) : Option Nat := do
  return (← hexValue? a) * 4096 + (← hexValue? b) * 256 + (← hexValue? c) * 16 + (← hexValue? d)

/-- The byte that a short escape stands for. -/
def escaped? (b : UInt8) : Option UInt8 :=
  if b == 34 || b == 92 || b == 47 then some b
  else if b == 98 then some 8
  else if b == 102 then some 12
  else if b == 110 then some 10
  else if b == 114 then some 13
  else if b == 116 then some 9
  else none

/-- The letter of the short escape in which a byte is written. -/
def escape? (b : UInt8) : Option UInt8 :=
  if b == 34 || b == 92 then some b
  else if b == 8 then some 98
  else if b == 12 then some 102
  else if b == 10 then some 110
  else if b == 13 then some 114
  else if b == 9 then some 116
  else none

def hexByte (n : Nat) : UInt8 := if n < 10 then UInt8.ofNat (48 + n) else UInt8.ofNat (87 + n)

def writeCode (value : Nat) : Bytes :=
  [92, 117, hexByte (value / 4096 % 16), hexByte (value / 256 % 16), hexByte (value / 16 % 16),
    hexByte (value % 16)]

def write : TextUnit → Bytes
  | byte b =>
    match escape? b with
    | some letter => [92, letter]
    | none => if b < 32 then writeCode b.toNat else [b]
  | code value => writeCode value

end TextUnit

namespace Text

/-- The units up to the closing quote, and the bytes after it. -/
def scan : Bytes → Option (Text × Bytes)
  | [] => none
  | b :: rest =>
    if b == 34 then some ([], rest)
    else if b < 32 then none
    else if b == 92 then
      match rest with
      | [] => none
      | letter :: rest =>
        if letter == 117 then
          match rest with
          | a :: b :: c :: d :: rest =>
            match TextUnit.hexWord? a b c d with
            | none => none
            | some value => (scan rest).map fun found => (.code value :: found.1, found.2)
          | _ => none
        else match TextUnit.escaped? letter with
          | none => none
          | some meant => (scan rest).map fun found => (.byte meant :: found.1, found.2)
    else (scan rest).map fun found => (.byte b :: found.1, found.2)

def write (text : Text) : Bytes := text.flatMap TextUnit.write ++ [34]

theorem scan_length {bs rest : Bytes} {text : Text} (found : scan bs = some (text, rest)) :
    rest.length < bs.length := by
  fun_induction scan bs generalizing text rest <;>
    simp_all only [Option.map_eq_some_iff, Prod.exists, Prod.mk.injEq, Option.some.injEq,
      reduceCtorEq, List.length_cons]
  · omega
  all_goals
    rename_i ih
    obtain ⟨t, r, inner, _, rfl⟩ := found
    have := ih inner
    omega

end Text

namespace Number

/-- Splits off a run of digits; there is at least one. -/
def digitRun? (bs : Bytes) : Option (Bytes × Bytes) :=
  match bs.takeWhile Numeral.isDigit with
  | [] => none
  | run => some (run, bs.dropWhile Numeral.isDigit)

def scanWhole (bs : Bytes) : Option (Bytes × Bytes) := do
  let (run, rest) ← digitRun? bs
  if run.head? == some 48 && 1 < run.length then none else some (run, rest)

def scanFraction (bs : Bytes) : Option (Option Bytes × Bytes) :=
  match bs with
  | [] => some (none, [])
  | b :: rest =>
    if b == 46 then (digitRun? rest).map fun found => (some found.1, found.2)
    else some (none, bs)

def scanSign (bs : Bytes) : Bool × Bytes :=
  match bs with
  | [] => (false, [])
  | b :: rest => if b == 45 then (true, rest) else if b == 43 then (false, rest) else (false, bs)

def scanExponent (bs : Bytes) : Option (Option Exponent × Bytes) :=
  match bs with
  | [] => some (none, [])
  | b :: rest =>
    if b == 101 || b == 69 then
      let (negative, rest) := scanSign rest
      (digitRun? rest).map fun found => (some ⟨negative, found.1⟩, found.2)
    else some (none, bs)

def scan (bs : Bytes) : Option (Number × Bytes) := do
  let negative := bs.head? == some 45
  let (whole, rest) ← scanWhole (if negative then bs.drop 1 else bs)
  let (fraction, rest) ← scanFraction rest
  let (exponent, rest) ← scanExponent rest
  return (⟨negative, whole, fraction, exponent⟩, rest)

def write (n : Number) : Bytes :=
  (if n.negative then [45] else []) ++ n.whole
    ++ (match n.fraction with | none => [] | some digits => 46 :: digits)
    ++ (match n.exponent with
        | none => []
        | some ⟨true, digits⟩ => 101 :: 45 :: digits
        | some ⟨false, digits⟩ => 101 :: digits)

def ofNat (n : Nat) : Number := { whole := Numeral.digits n }

theorem digitRun?_length {bs run rest : Bytes} (found : digitRun? bs = some (run, rest)) :
    rest.length < bs.length := by
  have split := congrArg List.length (List.takeWhile_append_dropWhile (p := Numeral.isDigit) (l := bs))
  unfold digitRun? at found
  split at found
  · cases found
  · rename_i nonempty
    simp only [Option.some.injEq, Prod.mk.injEq] at found
    have : 0 < (bs.takeWhile Numeral.isDigit).length := List.length_pos_iff.2 nonempty
    rw [← found.2]
    simp only [List.length_append] at split
    omega

theorem scan_length {bs rest : Bytes} {n : Number} (found : scan bs = some (n, rest)) :
    rest.length < bs.length := by
  simp only [scan, Option.bind_eq_bind, Option.bind_eq_some_iff, Prod.exists] at found
  obtain ⟨whole, r1, hWhole, fraction, r2, hFraction, exponent, r3, hExponent, last⟩ := found
  simp only [pure, Option.some.injEq, Prod.mk.injEq] at last
  obtain ⟨_, rfl⟩ := last
  have a : r1.length < bs.length := by
    simp only [scanWhole, Option.bind_eq_bind, Option.bind_eq_some_iff, Prod.exists] at hWhole
    obtain ⟨run, r, hRun, kept⟩ := hWhole
    have := digitRun?_length hRun
    split at kept
    · cases kept
    · simp only [Option.some.injEq, Prod.mk.injEq] at kept
      rw [← kept.2]
      split at this
      · simp only [List.length_drop] at this
        omega
      · exact this
  have b : r2.length ≤ r1.length := by
    unfold scanFraction at hFraction
    split at hFraction
    · simp_all
    · split at hFraction
      · simp only [Option.map_eq_some_iff, Prod.exists, Prod.mk.injEq] at hFraction
        obtain ⟨_, _, hRun, _, rfl⟩ := hFraction
        have := digitRun?_length hRun
        simp only [List.length_cons]
        omega
      · simp_all
  have c : r3.length ≤ r2.length := by
    unfold scanExponent at hExponent
    split at hExponent
    · simp_all
    · rename_i e rest
      split at hExponent
      · have signed : (scanSign rest).2.length ≤ rest.length := by
          unfold scanSign
          split
          · simp
          · split
            · simp
            · split <;> simp
        simp only [Option.map_eq_some_iff, Prod.exists, Prod.mk.injEq] at hExponent
        obtain ⟨_, _, hRun, _, rfl⟩ := hExponent
        have := digitRun?_length hRun
        simp only [List.length_cons]
        omega
      · simp_all
  omega

end Number

namespace Token

def mark? (b : UInt8) : Option Token :=
  if b == 91 then some openArray
  else if b == 93 then some closeArray
  else if b == 123 then some openObject
  else if b == 125 then some closeObject
  else if b == 58 then some colon
  else if b == 44 then some comma
  else none

def words : List (Bytes × Token) :=
  [(.ofAscii "null", null), (.ofAscii "true", bool true), (.ofAscii "false", bool false)]

/-- The word at the front, a number or one of the three names. -/
def scanWord (bs : Bytes) : Option (Token × Bytes) :=
  match words.find? fun word => word.1.isPrefixOf bs with
  | some word => some (word.2, bs.drop word.1.length)
  | none => (Number.scan bs).map fun found => (number found.1, found.2)

/-- One word, with no blank before it. -/
def scanOne : Bytes → Option (Token × Bytes)
  | [] => none
  | b :: rest =>
    match mark? b with
    | some mark => some (mark, rest)
    | none =>
      if b == 34 then (Text.scan rest).map fun found => (text found.1, found.2)
      else scanWord (b :: rest)

theorem scanOne_length {bs rest : Bytes} {token : Token} (found : scanOne bs = some (token, rest)) :
    rest.length < bs.length := by
  unfold scanOne at found
  split at found
  · cases found
  · rename_i b after
    split at found
    · simp_all
    · split at found
      · simp only [Option.map_eq_some_iff, Prod.exists, Prod.mk.injEq] at found
        obtain ⟨_, _, inner, _, rfl⟩ := found
        have := Text.scan_length inner
        simp only [List.length_cons]
        omega
      · unfold scanWord at found
        split at found
        · rename_i word hit
          have long : 0 < word.1.length := by
            have := List.mem_of_find?_eq_some hit
            simp only [words, List.mem_cons, List.not_mem_nil, or_false] at this
            rcases this with rfl | rfl | rfl <;> decide
          simp only [Option.some.injEq, Prod.mk.injEq] at found
          rw [← found.2]
          simp only [List.length_drop, List.length_cons]
          omega
        · simp only [Option.map_eq_some_iff, Prod.exists, Prod.mk.injEq] at found
          obtain ⟨_, _, inner, _, rfl⟩ := found
          exact Number.scan_length inner

def scan (bs : Bytes) : Option (List Token) :=
  match bs with
  | [] => some []
  | b :: rest =>
    if isBlank b then scan rest
    else match _found : scanOne (b :: rest) with
      | none => none
      | some (token, after) => (scan after).map (token :: ·)
termination_by bs.length
decreasing_by
  · simp
  · exact scanOne_length _found

def write : Token → Bytes
  | openArray => [91]
  | closeArray => [93]
  | openObject => [123]
  | closeObject => [125]
  | colon => [58]
  | comma => [44]
  | null => .ofAscii "null"
  | bool true => .ofAscii "true"
  | bool false => .ofAscii "false"
  | number n => n.write
  | text t => 34 :: t.write

end Token

end CodecLink.Json
