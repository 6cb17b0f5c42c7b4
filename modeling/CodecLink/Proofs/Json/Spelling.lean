import CodecLink.Json.Text
import CodecLink.Proofs.Text.Characters

/-! How the words of the notation may be written. A character of a quoted text stands for itself or
is escaped, numbers are digits with a sign, a fraction or an exponent, and blanks are free between
words; however words are written, they are found again. -/
namespace CodecLink.Json

/-- A byte that stands for itself in a quoted text. -/
def IsOrdinary (b : UInt8) : Prop := 32 ≤ b ∧ b ≠ 34 ∧ b ≠ 92

instance : DecidablePred IsOrdinary := fun b =>
  inferInstanceAs (Decidable (32 ≤ b ∧ b ≠ 34 ∧ b ≠ 92))

/-- The letters of the short escapes, each with the byte that it stands for. -/
def shortEscapes : List (UInt8 × UInt8) :=
  [(34, 34), (92, 92), (47, 47), (98, 8), (102, 12), (110, 10), (114, 13), (116, 9)]

/-- A digit of base sixteen, written as a digit or as a letter of either case. -/
def HexDigit (value : Nat) (b : UInt8) : Prop :=
  value < 10 ∧ b.toNat = 48 + value ∨
    10 ≤ value ∧ value < 16 ∧ (b.toNat = 87 + value ∨ b.toNat = 55 + value)

inductive TextUnit.Spelled : TextUnit → Bytes → Prop
  | plain {b : UInt8} (ordinary : IsOrdinary b) : Spelled (.byte b) [b]
  | short {letter meant : UInt8} (known : (letter, meant) ∈ shortEscapes) :
      Spelled (.byte meant) [92, letter]
  | code {w x y z : Nat} {a b c d : UInt8} (first : HexDigit w a) (second : HexDigit x b)
      (third : HexDigit y c) (fourth : HexDigit z d) :
      Spelled (.code (w * 4096 + x * 256 + y * 16 + z)) [92, 117, a, b, c, d]

inductive Text.Spelled : Text → Bytes → Prop
  | nil : Spelled [] []
  | cons {unit : TextUnit} {text : Text} {word bs : Bytes} (first : unit.Spelled word)
      (later : Spelled text bs) : Spelled (unit :: text) (word ++ bs)

/-- The units that may stand for a character: its bytes, its number, or the two halves of a pair. -/
inductive Text.OfChar : Char → Text → Prop
  | bytes (c : Char) : OfChar c ((String.utf8EncodeChar c).map .byte)
  | code {c : Char} (single : c.toNat < 0x10000) : OfChar c [.code c.toNat]
  | pair {c : Char} (double : 0x10000 ≤ c.toNat) :
      OfChar c [.code (0xD800 + (c.toNat - 0x10000) / 0x400),
        .code (0xDC00 + (c.toNat - 0x10000) % 0x400)]

inductive Text.Means : List Char → Text → Prop
  | nil : Means [] []
  | cons {c : Char} {cs : List Char} {units text : Text} (first : OfChar c units)
      (later : Means cs text) : Means (c :: cs) (units ++ text)

/-- A run of digits, and at least one. -/
def IsRun (digits : Bytes) : Prop := digits ≠ [] ∧ ∀ b ∈ digits, Numeral.isDigit b = true

inductive FractionSpelled : Option Bytes → Bytes → Prop
  | absent : FractionSpelled none []
  | present {digits : Bytes} (run : IsRun digits) : FractionSpelled (some digits) (46 :: digits)

inductive ExponentSpelled : Option Exponent → Bytes → Prop
  | absent : ExponentSpelled none []
  | present {letter : UInt8} {negative : Bool} {sign digits : Bytes} (known : letter ∈ [101, 69])
      (signed : (negative, sign) ∈ [(true, [45]), (false, [43]), (false, [])])
      (run : IsRun digits) : ExponentSpelled (some ⟨negative, digits⟩) (letter :: sign ++ digits)

/-- Only zero begins with a zero. -/
inductive Number.Spelled : Number → Bytes → Prop
  | intro {negative : Bool} {whole point power : Bytes} {fraction : Option Bytes}
      {exponent : Option Exponent} (run : IsRun whole)
      (leading : whole.head? = some 48 → whole = [48]) (after : FractionSpelled fraction point)
      (last : ExponentSpelled exponent power) :
      Spelled ⟨negative, whole, fraction, exponent⟩
        ((if negative then [45] else []) ++ (whole ++ (point ++ power)))

inductive Token.Spelled : Token → Bytes → Prop
  | fixed {token : Token}
      (known : token ∈ [openArray, closeArray, openObject, closeObject, colon, comma, null,
        bool true, bool false]) : Spelled token token.write
  | number {n : Number} {bs : Bytes} (spelled : n.Spelled bs) : Spelled (number n) bs
  | text {t : Text} {bs : Bytes} (spelled : t.Spelled bs) : Spelled (text t) (34 :: (bs ++ [34]))

/-- Words in their order, with blanks before, between and after them. -/
inductive Layout : List Token → Bytes → Prop
  | nil {blanks : Bytes} (blank : ∀ b ∈ blanks, isBlank b = true) : Layout [] blanks
  | cons {token : Token} {tokens : List Token} {blanks word rest : Bytes}
      (blank : ∀ b ∈ blanks, isBlank b = true) (spelled : token.Spelled word)
      (later : Layout tokens rest) : Layout (token :: tokens) (blanks ++ (word ++ rest))

theorem escaped?_of_mem {letter meant : UInt8} (known : (letter, meant) ∈ shortEscapes) :
    letter ≠ 117 ∧ TextUnit.escaped? letter = some meant := by
  have all : shortEscapes.all (fun pair => pair.1 != 117 &&
      TextUnit.escaped? pair.1 == some pair.2) = true := by decide
  simpa using List.all_eq_true.1 all _ known

theorem HexDigit.value {value : Nat} {b : UInt8} (digit : HexDigit value b) :
    TextUnit.hexValue? b = some value := by
  have low : 48 ≤ b ∧ b ≤ 57 ↔ 48 ≤ b.toNat ∧ b.toNat ≤ 57 := by
    rw [UInt8.le_iff_toNat_le, UInt8.le_iff_toNat_le]
    rfl
  have small : 97 ≤ b ∧ b ≤ 102 ↔ 97 ≤ b.toNat ∧ b.toNat ≤ 102 := by
    rw [UInt8.le_iff_toNat_le, UInt8.le_iff_toNat_le]
    rfl
  have large : 65 ≤ b ∧ b ≤ 70 ↔ 65 ≤ b.toNat ∧ b.toNat ≤ 70 := by
    rw [UInt8.le_iff_toNat_le, UInt8.le_iff_toNat_le]
    rfl
  simp only [TextUnit.hexValue?, Bool.and_eq_true, decide_eq_true_eq, low, small, large]
  rcases digit with ⟨single, same⟩ | ⟨least, most, same | same⟩
  · rw [if_pos (by omega)]
    simp
    omega
  · rw [if_neg (by omega), if_pos (by omega)]
    simp
    omega
  · rw [if_neg (by omega), if_neg (by omega), if_pos (by omega)]
    simp
    omega

/-- A quoted text ends at its closing quote, however it is written. -/
theorem Text.scan_spelled {text : Text} {bs : Bytes} (spelled : text.Spelled bs) (rest : Bytes) :
    scan (bs ++ 34 :: rest) = some (text, rest) := by
  induction spelled with
  | nil =>
    rw [List.nil_append, scan.eq_def]
    rfl
  | @cons unit text word bs first later ih =>
    rw [List.append_assoc]
    cases first with
    | @plain b ordinary =>
      obtain ⟨visible, quote, escape⟩ := ordinary
      have low : ¬b < 32 := UInt8.not_lt.2 visible
      rw [List.singleton_append, scan.eq_def]
      simp only [beq_eq_false_iff_ne.2 quote, beq_eq_false_iff_ne.2 escape, low, if_false,
        Bool.false_eq_true, ih]
      rfl
    | @short letter meant known =>
      obtain ⟨other, stands⟩ := escaped?_of_mem known
      rw [List.cons_append, List.singleton_append, scan.eq_def]
      simp only [beq_eq_false_iff_ne.2 other, stands, ih, Bool.false_eq_true, if_false]
      rfl
    | @code w x y z a b c d first second third fourth =>
      have word : TextUnit.hexWord? a b c d = some (w * 4096 + x * 256 + y * 16 + z) := by
        rw [TextUnit.hexWord?, first.value, second.value, third.value, fourth.value]
        rfl
      simp only [List.cons_append, List.nil_append]
      rw [scan.eq_def]
      simp only [word, ih]
      rfl

theorem Text.spelled_ordinary {bs : Bytes} (ordinary : ∀ b ∈ bs, IsOrdinary b) :
    (ofBytes bs).Spelled bs ∧ (ofBytes bs).write = bs ++ [34] := by
  induction bs with
  | nil => exact ⟨.nil, rfl⟩
  | cons b bs ih =>
    obtain ⟨spelled, written⟩ := ih fun other member => ordinary other (by simp [member])
    have own := ordinary b (by simp)
    have named : TextUnit.escape? b = none := by
      have above {other : UInt8} (control : other < 32) : (b == other) = false := by
        rw [beq_eq_false_iff_ne]
        rintro rfl
        exact absurd own.1 (UInt8.not_le.2 control)
      simp [TextUnit.escape?, own.2, above]
    have low : ¬b < 32 := UInt8.not_lt.2 own.1
    refine ⟨.cons (.plain own) spelled, ?_⟩
    have same : (ofBytes (b :: bs)).write = b :: (ofBytes bs).write := by
      simp [ofBytes, write, TextUnit.write, named, low]
    rw [same, written]
    rfl

theorem Token.spelled_ofString {s : String} (ordinary : ∀ b ∈ Utf8.encode s, IsOrdinary b) :
    (text (.ofString s)).Spelled (text (.ofString s)).write := by
  obtain ⟨spelled, written⟩ := Text.spelled_ordinary ordinary
  rw [write, Text.ofString, written]
  exact .text spelled

namespace Text

theorem bytes?_append_bytes (front : Bytes) (text : Text) :
    bytes? (front.map .byte ++ text) = (bytes? text).map (front ++ ·) := by
  induction front with
  | nil => simp
  | cons b front ih =>
    rw [List.map_cons, List.cons_append, bytes?, ih, Option.map_map]
    rfl

theorem OfChar.bytes? {c : Char} {units : Text} (spelled : OfChar c units) (text : Text) :
    bytes? (units ++ text) = (bytes? text).map (String.utf8EncodeChar c ++ ·) := by
  have range := Utf8.char_range c
  cases spelled with
  | bytes => exact bytes?_append_bytes _ text
  | code single =>
    have low : isLow c.toNat = false := by
      simp only [isLow, Bool.and_eq_false_iff, decide_eq_false_iff_not]
      omega
    have high : isHigh c.toNat = false := by
      simp only [isHigh, Bool.and_eq_false_iff, decide_eq_false_iff_not]
      omega
    rw [List.singleton_append, Text.bytes?.eq_def]
    simp only [low, high, Char.ofNat_toNat, Bool.false_eq_true, if_false]
  | pair double =>
    have outside : isLow (0xD800 + (c.toNat - 0x10000) / 0x400) = false := by
      simp only [isLow, Bool.and_eq_false_iff, decide_eq_false_iff_not]
      omega
    have high : isHigh (0xD800 + (c.toNat - 0x10000) / 0x400) = true := by
      simp only [isHigh, Bool.and_eq_true, decide_eq_true_eq]
      omega
    have low : isLow (0xDC00 + (c.toNat - 0x10000) % 0x400) = true := by
      simp only [isLow, Bool.and_eq_true, decide_eq_true_eq]
      omega
    have joined : joinPair (0xD800 + (c.toNat - 0x10000) / 0x400)
        (0xDC00 + (c.toNat - 0x10000) % 0x400) = c.toNat := by
      unfold joinPair
      omega
    generalize 0xD800 + (c.toNat - 0x10000) / 0x400 = front at outside high joined ⊢
    generalize 0xDC00 + (c.toNat - 0x10000) % 0x400 = back at low joined ⊢
    rw [List.cons_append, List.singleton_append, Text.bytes?.eq_def]
    simp only [outside, high, low, joined, Char.ofNat_toNat, Bool.false_eq_true, if_false, if_true]

theorem Means.bytes? {cs : List Char} {text : Text} (means : Means cs text) :
    text.bytes? = some (cs.flatMap String.utf8EncodeChar) := by
  induction means with
  | nil => rfl
  | cons first later ih =>
    rw [first.bytes?, ih, List.flatMap_cons]
    rfl

theorem Means.decode? {cs : List Char} {text : Text} (means : Means cs text) :
    text.decode? = some (String.ofList cs) := by
  rw [Text.decode?, means.bytes?]
  simp [Utf8.decode?_chars]

theorem means_ofString (s : String) : Means s.toList (ofString s) := by
  rw [ofString, ofBytes, Utf8.encode]
  generalize s.toList = cs
  induction cs with
  | nil => exact .nil
  | cons c cs ih =>
    rw [List.flatMap_cons, List.map_append]
    exact .cons (.bytes c) ih

end Text

/-- What is no part of a number, so that a number before it is at its end. -/
def EndsNumber (rest : Bytes) : Prop :=
  ∀ b ∈ rest.head?, Numeral.isDigit b = false ∧ b ≠ 46 ∧ b ≠ 101 ∧ b ≠ 69

namespace Number

theorem digitRun?_run {digits rest : Bytes} (run : IsRun digits)
    (stop : ∀ b ∈ rest.head?, Numeral.isDigit b = false) :
    digitRun? (digits ++ rest) = some (digits, rest) := by
  have taken : (digits ++ rest).takeWhile Numeral.isDigit = digits := by
    rw [List.takeWhile_append_of_pos run.2]
    cases rest with
    | nil => simp
    | cons b rest => simp [stop b rfl]
  have left : (digits ++ rest).dropWhile Numeral.isDigit = rest := by
    rw [List.dropWhile_append_of_pos run.2]
    cases rest with
    | nil => rfl
    | cons b rest => simp [stop b rfl]
  rw [digitRun?, taken, left]
  cases own : digits with
  | nil => exact absurd own run.1
  | cons b bs => rfl

theorem scanWhole_run {whole rest : Bytes} (run : IsRun whole)
    (leading : whole.head? = some 48 → whole = [48])
    (stop : ∀ b ∈ rest.head?, Numeral.isDigit b = false) :
    scanWhole (whole ++ rest) = some (whole, rest) := by
  have single : (whole.head? == some 48 && 1 < whole.length) = false := by
    by_cases zero : whole.head? = some 48
    · rw [leading zero]
      rfl
    · simp [zero]
  rw [scanWhole, digitRun?_run run stop]
  simp only [Option.bind_eq_bind, Option.bind_some, single]
  rfl

theorem scanFraction_spelled {fraction : Option Bytes} {point rest : Bytes}
    (spelled : FractionSpelled fraction point)
    (stop : ∀ b ∈ rest.head?, Numeral.isDigit b = false ∧ b ≠ 46) :
    scanFraction (point ++ rest) = some (fraction, rest) := by
  cases spelled with
  | absent =>
    cases rest with
    | nil => rfl
    | cons b rest =>
      rw [List.nil_append, scanFraction, if_neg (by simpa using (stop b rfl).2)]
  | present run =>
    have own := digitRun?_run run fun b here => (stop b here).1
    rw [List.cons_append, scanFraction, own]
    rfl

theorem scanExponent_spelled {exponent : Option Exponent} {power rest : Bytes}
    (spelled : ExponentSpelled exponent power) (stop : EndsNumber rest) :
    scanExponent (power ++ rest) = some (exponent, rest) := by
  cases spelled with
  | absent =>
    cases rest with
    | nil => rfl
    | cons b rest =>
      have plain := stop b rfl
      rw [List.nil_append, scanExponent, if_neg (by simp [plain])]
  | @present letter negative sign digits known signed run =>
    have named : (letter == 101 || letter == 69) = true := by
      simpa using known
    have digits_first : scanSign (sign ++ (digits ++ rest)) = (negative, digits ++ rest) := by
      simp only [List.mem_cons, Prod.mk.injEq, List.not_mem_nil, or_false] at signed
      rcases signed with ⟨rfl, rfl⟩ | ⟨rfl, rfl⟩ | ⟨rfl, rfl⟩
      · rfl
      · rfl
      · obtain ⟨nonempty, all⟩ := run
        cases digits with
        | nil => exact absurd rfl nonempty
        | cons b digits =>
          have digit := all b (by simp)
          have minus : (b == 45) = false := by
            rw [beq_eq_false_iff_ne]
            rintro rfl
            cases digit
          have plus : (b == 43) = false := by
            rw [beq_eq_false_iff_ne]
            rintro rfl
            cases digit
          simp [scanSign, minus, plus]
    rw [List.append_assoc, List.cons_append, scanExponent, if_pos named]
    simp only [digits_first, digitRun?_run run fun b here => (stop b here).1, Option.map_some]

theorem Spelled.head {n : Number} {bs : Bytes} (spelled : n.Spelled bs) :
    ∃ b later, bs = b :: later ∧ (b = 45 ∨ Numeral.isDigit b = true) := by
  obtain @⟨negative, whole, point, power, fraction, exponent, ⟨nonempty, all⟩, _, _, _⟩ := spelled
  cases negative with
  | true => exact ⟨45, _, rfl, .inl rfl⟩
  | false =>
    cases whole with
    | nil => exact absurd rfl nonempty
    | cons b whole => exact ⟨b, _, rfl, .inr (all b (by simp))⟩

theorem scan_spelled {n : Number} {bs rest : Bytes} (spelled : n.Spelled bs)
    (stop : EndsNumber rest) : scan (bs ++ rest) = some (n, rest) := by
  obtain @⟨negative, whole, point, power, fraction, exponent, run, leading, after, last⟩ := spelled
  -- Each part ends where the next one, or what stands behind the number, begins.
  have power_stop : ∀ b ∈ (power ++ rest).head?, Numeral.isDigit b = false ∧ b ≠ 46 := by
    cases last with
    | absent => exact fun b here => ⟨(stop b here).1, (stop b here).2.1⟩
    | @present letter _ _ _ known _ _ =>
      rintro b ⟨⟩
      simp only [List.mem_cons, List.not_mem_nil, or_false] at known
      rcases known with rfl | rfl <;> decide
  have point_stop : ∀ b ∈ (point ++ (power ++ rest)).head?, Numeral.isDigit b = false := by
    cases after with
    | absent => exact fun b here => (power_stop b here).1
    | present _ =>
      rintro b ⟨⟩
      rfl
  have sign : ((((if negative then [45] else []) ++ (whole ++ (point ++ power))) ++ rest).head? ==
      some 45) = negative := by
    cases negative with
    | true => rfl
    | false =>
      obtain ⟨nonempty, all⟩ := run
      cases whole with
      | nil => exact absurd rfl nonempty
      | cons b whole =>
        have digit := all b (by simp)
        simp only [Bool.false_eq_true, if_false, List.nil_append, List.cons_append, List.head?_cons]
        rw [beq_eq_false_iff_ne]
        rintro ⟨⟩
        cases digit
  have unsigned : (if negative then
      (((if negative then [45] else []) ++ (whole ++ (point ++ power))) ++ rest).drop 1 else
        ((if negative then [45] else []) ++ (whole ++ (point ++ power))) ++ rest) =
      whole ++ (point ++ (power ++ rest)) := by
    cases negative <;> simp
  rw [scan, sign]
  simp only [unsigned, Option.bind_eq_bind, scanWhole_run run leading point_stop, Option.bind_some,
    scanFraction_spelled after power_stop, scanExponent_spelled last stop]
  rfl

end Number

namespace Token

/-- The marks that may stand behind a number. -/
def closing : List Token := [comma, closeArray, closeObject]

/-- Behind every number there is a mark. -/
def Separated : List Token → Prop
  | [] => True
  | .number _ :: rest => (∃ mark ∈ closing, rest.head? = some mark) ∧ Separated rest
  | _ :: rest => Separated rest

theorem scan_blanks {blanks : Bytes} (blank : ∀ b ∈ blanks, isBlank b = true) (rest : Bytes) :
    scan (blanks ++ rest) = scan rest := by
  induction blanks with
  | nil => rfl
  | cons b blanks ih =>
    rw [List.cons_append, scan, if_pos (blank b (by simp)),
      ih fun other member => blank other (by simp [member])]

theorem scan_cons {token : Token} {b : UInt8} {bs rest : Bytes} (dark : isBlank b = false)
    (one : scanOne (b :: bs) = some (token, rest)) :
    scan (b :: bs) = (scan rest).map (token :: ·) := by
  rw [scan, if_neg (by simp [dark])]
  split
  · rename_i none_found
    rw [one] at none_found
    cases none_found
  · rename_i found after same
    rw [one] at same
    cases same
    rfl

/-- What begins a number begins no other word. -/
theorem number_head {b : UInt8} (first : b = 45 ∨ Numeral.isDigit b = true) :
    isBlank b = false ∧ mark? b = none ∧ (b == 34) = false ∧
      ∀ letter ∈ [110, 116, 102], (letter == b) = false := by
  have every : ∀ n < 256, UInt8.ofNat n = 45 ∨ Numeral.isDigit (UInt8.ofNat n) = true →
      isBlank (UInt8.ofNat n) = false ∧ mark? (UInt8.ofNat n) = none ∧
        (UInt8.ofNat n == 34) = false ∧
          ∀ letter ∈ [110, 116, 102], (letter == UInt8.ofNat n) = false := by
    decide +kernel
  have own := every b.toNat b.toNat_lt
  rw [UInt8.ofNat_toNat] at own
  exact own first

theorem scanOne_number {n : Number} {bs rest : Bytes} (spelled : n.Spelled bs)
    (stop : EndsNumber rest) : scanOne (bs ++ rest) = some (number n, rest) := by
  have scanned := Number.scan_spelled spelled stop
  obtain ⟨b, later, rfl, first⟩ := spelled.head
  obtain ⟨_, unmarked, unquoted, unnamed⟩ := number_head first
  have nameless : words.find? (fun word => word.1.isPrefixOf (b :: (later ++ rest))) = none := by
    rw [List.find?_eq_none]
    intro word member
    have letters : ∃ letter ∈ [110, 116, 102], ∃ more, word.1 = letter :: more := by
      simp only [words, List.mem_cons, List.not_mem_nil, or_false] at member
      rcases member with rfl | rfl | rfl
      · exact ⟨110, by simp, _, rfl⟩
      · exact ⟨116, by simp, _, rfl⟩
      · exact ⟨102, by simp, _, rfl⟩
    obtain ⟨letter, one_of, more, same⟩ := letters
    rw [same, List.isPrefixOf, unnamed letter one_of]
    simp
  rw [List.cons_append] at scanned ⊢
  simp only [scanOne, unmarked, unquoted, Bool.false_eq_true, if_false, scanWord, nameless, scanned]
  rfl

/-- A word is found again, and a number is if something behind it ends it. -/
theorem scan_spelled {token : Token} {word rest : Bytes} (spelled : token.Spelled word)
    (stop : ∀ n, token = number n → EndsNumber rest) :
    scan (word ++ rest) = (scan rest).map (token :: ·) := by
  cases spelled with
  | fixed known =>
    simp only [List.mem_cons, List.not_mem_nil, or_false] at known
    rcases known with rfl | rfl | rfl | rfl | rfl | rfl | rfl | rfl | rfl
    all_goals exact scan_cons (by decide) rfl
  | @number n _ spelled =>
    have one := scanOne_number spelled (stop n rfl)
    obtain ⟨b, later, rfl, first⟩ := spelled.head
    exact scan_cons (number_head first).1 one
  | @text t bs spelled =>
    have one : scanOne (34 :: (bs ++ 34 :: rest)) = some (text t, rest) := by
      rw [scanOne]
      simp only [Text.scan_spelled spelled]
      rfl
    have same : 34 :: (bs ++ [34]) ++ rest = 34 :: (bs ++ 34 :: rest) := by simp
    rw [same]
    exact scan_cons rfl one

end Token

/-- A mark behind a number ends it, whatever blanks are between. -/
theorem Layout.endsNumber {tokens : List Token} {bs : Bytes} (layout : Layout tokens bs)
    (closes : ∃ mark ∈ Token.closing, tokens.head? = some mark) (more : Bytes) :
    EndsNumber (bs ++ more) := by
  obtain ⟨mark, known, front⟩ := closes
  cases layout with
  | nil => cases front
  | @cons token tokens blanks word rest blank spelled later =>
    cases front
    -- Whether or not there are blanks, no digit, point or letter comes next.
    have first : ∃ b bs, blanks ++ (word ++ rest) = b :: bs ∧
        (isBlank b = true ∨ b ∈ [44, 93, 125]) := by
      cases blanks with
      | cons b blanks => exact ⟨b, _, rfl, .inl (blank b (by simp))⟩
      | nil =>
        simp only [Token.closing, List.mem_cons, List.not_mem_nil, or_false] at known
        cases spelled with
        | number _ => rcases known with known | known | known <;> cases known
        | text _ => rcases known with known | known | known <;> cases known
        | fixed _ =>
          rcases known with rfl | rfl | rfl
          · exact ⟨44, rest, rfl, .inr (by simp)⟩
          · exact ⟨93, rest, rfl, .inr (by simp)⟩
          · exact ⟨125, rest, rfl, .inr (by simp)⟩
    obtain ⟨b, bs, same, either⟩ := first
    rw [same]
    rintro _ ⟨⟩
    simp only [isBlank, Bool.or_eq_true, beq_iff_eq, List.mem_cons, List.not_mem_nil,
      or_false] at either
    rcases either with (((rfl | rfl) | rfl) | rfl) | rfl | rfl | rfl <;> decide

/-- Words are found again in the same order, whatever blanks are between them. -/
theorem Layout.scan {tokens : List Token} {bs : Bytes} (layout : Layout tokens bs)
    (separated : Token.Separated tokens) (more : Bytes) :
    Token.scan (bs ++ more) = (Token.scan more).map (tokens ++ ·) := by
  induction layout with
  | nil blank =>
    rw [Token.scan_blanks blank]
    simp
  | @cons token tokens blanks word rest blank spelled later ih =>
    have apart : Token.Separated tokens ∧
        ∀ n, token = .number n → ∃ mark ∈ Token.closing, tokens.head? = some mark := by
      cases token with
      | number n => exact ⟨separated.2, fun _ _ => separated.1⟩
      | _ => exact ⟨separated, fun _ other => by cases other⟩
    have stop (n : Number) (own : token = .number n) : EndsNumber (rest ++ more) :=
      later.endsNumber (apart.2 n own) more
    rw [List.append_assoc, List.append_assoc, Token.scan_blanks blank,
      Token.scan_spelled spelled stop, ih apart.1, Option.map_map]
    rfl

end CodecLink.Json
