import CodecLink.Proofs.Frame.Buffering

/-! The grammar of headers, said apart from the scan that reads them: two tokens of one to ten
digits and at most thirty-two bits, each ended by a colon or a zero byte. The scan accepts what
begins with such a header and nothing else. It waits for more bytes as long as the tokens so far are
made of so many digits, and so a byte too long where the ten digits of the token under way are too
large. -/
namespace CodecLink

namespace Numeral

def Digits (bs : Bytes) : Prop := ∀ b ∈ bs, 48 ≤ b ∧ b ≤ 57

instance (bs : Bytes) : Decidable (Digits bs) := List.decidableBAll _ bs

theorem isDigit_iff {b : UInt8} : isDigit b = true ↔ 48 ≤ b ∧ b ≤ 57 := by
  simp [isDigit]

theorem digitValue_lt {b : UInt8} (numeric : 48 ≤ b ∧ b ≤ 57) : digitValue b < 10 := by
  have low := UInt8.le_iff_toNat_le.1 numeric.1
  have high := UInt8.le_iff_toNat_le.1 numeric.2
  simp only [UInt8.reduceToNat] at low high
  rw [digitValue]
  omega

/-- The value once these digits follow on others of the given value. -/
def extend (acc : Nat) (digits : Bytes) : Nat :=
  digits.foldl (fun acc b => acc * 10 + digitValue b) acc

@[simp] theorem extend_nil (acc : Nat) : extend acc [] = acc := rfl

@[simp] theorem extend_cons (acc : Nat) (b : UInt8) (digits : Bytes) :
    extend acc (b :: digits) = extend (acc * 10 + digitValue b) digits := by
  rw [extend, List.foldl_cons, extend]

theorem extend_zero (digits : Bytes) : extend 0 digits = value digits := rfl

theorem extend_lt {digits : Bytes} (numeric : Digits digits) (acc : Nat) :
    extend acc digits < (acc + 1) * 10 ^ digits.length := by
  induction digits generalizing acc with
  | nil => simp
  | cons b digits ih =>
    have single := digitValue_lt (numeric b (by simp))
    have later := ih (fun c member => numeric c (by simp [member])) (acc * 10 + digitValue b)
    calc extend acc (b :: digits)
        < (acc * 10 + digitValue b + 1) * 10 ^ digits.length := later
      _ ≤ ((acc + 1) * 10) * 10 ^ digits.length := Nat.mul_le_mul_right _ (by omega)
      _ = (acc + 1) * 10 ^ (b :: digits).length := by
        rw [List.length_cons, Nat.pow_succ, Nat.mul_assoc, Nat.mul_comm 10]

theorem value_lt {digits : Bytes} (numeric : Digits digits) :
    value digits < 10 ^ digits.length := by
  have bound := extend_lt numeric 0
  rwa [Nat.zero_add, Nat.one_mul] at bound

end Numeral

namespace Header

open Numeral (Digits extend)

/-- The two bytes that end a token. -/
def IsMark (b : UInt8) : Prop := b = 58 ∨ b = 0

/-- Digits that can stand for a number in a header. -/
structure Token (digits : Bytes) (n : Nat) : Prop where
  filled : digits ≠ []
  short : digits.length ≤ 10
  numeric : Digits digits
  value : Numeral.value digits = n
  word : n < 2 ^ 32

/-- The ways to write a header. -/
inductive Spells (header : Header) : Bytes → Prop
  | intro {code length : Bytes} {first second : UInt8}
      (codeToken : Token code header.code.toNat) (codeMark : IsMark first)
      (lengthToken : Token length header.length) (lengthMark : IsMark second)
      (size : header.consumed = code.length + length.length + 2) :
      Spells header (code ++ first :: (length ++ [second]))

/-- Bytes that may be the front of a header, and the digits of the token that is under way. -/
inductive Unfinished : Bytes → Bytes → Prop
  | code {digits : Bytes} (numeric : Digits digits) (short : digits.length ≤ 10) :
      Unfinished digits digits
  | length {code digits : Bytes} {n : Nat} {mark : UInt8} (token : Token code n)
      (marked : IsMark mark) (numeric : Digits digits) (short : digits.length ≤ 10) :
      Unfinished (code ++ mark :: digits) digits

/-- The token under way has too large a value already, for which it takes all ten digits. -/
def Overfull (bs : Bytes) : Prop := ∃ digits, Unfinished bs digits ∧ 2 ^ 32 ≤ Numeral.value digits

theorem isDelimiter_iff {b : UInt8} : isDelimiter b = true ↔ IsMark b := by
  simp [isDelimiter, IsMark]

theorem IsMark.not_digit {b : UInt8} (mark : IsMark b) : ¬(48 ≤ b ∧ b ≤ 57) := by
  rcases mark with rfl | rfl <;> decide

theorem maxValue_lt_iff {n : Nat} : maxValue < n ↔ 2 ^ 32 ≤ n := by
  simp only [maxValue, UInt32.size]
  omega

section

variable {count acc : Nat}

theorem scanToken_numeric {b : UInt8} (numeric : 48 ≤ b ∧ b ≤ 57) (room : count < 10)
    (tail : Bytes) :
    scanToken count acc (b :: tail) =
      scanToken (count + 1) (acc * 10 + Numeral.digitValue b) tail := by
  have inner : ¬isDelimiter b = true := fun mark => (isDelimiter_iff.1 mark).not_digit numeric
  have room : ¬maxDigits ≤ count := Nat.not_le.2 room
  rw [scanToken, if_neg inner, if_neg room, Numeral.isDigit_iff.2 numeric]
  rfl

/-- Digits are read one after another as long as there are no more than ten. -/
theorem scanToken_run {digits : Bytes} (numeric : Digits digits) (tail : Bytes)
    (room : count + digits.length ≤ 10) :
    scanToken count acc (digits ++ tail) =
      scanToken (count + digits.length) (extend acc digits) tail := by
  induction digits generalizing count acc with
  | nil => rfl
  | cons b digits ih =>
    rw [List.length_cons] at room
    rw [List.cons_append, scanToken_numeric (numeric b (by simp)) (by omega),
      ih (fun c member => numeric c (by simp [member])) (by omega), Numeral.extend_cons,
      List.length_cons, Nat.add_assoc, Nat.add_comm 1]

theorem scanToken_mark {b : UInt8} (mark : IsMark b) (tail : Bytes) :
    scanToken count acc (b :: tail) =
      if count = 0 then .error .emptyToken
      else if maxValue < acc then .error .overflow
      else .ok (some (acc, count + 1)) := by
  rw [scanToken, if_pos (isDelimiter_iff.2 mark)]

/-- All that scanning a token comes to, when so many digits of some value came before. -/
inductive TokenScan (count acc : Nat) :
    Bytes → Except HeaderFault (Option (Nat × Nat)) → Prop
  | unfinished {digits : Bytes} (numeric : Digits digits) (room : count + digits.length ≤ 10) :
      TokenScan count acc digits (.ok none)
  | ended {digits rest : Bytes} {mark : UInt8} (numeric : Digits digits)
      (room : count + digits.length ≤ 10) (filled : 0 < count + digits.length)
      (marked : IsMark mark) (word : extend acc digits < 2 ^ 32) :
      TokenScan count acc (digits ++ mark :: rest)
        (.ok (some (extend acc digits, count + digits.length + 1)))
  | refused (bs : Bytes) (fault : HeaderFault) : TokenScan count acc bs (.error fault)

theorem TokenScan.cons {b : UInt8} {bs : Bytes}
    {outcome : Except HeaderFault (Option (Nat × Nat))} (numeric : 48 ≤ b ∧ b ≤ 57)
    (scan : TokenScan (count + 1) (acc * 10 + Numeral.digitValue b) bs outcome) :
    TokenScan count acc (b :: bs) outcome := by
  have longer {digits : Bytes} (inner : Digits digits) : Digits (b :: digits) :=
    List.forall_mem_cons.2 ⟨numeric, inner⟩
  cases scan with
  | unfinished inner room =>
    exact .unfinished (longer inner) (by rw [List.length_cons]; omega)
  | @ended digits rest mark inner room filled marked word =>
    have size : count + 1 + digits.length = count + (b :: digits).length := by
      rw [List.length_cons]
      omega
    rw [size] at room filled ⊢
    exact .ended (longer inner) room filled marked word
  | refused _ fault => exact .refused _ fault

theorem scanToken_tokenScan (bs : Bytes) (room : count ≤ 10) :
    TokenScan count acc bs (scanToken count acc bs) := by
  induction bs generalizing count acc with
  | nil => exact .unfinished (by simp [Digits]) room
  | cons b rest ih =>
    by_cases mark : IsMark b
    · rw [scanToken_mark mark]
      split
      · exact .refused _ _
      · split
        · exact .refused _ _
        · rename_i some_digit small
          have word : extend acc [] < 2 ^ 32 :=
            Nat.not_le.1 fun large => small (maxValue_lt_iff.2 large)
          have ended : TokenScan count acc ([] ++ b :: rest) (.ok (some (acc, count + 1))) :=
            .ended (by simp [Digits]) room (Nat.pos_of_ne_zero some_digit) mark word
          exact ended
    · have inner : ¬isDelimiter b = true := fun own => mark (isDelimiter_iff.1 own)
      rw [scanToken, if_neg inner]
      split
      · exact .refused _ _
      · rename_i short
        split
        · exact .refused _ _
        · rename_i digit
          have numeric : 48 ≤ b ∧ b ≤ 57 := by
            simpa using Numeral.isDigit_iff.1 (by simpa using digit)
          exact (ih (Nat.lt_of_not_le short)).cons numeric

end

theorem scanToken_eq_none_iff {bs : Bytes} :
    scanToken 0 0 bs = .ok none ↔ Digits bs ∧ bs.length ≤ 10 := by
  constructor
  · intro scanned
    have outcome : TokenScan 0 0 bs _ := scanToken_tokenScan bs (by decide)
    rw [scanned] at outcome
    cases outcome with
    | unfinished numeric room => exact ⟨numeric, by omega⟩
  · rintro ⟨numeric, short⟩
    have run : scanToken 0 0 (bs ++ []) = _ := scanToken_run numeric [] (by omega)
    rw [List.append_nil] at run
    exact run

theorem Token.scan {digits : Bytes} {n : Nat} (token : Token digits n) {mark : UInt8}
    (marked : IsMark mark) (rest : Bytes) :
    scanToken 0 0 (digits ++ mark :: rest) = .ok (some (n, digits.length + 1)) := by
  have some_digit : 0 + digits.length ≠ 0 := by
    simpa using token.filled
  have small : ¬maxValue < extend 0 digits := by
    rw [maxValue_lt_iff, Numeral.extend_zero, token.value]
    exact Nat.not_le.2 token.word
  have short := token.short
  rw [scanToken_run token.numeric _ (by omega), scanToken_mark marked, if_neg some_digit,
    if_neg small, Numeral.extend_zero, token.value, Nat.zero_add]

theorem token_of_scan {bs : Bytes} {n size : Nat}
    (scanned : scanToken 0 0 bs = .ok (some (n, size))) :
    ∃ digits mark rest, bs = digits ++ mark :: rest ∧ Token digits n ∧ IsMark mark ∧
      size = digits.length + 1 := by
  have outcome : TokenScan 0 0 bs _ := scanToken_tokenScan bs (by decide)
  rw [scanned] at outcome
  cases outcome with
  | @ended digits rest mark numeric room filled marked word =>
    refine ⟨digits, mark, rest, rfl, ⟨?_, by omega, numeric, rfl, word⟩, marked, by omega⟩
    rw [← List.length_pos_iff]
    omega

/-- Behind the first token, what the scan says of the second is what it says of the header. -/
theorem scan_token {code : Bytes} {n : Nat} (token : Token code n) {mark : UInt8}
    (marked : IsMark mark) (rest : Bytes) :
    scan (code ++ mark :: rest) =
      (scanToken 0 0 rest).map (Option.map fun length =>
        ⟨.ofNat n, length.1, code.length + 1 + length.2⟩) := by
  have behind : (code ++ mark :: rest).drop (code.length + 1) = rest := by
    rw [← List.drop_drop, List.drop_left]
    rfl
  simp only [scan, token.scan marked rest, bind, Except.bind, behind, pure, Except.pure]
  rcases scanToken 0 0 rest with _ | _ | _ <;> rfl

theorem Spells.scan {header : Header} {text : Bytes} (spells : header.Spells text)
    (more : Bytes) : scan (text ++ more) = .ok (some header) := by
  obtain ⟨codeToken, codeMark, lengthToken, lengthMark, size⟩ := spells
  rw [List.append_assoc, List.cons_append, List.append_assoc, List.singleton_append,
    scan_token codeToken codeMark, lengthToken.scan lengthMark]
  simp only [Except.map, Option.map_some, UInt32.ofNat_toNat, Except.ok.injEq, Option.some.injEq]
  obtain ⟨code, length, consumed⟩ := header
  simp only [Header.mk.injEq, true_and]
  dsimp only at size
  omega

theorem Spells.length {header : Header} {text : Bytes} (spells : header.Spells text) :
    text.length = header.consumed := by
  obtain ⟨-, -, -, -, size⟩ := spells
  simp only [List.length_append, List.length_cons, List.length_nil]
  omega

/-- All that scanning for a header comes to. -/
inductive HeaderScan : Bytes → Except HeaderFault (Option Header) → Prop
  | unfinished {bs digits : Bytes} (unfinished : Unfinished bs digits) : HeaderScan bs (.ok none)
  | whole {header : Header} {text : Bytes} (spells : header.Spells text) (rest : Bytes) :
      HeaderScan (text ++ rest) (.ok (some header))
  | refused (bs : Bytes) (fault : HeaderFault) : HeaderScan bs (.error fault)

theorem scan_headerScan (bs : Bytes) : HeaderScan bs (scan bs) := by
  cases first : scanToken 0 0 bs with
  | error fault =>
    rw [scan, first]
    exact .refused bs fault
  | ok found =>
    cases found with
    | none =>
      obtain ⟨numeric, short⟩ := scanToken_eq_none_iff.1 first
      rw [scan, first]
      exact .unfinished (.code numeric short)
    | some token =>
      obtain ⟨code, mark, behind, rfl, codeToken, codeMark, -⟩ := token_of_scan first
      rw [scan_token codeToken codeMark]
      cases second : scanToken 0 0 behind with
      | error fault => exact .refused _ fault
      | ok found =>
        cases found with
        | none =>
          obtain ⟨numeric, short⟩ := scanToken_eq_none_iff.1 second
          exact .unfinished (.length codeToken codeMark numeric short)
        | some token =>
          obtain ⟨length, last, rest, rfl, lengthToken, lengthMark, size⟩ := token_of_scan second
          have same : code ++ mark :: (length ++ last :: rest) =
              (code ++ mark :: (length ++ [last])) ++ rest := by
            simp
          rw [same]
          refine .whole (.intro ?_ codeMark lengthToken lengthMark ?_) rest
          · rwa [UInt32.toNat_ofNat_of_lt' codeToken.word]
          · dsimp only
            omega

/-- A header is read exactly from the bytes that begin with it. -/
theorem scan_eq_some_iff {bs : Bytes} {header : Header} :
    scan bs = .ok (some header) ↔ ∃ text rest, header.Spells text ∧ bs = text ++ rest := by
  constructor
  · intro scanned
    have outcome := scan_headerScan bs
    rw [scanned] at outcome
    cases outcome with
    | whole spells rest => exact ⟨_, rest, spells, rfl⟩
  · rintro ⟨text, rest, spells, rfl⟩
    exact spells.scan rest

theorem scan_eq_none_iff {bs : Bytes} : scan bs = .ok none ↔ ∃ digits, Unfinished bs digits := by
  constructor
  · intro scanned
    have outcome := scan_headerScan bs
    rw [scanned] at outcome
    cases outcome with
    | unfinished unfinished => exact ⟨_, unfinished⟩
  · rintro ⟨digits, unfinished⟩
    cases unfinished with
    | code numeric short =>
      rw [scan, scanToken_eq_none_iff.2 ⟨numeric, short⟩]
      rfl
    | length token marked numeric short =>
      rw [scan_token token marked, scanToken_eq_none_iff.2 ⟨numeric, short⟩]
      rfl

/-- Ten digits of too large a value are refused together with the next byte, whatever it is. -/
theorem scanToken_overfull {digits : Bytes} (numeric : Digits digits) (short : digits.length ≤ 10)
    (large : 2 ^ 32 ≤ Numeral.value digits) (b : UInt8) (more : Bytes) :
    ∃ fault, scanToken 0 0 (digits ++ b :: more) = .error fault := by
  have full : 10 ≤ digits.length := by
    by_contra less
    have bound : 10 ^ digits.length ≤ 10 ^ 9 := Nat.pow_le_pow_right (by decide) (by omega)
    have below := Numeral.value_lt numeric
    omega
  rw [scanToken_run numeric _ (by omega), Numeral.extend_zero]
  -- Either the token ends here and its value is looked at, or there is no room for the byte.
  by_cases mark : IsMark b
  · rw [scanToken_mark mark, if_neg (by omega), if_pos (maxValue_lt_iff.2 large)]
    exact ⟨_, rfl⟩
  · have inner : ¬isDelimiter b = true := fun own => mark (isDelimiter_iff.1 own)
    have long : maxDigits ≤ 0 + digits.length := (Nat.zero_add digits.length).symm ▸ full
    rw [scanToken, if_neg inner, if_pos long]
    exact ⟨_, rfl⟩

theorem token_zero : Token [48] 0 :=
  ⟨by decide, by decide, by decide, rfl, Nat.two_pow_pos 32⟩

namespace Unfinished

variable {bs digits : Bytes}

theorem run (unfinished : Unfinished bs digits) : Digits digits ∧ digits.length ≤ 10 := by
  cases unfinished with
  | code numeric short => exact ⟨numeric, short⟩
  | length _ _ numeric short => exact ⟨numeric, short⟩

theorem refused (unfinished : Unfinished bs digits) {more : Bytes} {fault : HeaderFault}
    (failed : scanToken 0 0 (digits ++ more) = .error fault) :
    scan (bs ++ more) = .error fault := by
  cases unfinished with
  | code numeric short =>
    rw [scan, failed]
    rfl
  | length token marked numeric short =>
    rw [List.append_assoc, List.cons_append, scan_token token marked, failed]
    rfl

/-- The digits under way can be made a token of their value: none at all become a zero. -/
theorem token (unfinished : Unfinished bs digits) (small : Numeral.value digits < 2 ^ 32) :
    ∃ pad, Token (digits ++ pad) (Numeral.value digits) := by
  obtain ⟨numeric, short⟩ := unfinished.run
  by_cases empty : digits = []
  · subst empty
    exact ⟨[48], token_zero⟩
  · refine ⟨[], ?_⟩
    rw [List.append_nil]
    exact ⟨empty, short, numeric, rfl, small⟩

theorem completed (unfinished : Unfinished bs digits) (small : Numeral.value digits < 2 ^ 32) :
    ∃ more header, scan (bs ++ more) = .ok (some header) := by
  obtain ⟨pad, whole⟩ := unfinished.token small
  have colon : IsMark 58 := .inl rfl
  cases unfinished with
  | code numeric short =>
    have read := scan_token whole colon ([48] ++ 58 :: [])
    rw [token_zero.scan colon, List.append_assoc] at read
    exact ⟨_, _, read⟩
  | length token marked numeric short =>
    have read := scan_token token marked ((digits ++ pad) ++ 58 :: [])
    rw [whole.scan colon, List.append_assoc digits, ← List.cons_append, ← List.append_assoc] at read
    exact ⟨_, _, read⟩

end Unfinished

namespace Overfull

variable {bs : Bytes}

theorem scan (overfull : Overfull bs) : scan bs = .ok none :=
  scan_eq_none_iff.2 (overfull.imp fun _ => And.left)

theorem refused (overfull : Overfull bs) (b : UInt8) (more : Bytes) :
    ∃ fault, Header.scan (bs ++ b :: more) = .error fault := by
  obtain ⟨digits, unfinished, large⟩ := overfull
  obtain ⟨numeric, short⟩ := unfinished.run
  obtain ⟨fault, failed⟩ := scanToken_overfull numeric short large b more
  exact ⟨fault, unfinished.refused failed⟩

theorem not_completed (overfull : Overfull bs) (more : Bytes) (header : Header) :
    Header.scan (bs ++ more) ≠ .ok (some header) := by
  intro completed
  cases more with
  | nil =>
    rw [List.append_nil, overfull.scan] at completed
    cases completed
  | cons b more =>
    obtain ⟨fault, failed⟩ := overfull.refused b more
    rw [failed] at completed
    cases completed

end Overfull

/-- The scan waits for more exactly as long as more bytes can complete the header, and refuses as
soon as none can, but for a token under way whose ten digits are too large: this one is refused with
the next byte. -/
theorem verdict_unless_overfull (bs : Bytes) :
    (scan bs = .ok none ↔
      ((∀ header, scan bs ≠ .ok (some header)) ∧
        ∃ more header, scan (bs ++ more) = .ok (some header)) ∨ Overfull bs) ∧
    ((∃ fault, scan bs = .error fault) ↔
      (∀ more header, scan (bs ++ more) ≠ .ok (some header)) ∧ ¬Overfull bs) ∧
    (Overfull bs → ∀ more, (∀ header, scan (bs ++ more) ≠ .ok (some header)) ∧
      (more ≠ [] → ∃ fault, scan (bs ++ more) = .error fault)) := by
  have open_ : scan bs = .ok none → (∃ more header, scan (bs ++ more) = .ok (some header)) ∨
      Overfull bs := by
    intro scanned
    obtain ⟨digits, unfinished⟩ := scan_eq_none_iff.1 scanned
    rcases Nat.lt_or_ge (Numeral.value digits) (2 ^ 32) with small | large
    · exact .inl (unfinished.completed small)
    · exact .inr ⟨digits, unfinished, large⟩
  have settled : ∀ fault, scan bs = .error fault → ∀ more, scan (bs ++ more) = .error fault :=
    fun fault failed more => scan_append failed (by simp) more
  refine ⟨⟨fun scanned => ?_, ?_⟩, ⟨?_, ?_⟩, fun overfull more => ⟨overfull.not_completed more, ?_⟩⟩
  · refine (open_ scanned).imp_left fun completed => ⟨fun header whole => ?_, completed⟩
    cases scanned.symm.trans whole
  · rintro (⟨unread, more, header, completed⟩ | overfull)
    · rcases scanned : scan bs with fault | _ | own
      · rw [settled fault scanned more] at completed
        cases completed
      · rfl
      · exact absurd scanned (unread own)
    · exact overfull.scan
  · rintro ⟨fault, failed⟩
    refine ⟨fun more header completed => ?_, fun overfull => ?_⟩
    · rw [settled fault failed more] at completed
      cases completed
    · cases failed.symm.trans overfull.scan
  · rintro ⟨dead, enough⟩
    rcases scanned : scan bs with fault | _ | own
    · exact ⟨fault, rfl⟩
    · rcases open_ scanned with ⟨more, header, completed⟩ | overfull
      · exact absurd completed (dead more header)
      · exact absurd overfull enough
    · exact absurd ((congrArg scan (List.append_nil bs)).trans scanned) (dead [] own)
  · intro further
    obtain ⟨b, rest, rfl⟩ := List.exists_cons_of_ne_nil further
    exact overfull.refused b rest

/-- The first number that is too large is waited on although nothing can follow it. -/
theorem overlarge_token_left_open :
    scan [52, 50, 57, 52, 57, 54, 55, 50, 57, 54] = .ok none ∧
      ¬∃ more header, scan ([52, 50, 57, 52, 57, 54, 55, 50, 57, 54] ++ more) =
        .ok (some header) := by
  have overfull : Overfull [52, 50, 57, 52, 57, 54, 55, 50, 57, 54] :=
    ⟨_, .code (by decide) (by decide), by decide +kernel⟩
  refine ⟨overfull.scan, ?_⟩
  rintro ⟨more, header, completed⟩
  exact overfull.not_completed more header completed

end Header

end CodecLink
