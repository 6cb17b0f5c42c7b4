import Mathlib.Algebra.Ring.Nat
import CodecLink.Frame.Incremental
import CodecLink.Proofs.Text.Digits

/-! Frames written one after another are read back one after another, whatever follows them. A
header's digits are read as the number they were written for, so no byte of a payload is ever looked
at as part of a header. -/
namespace CodecLink

namespace Numeral

theorem length_digits_word {n : Nat} (small : n < 2 ^ 32) : (digits n).length ≤ Header.maxDigits :=
  length_digits_le (Nat.lt_trans small (by decide))

end Numeral

namespace Header

theorem scanToken_digit {digit : Nat} (single : digit < 10) (count acc : Nat) (tail : Bytes)
    (room : count < maxDigits) :
    scanToken count acc (UInt8.ofNat (48 + digit) :: tail) =
      scanToken (count + 1) (acc * 10 + digit) tail := by
  have read : ∀ d < 10, isDelimiter (UInt8.ofNat (48 + d)) = false ∧
      Numeral.isDigit (UInt8.ofNat (48 + d)) = true ∧
        Numeral.digitValue (UInt8.ofNat (48 + d)) = d := by decide
  obtain ⟨delimiter, numeric, value⟩ := read digit single
  simp only [scanToken, delimiter, numeric, value, if_neg (Nat.not_le.2 room), Bool.not_true,
    Bool.false_eq_true, if_false]

theorem scanToken_digits (n count acc : Nat) (tail : Bytes)
    (room : count + (Numeral.digits n).length ≤ maxDigits) :
    scanToken count acc (Numeral.digits n ++ tail) =
      scanToken (count + (Numeral.digits n).length)
        (acc * 10 ^ (Numeral.digits n).length + n) tail := by
  induction n using Nat.strongRecOn generalizing count acc tail with
  | ind n ih =>
    rw [Numeral.digits] at room ⊢
    split
    · rename_i single
      rw [if_pos single] at room
      simp only [List.length_singleton] at room ⊢
      exact (scanToken_digit single count acc tail room).trans (by simp)
    · rename_i several
      rw [if_neg several] at room
      simp only [List.length_append, List.length_singleton] at room ⊢
      rw [List.append_assoc, List.singleton_append, ih (n / 10) (by omega) _ _ _ (by omega),
        scanToken_digit (Nat.mod_lt n (by decide)) _ _ _ (by omega)]
      congr 1
      rw [Nat.pow_succ, ← Nat.mul_assoc]
      omega

theorem scanToken_token {n : Nat} (small : n < 2 ^ 32) (tail : Bytes) :
    scanToken 0 0 (Numeral.digits n ++ 58 :: tail) =
      .ok (some (n, (Numeral.digits n).length + 1)) := by
  have room := Numeral.length_digits_word small
  have some_digit := Numeral.length_digits_pos n
  have fits : ¬ maxValue < n := by
    simp only [maxValue, UInt32.size]
    omega
  rw [scanToken_digits n 0 0 _ (by omega)]
  simp [scanToken, isDelimiter, Nat.ne_of_gt some_digit, fits]

theorem scan_encode (code : UInt32) {length : Nat} (small : length < 2 ^ 32) (tail : Bytes) :
    scan (encode code length ++ tail) =
      .ok (some ⟨code, length, (encode code length).length⟩) := by
  have split : encode code length ++ tail =
      Numeral.digits code.toNat ++ 58 :: (Numeral.digits length ++ 58 :: tail) := by
    simp [encode]
  have behind : (encode code length ++ tail).drop ((Numeral.digits code.toNat).length + 1) =
      Numeral.digits length ++ 58 :: tail := by
    rw [split, ← List.drop_drop, List.drop_left]
    rfl
  have first := scanToken_token code.toNat_lt (Numeral.digits length ++ 58 :: tail)
  rw [← split] at first
  simp only [scan, bind, Except.bind, pure, Except.pure, first, behind, scanToken_token small tail]
  simp only [UInt32.ofNat_toNat, encode, List.length_append, List.length_singleton, Nat.add_assoc]

theorem read_encode (code : UInt32) {length : Nat} (small : length < 2 ^ 32) (tail : Bytes) :
    read (encode code length ++ tail) = .ok ⟨code, length, (encode code length).length⟩ := by
  simp only [read, bind, Except.bind, pure, Except.pure, scan_encode code small tail]

end Header

namespace Frame

def bytes (p : Primitive) : Bytes := Header.encode p.code p.payload.length ++ p.payload

theorem encodeOnto_admitted {most : Nat} {p : Primitive} (admitted : (bytes p).length ≤ most)
    (target : Bytes) : encodeOnto most p target = (.ok (), target ++ bytes p) := by
  have kept : ¬ most < (bytes p).length := Nat.not_lt.2 admitted
  simp only [bytes] at kept
  simp only [encodeOnto, encode, if_neg kept, bytes]

/-- Appends the primitives one after another, each under a bound of its own, up to the first that
is refused. -/
def encodeAllOnto : List (Nat × Primitive) → Bytes → Except FrameError Unit × Bytes
  | [], target => (.ok (), target)
  | (most, p) :: rest, target =>
    match encodeOnto most p target with
    | (.error e, target) => (.error e, target)
    | (.ok (), target) => encodeAllOnto rest target

theorem encodeAllOnto_admitted {frames : List (Nat × Primitive)}
    (admitted : ∀ frame ∈ frames, (bytes frame.2).length ≤ frame.1) (target : Bytes) :
    encodeAllOnto frames target =
      (.ok (), target ++ frames.flatMap fun frame => bytes frame.2) := by
  induction frames generalizing target with
  | nil => simp [encodeAllOnto]
  | cons frame frames ih =>
    have head := admitted frame (by simp)
    have tail := ih fun other member => admitted other (by simp [member])
    simp only [encodeAllOnto, encodeOnto_admitted head, tail, List.flatMap_cons, List.append_assoc]

end Frame

namespace FrameStream

/-- Asked again and again, the first stream gives these items in order and becomes the second. -/
inductive Yields : FrameStream → List (Except FrameError Primitive) → FrameStream → Prop
  | nil (s : FrameStream) : Yields s [] s
  | cons {s t u : FrameStream} {item : Except FrameError Primitive}
      {items : List (Except FrameError Primitive)}
      (head : s.next = some (item, t)) (tail : Yields t items u) : Yields s (item :: items) u

theorem drain_next {s t : FrameStream} {item : Except FrameError Primitive}
    (advanced : s.next = some (item, t)) : s.drain = (item :: t.drain.1, t.drain.2) := by
  rw [drain]
  split
  · rename_i ended
    simp [ended] at advanced
  · rename_i other u found
    rw [advanced] at found
    obtain ⟨rfl, rfl⟩ := Prod.mk.inj (Option.some.inj found)
    rfl

theorem drain_ended {s : FrameStream} (ended : s.next = none) : s.drain = ([], s) := by
  rw [drain]
  split
  · rfl
  · rename_i found
    simp [ended] at found

theorem Yields.drain {s t : FrameStream} {items : List (Except FrameError Primitive)}
    (yields : Yields s items t) : s.drain = (items ++ t.drain.1, t.drain.2) := by
  induction yields with
  | nil s => rfl
  | cons head tail ih => rw [drain_next head, ih, List.cons_append]

theorem next_bytes (p : Primitive) (short : p.payload.length < 2 ^ 32) (rest : Bytes) :
    next { remaining := Frame.bytes p ++ rest } = some (.ok p, { remaining := rest }) := by
  have whole : Frame.bytes p ++ rest =
      Header.encode p.code p.payload.length ++ (p.payload ++ rest) := by
    simp [Frame.bytes]
  have filled : (Header.encode p.code p.payload.length ++ (p.payload ++ rest)).isEmpty = false := by
    simp [Header.encode]
  simp only [whole, next, filled, Header.read_encode p.code short, List.drop_left,
    List.length_append, List.take_left, Bool.or_self, Bool.false_eq_true, if_false]
  rw [if_neg (by omega)]

theorem yields_bytes {ps : List Primitive} (short : ∀ p ∈ ps, p.payload.length < 2 ^ 32)
    (rest : Bytes) :
    Yields { remaining := ps.flatMap Frame.bytes ++ rest } (ps.map .ok) { remaining := rest } := by
  induction ps with
  | nil => exact .nil _
  | cons p ps ih =>
    rw [List.flatMap_cons, List.append_assoc]
    exact .cons (next_bytes p (short p (by simp)) _) (ih fun q member => short q (by simp [member]))

end FrameStream

open FrameStream in
/-- Frames that were appended to one buffer are read back as they were written, and reading then
goes on as if it had started behind them. -/
theorem Frame.decodeStream_encodeAllOnto (frames : List (Nat × Primitive)) (rest : Bytes)
    (admitted : ∀ frame ∈ frames, (Frame.bytes frame.2).length ≤ frame.1)
    (short : ∀ frame ∈ frames, frame.2.payload.length < 2 ^ 32) :
    ∃ buffer, Frame.encodeAllOnto frames [] = (.ok (), buffer) ∧
      Yields { remaining := buffer ++ rest } (frames.map fun frame => .ok frame.2)
        { remaining := rest } ∧
      Frame.decodeStream (buffer ++ rest) =
        ((frames.map fun frame => .ok frame.2) ++ (Frame.decodeStream rest).1,
          (Frame.decodeStream rest).2) ∧
      Frame.decodeStream buffer = (frames.map fun frame => .ok frame.2, []) := by
  have written := Frame.encodeAllOnto_admitted admitted []
  have read : ∀ tail, Yields
      { remaining := (frames.flatMap fun frame => Frame.bytes frame.2) ++ tail }
      (frames.map fun frame => .ok frame.2) { remaining := tail } := by
    intro tail
    have each : ∀ p ∈ frames.map (·.2), p.payload.length < 2 ^ 32 := by
      intro p member
      obtain ⟨frame, present, rfl⟩ := List.mem_map.1 member
      exact short frame present
    have yields := yields_bytes each tail
    simpa only [List.flatMap_map, List.map_map, Function.comp_def] using yields
  refine ⟨_, written, read rest, ?_, ?_⟩
  · simp only [Frame.decodeStream, List.nil_append, (read rest).drain]
  · have ended : ({ remaining := [] } : FrameStream).drain = ([], { remaining := [] }) :=
      drain_ended rfl
    have alone := (read []).drain
    rw [List.append_nil, ended, List.append_nil] at alone
    simp only [Frame.decodeStream, List.nil_append, alone]

open FrameStream in
/-- A payload that reads like a header, a frame with none, and an unreadable byte behind them. -/
theorem Frame.decodeStream_payload_like_header :
    (∀ frame ∈ [(9, (⟨5, [49, 58, 48, 58, 0]⟩ : Primitive)), (5, ⟨11, []⟩)],
      (Frame.bytes frame.2).length ≤ frame.1 ∧ frame.2.payload.length < 2 ^ 32) ∧
    ∃ buffer,
      Frame.encodeAllOnto [(9, ⟨5, [49, 58, 48, 58, 0]⟩), (5, ⟨11, []⟩)] [] = (.ok (), buffer) ∧
      Yields { remaining := buffer ++ [58] } [.ok ⟨5, [49, 58, 48, 58, 0]⟩, .ok ⟨11, []⟩]
        { remaining := [58] } ∧
      Frame.decodeStream (buffer ++ [58]) =
        ([.ok ⟨5, [49, 58, 48, 58, 0]⟩, .ok ⟨11, []⟩] ++ (Frame.decodeStream [58]).1,
          (Frame.decodeStream [58]).2) ∧
      Frame.decodeStream buffer = ([.ok ⟨5, [49, 58, 48, 58, 0]⟩, .ok ⟨11, []⟩], []) := by
  have fits : ∀ frame ∈ [(9, (⟨5, [49, 58, 48, 58, 0]⟩ : Primitive)), (5, ⟨11, []⟩)],
      (Frame.bytes frame.2).length ≤ frame.1 ∧ frame.2.payload.length < 2 ^ 32 := by
    have first : (Frame.bytes ⟨5, [49, 58, 48, 58, 0]⟩).length = 9 := by cbv
    have second : (Frame.bytes ⟨11, []⟩).length = 5 := by cbv
    simp [first, second]
  exact ⟨fits, Frame.decodeStream_encodeAllOnto _ [58] (fun frame member => (fits frame member).1)
    (fun frame member => (fits frame member).2)⟩

end CodecLink
