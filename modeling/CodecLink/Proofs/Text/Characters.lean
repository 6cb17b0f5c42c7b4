import CodecLink.Text.Utf8

/-! Characters are read back from the bytes that they are written in. -/
namespace CodecLink.Utf8

section

variable {n : Nat}

theorem toNat_byte (small : n < 256) : (UInt8.ofNat n).toNat = n := by
  rw [UInt8.toNat_ofNat']
  exact Nat.mod_eq_of_lt small

theorem byte_lt (small : n < 256) (bound : UInt8) : UInt8.ofNat n < bound ↔ n < bound.toNat := by
  rw [UInt8.lt_iff_toNat_lt, toNat_byte small]

theorem le_byte (small : n < 256) (bound : UInt8) : bound ≤ UInt8.ofNat n ↔ bound.toNat ≤ n := by
  rw [UInt8.le_iff_toNat_le, toNat_byte small]

theorem isTail_byte (small : n < 64) : isTail (UInt8.ofNat (n + 128)) = true := by
  rw [isTail, Bool.and_eq_true, decide_eq_true_eq, decide_eq_true_eq, le_byte (by omega),
    byte_lt (by omega)]
  exact ⟨Nat.le_add_left 128 n, (Nat.add_lt_add_right small 128 : n + 128 < 192)⟩

theorem tailBits_byte (small : n < 64) : tailBits (UInt8.ofNat (n + 128)) = n := by
  rw [tailBits, toNat_byte (by omega)]
  omega

end

section

variable (lead first second third value : Nat)

theorem twoByte_byte (low : 194 ≤ lead) (high : lead < 224) (tail : first < 64) :
    twoByte (UInt8.ofNat lead) (UInt8.ofNat (first + 128)) =
      some (Char.ofNat (lead % 32 * 64 + first)) := by
  have small : lead < 256 := by omega
  have within : 0xC2 ≤ UInt8.ofNat lead ∧ UInt8.ofNat lead < 0xE0 :=
    ⟨(le_byte small 0xC2).2 low, (byte_lt small 0xE0).2 high⟩
  rw [twoByte, toNat_byte small, tailBits_byte tail, isTail_byte tail]
  simp [within]

theorem twoByte_longer (longer : 224 ≤ lead) (small : lead < 256) (b : UInt8) :
    twoByte (UInt8.ofNat lead) b = none := by
  have above : ¬UInt8.ofNat lead < 0xE0 := fun below =>
    absurd ((byte_lt small 0xE0).1 below) (Nat.not_lt.2 longer)
  rw [twoByte]
  simp [above]

theorem threeByte_byte (low : 224 ≤ lead) (high : lead < 240) (one : first < 64)
    (two : second < 64) (same : value = lead % 16 * 4096 + first * 64 + second)
    (whole : 0x800 ≤ value) (unpaired : value < 0xD800 ∨ 0xE000 ≤ value) :
    threeByte (UInt8.ofNat lead) (UInt8.ofNat (first + 128)) (UInt8.ofNat (second + 128)) =
      some (Char.ofNat value) := by
  have small : lead < 256 := by omega
  have within : 0xE0 ≤ UInt8.ofNat lead ∧ UInt8.ofNat lead < 0xF0 :=
    ⟨(le_byte small 0xE0).2 low, (byte_lt small 0xF0).2 high⟩
  rw [threeByte, toNat_byte small, tailBits_byte one, tailBits_byte two, isTail_byte one,
    isTail_byte two, ← same]
  simp [within, whole]
  omega

theorem threeByte_longer (longer : 240 ≤ lead) (small : lead < 256) (b c : UInt8) :
    threeByte (UInt8.ofNat lead) b c = none := by
  have above : ¬UInt8.ofNat lead < 0xF0 := fun below =>
    absurd ((byte_lt small 0xF0).1 below) (Nat.not_lt.2 longer)
  rw [threeByte]
  simp [above]

theorem fourByte_byte (low : 240 ≤ lead) (high : lead < 245) (one : first < 64)
    (two : second < 64) (three : third < 64)
    (same : value = lead % 8 * 262144 + first * 4096 + second * 64 + third)
    (least : 0x10000 ≤ value) (most : value < 0x110000) :
    fourByte (UInt8.ofNat lead) (UInt8.ofNat (first + 128)) (UInt8.ofNat (second + 128))
      (UInt8.ofNat (third + 128)) = some (Char.ofNat value) := by
  have small : lead < 256 := by omega
  have within : 0xF0 ≤ UInt8.ofNat lead ∧ UInt8.ofNat lead < 0xF5 :=
    ⟨(le_byte small 0xF0).2 low, (byte_lt small 0xF5).2 high⟩
  rw [fourByte, toNat_byte small, tailBits_byte one, tailBits_byte two, tailBits_byte three,
    isTail_byte one, isTail_byte two, isTail_byte three, ← same]
  simp [within, least, most]

end

/-- No character is half of a pair, and none is past the last. -/
theorem char_range (c : Char) : c.toNat < 0xD800 ∨ 0xE000 ≤ c.toNat ∧ c.toNat < 0x110000 := by
  have valid := c.valid
  simp only [UInt32.isValidChar, Nat.isValidChar] at valid
  have same : c.val.toNat = c.toNat := rfl
  omega

theorem decode?_char (c : Char) (rest : Bytes) :
    decode? (String.utf8EncodeChar c ++ rest) = (decode? rest).map (c :: ·) := by
  have range := char_range c
  have same : c.val.toNat = c.toNat := rfl
  rw [String.utf8EncodeChar, same]
  generalize value : c.toNat = v at range
  have back : Char.ofNat v = c := by rw [← value, Char.ofNat_toNat]
  have lead {n : Nat} (small : n < 256) (long : 128 ≤ n) : ¬UInt8.ofNat n < 0x80 := fun below =>
    absurd ((byte_lt small 0x80).1 below) (Nat.not_lt.2 long)
  -- The cases are those of the encoder, by the number of bytes; a longer lead is no shorter one.
  split
  · rename_i one
    have small : v < 256 := by omega
    have plain : UInt8.ofNat v < 0x80 := (byte_lt small 0x80).2 (Nat.lt_succ_of_le one)
    rw [List.singleton_append, decode?.eq_def]
    dsimp only
    rw [if_pos plain, toNat_byte small, back]
  split
  · rename_i two
    have found := twoByte_byte (v / 64 % 32 + 192) (v % 64) (by omega) (by omega) (by omega)
    have joined : (v / 64 % 32 + 192) % 32 * 64 + v % 64 = v := by omega
    rw [joined, back] at found
    rw [List.cons_append, List.singleton_append, decode?.eq_def]
    dsimp only
    rw [if_neg (lead (by omega) (by omega)), found]
  split
  · rename_i three
    have short := twoByte_longer (v / 4096 % 16 + 224) (by omega) (by omega)
    have found := threeByte_byte (v / 4096 % 16 + 224) (v / 64 % 64) (v % 64) v
      (by omega) (by omega) (by omega) (by omega) (by omega) (by omega) (by omega)
    rw [back] at found
    rw [List.cons_append, List.cons_append, List.singleton_append, decode?.eq_def]
    dsimp only
    rw [if_neg (lead (by omega) (by omega)), short, found]
  · have short := twoByte_longer (v / 262144 % 8 + 240) (by omega) (by omega)
    have middle := threeByte_longer (v / 262144 % 8 + 240) (by omega) (by omega)
    have found := fourByte_byte (v / 262144 % 8 + 240) (v / 4096 % 64) (v / 64 % 64) (v % 64) v
      (by omega) (by omega) (by omega) (by omega) (by omega) (by omega) (by omega) (by omega)
    rw [back] at found
    rw [List.cons_append, List.cons_append, List.cons_append, List.singleton_append,
      decode?.eq_def]
    dsimp only
    rw [if_neg (lead (by omega) (by omega)), short, middle, found]

theorem decode?_chars (cs : List Char) :
    decode? (cs.flatMap String.utf8EncodeChar) = some cs := by
  induction cs with
  | nil => rfl
  | cons c cs ih => rw [List.flatMap_cons, decode?_char, ih, Option.map_some]

end CodecLink.Utf8
