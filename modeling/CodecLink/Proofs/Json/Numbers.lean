import CodecLink.Proofs.Json.Spelling
import CodecLink.Proofs.Text.Digits

/-! Whole numbers as words. Their digits are well spelled and read back, and a number of sixty-four
bits is within every bound. -/
namespace CodecLink

namespace Json

theorem Number.spelled_ofNat (n : Nat) : (ofNat n).Spelled (ofNat n).write := by
  have run : IsRun (Numeral.digits n) := by
    refine ⟨List.length_pos_iff.1 (Numeral.length_digits_pos n), fun b member => ?_⟩
    obtain ⟨d, single, rfl⟩ := Numeral.mem_digits member
    have every : ∀ d < 10, Numeral.isDigit (UInt8.ofNat (48 + d)) = true := by decide
    exact every d single
  have leading (zero : (Numeral.digits n).head? = some 48) : Numeral.digits n = [48] := by
    rw [Numeral.head_digits zero, Numeral.digits]
    rfl
  have spelled : (ofNat n).Spelled ([] ++ (Numeral.digits n ++ ([] ++ []))) :=
    @Spelled.intro false _ _ _ _ _ run leading .absent .absent
  have same : (ofNat n).write = [] ++ (Numeral.digits n ++ ([] ++ [])) := by simp [write, ofNat]
  rwa [same]

theorem Token.spelled_ofNat (n : Nat) :
    (number (.ofNat n)).Spelled (number (.ofNat n)).write :=
  .number (Number.spelled_ofNat n)

namespace Number

theorem scaled_digits {n : Nat} (small : n ≤ Scaled.limit) :
    (Numeral.digits n).foldl Scaled.addWhole {} = { value := n } := by
  have add {m d : Nat} (single : d < 10) (room : m * 10 + d ≤ Scaled.limit) :
      Scaled.addWhole { value := m } (UInt8.ofNat (48 + d)) = { value := m * 10 + d } := by
    rw [Scaled.addWhole, Numeral.digitValue_digit single]
    simp [Nat.not_lt.2 room]
  induction n using Numeral.digits.induct with
  | case1 n single =>
    rw [Numeral.digits, if_pos single]
    simpa using add (m := 0) single (by omega)
  | case2 n several ih =>
    have last := add (m := n / 10) (Nat.mod_lt n (by decide)) (by omega)
    rw [Numeral.digits, if_neg several, List.foldl_append, ih (by omega)]
    refine last.trans ?_
    congr 1
    omega

theorem roundBits_le (n : Nat) : roundBits n ≤ 2 * n + 1 := by
  have unit : 1 <<< (n.log2 + 1 - 53) ≤ n + 1 := by
    rw [Nat.one_shiftLeft]
    by_cases zero : n = 0
    · subst zero
      decide
    · have power : 2 ^ (n.log2 + 1 - 53) ≤ 2 ^ n.log2 := Nat.pow_le_pow_right (by decide) (by omega)
      have below := Nat.log2_self_le zero
      omega
  have floor := Nat.div_mul_le_self n (1 <<< (n.log2 + 1 - 53))
  rw [roundBits]
  split
  · rw [Nat.add_mul]
    omega
  · omega

theorem inRange_ofNat {n : Nat} (small : n < 2 ^ 64) : (ofNat n).inRange = true := by
  have read : (ofNat n).scaled = { value := n } := by
    have whole := scaled_digits (n := n) (by simp only [Scaled.limit, UInt64.size]; omega)
    simp [scaled, ofNat, whole]
  -- Rounding at most doubles a number, and the bound is far above.
  have near := roundBits_le n
  have wide : 2 ^ 66 < (1 <<< 1024) - (1 <<< 970) := by decide +kernel
  have product : roundBits n * roundBits (Nat.pow 10 0) < (1 <<< 1024) - (1 <<< 970) := by
    have one : roundBits (Nat.pow 10 0) = 1 := by decide
    rw [one, Nat.mul_one]
    exact Nat.lt_trans (by omega) wide
  rw [inRange, read]
  simp only [Int.lt_irrefl, decide_false, Bool.or_false, Int.toNat_zero]
  split
  · rfl
  · rw [if_neg (by decide)]
    exact decide_eq_true product

theorem unsigned?_ofNat {n limit : Nat} (small : n ≤ limit) :
    (ofNat n).unsigned? limit = some n := by
  simp [unsigned?, ofNat, Numeral.value_digits, small]

end Number

end Json

end CodecLink
