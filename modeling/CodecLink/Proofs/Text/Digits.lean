import Mathlib.Algebra.Ring.Nat
import CodecLink.Text.Numeral

/-! Decimal digits: how many a number has, and that they have its value. -/
namespace CodecLink.Numeral

theorem length_digits_le {n k : Nat} (small : n < 10 ^ (k + 1)) : (digits n).length ≤ k + 1 := by
  induction k generalizing n with
  | zero =>
    have single : n < 10 := by simpa using small
    rw [digits, if_pos single]
    simp
  | succ k ih =>
    rw [digits]
    split
    · simp
    · have shorter : n / 10 < 10 ^ (k + 1) := by
        apply (Nat.div_lt_iff_lt_mul (by decide : 0 < 10)).2
        simpa only [Nat.pow_succ] using small
      have := ih shorter
      simp only [List.length_append, List.length_singleton]
      omega

theorem length_digits_pos (n : Nat) : 0 < (digits n).length := by
  rw [digits]
  split <;> simp

theorem length_digits_lt {n k : Nat} (large : 10 ^ k ≤ n) : k < (digits n).length := by
  induction k generalizing n with
  | zero => exact length_digits_pos n
  | succ k ih =>
    have several : ¬n < 10 := by
      have : 10 ^ 1 ≤ 10 ^ (k + 1) := Nat.pow_le_pow_right (by decide) (by omega)
      omega
    have longer : k < (digits (n / 10)).length := by
      refine ih ((Nat.le_div_iff_mul_le (by decide)).2 ?_)
      rwa [← Nat.pow_succ]
    rw [digits, if_neg several, List.length_append, List.length_singleton]
    omega

theorem length_digits_eq {n k : Nat} (large : 10 ^ k ≤ n) (small : n < 10 ^ (k + 1)) :
    (digits n).length = k + 1 :=
  Nat.le_antisymm (length_digits_le small) (length_digits_lt large)

theorem mem_digits {n : Nat} {b : UInt8} (member : b ∈ digits n) :
    ∃ d < 10, b = UInt8.ofNat (48 + d) := by
  induction n using digits.induct with
  | case1 n single =>
    rw [digits, if_pos single] at member
    exact ⟨n, single, List.mem_singleton.1 member⟩
  | case2 n several ih =>
    rw [digits, if_neg several] at member
    rcases List.mem_append.1 member with front | last
    · exact ih front
    · exact ⟨n % 10, Nat.mod_lt n (by decide), List.mem_singleton.1 last⟩

theorem digits_cons (n : Nat) : ∃ d ds, d < 10 ∧ digits n = UInt8.ofNat (48 + d) :: ds := by
  cases own : digits n with
  | nil =>
    have some_digit := length_digits_pos n
    rw [own] at some_digit
    cases some_digit
  | cons b ds =>
    obtain ⟨d, single, rfl⟩ := mem_digits (n := n) (b := b) (by simp [own])
    exact ⟨d, ds, single, rfl⟩

theorem value_append (bs : Bytes) (b : UInt8) :
    value (bs ++ [b]) = value bs * 10 + digitValue b := by
  simp [value]

theorem digitValue_digit {d : Nat} (single : d < 10) : digitValue (UInt8.ofNat (48 + d)) = d := by
  have all : ∀ d < 10, digitValue (UInt8.ofNat (48 + d)) = d := by decide
  exact all d single

theorem value_digits (n : Nat) : value (digits n) = n := by
  induction n using digits.induct with
  | case1 n single =>
    rw [digits, if_pos single]
    simpa [value] using digitValue_digit single
  | case2 n several ih =>
    rw [digits, if_neg several, value_append, ih, digitValue_digit (Nat.mod_lt n (by decide))]
    omega

/-- No number but zero begins with a zero. -/
theorem head_digits {n : Nat} (zero : (digits n).head? = some 48) : n = 0 := by
  induction n using digits.induct with
  | case1 n single =>
    rw [digits, if_pos single] at zero
    have all : ∀ d < 10, UInt8.ofNat (48 + d) = 48 → d = 0 := by decide
    exact all n single (by simpa using zero)
  | case2 n several ih =>
    obtain ⟨d, ds, _, front⟩ := digits_cons (n / 10)
    rw [digits, if_neg several, front] at zero
    have none_left := ih (by rw [front]; exact zero)
    omega

end CodecLink.Numeral
