import Mathlib.Algebra.Ring.Nat
import Mathlib.Data.List.Forall2
import CodecLink.Bytes

/-! Values packed along a layout are unpacked again, and so are the bytes of it. -/
namespace CodecLink.Bytes

theorem toNat_littleEndian (width n : Nat) (bound : n < 256 ^ width) :
    toNat (littleEndian width n) = n := by
  induction width generalizing n with
  | zero =>
    have : n = 0 := by simpa using bound
    simp [this, littleEndian, toNat]
  | succ width ih =>
    have small : n / 256 < 256 ^ width := by
      apply (Nat.div_lt_iff_lt_mul (by decide : 0 < 256)).2
      simpa [Nat.pow_succ] using bound
    simp only [littleEndian, toNat, UInt8.toNat_ofNat', ih _ small]
    omega

theorem toNat_lt (bs : Bytes) : toNat bs < 256 ^ bs.length := by
  induction bs with
  | nil => simp [toNat]
  | cons b bs ih =>
    have := b.toNat_lt
    simp only [toNat, List.length_cons, Nat.pow_succ]
    omega

theorem littleEndian_toNat (bs : Bytes) : littleEndian bs.length (toNat bs) = bs := by
  induction bs with
  | nil => rfl
  | cons b bs ih =>
    have bound := b.toNat_lt
    have low : UInt8.ofNat (b.toNat + 256 * toNat bs) = b := by
      apply UInt8.toNat_inj.1
      simp only [UInt8.toNat_ofNat']
      omega
    have high : (b.toNat + 256 * toNat bs) / 256 = toNat bs := by omega
    simp only [List.length_cons, toNat, littleEndian, low, high, ih]

theorem unpack_pack (fields : List (Nat × Nat))
    (bound : ∀ field ∈ fields, field.2 < 256 ^ field.1) :
    unpack (fields.map (·.1)) (pack fields) = fields.map (·.2) := by
  induction fields with
  | nil => rfl
  | cons field fields ih =>
    have first := bound field (by simp)
    have rest := ih fun other member => bound other (by simp [member])
    simp only [pack, List.flatMap_cons, List.map_cons, unpack] at rest ⊢
    rw [List.take_left' (by simp), List.drop_left' (by simp), toNat_littleEndian _ _ first, rest]

theorem unpack_zip {widths values : List Nat}
    (bound : List.Forall₂ (fun width value => value < 256 ^ width) widths values) :
    unpack widths (pack (widths.zip values)) = values := by
  induction bound with
  | nil => rfl
  | cons first _ ih =>
    simp only [pack, List.zip_cons_cons, List.flatMap_cons, unpack] at ih ⊢
    rw [List.take_left' (by simp), List.drop_left' (by simp), toNat_littleEndian _ _ first, ih]

theorem pack_unpack (widths : List Nat) (bs : Bytes) (size : bs.length = span widths) :
    pack (widths.zip (unpack widths bs)) = bs := by
  induction widths generalizing bs with
  | nil => simp_all [pack, unpack, span]
  | cons width widths ih =>
    rw [span] at size
    have long : width ≤ bs.length := by omega
    have rest := ih (bs.drop width) (by rw [List.length_drop]; omega)
    have first := littleEndian_toNat (bs.take width)
    rw [List.length_take, Nat.min_eq_left long] at first
    simp only [pack, unpack, List.zip_cons_cons, List.flatMap_cons] at rest ⊢
    rw [first, rest, List.take_append_drop]

end CodecLink.Bytes
