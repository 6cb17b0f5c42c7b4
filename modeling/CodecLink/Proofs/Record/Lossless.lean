import CodecLink.Proofs.Record.Transmission

/-! Records and byte strings of their size correspond one to one, change words with bits of no
meaning included. A field is a number below the bound of its width, and every such number is the
value of a field. -/
namespace CodecLink

namespace Bytes

/-- Each value is small enough for its place in the layout. -/
def Fits (layout values : List Nat) : Prop :=
  List.Forall₂ (fun width value => value < 256 ^ width) layout values

theorem fits_unpack (layout : List Nat) (bs : Bytes) : Fits layout (bs.unpack layout) := by
  induction layout generalizing bs with
  | nil => exact .nil
  | cons width layout ih =>
    have short : (bs.take width).length ≤ width := by
      rw [List.length_take]
      exact Nat.min_le_left _ _
    refine .cons ?_ (ih (bs.drop width))
    calc toNat (bs.take width) < 256 ^ (bs.take width).length := toNat_lt _
      _ ≤ 256 ^ width := Nat.pow_le_pow_right (by decide) short

end Bytes

/-- Reading and writing undo each other, and exactly the byte strings of the given size are read. -/
structure Lossless {α : Type} (size : Nat) (encode : α → Bytes)
    (decode : Bytes → Except RecordError α) : Prop where
  isOk_iff (bs : Bytes) : (decode bs).isOk = true ↔ bs.length = size
  decode_encode (r : α) : decode (encode r) = .ok r
  encode_decode {bs : Bytes} {r : α} (decoded : decode bs = .ok r) : encode r = bs

namespace Lossless

variable {α : Type} {name : String} {encode : α → Bytes} {decode : Bytes → Except RecordError α}

theorem isOk_checkSize (size : Nat) (bs : Bytes) (value : α) :
    (checkSize name size bs >>= fun _ => pure value).isOk = true ↔ bs.length = size := by
  rw [checkSize]
  split
  · rename_i sized
    exact iff_of_true rfl sized
  · rename_i missized
    exact iff_of_false Bool.false_ne_true missized

theorem of_checkSize {size : Nat} {bs : Bytes} {value r : α}
    (decoded : (checkSize name size bs >>= fun _ => pure value) = .ok r) :
    bs.length = size ∧ value = r := by
  have read : (checkSize name size bs >>= fun _ => pure value).isOk = true := by
    rw [decoded]
    rfl
  have sized := (isOk_checkSize size bs value).1 read
  rw [checkSize, if_pos sized] at decoded
  exact ⟨sized, Except.ok.inj decoded⟩

/-- A record that is written along a layout and read along it, if no field loses a part of its
value. -/
theorem of_layout {layout : List Nat} {ofFields : List Nat → α}
    (reads : ∀ bs : Bytes, decode bs =
      checkSize name (Bytes.span layout) bs >>= fun _ => pure (ofFields (bs.unpack layout)))
    (decode_encode : ∀ r, decode (encode r) = .ok r)
    (writes : ∀ {values}, Bytes.Fits layout values →
      encode (ofFields values) = .pack (layout.zip values)) :
    Lossless (Bytes.span layout) encode decode where
  isOk_iff bs := by
    rw [reads]
    exact isOk_checkSize _ bs _
  decode_encode := decode_encode
  encode_decode := by
    intro bs r decoded
    rw [reads] at decoded
    obtain ⟨sized, rfl⟩ := of_checkSize decoded
    rw [writes (Bytes.fits_unpack layout bs)]
    exact Bytes.pack_unpack layout bs sized

end Lossless

theorem Prep.encode_ofFields {values : List Nat} (fits : Bytes.Fits layout values) :
    (ofFields values).encode = .pack (layout.zip values) := by
  obtain _ | ⟨change, _ | ⟨width, _ | ⟨height, _ | ⟨horStride, _ | ⟨verStride, _ | ⟨format, ⟨⟩⟩⟩⟩⟩⟩⟩
    := fits
  rw [ofFields, encode, UInt16.toNat_ofNat_of_lt' change, UInt16.toNat_ofNat_of_lt' width,
    UInt16.toNat_ofNat_of_lt' height, UInt16.toNat_ofNat_of_lt' horStride,
    UInt16.toNat_ofNat_of_lt' verStride, UInt16.toNat_ofNat_of_lt' format]

theorem RateControl.encode_ofFields {values : List Nat} (fits : Bytes.Fits layout values) :
    (ofFields values).encode = .pack (layout.zip values) := by
  obtain _ | ⟨change, _ | ⟨mode, _ | ⟨target, _ | ⟨most, _ | ⟨least, _ | ⟨inNum, _ | ⟨inDenom, _ |
    ⟨outNum, _ | ⟨outDenom, _ | ⟨gop, ⟨⟩⟩⟩⟩⟩⟩⟩⟩⟩⟩⟩ := fits
  rw [ofFields, encode, UInt32.toNat_ofNat_of_lt' change, UInt32.toNat_ofNat_of_lt' mode,
    UInt32.toNat_ofNat_of_lt' target, UInt32.toNat_ofNat_of_lt' most,
    UInt32.toNat_ofNat_of_lt' least, UInt16.toNat_ofNat_of_lt' inNum,
    UInt16.toNat_ofNat_of_lt' inDenom, UInt16.toNat_ofNat_of_lt' outNum,
    UInt16.toNat_ofNat_of_lt' outDenom, UInt32.toNat_ofNat_of_lt' gop]

theorem H264.encode_ofFields {values : List Nat} (fits : Bytes.Fits layout values) :
    (ofFields values).encode = .pack (layout.zip values) := by
  obtain _ | ⟨change, _ | ⟨profile, _ | ⟨level, _ | ⟨entropy, _ | ⟨idc, _ | ⟨transform, _ | ⟨intra,
    _ | ⟨qpInit, _ | ⟨qpMax, _ | ⟨qpMin, _ | ⟨step, ⟨⟩⟩⟩⟩⟩⟩⟩⟩⟩⟩⟩⟩ := fits
  rw [ofFields, encode, UInt32.toNat_ofNat_of_lt' change, UInt32.toNat_ofNat_of_lt' profile,
    UInt32.toNat_ofNat_of_lt' level, UInt8.toNat_ofNat_of_lt' entropy, UInt8.toNat_ofNat_of_lt' idc,
    UInt8.toNat_ofNat_of_lt' transform, UInt8.toNat_ofNat_of_lt' intra,
    UInt8.toNat_ofNat_of_lt' qpInit, UInt8.toNat_ofNat_of_lt' qpMax, UInt8.toNat_ofNat_of_lt' qpMin,
    UInt8.toNat_ofNat_of_lt' step]

theorem Jpeg.encode_ofFields {values : List Nat} (fits : Bytes.Fits layout values) :
    (ofFields values).encode = .pack (layout.zip values) := by
  obtain _ | ⟨change, _ | ⟨quant, ⟨⟩⟩⟩ := fits
  rw [ofFields, encode, UInt32.toNat_ofNat_of_lt' change, UInt32.toNat_ofNat_of_lt' quant]

theorem Prep.lossless : Lossless 12 encode decode :=
  .of_layout (fun _ => rfl) decode_encode encode_ofFields

theorem RateControl.lossless : Lossless 32 encode decode :=
  .of_layout (fun _ => rfl) decode_encode encode_ofFields

theorem H264.lossless : Lossless 20 encode decode :=
  .of_layout (fun _ => rfl) decode_encode encode_ofFields

theorem Jpeg.lossless : Lossless 8 encode decode :=
  .of_layout (fun _ => rfl) decode_encode encode_ofFields

theorem Sei.lossless : Lossless 4 encode decode where
  isOk_iff bs := Lossless.isOk_checkSize _ bs _
  decode_encode := decode_encode
  encode_decode := by
    intro bs mode decoded
    obtain ⟨sized, rfl⟩ := Lossless.of_checkSize decoded
    have word : bs.toNat < 2 ^ 32 := by
      have bound := bs.toNat_lt
      rwa [sized] at bound
    rw [encode, UInt32.toNat_ofNat_of_lt' word, ← sized]
    exact bs.littleEndian_toNat

end CodecLink
