import CodecLink.Proofs.Message.Layouts
import CodecLink.Proofs.Record.Coalescing

/-! A record is read as it was written. -/
namespace CodecLink

theorem Prep.decode_encode (r : Prep) : decode r.encode = .ok r := by
  have read : Bytes.unpack layout r.encode = [r.change.toNat, r.width.toNat, r.height.toNat,
      r.horStride.toNat, r.verStride.toNat, r.format.toNat] :=
    Bytes.unpack_zip <| .cons r.change.toNat_lt <| .cons r.width.toNat_lt <|
      .cons r.height.toNat_lt <| .cons r.horStride.toNat_lt <| .cons r.verStride.toNat_lt <|
      .cons r.format.toNat_lt .nil
  have sized : r.encode.length = size := by simp [encode, Bytes.length_pack, layout, size]
  rw [decode, checkSize, if_pos sized, read]
  simp only [ofFields, UInt16.ofNat_toNat]
  rfl

theorem RateControl.decode_encode (r : RateControl) : decode r.encode = .ok r := by
  have read : Bytes.unpack layout r.encode = [r.change.toNat, r.mode.toNat, r.bpsTarget.toNat,
      r.bpsMax.toNat, r.bpsMin.toNat, r.fpsInNum.toNat, r.fpsInDenom.toNat, r.fpsOutNum.toNat,
      r.fpsOutDenom.toNat, r.gop.toNat] :=
    Bytes.unpack_zip <| .cons r.change.toNat_lt <| .cons r.mode.toNat_lt <|
      .cons r.bpsTarget.toNat_lt <| .cons r.bpsMax.toNat_lt <| .cons r.bpsMin.toNat_lt <|
      .cons r.fpsInNum.toNat_lt <| .cons r.fpsInDenom.toNat_lt <| .cons r.fpsOutNum.toNat_lt <|
      .cons r.fpsOutDenom.toNat_lt <| .cons r.gop.toNat_lt .nil
  have sized : r.encode.length = size := by simp [encode, Bytes.length_pack, layout, size]
  rw [decode, checkSize, if_pos sized, read]
  simp only [ofFields, UInt16.ofNat_toNat, UInt32.ofNat_toNat]
  rfl

theorem H264.decode_encode (r : H264) : decode r.encode = .ok r := by
  have read : Bytes.unpack layout r.encode = [r.change.toNat, r.profile.toNat, r.level.toNat,
      r.entropy.toNat, r.cabacInitIdc.toNat, r.transform8x8.toNat, r.constrainedIntra.toNat,
      r.qpInit.toNat, r.qpMax.toNat, r.qpMin.toNat, r.qpMaxStep.toNat] :=
    Bytes.unpack_zip <| .cons r.change.toNat_lt <| .cons r.profile.toNat_lt <|
      .cons r.level.toNat_lt <| .cons r.entropy.toNat_lt <| .cons r.cabacInitIdc.toNat_lt <|
      .cons r.transform8x8.toNat_lt <| .cons r.constrainedIntra.toNat_lt <|
      .cons r.qpInit.toNat_lt <| .cons r.qpMax.toNat_lt <| .cons r.qpMin.toNat_lt <|
      .cons r.qpMaxStep.toNat_lt .nil
  have sized : r.encode.length = size := by simp [encode, Bytes.length_pack, layout, size]
  rw [decode, checkSize, if_pos sized, read]
  simp only [ofFields, UInt32.ofNat_toNat, UInt8.ofNat_toNat]
  rfl

theorem Jpeg.decode_encode (r : Jpeg) : decode r.encode = .ok r := by
  have read : Bytes.unpack layout r.encode = [r.change.toNat, r.quant.toNat] :=
    Bytes.unpack_zip <| .cons r.change.toNat_lt <| .cons r.quant.toNat_lt .nil
  have sized : r.encode.length = size := by simp [encode, Bytes.length_pack, layout, size]
  rw [decode, checkSize, if_pos sized, read]
  simp only [ofFields, UInt32.ofNat_toNat]
  rfl

theorem Sei.decode_encode (mode : UInt32) : decode (encode mode) = .ok mode := by
  have word := Bytes.toNat_littleEndian size mode.toNat mode.toNat_lt
  rw [decode, checkSize, if_pos (by simp [encode])]
  simp only [encode, word, UInt32.ofNat_toNat]
  rfl

theorem ConfigRequest.decode_encode {codec : Codec} {request : ConfigRequest}
    (suits : request.suits codec = true) :
    decode codec request.kind request.encode = .ok request := by
  rcases request with r | r | (r | r) | mode
  · simp only [kind, encode, decode, Prep.decode_encode, Except.map]
  · simp only [kind, encode, decode, RateControl.decode_encode, Except.map]
  · cases of_decide_eq_true suits
    simp only [kind, encode, decode, CodecRecord.codec, CodecRecord.encode, CodecRecord.decode,
      H264.decode_encode, Except.map]
  · cases of_decide_eq_true suits
    simp only [kind, encode, decode, CodecRecord.codec, CodecRecord.encode, CodecRecord.decode,
      Jpeg.decode_encode, Except.map]
  · simp only [kind, encode, decode, Sei.decode_encode, Except.map]

end CodecLink
