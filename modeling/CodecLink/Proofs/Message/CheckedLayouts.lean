import CodecLink.Checked.Messages
import CodecLink.Proofs.Message.Payloads

/-! Messages are read and written without a step that cannot be taken: a record is only looked into
where its size was found right, and an array to be filled is as long as its layout. -/
namespace CodecLink

namespace Checked

theorem ok_bind {α β : Type} (a : α) (f : α → Checked β) : (Except.ok a >>= f) = f a := rfl

theorem allocate_ok {size : Nat} (room : size ≤ memoryLimit) : allocate size = .ok () := if_pos room

theorem add_ok {a b : Nat} (room : a + b < wordCount) : add a b = .ok (a + b) := if_pos room

theorem slice_ok {bs : Bytes} {start stop : Nat} (order : start ≤ stop)
    (inside : stop ≤ bs.length) : slice bs start stop = .ok ((bs.take stop).drop start) :=
  if_pos ⟨order, inside⟩

theorem bytesAt_ok {bs : Bytes} {start width : Nat} (inside : start + width ≤ bs.length) :
    bytesAt bs start width = .ok ((bs.drop start).take width) := by
  induction width generalizing start with
  | zero => rw [bytesAt, List.take_zero]
  | succ width ih =>
    have here : start < bs.length := by omega
    have found : byteAt bs start = .ok bs[start] := by
      rw [byteAt, List.getElem?_eq_getElem here]
    rw [bytesAt, found, ok_bind, ih (by omega), ok_bind, List.drop_eq_getElem_cons here,
      List.take_succ_cons]
    rfl

theorem wordAt_ok {bs : Bytes} {start width : Nat} (inside : start + width ≤ bs.length) :
    wordAt bs start width = .ok (Bytes.toNat ((bs.drop start).take width)) := by
  rw [wordAt, bytesAt_ok inside]
  rfl

theorem fieldsAt_ok {bs : Bytes} {start : Nat} {layout : List Nat}
    (inside : start + Bytes.span layout ≤ bs.length) :
    fieldsAt bs start layout = .ok (Bytes.unpack layout (bs.drop start)) := by
  induction layout generalizing start with
  | nil => rfl
  | cons width widths ih =>
    rw [Bytes.span] at inside
    rw [fieldsAt, wordAt_ok (by omega), ok_bind, ih (by omega), ok_bind, Bytes.unpack,
      List.drop_drop]
    rfl

theorem wordIn_ok {bs : Bytes} (start width : Nat) (inside : start + width ≤ bs.length) :
    wordIn bs start (start + width) width = .ok (Bytes.toNat ((bs.drop start).take width)) := by
  have size : ((bs.take (start + width)).drop start).length = width := by
    rw [List.length_drop, List.length_take]
    omega
  rw [wordIn, slice_ok (by omega) inside, ok_bind, copy, if_pos size, ok_bind, List.drop_take,
    Nat.add_sub_cancel_left]
  rfl

theorem place_ok (front old rest bs : Bytes) (fits : bs.length = old.length) :
    place (front ++ (old ++ rest)) front.length (front.length + old.length) bs =
      .ok ((front ++ bs) ++ rest) := by
  have width : bs.length = front.length + old.length - front.length := by
    rw [Nat.add_sub_cancel_left, fits]
  have kept : (front ++ (old ++ rest)).drop (front.length + old.length) = rest := by
    rw [← List.drop_drop, List.drop_left, List.drop_left]
  rw [place, slice_ok (by omega) (by simp), ok_bind, copy, if_pos width, ok_bind, List.take_left,
    kept]
  rfl

/-- Behind what was written there is still room for the fields that follow. -/
theorem packAt_ok (front : Bytes) (fields : List (Nat × Nat)) :
    packAt (front ++ List.replicate (Bytes.span (fields.map (·.1))) 0) front.length fields =
      .ok (front ++ Bytes.pack fields) := by
  induction fields generalizing front with
  | nil => rfl
  | cons field fields ih =>
    obtain ⟨width, value⟩ := field
    have split : List.replicate (Bytes.span ((width, value) :: fields |>.map (·.1))) (0 : UInt8) =
        List.replicate width 0 ++ List.replicate (Bytes.span (fields.map (·.1))) 0 := by
      rw [List.replicate_append_replicate]
      rfl
    have placed := place_ok front (List.replicate width 0)
      (List.replicate (Bytes.span (fields.map (·.1))) 0) (Bytes.littleEndian width value)
      (by rw [Bytes.length_littleEndian, List.length_replicate])
    rw [List.length_replicate] at placed
    have next : front.length + width = (front ++ Bytes.littleEndian width value).length := by
      rw [List.length_append, Bytes.length_littleEndian]
    rw [packAt, split, placed, ok_bind, next, ih, List.append_assoc]
    rfl

theorem pack_ok (fields : List (Nat × Nat)) : pack fields = .ok (Bytes.pack fields) :=
  packAt_ok [] fields

end Checked

namespace Descriptor

theorem decodeChecked_eq (bs : Bytes) : decodeChecked bs = .ok (decode bs) := by
  rw [decodeChecked, decode]
  split
  · rename_i size
    rw [wireSize] at size
    have kind_word : Checked.wordAt bs 0 4 = .ok (Bytes.toNat ((bs.drop 0).take 4)) :=
      Checked.wordAt_ok (by omega)
    have size_word : Checked.wordIn bs 4 12 8 = .ok (Bytes.toNat ((bs.drop 4).take 8)) :=
      Checked.wordIn_ok 4 8 (by omega)
    have handle_word : Checked.wordIn bs 16 24 8 = .ok (Bytes.toNat ((bs.drop 16).take 8)) :=
      Checked.wordIn_ok 16 8 (by omega)
    rw [kind_word, size_word, handle_word]
    simp only [layout, Bytes.unpack, List.drop_drop, List.drop_zero, Nat.reduceAdd, ofFields]
    cases known : BufferKind.ofWire? (Bytes.toNat (bs.take 4)) with
    | none =>
      simp only [Checked.ok_bind, known]
      rfl
    | some kind =>
      simp only [Checked.ok_bind, known]
      rfl
  · rfl

theorem encodeChecked_eq (d : Descriptor) : d.encodeChecked = .ok d.encode := Checked.pack_ok _

end Descriptor

namespace WaitRequest

theorem decodeChecked_eq (bs : Bytes) : decodeChecked bs = .ok (decode bs) := by
  rw [decodeChecked, decode]
  split
  · rw [Descriptor.decodeChecked_eq, Checked.ok_bind]
    cases Descriptor.decode bs <;> rfl
  · split
    · rename_i size
      have front : Descriptor.wireSize ≤ bs.length := by
        rw [size]
        decide
      have rest : (bs.drop Descriptor.wireSize).length = 8 := by
        rw [List.length_drop, size]
        rfl
      rw [Checked.splitAt, if_pos front, Checked.ok_bind]
      dsimp only
      rw [Checked.copy, if_pos rest, Checked.ok_bind, Descriptor.decodeChecked_eq, Checked.ok_bind]
      cases Descriptor.decode (bs.take Descriptor.wireSize) <;> rfl
    · rfl

end WaitRequest

namespace WaitReply

theorem encodeChecked_eq (r : WaitReply) : r.encodeChecked = .ok r.encode := by
  have short : r.encode.length ≤ Checked.memoryLimit :=
    Nat.le_trans r.length_encode_le (by decide)
  have front : r.output.encode.length ≤ Checked.memoryLimit := by
    rw [Descriptor.length_encode]
    decide
  rw [encode] at short ⊢
  rw [encodeChecked, Descriptor.encodeChecked_eq, Checked.ok_bind, Checked.allocate_ok front,
    Checked.ok_bind]
  split
  · rfl
  · rename_i trailed
    rw [if_neg trailed] at short
    dsimp only
    rw [Checked.allocate_ok short]
    rfl

end WaitReply

namespace ConfigRequest

theorem size_eq (codec : Codec) (kind : RecordKind) :
    size codec kind = Bytes.span (layout codec kind) := by
  cases kind <;> cases codec <;> rfl

theorem map_checkSize {α β : Type} (f : α → β) (record : String) (expected : Nat) (bs : Bytes)
    (value : α) :
    (checkSize record expected bs >>= fun _ => pure value).map f =
      if bs.length = expected then .ok (f value)
      else .error (.sizeMismatch record expected bs.length) := by
  rw [checkSize]
  split <;> rfl

theorem decode_eq (codec : Codec) (kind : RecordKind) (bs : Bytes) :
    decode codec kind bs =
      if bs.length = size codec kind then
        .ok (ofFields codec kind (bs.unpack (layout codec kind)))
      else .error (.sizeMismatch (recordName codec kind) (size codec kind) bs.length) := by
  cases kind with
  | prep => exact map_checkSize prep "prep" Prep.size bs _
  | rc => exact map_checkSize rc "rc" RateControl.size bs _
  | codec =>
    cases codec with
    | h264 =>
      rw [decode, CodecRecord.decode, H264.decode, map_checkSize, size, Codec.recordSize]
      split <;> rfl
    | jpeg =>
      rw [decode, CodecRecord.decode, Jpeg.decode, map_checkSize, size, Codec.recordSize]
      split <;> rfl
  | sei =>
    rw [decode, Sei.decode, map_checkSize, size]
    split
    · rename_i fits
      have whole : bs.take Sei.size = bs := List.take_of_length_le (Nat.le_of_eq fits)
      rw [ofFields, layout, Bytes.unpack, whole]
      rfl
    · rfl

theorem decodeChecked_eq (codec : Codec) (kind : RecordKind) (bs : Bytes) :
    decodeChecked codec kind bs = .ok (decode codec kind bs) := by
  rw [decodeChecked, decode_eq]
  split
  · rename_i fits
    rw [Checked.fieldsAt_ok (by rw [fits, size_eq, Nat.zero_add]), List.drop_zero]
    rfl
  · rfl

end ConfigRequest

end CodecLink
