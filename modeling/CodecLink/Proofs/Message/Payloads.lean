import CodecLink.Proofs.Frame.RoundTrip
import CodecLink.Proofs.Message.Layouts
import CodecLink.Record.Pending
import CodecLink.SessionConfig.Payload
import CodecLink.WaitMessage

/-! The payloads of primitives. Descriptors, requests and replies are read back as they were
written, but for the fields that mean nothing to the other side, and no payload is long. -/
namespace CodecLink

theorem Numeral.length_digits_wide {n : Nat} (small : n < 2 ^ 64) : (digits n).length ≤ 20 :=
  length_digits_le (Nat.lt_trans small (by decide))

namespace SessionConfig

/-- The keys and names that a configuration is written with. -/
def vocabulary : List String :=
  ["backend", "completion", "mode", "round_trip", "timeout_ms", "polling", "interval_ms",
    "max_polls"] ++ Backend.all.map (·.name)

theorem name_vocabulary (backend : Backend) : backend.name ∈ vocabulary := by
  cases backend <;> decide

theorem length_toPayload (config : SessionConfig) : config.toPayload.length ≤ 255 := by
  have plain : ∀ text ∈ vocabulary, (Json.Text.ofString text).write.length ≤ 16 := by
    decide +kernel
  have name := plain config.backend.name (name_vocabulary config.backend)
  have backend := plain "backend" (by simp [vocabulary])
  have completion := plain "completion" (by simp [vocabulary])
  have mode := plain "mode" (by simp [vocabulary])
  cases own : config.completion with
  | roundTrip timeoutMs =>
    have value := Numeral.length_digits_wide timeoutMs.toNat_lt
    have round_trip := plain "round_trip" (by simp [vocabulary])
    have timeout := plain "timeout_ms" (by simp [vocabulary])
    simp [toPayload, toJson, own, Json.ofFields, Completion.toJson, Json.write, Json.tokens,
      Json.memberTokens, Json.ofString, Json.ofNat, Json.Token.write, Json.Number.write,
      Json.Number.ofNat]
    omega
  | polling intervalMs maxPolls =>
    have interval := Numeral.length_digits_wide intervalMs.toNat_lt
    have most := Numeral.length_digits_word maxPolls.toNat_lt
    have polling := plain "polling" (by simp [vocabulary])
    have interval_ms := plain "interval_ms" (by simp [vocabulary])
    have max_polls := plain "max_polls" (by simp [vocabulary])
    simp only [Header.maxDigits] at most
    simp [toPayload, toJson, own, Json.ofFields, Completion.toJson, Json.write, Json.tokens,
      Json.memberTokens, Json.ofString, Json.ofNat, Json.Token.write, Json.Number.write,
      Json.Number.ofNat]
    omega

end SessionConfig

theorem ConfigSet.length_encoded (set : ConfigSet) (kind : RecordKind) :
    (set.encoded kind).length ≤ 255 := by
  cases kind with
  | prep => simp [encoded, Prep.encode, Bytes.length_pack, Bytes.span, Prep.layout]
  | rc => simp [encoded, RateControl.encode, Bytes.length_pack, Bytes.span, RateControl.layout]
  | codec =>
    cases own : set.codec with
    | h264 r =>
      simp [encoded, own, CodecRecord.encode, H264.encode, Bytes.length_pack, Bytes.span,
        H264.layout]
    | jpeg r =>
      simp [encoded, own, CodecRecord.encode, Jpeg.encode, Bytes.length_pack, Bytes.span,
        Jpeg.layout]
  | sei => simp [encoded, Sei.encode, Sei.size]

theorem Descriptor.decode_encode (d : Descriptor) : decode d.encode = .ok d.sanitized := by
  have fits : ∀ field ∈ layout.zip [d.kind.wire, d.size.toNat, 0, d.handle.toNat, 0],
      field.2 < 256 ^ field.1 := by
    intro field member
    simp only [layout, List.zip_cons_cons, List.zip_nil_right, List.mem_cons, List.not_mem_nil,
      or_false] at member
    rcases member with rfl | rfl | rfl | rfl | rfl
    · show d.kind.wire < 256 ^ 4
      cases d.kind <;> decide
    · exact d.size.toNat_lt
    · decide
    · exact d.handle.toNat_lt
    · decide
  have fields := Bytes.unpack_pack _ fits
  rw [decode, if_pos (length_encode d)]
  simp only [layout, List.zip_cons_cons, List.zip_nil_right, List.map_cons, List.map_nil] at fields
  simp only [encode, layout, List.zip_cons_cons, List.zip_nil_right, fields, ofFields,
    BufferKind.ofWire?_wire, UInt64.ofNat_toNat]
  rfl

theorem WaitRequest.decode_encode (r : WaitRequest) :
    decode r.encode = .ok { r with output := r.output.sanitized } := by
  obtain ⟨output, tag⟩ := r
  cases tag with
  | none =>
    simp [encode, decode, Descriptor.decode_encode, bind, Except.bind, pure, Except.pure]
  | some tag =>
    have word := Bytes.toNat_littleEndian 8 tag.toNat tag.toNat_lt
    have front : (output.encode ++ Bytes.littleEndian 8 tag.toNat).take Descriptor.wireSize =
        output.encode := List.take_left' (by simp)
    have back : (output.encode ++ Bytes.littleEndian 8 tag.toNat).drop Descriptor.wireSize =
        Bytes.littleEndian 8 tag.toNat := List.drop_left' (by simp)
    have size : (output.encode ++ Bytes.littleEndian 8 tag.toNat).length = taggedSize := by
      simp [taggedSize]
    rw [encode, decode, if_neg (by rw [size]; decide), if_pos size, front, back,
      Descriptor.decode_encode, word]
    simp [bind, Except.bind, pure, Except.pure]

/-- What can be read has one of two lengths, and only the longer one has a tag. -/
theorem WaitRequest.tag_of_decode {bs : Bytes} {r : WaitRequest} (decoded : decode bs = .ok r) :
    bs.length = Descriptor.wireSize ∧ r.tag = none ∨
      bs.length = taggedSize ∧
        r.tag = some (.ofNat (Bytes.toNat (bs.drop Descriptor.wireSize))) := by
  rw [decode] at decoded
  split at decoded
  · rename_i short
    cases front : Descriptor.decode bs with
    | error e =>
      rw [front] at decoded
      cases decoded
    | ok output =>
      rw [front] at decoded
      cases decoded
      exact .inl ⟨short, rfl⟩
  · split at decoded
    · rename_i long
      cases front : Descriptor.decode (bs.take Descriptor.wireSize) with
      | error e =>
        rw [front] at decoded
        cases decoded
      | ok output =>
        rw [front] at decoded
        cases decoded
        exact .inr ⟨long, rfl⟩
    · cases decoded

theorem WaitRequest.length_encode_le (r : WaitRequest) : r.encode.length ≤ taggedSize := by
  cases tag : r.tag <;> simp [encode, tag, taggedSize]

namespace TaskStatus

@[simp] theorem ofWire_wire (status : TaskStatus) : ofWire status.wire = status := by
  cases status <;> rfl

end TaskStatus

namespace WaitReply

/-- A tag of zero is read as no tag. -/
theorem decode_encode (r : WaitReply) :
    decode r.encode =
      .ok { r with output := r.output.sanitized, tag := r.tag.filter (· ≠ 0) } := by
  obtain ⟨output, status, tag⟩ := r
  rw [encode]
  split
  · rename_i plain
    simp only [Bool.and_eq_true, Option.isNone_iff_eq_none, decide_eq_true_eq] at plain
    obtain ⟨rfl, rfl⟩ := plain
    simp [decode, Descriptor.decode_encode, bind, Except.bind, pure, Except.pure]
  · have fits : ∀ field ∈ trailer.zip [status.wire, (tag.getD 0).toNat],
        field.2 < 256 ^ field.1 := by
      intro field member
      simp only [trailer, List.zip_cons_cons, List.zip_nil_right, List.mem_cons,
        List.not_mem_nil, or_false] at member
      rcases member with rfl | rfl
      · show status.wire < 256 ^ 4
        cases status <;> decide
      · exact (tag.getD 0).toNat_lt
    have fields := Bytes.unpack_pack _ fits
    have long : (Bytes.pack (trailer.zip [status.wire, (tag.getD 0).toNat])).length = 12 := by
      simp [Bytes.length_pack, Bytes.span, trailer]
    have size : (output.encode ++
        Bytes.pack (trailer.zip [status.wire, (tag.getD 0).toNat])).length = wireSize := by
      simp [long, wireSize]
    have absent : (if (tag.getD 0).toNat = 0 then none
        else some (UInt64.ofNat (tag.getD 0).toNat)) = tag.filter (· ≠ 0) := by
      cases tag with
      | none => rfl
      | some tag =>
        by_cases zero : tag = 0
        · simp [zero, Option.filter]
        · have word : tag.toNat ≠ 0 := fun none_left => zero (UInt64.toNat_inj.1 none_left)
          simp [zero, word, Option.filter]
    rw [decode, if_neg (by rw [size]; decide), if_pos size, List.take_left' (by simp),
      List.drop_left' (by simp), Descriptor.decode_encode]
    simp only [trailer, List.zip_cons_cons, List.zip_nil_right, List.map_cons,
      List.map_nil] at fields
    simp only [bind, Except.bind, pure, Except.pure, trailer, List.zip_cons_cons,
      List.zip_nil_right, fields, ofTrailer, TaskStatus.ofWire_wire]
    rw [absent]

theorem encode_bare {r : WaitReply} (untagged : r.tag = none) (done : r.status = .done) :
    r.encode = r.output.encode := by
  rw [encode, untagged, done]
  rfl

theorem encode_long {r : WaitReply} (long : r.tag.isSome ∨ r.status = .failed) :
    r.encode.length = wireSize ∧
      r.encode.drop (Descriptor.wireSize + 4) = Bytes.littleEndian 8 (r.tag.getD 0).toNat := by
  have marked : ¬(r.tag.isNone && r.status = .done) = true := by
    rcases long with tagged | failed
    · simp [Option.isSome_iff_ne_none.1 tagged]
    · simp [failed]
  have trailing : Bytes.pack (trailer.zip [r.status.wire, (r.tag.getD 0).toNat]) =
      Bytes.littleEndian 4 r.status.wire ++ Bytes.littleEndian 8 (r.tag.getD 0).toNat := by
    simp [Bytes.pack, trailer]
  rw [encode, if_neg marked, trailing, ← List.append_assoc]
  exact ⟨by simp [wireSize], List.drop_left' (by simp)⟩

theorem length_encode_le (r : WaitReply) : r.encode.length ≤ wireSize := by
  rw [encode]
  split
  · simp [wireSize]
  · simp [Bytes.length_pack, Bytes.span, trailer, wireSize]

theorem length_frame_le (m : WaitReply) :
    (Frame.bytes (.of .wait m.encode)).length ≤ 49 := by
  have short := m.length_encode_le
  have code := Numeral.length_digits_le (n := PrimitiveCode.wait.wire.toNat) (k := 0) (by decide)
  have size := Numeral.length_digits_le (n := m.encode.length) (k := 1)
    (Nat.lt_of_le_of_lt short (by decide))
  simp only [wireSize, Descriptor.wireSize] at short
  simp only [Frame.bytes, Header.encode, Primitive.of, List.length_append, List.length_singleton]
  omega

end WaitReply

end CodecLink
