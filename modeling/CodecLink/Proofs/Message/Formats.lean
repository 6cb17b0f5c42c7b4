import CodecLink.Proofs.Message.LocalFields

/-! Which byte strings are messages, and how far a message and its bytes determine each other. Two
things are lost on the way: the local fields of a descriptor, which come back as zero, and a reply's
tag of zero, which comes back as no tag. Writing again what was read loses nothing further. -/
namespace CodecLink

theorem Bytes.toNat_zeros (count : Nat) : toNat (List.replicate count 0) = 0 := by
  rw [← littleEndian_zero, toNat_littleEndian _ _ (Nat.pow_pos (by decide))]

theorem Bytes.toNat_ofNat_word {bs : Bytes} (short : bs.length ≤ 8) :
    (UInt64.ofNat (toNat bs)).toNat = toNat bs := by
  have value := toNat_lt bs
  have room : 256 ^ bs.length ≤ 256 ^ 8 := Nat.pow_le_pow_right (by decide) short
  rw [UInt64.toNat_ofNat']
  apply Nat.mod_eq_of_lt
  omega

theorem BufferKind.ofWire?_eq_some {word : Nat} {kind : BufferKind} :
    ofWire? word = some kind ↔ word = kind.wire := by
  constructor
  · intro known
    unfold ofWire? at known
    split at known <;> cases known <;> rfl
  · rintro rfl
    exact ofWire?_wire kind

theorem BufferKind.ofWire?_eq_none {word : Nat} : ofWire? word = none ↔ word ≠ 0 ∧ word ≠ 1 := by
  unfold ofWire?
  split
  · simp
  · simp
  · rename_i heap shared
    exact ⟨fun _ => ⟨heap, shared⟩, fun _ => rfl⟩

/-- Changing what is read does not change whether anything is. -/
theorem DescriptorError.isOk_map {α β : Type} (f : α → β) (outcome : Except DescriptorError α) :
    (outcome.map f).isOk = outcome.isOk := by
  cases outcome with
  | error e => rfl
  | ok a => rfl

namespace Descriptor

/-- The word in front, which tells the kind. -/
def kindWord (bs : Bytes) : Nat := Bytes.toNat (bs.take 4)

theorem decode_whole {bs : Bytes} (size : bs.length = wireSize) :
    decode bs =
      match BufferKind.ofWire? (kindWord bs) with
      | some kind =>
        .ok { kind, size := .ofNat (Bytes.toNat ((bs.drop 4).take 8)),
              handle := .ofNat (Bytes.toNat ((bs.drop 16).take 8)) }
      | none => .error (.unknownKind (kindWord bs)) := by
  have places : bs.unpack layout =
      [kindWord bs, Bytes.toNat ((bs.drop 4).take 8), Bytes.toNat ((bs.drop 12).take 4),
        Bytes.toNat ((bs.drop 16).take 8), Bytes.toNat ((bs.drop 24).take 8)] := by
    simp only [layout, Bytes.unpack, List.drop_drop, Nat.reduceAdd, kindWord]
  have read : decode bs = ofFields (bs.unpack layout) := if_pos size
  rw [places] at read
  exact read

theorem isOk_decode (bs : Bytes) :
    (decode bs).isOk ↔ bs.length = 32 ∧ (kindWord bs = 0 ∨ kindWord bs = 1) := by
  by_cases size : bs.length = wireSize
  · rw [decode_whole size]
    cases known : BufferKind.ofWire? (kindWord bs) with
    | none =>
      obtain ⟨heap, shared⟩ := BufferKind.ofWire?_eq_none.1 known
      simp [heap, shared, Except.isOk, Except.toBool]
    | some kind =>
      have named := BufferKind.ofWire?_eq_some.1 known
      have word : kindWord bs = 0 ∨ kindWord bs = 1 := by
        cases kind with
        | heap => exact .inl named
        | shared => exact .inr named
      exact ⟨fun _ => ⟨size, word⟩, fun _ => rfl⟩
  · rw [decode, if_neg size]
    constructor
    · intro accepted
      cases accepted
    · rintro ⟨whole, _⟩
      exact absurd whole size

/-- A stretch of the local bytes. -/
theorem window_local (bs : Bytes) (start count : Nat)
    (covered : ∀ i < count, isLocal (start + i) = true) (inside : start + count ≤ bs.length) :
    ((masked bs).drop start).take count = List.replicate count 0 := by
  apply List.ext_getElem?
  intro i
  rw [List.getElem?_take, List.getElem?_replicate]
  split
  · rename_i near
    have present : start + i < bs.length := by omega
    rw [List.getElem?_drop, getElem?_masked, covered i near, List.getElem?_eq_getElem present]
    rfl
  · rfl

theorem fields_of_decode {bs : Bytes} {d : Descriptor} (decoded : decode bs = .ok d) :
    bs.length = wireSize ∧ kindWord bs = d.kind.wire ∧
      Bytes.toNat ((bs.drop 4).take 8) = d.size.toNat ∧
        Bytes.toNat ((bs.drop 16).take 8) = d.handle.toNat ∧ d.Portable := by
  have size : bs.length = wireSize := by
    by_contra other
    rw [decode, if_neg other] at decoded
    cases decoded
  rw [decode_whole size] at decoded
  split at decoded
  · rename_i kind known
    cases decoded
    have word := BufferKind.ofWire?_eq_some.1 known
    have sizeWord := Bytes.toNat_ofNat_word (List.length_take_le 8 (bs.drop 4))
    have handleWord := Bytes.toNat_ofNat_word (List.length_take_le 8 (bs.drop 16))
    exact ⟨size, word, sizeWord.symm, handleWord.symm, rfl, rfl⟩
  · cases decoded

theorem sanitized_of_decode {bs : Bytes} {d : Descriptor} (decoded : decode bs = .ok d) :
    d.sanitized = d := by
  obtain ⟨_, _, _, _, fd, ptr⟩ := fields_of_decode decoded
  unfold sanitized
  rw [← fd, ← ptr]

/-- What was read is written as the bytes that it was read from, the local ones blanked. -/
theorem encode_of_decode {bs : Bytes} {d : Descriptor} (decoded : decode bs = .ok d) :
    d.encode = masked bs := by
  obtain ⟨size, kind, length, handle, _⟩ := fields_of_decode decoded
  have whole : (masked bs).length = Bytes.span layout := (length_masked bs).trans size
  have fits : 32 ≤ bs.length := Nat.le_of_eq size.symm
  have front := window_masked bs 0 4 (by decide)
  have near := window_masked bs 4 8 (by decide)
  have fd := window_local bs 12 4 (by decide) (by omega)
  have far := window_masked bs 16 8 (by decide)
  have ptr := window_local bs 24 8 (by decide) (by omega)
  rw [List.drop_zero, List.drop_zero] at front
  rw [kindWord] at kind
  -- The layout is read back field by field: the local windows are zero, the others are the fields.
  have fields : Bytes.unpack layout (masked bs) =
      [d.kind.wire, d.size.toNat, 0, d.handle.toNat, 0] := by
    simp only [layout, Bytes.unpack, List.drop_drop, Nat.reduceAdd, front, near, fd, far, ptr,
      Bytes.toNat_zeros, kind, length, handle]
  rw [← Bytes.pack_unpack layout (masked bs) whole, fields, encode]

/-- A message that is a descriptor alone, or one with so much behind it that it comes to a second
length. -/
def decodeWith {α : Type} (long : Nat) (bare : Descriptor → α) (trailed : Descriptor → Bytes → α)
    (bs : Bytes) : Except DescriptorError α :=
  if bs.length = wireSize then (decode bs).map bare
  else if bs.length = long then
    (decode (bs.take wireSize)).map fun d => trailed d (bs.drop wireSize)
  else .error (.sizeMismatch long bs.length)

section decodeWith

variable {α : Type} {long : Nat} {bare : Descriptor → α} {trailed : Descriptor → Bytes → α}

theorem isOk_decodeWith (bs : Bytes) :
    (decodeWith long bare trailed bs).isOk ↔
      (bs.length = wireSize ∨ bs.length = long) ∧ (decode (bs.take wireSize)).isOk := by
  unfold decodeWith
  split
  · rename_i short
    rw [DescriptorError.isOk_map, List.take_of_length_le (Nat.le_of_eq short)]
    exact ⟨fun read => ⟨.inl short, read⟩, And.right⟩
  · rename_i extended
    split
    · rename_i whole
      rw [DescriptorError.isOk_map]
      exact ⟨fun read => ⟨.inr whole, read⟩, And.right⟩
    · rename_i other
      constructor
      · intro accepted
        cases accepted
      · rintro ⟨short | whole, _⟩
        · exact absurd short extended
        · exact absurd whole other

theorem decodeWith_ok {bs : Bytes} {a : α} (decoded : decodeWith long bare trailed bs = .ok a) :
    ∃ d, decode (bs.take wireSize) = .ok d ∧ (a = bare d ∨ a = trailed d (bs.drop wireSize)) := by
  unfold decodeWith at decoded
  split at decoded
  · rename_i short
    rw [List.take_of_length_le (Nat.le_of_eq short)]
    cases front : decode bs with
    | error e =>
      rw [front] at decoded
      cases decoded
    | ok d =>
      rw [front] at decoded
      cases decoded
      exact ⟨d, rfl, .inl rfl⟩
  · split at decoded
    · cases front : decode (bs.take wireSize) with
      | error e =>
        rw [front] at decoded
        cases decoded
      | ok d =>
        rw [front] at decoded
        cases decoded
        exact ⟨d, rfl, .inr rfl⟩
    · cases decoded

end decodeWith

end Descriptor

theorem WaitRequest.decode_eq (bs : Bytes) :
    decode bs = Descriptor.decodeWith taggedSize (fun output => { output })
      (fun output tag => ⟨output, some (.ofNat (Bytes.toNat tag))⟩) bs := by
  unfold decode Descriptor.decodeWith
  cases Descriptor.decode bs <;> cases Descriptor.decode (bs.take Descriptor.wireSize) <;> rfl

namespace WaitReply

theorem decode_eq (bs : Bytes) :
    decode bs = Descriptor.decodeWith wireSize (fun output => { output })
      (fun output rest => ofTrailer output (Bytes.unpack trailer rest)) bs := by
  unfold decode Descriptor.decodeWith
  cases Descriptor.decode bs <;> cases Descriptor.decode (bs.take Descriptor.wireSize) <;> rfl

/-- What can be read from a trailer: any word but zero is a failure, and zero is no tag. -/
theorem ofTrailer_unpack (output : Descriptor) (rest : Bytes) :
    ofTrailer output (Bytes.unpack trailer rest) =
      ⟨output, .ofWire (Bytes.toNat (rest.take 4)),
        (some (.ofNat (Bytes.toNat ((rest.drop 4).take 8)))).filter (· ≠ 0)⟩ := by
  have word := Bytes.toNat_ofNat_word (List.length_take_le 8 (rest.drop 4))
  simp only [trailer, Bytes.unpack, ofTrailer]
  by_cases zero : Bytes.toNat ((rest.drop 4).take 8) = 0
  · rw [if_pos zero, zero]
    rfl
  · have tagged : UInt64.ofNat (Bytes.toNat ((rest.drop 4).take 8)) ≠ 0 := by
      intro none_left
      rw [none_left] at word
      exact zero word.symm
    rw [if_neg zero]
    simp [Option.filter, tagged]

theorem filter_tag (tag : Option UInt64) :
    tag.filter (· ≠ 0) = if tag = some 0 then none else tag := by
  cases tag with
  | none => rfl
  | some tag =>
    by_cases zero : tag = 0
    · simp [zero]
    · simp [zero, Option.filter]

/-- What was read has nothing left to lose. -/
theorem settled_of_decode {bs : Bytes} {r : WaitReply} (decoded : decode bs = .ok r) :
    r.output.sanitized = r.output ∧ r.tag.filter (· ≠ 0) = r.tag := by
  rw [decode_eq] at decoded
  obtain ⟨d, front, rfl | rfl⟩ := Descriptor.decodeWith_ok decoded
  · exact ⟨Descriptor.sanitized_of_decode front, rfl⟩
  · rw [ofTrailer_unpack]
    refine ⟨Descriptor.sanitized_of_decode front, ?_⟩
    rw [Option.filter_filter]
    simp only [Bool.and_self]

/-- The size that a reply states is a word of its own. -/
theorem size_of_decode {bs : Bytes} {r : WaitReply} (decoded : decode bs = .ok r) :
    r.output.size.toNat = Bytes.toNat ((bs.drop 4).take 8) := by
  rw [decode_eq] at decoded
  obtain ⟨d, front, read⟩ := Descriptor.decodeWith_ok decoded
  have stated : r.output = d := by
    rcases read with rfl | rfl
    · rfl
    · rw [ofTrailer_unpack]
  obtain ⟨_, _, size, _⟩ := Descriptor.fields_of_decode front
  rw [stated, ← size, List.drop_take, List.take_take]
  rfl

theorem decode_encode_decode {bs : Bytes} {r : WaitReply} (decoded : decode bs = .ok r) :
    decode r.encode = .ok r := by
  obtain ⟨output, tag⟩ := settled_of_decode decoded
  rw [decode_encode, output, tag]

end WaitReply

/-- Which byte strings are descriptors, requests and replies; what is read of a message that was
written; and what is written of one that was read. -/
theorem message_formats :
    (∀ bs, (Descriptor.decode bs).isOk ↔
      bs.length = 32 ∧ (Descriptor.kindWord bs = 0 ∨ Descriptor.kindWord bs = 1)) ∧
    (∀ d : Descriptor, Descriptor.decode d.encode = .ok d.sanitized) ∧
    (∀ bs d, Descriptor.decode bs = .ok d → d.encode = Descriptor.masked bs) ∧
    (∀ bs, (WaitRequest.decode bs).isOk ↔
      (bs.length = 32 ∨ bs.length = 40) ∧ (Descriptor.decode (bs.take 32)).isOk) ∧
    (∀ r : WaitRequest,
      WaitRequest.decode r.encode = .ok { r with output := r.output.sanitized }) ∧
    (∀ bs, (WaitReply.decode bs).isOk ↔
      (bs.length = 32 ∨ bs.length = 44) ∧ (Descriptor.decode (bs.take 32)).isOk) ∧
    (∀ r : WaitReply,
      WaitReply.decode r.encode =
        .ok { r with
          output := r.output.sanitized
          tag := if r.tag = some 0 then none else r.tag }) ∧
    ∀ bs r, WaitReply.decode bs = .ok r → WaitReply.decode r.encode = .ok r := by
  refine ⟨Descriptor.isOk_decode, Descriptor.decode_encode, ?_, ?_, WaitRequest.decode_encode,
    ?_, ?_, ?_⟩
  · intro bs d decoded
    exact Descriptor.encode_of_decode decoded
  · intro bs
    rw [WaitRequest.decode_eq]
    exact Descriptor.isOk_decodeWith bs
  · intro bs
    rw [WaitReply.decode_eq]
    exact Descriptor.isOk_decodeWith bs
  · intro r
    rw [WaitReply.decode_encode, WaitReply.filter_tag]
  · intro bs r decoded
    exact WaitReply.decode_encode_decode decoded

/-- A buffer whose sender left its file number and address in it, and a reply that spells out a
success without a tag, which is written again as the descriptor alone. -/
theorem message_formats_of_spelled_success :
    let buffer : Bytes :=
      [1, 0, 0, 0] ++ [16, 0, 0, 0, 0, 0, 0, 0] ++ [9, 0, 0, 0] ++ [5, 0, 0, 0, 0, 0, 0, 0] ++
        [7, 0, 0, 0, 0, 0, 0, 0]
    let reply : WaitReply := { output := .shared 5 16 }
    Descriptor.decode buffer = .ok reply.output ∧
      reply.output.encode = Descriptor.masked buffer ∧
      WaitReply.decode (buffer ++ List.replicate 12 0) = .ok reply ∧
      reply.encode.length = 32 ∧ WaitReply.decode reply.encode = .ok reply := by
  intro buffer reply
  obtain ⟨_, _, rewritten, _, _, _, _, again⟩ := message_formats
  have output : Descriptor.decode buffer = .ok reply.output := by rfl
  have spelled : WaitReply.decode (buffer ++ List.replicate 12 0) = .ok reply := by rfl
  exact ⟨output, rewritten buffer _ output, spelled, by rfl, again _ reply spelled⟩

end CodecLink
