import CodecLink.Proofs.Message.CheckedLayouts
import CodecLink.Proofs.Record.Coalescing
import CodecLink.Record.Applied

/-! Records that the other side takes. A record is judged by its length alone, and one that was read
for the session's codec can always be applied. -/
namespace CodecLink

namespace ConfigRequest

/-- A payload of the right length is a record of its kind. -/
theorem decode_sized {codec : Codec} {kind : RecordKind} {bs : Bytes}
    (sized : bs.length = size codec kind) :
    ∃ request, decode codec kind bs = .ok request ∧ request.suits codec = true := by
  refine ⟨_, (decode_eq codec kind bs).trans (if_pos sized), ?_⟩
  cases kind <;> cases codec <;> rfl

theorem decode_missized {codec : Codec} {kind : RecordKind} {bs : Bytes}
    (other : bs.length ≠ size codec kind) : ∃ error, decode codec kind bs = .error error :=
  ⟨_, (decode_eq codec kind bs).trans (if_neg other)⟩

theorem size_of_decode {codec : Codec} {kind : RecordKind} {bs : Bytes} {request : ConfigRequest}
    (decoded : decode codec kind bs = .ok request) : bs.length = size codec kind := by
  by_contra other
  obtain ⟨error, refused⟩ := decode_missized other
  cases refused.symm.trans decoded

theorem kind_of_decode {codec : Codec} {kind : RecordKind} {bs : Bytes} {request : ConfigRequest}
    (decoded : decode codec kind bs = .ok request) : request.kind = kind := by
  have mapped {α : Type} {read : Except RecordError α} {f : α → ConfigRequest}
      (own : ∀ r, (f r).kind = kind) (decoded : read.map f = .ok request) :
      request.kind = kind := by
    cases read with
    | error e => cases decoded
    | ok r =>
      cases decoded
      exact own r
  cases kind with
  | prep => exact mapped (fun _ => rfl) decoded
  | rc => exact mapped (fun _ => rfl) decoded
  | codec => exact mapped (fun _ => rfl) decoded
  | sei => exact mapped (fun _ => rfl) decoded

end ConfigRequest

theorem ConfigSet.length_encoded_eq (set : ConfigSet) (kind : RecordKind) :
    (set.encoded kind).length = ConfigRequest.size set.codec.codec kind := by
  cases kind with
  | prep =>
    simp [encoded, Prep.encode, Bytes.length_pack, Prep.layout, ConfigRequest.size, Prep.size]
  | rc =>
    simp [encoded, RateControl.encode, Bytes.length_pack, RateControl.layout, ConfigRequest.size,
      RateControl.size]
  | codec =>
    cases own : set.codec with
    | h264 r =>
      simp [encoded, own, CodecRecord.encode, H264.encode, Bytes.length_pack, H264.layout,
        ConfigRequest.size, CodecRecord.codec, Codec.recordSize, H264.size]
    | jpeg r =>
      simp [encoded, own, CodecRecord.encode, Jpeg.encode, Bytes.length_pack, Jpeg.layout,
        ConfigRequest.size, CodecRecord.codec, Codec.recordSize, Jpeg.size]
  | sei => simp [encoded, Sei.encode, Sei.size, ConfigRequest.size]

namespace AppliedConfig

theorem codec_clearChanges (applied : AppliedConfig) :
    applied.clearChanges.codec.codec = applied.codec.codec := by
  rw [clearChanges]
  cases applied.codec <;> rfl

theorem codec_blank (codec : Codec) : (blank codec).codec.codec = codec := by
  cases codec <;> rfl

/-- A record of the codec in force can be applied and leaves the codec as it is. -/
theorem apply_suits {applied : AppliedConfig} {request : ConfigRequest}
    (suits : request.suits applied.codec.codec = true) :
    ∃ after, applied.apply request = .ok after ∧ after.codec.codec = applied.codec.codec := by
  cases request with
  | prep new => exact ⟨_, rfl, rfl⟩
  | rc new => exact ⟨_, rfl, rfl⟩
  | sei mode => exact ⟨_, rfl, rfl⟩
  | codec new =>
    have same : new.codec = applied.codec.codec := by simpa [ConfigRequest.suits] using suits
    cases old : applied.codec with
    | h264 r =>
      rw [old] at same
      cases new with
      | h264 other =>
        exact ⟨{ applied with codec := .h264 (r.merge other) },
          by simp [apply, old, CodecRecord.merge, bind, Except.bind, pure, Except.pure], rfl⟩
      | jpeg other => cases same
    | jpeg r =>
      rw [old] at same
      cases new with
      | h264 other => cases same
      | jpeg other =>
        exact ⟨{ applied with codec := .jpeg (r.merge other) },
          by simp [apply, old, CodecRecord.merge, bind, Except.bind, pure, Except.pure], rfl⟩

/-- A record of the other codec is refused. -/
theorem apply_foreign {applied : AppliedConfig} {new : CodecRecord}
    (other : new.codec ≠ applied.codec.codec) :
    ∃ error, applied.apply (.codec new) = .error error := by
  have refused : applied.codec.merge new =
      .error (.codecMismatch applied.codec.codec new.codec) := by
    cases old : applied.codec with
    | h264 r =>
      rw [old] at other
      cases new with
      | h264 own => exact absurd rfl other
      | jpeg own => rfl
    | jpeg r =>
      rw [old] at other
      cases new with
      | h264 own => rfl
      | jpeg own => exact absurd rfl other
  exact ⟨_, by rw [apply, refused]; rfl⟩

/-- A record of the right length is applied, as long as the codec is the one in force. -/
theorem apply_sized {applied : AppliedConfig} {codec : Codec} {kind : RecordKind} {bs : Bytes}
    (sized : bs.length = ConfigRequest.size codec kind)
    (alike : kind = .codec → applied.codec.codec = codec) :
    ∃ request after, ConfigRequest.decode codec kind bs = .ok request ∧
      request.suits codec = true ∧ applied.apply request = .ok after ∧
      after.codec.codec = applied.codec.codec := by
  obtain ⟨request, decoded, suits⟩ := ConfigRequest.decode_sized sized
  have suited : request.suits applied.codec.codec = true := by
    cases request with
    | prep r | rc r | sei r => rfl
    | codec r => rwa [alike (ConfigRequest.kind_of_decode decoded).symm]
  obtain ⟨after, accepted, same⟩ := apply_suits suited
  exact ⟨request, after, decoded, suits, accepted, same⟩

end AppliedConfig

end CodecLink
