import Mathlib.Data.List.Induction
import CodecLink.Proofs.Record.Acceptance

/-! What a list of requests comes to, one laid over the other in the order in which they were made.
Requests for different records do not meddle with each other, so they may be grouped by record, and
those for one record may be joined first. -/
namespace CodecLink

theorem ConfigRequest.coalesce_like (first : ConfigRequest) (later : List ConfigRequest) :
    (first.coalesce later).kind = first.kind ∧
      ∀ codec, suits codec (first.coalesce later) = suits codec first := by
  rcases first with r | r | (r | r) | mode <;> exact ⟨rfl, fun _ => rfl⟩

/-- Fields that one bit of the change word stands for. -/
structure FieldGroup (α : Type) where
  bit : Nat
  copy : α → α → α

/-- The old record with the named groups as the new one has them. -/
def FieldGroup.overwrite {α : Type} (groups : List (FieldGroup α)) (names : Nat → Bool)
    (new old : α) : α :=
  groups.foldl (fun r group => if names group.bit then group.copy new r else r) old

namespace Prep

def groups : List (FieldGroup Prep) :=
  [ ⟨inputBit, fun new old => { old with
      width := new.width, height := new.height
      horStride := new.horStride, verStride := new.verStride }⟩,
    ⟨formatBit, fun new old => { old with format := new.format }⟩ ]

/-- All values but the change word. -/
def fields (r : Prep) : List Nat :=
  [r.width.toNat, r.height.toNat, r.horStride.toNat, r.verStride.toNat, r.format.toNat]

theorem overwrite_eq (new old : Prep) :
    FieldGroup.overwrite groups new.names new old =
      { old.merge new with change := old.change } := by
  simp only [FieldGroup.overwrite, groups, List.foldl_cons, List.foldl_nil, merge]
  cases new.names inputBit <;> cases new.names formatBit <;> rfl

theorem merge_assoc (r old new : Prep) : r.merge (old.merge new) = (r.merge old).merge new := by
  simp only [merge, names, UInt16.toNat_or, Nat.testBit_or, Prep.mk.injEq, UInt16.or_assoc,
    true_and]
  refine ⟨?_, ?_, ?_, ?_, ?_⟩ <;> grind

theorem merge_under (r old new : Prep) :
    { r.merge (old.merge new) with change := r.change } =
      { ({ r.merge old with change := r.change } : Prep).merge new with change := r.change } := by
  rw [merge_assoc]
  rfl

end Prep

namespace RateControl

def fields (r : RateControl) : List Nat :=
  [r.mode.toNat, r.bpsTarget.toNat, r.bpsMax.toNat, r.bpsMin.toNat, r.fpsInNum.toNat,
    r.fpsInDenom.toNat, r.fpsOutNum.toNat, r.fpsOutDenom.toNat, r.gop.toNat]

theorem merge_assoc (r old new : RateControl) :
    r.merge (old.merge new) = (r.merge old).merge new := by
  simp only [merge, UInt32.or_assoc]

end RateControl

namespace H264

def groups : List (FieldGroup H264) :=
  [ ⟨profileBit, fun new old => { old with profile := new.profile, level := new.level }⟩,
    ⟨entropyBit, fun new old => { old with
      entropy := new.entropy, cabacInitIdc := new.cabacInitIdc }⟩,
    ⟨transformBit, fun new old => { old with transform8x8 := new.transform8x8 }⟩,
    ⟨intraBit, fun new old => { old with constrainedIntra := new.constrainedIntra }⟩,
    ⟨qpBit, fun new old => { old with
      qpInit := new.qpInit, qpMax := new.qpMax, qpMin := new.qpMin, qpMaxStep := new.qpMaxStep }⟩ ]

def fields (r : H264) : List Nat :=
  [r.profile.toNat, r.level.toNat, r.entropy.toNat, r.cabacInitIdc.toNat, r.transform8x8.toNat,
    r.constrainedIntra.toNat, r.qpInit.toNat, r.qpMax.toNat, r.qpMin.toNat, r.qpMaxStep.toNat]

theorem overwrite_eq (new old : H264) :
    FieldGroup.overwrite groups new.names new old =
      { old.merge new with change := old.change } := by
  simp only [FieldGroup.overwrite, groups, List.foldl_cons, List.foldl_nil, merge]
  cases new.names profileBit <;> cases new.names entropyBit <;> cases new.names transformBit <;>
    cases new.names intraBit <;> cases new.names qpBit <;> rfl

theorem merge_assoc (r old new : H264) : r.merge (old.merge new) = (r.merge old).merge new := by
  simp only [merge, names, UInt32.toNat_or, Nat.testBit_or, H264.mk.injEq, UInt32.or_assoc,
    true_and]
  refine ⟨?_, ?_, ?_, ?_, ?_, ?_, ?_, ?_, ?_, ?_⟩ <;> grind

theorem merge_under (r old new : H264) :
    { r.merge (old.merge new) with change := r.change } =
      { ({ r.merge old with change := r.change } : H264).merge new with change := r.change } := by
  rw [merge_assoc]
  rfl

end H264

namespace Jpeg

def groups : List (FieldGroup Jpeg) :=
  [⟨quantBit, fun new old => { old with quant := if 10 < new.quant then 8 else new.quant }⟩]

def fields (r : Jpeg) : List Nat := [r.quant.toNat]

theorem overwrite_eq (new old : Jpeg) :
    FieldGroup.overwrite groups new.names new old =
      { old.merge new with change := old.change } := by
  simp only [FieldGroup.overwrite, groups, List.foldl_cons, List.foldl_nil, merge]
  cases new.names quantBit <;> rfl

/-- The quant may be checked before the requests are joined or after. -/
theorem merge_join (r old new : Jpeg) : r.merge (old.join new) = (r.merge old).merge new := by
  simp only [merge, join, names, UInt32.toNat_or, Nat.testBit_or, Jpeg.mk.injEq, true_and]
  grind

theorem join_under (r old new : Jpeg) :
    { r.merge (old.join new) with change := r.change } =
      { ({ r.merge old with change := r.change } : Jpeg).merge new with change := r.change } := by
  rw [merge_join]
  rfl

end Jpeg

namespace CodecRecord

def fields : CodecRecord → Codec × List Nat
  | h264 r => (.h264, r.fields)
  | jpeg r => (.jpeg, r.fields)

/-- A record of another codec is passed over. -/
def overwrite : CodecRecord → CodecRecord → CodecRecord
  | h264 old, h264 new => h264 (FieldGroup.overwrite H264.groups new.names new old)
  | jpeg old, jpeg new => jpeg (FieldGroup.overwrite Jpeg.groups new.names new old)
  | old, _ => old

end CodecRecord

namespace AppliedConfig

def fields (applied : AppliedConfig) : List Nat × List Nat × (Codec × List Nat) × Nat :=
  (applied.prep.fields, applied.rc.fields, applied.codec.fields, applied.sei.toNat)

/-- One request laid over a configuration, whose change words stay as they are. -/
def overwrite (applied : AppliedConfig) : ConfigRequest → AppliedConfig
  | .prep new =>
    { applied with prep := FieldGroup.overwrite Prep.groups new.names new applied.prep }
  | .rc new => { applied with rc := { new with change := applied.rc.change } }
  | .codec new => { applied with codec := applied.codec.overwrite new }
  | .sei mode => { applied with sei := mode }

def overwriteAll (applied : AppliedConfig) (requests : List ConfigRequest) : AppliedConfig :=
  requests.foldl overwrite applied

/-- What these requests make of the configuration that a session begins with. -/
def reference (codec : Codec) (requests : List ConfigRequest) : AppliedConfig :=
  (blank codec).overwriteAll requests

@[simp] theorem codec_overwrite (applied : AppliedConfig) (request : ConfigRequest) :
    (applied.overwrite request).codec.codec = applied.codec.codec := by
  rcases request with r | r | r | mode
  · rfl
  · rfl
  · simp only [overwrite]
    cases applied.codec <;> cases r <;> rfl
  · rfl

@[simp] theorem codec_overwriteAll (applied : AppliedConfig) (requests : List ConfigRequest) :
    (applied.overwriteAll requests).codec.codec = applied.codec.codec := by
  induction requests generalizing applied with
  | nil => rfl
  | cons r requests ih => exact (ih (applied.overwrite r)).trans (codec_overwrite applied r)

/-- Applying a request is laying it over, but for the change words. -/
theorem clearChanges_apply {applied after : AppliedConfig} {request : ConfigRequest}
    (accepted : applied.apply request = .ok after) :
    after.clearChanges = applied.clearChanges.overwrite request := by
  rcases request with r | r | r | mode
  · cases accepted
    simp only [clearChanges, overwrite, Prep.overwrite_eq, Prep.merge]
  · cases accepted
    rfl
  · cases own : applied.codec <;> cases r <;>
      simp only [apply, own, CodecRecord.merge, bind, Except.bind, pure, Except.pure]
        at accepted <;>
      cases accepted
    · simp only [clearChanges, overwrite, own, CodecRecord.overwrite, H264.overwrite_eq, H264.merge]
    · simp only [clearChanges, overwrite, own, CodecRecord.overwrite, Jpeg.overwrite_eq, Jpeg.merge]
  · cases accepted
    rfl

/-- Requests for two records may change places. -/
theorem overwrite_comm (applied : AppliedConfig) {first second : ConfigRequest}
    (apart : first.kind ≠ second.kind) :
    (applied.overwrite first).overwrite second = (applied.overwrite second).overwrite first := by
  rcases first with f | f | f | f <;> rcases second with g | g | g | g <;>
    first | rfl | exact absurd rfl apart

theorem overwriteAll_comm {kind : RecordKind} {request : ConfigRequest}
    {requests : List ConfigRequest} (all : ∀ r ∈ requests, r.kind = kind)
    (apart : request.kind ≠ kind) (applied : AppliedConfig) :
    (applied.overwrite request).overwriteAll requests =
      (applied.overwriteAll requests).overwrite request := by
  induction requests generalizing applied with
  | nil => rfl
  | cons r requests ih =>
    have own : request.kind ≠ r.kind := by
      rw [all r (by simp)]
      exact apart
    show ((applied.overwrite request).overwrite r).overwriteAll requests =
      ((applied.overwrite r).overwriteAll requests).overwrite request
    rw [overwrite_comm _ own, ih fun other member => all other (by simp [member])]

/-- The requests for one record may be laid over first. -/
theorem overwriteAll_filter (kind : RecordKind) (applied : AppliedConfig)
    (requests : List ConfigRequest) :
    applied.overwriteAll requests =
      (applied.overwriteAll (requests.filter (·.kind = kind))).overwriteAll
        (requests.filter (·.kind ≠ kind)) := by
  induction requests generalizing applied with
  | nil => rfl
  | cons r requests ih =>
    have later : applied.overwriteAll (r :: requests) =
        (applied.overwrite r).overwriteAll requests := rfl
    by_cases own : r.kind = kind
    · simp only [own, later, List.filter_cons, decide_true, if_true, not_true_eq_false,
        decide_false, Bool.false_eq_true, if_false, ne_eq]
      exact ih (applied.overwrite r)
    · have commutes : (applied.overwrite r).overwriteAll (requests.filter (·.kind = kind)) =
          (applied.overwriteAll (requests.filter (·.kind = kind))).overwrite r :=
        overwriteAll_comm (fun other member => of_decide_eq_true (List.mem_filter.1 member).2) own
          applied
      simp only [own, later, List.filter_cons, decide_true, if_true, not_false_eq_true,
        decide_false, Bool.false_eq_true, if_false, ne_eq]
      rw [ih, commutes]
      rfl

/-- The requests laid over group by group, a group for each of these records. -/
def overwriteKinds (applied : AppliedConfig) (kinds : List RecordKind)
    (requests : List ConfigRequest) : AppliedConfig :=
  kinds.foldl (fun a kind => a.overwriteAll (requests.filter (·.kind = kind))) applied

theorem overwriteKinds_eq {kinds : List RecordKind} (distinct : kinds.Nodup)
    (applied : AppliedConfig) (requests : List ConfigRequest) :
    applied.overwriteKinds kinds requests =
      applied.overwriteAll (requests.filter (·.kind ∈ kinds)) := by
  induction kinds generalizing applied with
  | nil =>
    rw [List.filter_eq_nil_iff.2 (by simp)]
    rfl
  | cons kind kinds ih =>
    obtain ⟨apart, distinct⟩ := List.nodup_cons.1 distinct
    have own : (requests.filter (·.kind ∈ kind :: kinds)).filter (·.kind = kind) =
        requests.filter (·.kind = kind) := by
      rw [List.filter_filter]
      refine List.filter_congr fun r _ => ?_
      by_cases same : r.kind = kind <;> simp [same]
    have others : (requests.filter (·.kind ∈ kind :: kinds)).filter (·.kind ≠ kind) =
        requests.filter (·.kind ∈ kinds) := by
      rw [List.filter_filter]
      refine List.filter_congr fun r _ => ?_
      by_cases same : r.kind = kind <;> simp [same, apart]
    rw [overwriteAll_filter kind applied (requests.filter (·.kind ∈ kind :: kinds)), own, others,
      ← ih distinct]
    rfl

/-- Two requests for one record come to the same joined or one after the other. -/
theorem overwrite_join {applied : AppliedConfig} {old new : ConfigRequest}
    (same : old.kind = new.kind) (first : old.suits applied.codec.codec = true)
    (second : new.suits applied.codec.codec = true) :
    applied.overwrite (old.join new) = (applied.overwrite old).overwrite new := by
  rcases old with o | o | (o | o) | o <;> rcases new with n | n | (n | n) | n <;>
    cases same
  · simp only [ConfigRequest.join, overwrite, Prep.overwrite_eq, Prep.merge_under]
  · rfl
  · cases own : applied.codec with
    | h264 r =>
      simp only [ConfigRequest.join, overwrite, own, CodecRecord.overwrite, H264.overwrite_eq,
        H264.merge_under]
    | jpeg r =>
      rw [own] at first
      cases first
  · cases (of_decide_eq_true first).trans (of_decide_eq_true second).symm
  · cases (of_decide_eq_true first).trans (of_decide_eq_true second).symm
  · cases own : applied.codec with
    | h264 r =>
      rw [own] at first
      cases first
    | jpeg r =>
      simp only [ConfigRequest.join, overwrite, own, CodecRecord.overwrite, Jpeg.overwrite_eq,
        Jpeg.join_under]
  · rfl

/-- Requests for one record may be joined before they are laid over. -/
theorem overwrite_coalesce {applied : AppliedConfig} {first : ConfigRequest}
    {later : List ConfigRequest} (suited : first.suits applied.codec.codec = true)
    (alike : ∀ r ∈ later, r.kind = first.kind ∧ r.suits applied.codec.codec = true) :
    applied.overwrite (first.coalesce later) = applied.overwriteAll (first :: later) := by
  induction later using List.reverseRecOn with
  | nil =>
    rw [ConfigRequest.coalesce_nil]
    rfl
  | append_singleton later new ih =>
    have front := ih fun r member => alike r (by simp [member])
    obtain ⟨kind, suits⟩ := alike new (by simp)
    obtain ⟨same, whole⟩ := first.coalesce_like later
    rw [ConfigRequest.coalesce_concat,
      overwrite_join (by rw [same, kind]) (by rw [whole, suited]) suits, front, overwriteAll,
      overwriteAll, ← List.cons_append, List.foldl_append]
    rfl

end AppliedConfig

end CodecLink
