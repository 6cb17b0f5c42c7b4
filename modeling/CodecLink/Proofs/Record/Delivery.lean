import CodecLink.Proofs.Record.Reference
import CodecLink.Proofs.Record.Transmission

/-! Requests for a record that could not be delivered go out as one record later. The other side
ends up with the configuration that it would have had if each of them had arrived. -/
namespace CodecLink

namespace AppliedConfig

/-- Reads a record as it arrives in a session of this codec, and applies it. -/
def receive (codec : Codec) (kind : RecordKind) (applied : AppliedConfig) (bs : Bytes) :
    Except RecordError AppliedConfig := do
  applied.apply (← ConfigRequest.decode codec kind bs)

theorem receive_encode {codec : Codec} {request : ConfigRequest}
    (suits : request.suits codec = true) (applied : AppliedConfig) :
    applied.receive codec request.kind request.encode = applied.apply request := by
  rw [receive, ConfigRequest.decode_encode suits]
  rfl

/-- Two requests for one record are applied joined as they are one after the other. -/
theorem apply_join {applied : AppliedConfig} {old new : ConfigRequest} (same : old.kind = new.kind)
    (first : old.suits applied.codec.codec = true) (second : new.suits applied.codec.codec = true) :
    applied.apply (old.join new) = applied.apply old >>= (·.apply new) := by
  rcases old with o | o | (o | o) | o <;> rcases new with n | n | (n | n) | n <;> cases same
  · simp only [ConfigRequest.join, apply, Prep.merge_assoc, bind, Except.bind]
  · simp only [ConfigRequest.join, apply, RateControl.merge_assoc, bind, Except.bind]
  · cases own : applied.codec with
    | h264 r =>
      simp only [ConfigRequest.join, apply, own, CodecRecord.merge, H264.merge_assoc, bind,
        Except.bind, pure, Except.pure]
    | jpeg r =>
      rw [own] at first
      cases first
  · cases (of_decide_eq_true first).trans (of_decide_eq_true second).symm
  · cases (of_decide_eq_true first).trans (of_decide_eq_true second).symm
  · cases own : applied.codec with
    | h264 r =>
      rw [own] at first
      cases first
    | jpeg r =>
      simp only [ConfigRequest.join, apply, own, CodecRecord.merge, Jpeg.merge_join, bind,
        Except.bind, pure, Except.pure]
  · rfl

/-- Requests for one record may be joined before they are applied. -/
theorem apply_coalesce {applied : AppliedConfig} {first : ConfigRequest}
    {later : List ConfigRequest} (suited : first.suits applied.codec.codec = true)
    (alike : ∀ r ∈ later, r.kind = first.kind ∧ r.suits applied.codec.codec = true) :
    applied.apply (first.coalesce later) = (first :: later).foldlM apply applied := by
  induction later using List.reverseRecOn with
  | nil =>
    rw [ConfigRequest.coalesce_nil]
    exact (bind_pure (applied.apply first)).symm
  | append_singleton later new ih =>
    have front := ih fun r member => alike r (by simp [member])
    obtain ⟨kind, suits⟩ := alike new (by simp)
    obtain ⟨same, whole⟩ := first.coalesce_like later
    rw [ConfigRequest.coalesce_concat,
      apply_join (by rw [same, kind]) (by rw [whole, suited]) suits, front, ← List.cons_append,
      List.foldlM_append]
    simp only [List.foldlM_cons, List.foldlM_nil, bind_pure]

theorem receive_all {codec : Codec} {kind : RecordKind} {requests : List ConfigRequest}
    (alike : ∀ r ∈ requests, r.kind = kind ∧ r.suits codec = true) (applied : AppliedConfig) :
    (requests.map ConfigRequest.encode).foldlM (receive codec kind) applied =
      requests.foldlM apply applied := by
  induction requests generalizing applied with
  | nil => rfl
  | cons r requests ih =>
    obtain ⟨own, suits⟩ := alike r (by simp)
    have first : applied.receive codec kind r.encode = applied.apply r :=
      own ▸ receive_encode suits applied
    rw [List.map_cons, List.foldlM_cons, List.foldlM_cons, first]
    refine congrArg _ (funext fun after => ih ?_ after)
    exact fun other member => alike other (by simp [member])

end AppliedConfig

namespace ConfigSet

/-- Records one request after another. -/
def recordAll (set : ConfigSet) (requests : List ConfigRequest) : Except RecordError ConfigSet :=
  requests.foldlM record set

theorem recordAll_concat (set : ConfigSet) (requests : List ConfigRequest) (new : ConfigRequest) :
    set.recordAll (requests ++ [new]) = set.recordAll requests >>= (·.record new) := by
  rw [recordAll, recordAll, List.foldlM_append]
  simp only [List.foldlM_cons, List.foldlM_nil, bind_pure]

/-- While a record is not delivered, the requests for it are stored as what they come to, whatever
else is recorded in between. -/
theorem recordAll_stored {set : ConfigSet} {kind : RecordKind} (idle : set.pending.has kind = false)
    {requests : List ConfigRequest} (suited : ∀ r ∈ requests, r.suits set.codec.codec = true) :
    ∃ after, set.recordAll requests = .ok after ∧ after.codec.codec = set.codec.codec ∧
      match requests.filter (·.kind = kind) with
      | [] => after.pending.has kind = false
      | first :: later =>
        after.pending.has kind = true ∧ after.stored kind = first.coalesce later := by
  induction requests using List.reverseRecOn with
  | nil => exact ⟨set, rfl, rfl, idle⟩
  | append_singleton requests new ih =>
    obtain ⟨middle, recorded, codec, stands⟩ := ih fun r member => suited r (by simp [member])
    obtain ⟨after, taken⟩ := (middle.record_ok_iff new).2 (codec ▸ suited new (by simp))
    obtain ⟨pending, kept, stored⟩ := record_ok taken
    refine ⟨after, ?_, kept.trans codec, ?_⟩
    · rw [recordAll_concat, recorded]
      exact taken
    · rw [List.filter_append, pending, stored kind]
      by_cases own : new.kind = kind
      · cases front : requests.filter (·.kind = kind) with
        | nil =>
          rw [front] at stands
          simp [own, stands, RecordSet.insert, ConfigRequest.coalesce_nil]
        | cons first later =>
          rw [front] at stands
          simp [own, stands.1, stands.2, RecordSet.insert, ConfigRequest.coalesce_concat]
      · cases front : requests.filter (·.kind = kind) with
        | nil =>
          rw [front] at stands
          simp [own, Ne.symm own, stands, RecordSet.insert]
        | cons first later =>
          rw [front] at stands
          simp [own, Ne.symm own, stands.1, stands.2, RecordSet.insert]

/-- Requests for a record that does not wait yet are recorded, with requests for other records in
between or none, and nothing is delivered. The record that goes out then makes of a configuration
the same, change words included, as the records of these requests sent one by one. -/
theorem delivery_of_undelivered {set : ConfigSet} {kind : RecordKind}
    (idle : set.pending.has kind = false) {requests : List ConfigRequest}
    (suited : ∀ r ∈ requests, r.suits set.codec.codec = true)
    (named : ∃ r ∈ requests, r.kind = kind) {applied : AppliedConfig}
    (alike : applied.codec.codec = set.codec.codec) :
    ∃ stored merged, set.recordAll requests = .ok stored ∧
      applied.receive set.codec.codec kind (stored.encoded kind) = .ok merged ∧
      ((requests.filter (·.kind = kind)).map ConfigRequest.encode).foldlM
        (AppliedConfig.receive set.codec.codec kind) applied = .ok merged := by
  obtain ⟨stored, recorded, codec, stands⟩ := recordAll_stored idle suited
  have own (r : ConfigRequest) (member : r ∈ requests.filter (·.kind = kind)) :
      r.kind = kind ∧ r.suits set.codec.codec = true := by
    obtain ⟨member, same⟩ := List.mem_filter.1 member
    exact ⟨of_decide_eq_true same, suited r member⟩
  obtain ⟨first, later, split⟩ : ∃ first later,
      requests.filter (·.kind = kind) = first :: later := by
    obtain ⟨r, member, same⟩ := named
    exact List.exists_cons_of_ne_nil
      (List.ne_nil_of_mem (List.mem_filter.2 ⟨member, decide_eq_true same⟩))
  rw [split] at stands own ⊢
  obtain ⟨kind_first, suits_first⟩ := own first (by simp)
  obtain ⟨same, whole⟩ := first.coalesce_like later
  have joined : applied.receive set.codec.codec kind (stored.encoded kind) =
      applied.apply (first.coalesce later) := by
    have suits : (first.coalesce later).suits set.codec.codec = true := by rw [whole, suits_first]
    rw [← encode_stored, stands.2, ← kind_first, ← same]
    exact AppliedConfig.receive_encode suits applied
  have suited : (first.coalesce later).suits applied.codec.codec = true := by
    rw [whole, alike, suits_first]
  obtain ⟨merged, accepted, -⟩ := AppliedConfig.apply_suits suited
  refine ⟨stored, merged, recorded, joined.trans accepted, ?_⟩
  rw [AppliedConfig.receive_all own, ← AppliedConfig.apply_coalesce (alike ▸ suits_first) ?_]
  · exact accepted
  · intro r member
    rw [alike, kind_first]
    exact own r (List.mem_cons_of_mem _ member)

/-- A quant beyond the largest, a bit that means nothing, and geometry in between. -/
theorem delivery_of_vast_quant :
    let set : ConfigSet := { blank .jpeg with codec := .jpeg ⟨1, 7⟩ }
    let requests : List ConfigRequest :=
      [.codec (.jpeg ⟨1, 99⟩), .prep (.input 640 480), .codec (.jpeg ⟨4, 3⟩)]
    let applied : AppliedConfig := { AppliedConfig.blank .jpeg with codec := .jpeg ⟨0, 5⟩ }
    set.pending.has .codec = false ∧ (∃ r ∈ requests, r.kind = .codec) ∧
      ∃ stored merged, set.recordAll requests = .ok stored ∧
        applied.receive .jpeg .codec (stored.encoded .codec) = .ok merged ∧
        (((requests.filter (·.kind = .codec)).map ConfigRequest.encode).foldlM
          (AppliedConfig.receive .jpeg .codec) applied) = .ok merged ∧
        merged.codec = .jpeg ⟨0, 8⟩ := by
  intro set requests applied
  have idle : set.pending.has .codec = false := rfl
  have suited : ∀ r ∈ requests, r.suits set.codec.codec = true := by decide
  have named : ∃ r ∈ requests, r.kind = .codec := ⟨_, List.mem_cons_self, rfl⟩
  have alike : applied.codec.codec = set.codec.codec := rfl
  have quant : (((requests.filter (·.kind = .codec)).map ConfigRequest.encode).foldlM
      (AppliedConfig.receive .jpeg .codec) applied).toOption.map (·.codec) =
        some (.jpeg ⟨0, 8⟩) := by decide +kernel
  obtain ⟨stored, merged, recorded, joined, each⟩ :=
    delivery_of_undelivered idle suited named alike
  refine ⟨idle, named, stored, merged, recorded, joined, each, ?_⟩
  have each : ((requests.filter (·.kind = .codec)).map ConfigRequest.encode).foldlM
      (AppliedConfig.receive .jpeg .codec) applied = .ok merged := each
  rw [each] at quant
  exact Option.some.inj quant

end ConfigSet

end CodecLink
