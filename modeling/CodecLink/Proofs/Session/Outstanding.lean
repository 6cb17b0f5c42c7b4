import CodecLink.Proofs.Record.Reference
import CodecLink.Proofs.Record.Transmission
import CodecLink.Proofs.Session.PendingRecords

/-! The accepted requests that were not delivered yet, over all records and in the order in which
they were made. To lay them over a configuration one by one comes to the same as to lay the records
over it that a session has stored. -/
namespace CodecLink

namespace RecordEvent

def left (requests : List ConfigRequest) : RecordEvent → List ConfigRequest
  | accepted request => requests ++ [request]
  | delivered kind => requests.filter (·.kind ≠ kind)

def outstanding (history : List RecordEvent) : List ConfigRequest := history.foldl left []

theorem outstanding_concat (history : List RecordEvent) (event : RecordEvent) :
    outstanding (history ++ [event]) = left (outstanding history) event := by
  simp [outstanding]

theorem mem_outstanding_append {request : ConfigRequest} {history events : List RecordEvent}
    (member : request ∈ outstanding (history ++ events)) :
    request ∈ outstanding history ∨ accepted request ∈ events := by
  induction events using List.reverseRecOn with
  | nil =>
    rw [List.append_nil] at member
    exact .inl member
  | append_singleton events event ih =>
    rw [← List.append_assoc, outstanding_concat] at member
    have earlier (before : request ∈ outstanding (history ++ events)) :
        request ∈ outstanding history ∨ accepted request ∈ events ++ [event] :=
      (ih before).imp_right fun present => List.mem_append_left _ present
    cases event with
    | accepted last =>
      rcases List.mem_append.1 member with before | now
      · exact earlier before
      · rw [List.mem_singleton.1 now]
        exact .inr (by simp)
    | delivered kind => exact earlier (List.mem_filter.1 member).1

theorem filter_outstanding (kind : RecordKind) (history : List RecordEvent) :
    (outstanding history).filter (·.kind = kind) = waiting kind history := by
  induction history using List.reverseRecOn with
  | nil => rfl
  | append_singleton history event ih =>
    rw [outstanding_concat]
    cases event with
    | accepted request =>
      rw [waiting_accepted, left, List.filter_append, ih]
      by_cases own : request.kind = kind <;> simp [own]
    | delivered sent =>
      rw [waiting_delivered, left, List.filter_filter, ← ih]
      by_cases own : sent = kind
      · subst own
        simp
      · rw [if_neg own]
        refine List.filter_congr fun request _ => ?_
        by_cases same : request.kind = kind
        · simp [same, Ne.symm own]
        · simp [same]

end RecordEvent

namespace ConfigSet

open RecordEvent

variable {set : ConfigSet} {history : List RecordEvent}

theorem outstanding_of_idle (accounts : set.Accounts history) (idle : set.pending = {}) :
    outstanding history = [] := by
  rw [List.eq_nil_iff_forall_not_mem]
  intro request member
  have waits : request ∈ waiting request.kind history := by
    rw [← filter_outstanding]
    simpa using member
  have pending := (accounts.pending request.kind).2 (List.ne_nil_of_mem waits)
  rw [idle] at pending
  cases kind : request.kind <;> rw [kind] at pending <;> cases pending

/-- The records that wait, as requests. -/
def waitingRequests (set : ConfigSet) : List ConfigRequest := set.pending.toList.map set.stored

/-- What one record brings, if it waits. -/
def bring (set : ConfigSet) (applied : AppliedConfig) (kind : RecordKind) : AppliedConfig :=
  if set.pending.has kind then applied.overwrite (set.stored kind) else applied

theorem bring_eq (accounts : set.Accounts history) {applied : AppliedConfig}
    (suited : ∀ r ∈ outstanding history, r.suits applied.codec.codec = true) (kind : RecordKind) :
    set.bring applied kind =
      applied.overwriteAll ((outstanding history).filter (·.kind = kind)) := by
  have pending := accounts.pending kind
  rw [filter_outstanding, bring]
  cases waits : waiting kind history with
  | nil =>
    rw [waits] at pending
    rw [if_neg (by simp [pending])]
    rfl
  | cons first later =>
    have every : ∀ r ∈ first :: later, r.kind = kind ∧ r.suits applied.codec.codec = true := by
      intro r member
      rw [← waits, ← filter_outstanding, List.mem_filter] at member
      exact ⟨of_decide_eq_true member.2, suited r member.1⟩
    obtain ⟨own, suits⟩ := every first (by simp)
    have alike : ∀ r ∈ later, r.kind = first.kind ∧ r.suits applied.codec.codec = true := by
      intro r member
      rw [own]
      exact every r (by simp [member])
    rw [waits] at pending
    rw [if_pos (by simp [pending]), accounts.stored kind first later waits,
      AppliedConfig.overwrite_coalesce suits alike]

theorem overwriteAll_bring (set : ConfigSet) (kinds : List RecordKind) (applied : AppliedConfig) :
    applied.overwriteAll ((kinds.filter set.pending.has).map set.stored) =
      kinds.foldl set.bring applied := by
  induction kinds generalizing applied with
  | nil => rfl
  | cons kind kinds ih =>
    rw [List.foldl_cons, ← ih, bring]
    cases waits : set.pending.has kind with
    | true =>
      rw [List.filter_cons_of_pos waits]
      rfl
    | false =>
      rw [List.filter_cons_of_neg (by simp [waits])]
      rfl

/-- Delivering what waits does to a configuration what the requests for it would do. -/
theorem overwriteAll_waiting (accounts : set.Accounts history) {applied : AppliedConfig}
    (suited : ∀ r ∈ outstanding history, r.suits applied.codec.codec = true) :
    applied.overwriteAll set.waitingRequests = applied.overwriteAll (outstanding history) := by
  have brings (kinds : List RecordKind) (other : AppliedConfig)
      (own : other.codec.codec = applied.codec.codec) : kinds.foldl set.bring other =
        other.overwriteKinds kinds (outstanding history) := by
    induction kinds generalizing other with
    | nil => rfl
    | cons kind kinds ih =>
      rw [List.foldl_cons, bring_eq accounts (by rw [own]; exact suited), ih _ (by simp [own])]
      rfl
  have every : (outstanding history).filter (·.kind ∈ RecordKind.all) = outstanding history :=
    List.filter_eq_self.2 fun r _ => by cases kind : r.kind <;> rfl
  calc applied.overwriteAll set.waitingRequests
      = RecordKind.all.foldl set.bring applied := overwriteAll_bring set RecordKind.all applied
    _ = applied.overwriteKinds RecordKind.all (outstanding history) := brings _ applied rfl
    _ = applied.overwriteAll (outstanding history) := by
        rw [AppliedConfig.overwriteKinds_eq (by decide), every]

end ConfigSet

namespace Session

/-- The requests that a call lets in: one at most, and none that is refused or passed over. -/
def letIn (call : SessionCall) (s : Session) : List ConfigRequest :=
  match call with
  | .control request => if s.accepts request then [request] else []
  | _ => []

theorem happened_eq (call : SessionCall) (s : Session) :
    s.happened call = (s.letIn call).map RecordEvent.accepted ++
      (s.attempts call).filterMap Attempt.delivered? := by
  cases call with
  | control request =>
    simp only [happened, letIn]
    split <;> rfl
  | _ => rfl

theorem suits_of_letIn {call : SessionCall} {s : Session} {request : ConfigRequest}
    (member : request ∈ s.letIn call) : request.suits s.config.backend.codec = true := by
  cases call with
  | control asked =>
    obtain ⟨accepted, rfl⟩ : s.accepts asked = true ∧ request = asked := by
      simpa [letIn] using member
    simp only [accepts, Bool.and_eq_true] at accepted
    exact accepted.2
  | _ => cases member

theorem letIn_idle {call : SessionCall} {s : Session} (fits : s.Fits)
    (idle : s.delivering? call = none) : s.letIn call = [] := by
  cases call with
  | control request =>
    have refused := isSome_recorded fits request
    rw [show s.recorded? request = none from idle] at refused
    rw [letIn, ← refused]
    rfl
  | _ => rfl

theorem happened_idle {call : SessionCall} {s : Session} (fits : s.Fits)
    (idle : s.delivering? call = none) : s.happened call = [] := by
  have records := recordAttempts_eq call s
  rw [idle] at records
  rw [happened_eq, letIn_idle fits idle, filterMap_delivered,
    show (s.attempts call).filter (·.kind?.isSome) = [] from records]
  rfl

theorem letIn_quiet {call : SessionCall} {s : Session} (fits : s.Fits)
    (quiet : s.attempts call = []) : s.letIn call = [] := by
  cases call with
  | control request =>
    cases accepted : s.accepts request with
    | false => simp [letIn, accepted]
    | true =>
      obtain ⟨recorded, found⟩ := Option.isSome_iff_exists.1
        ((isSome_recorded fits request).trans accepted)
      obtain ⟨_, _, _, set, stored, rfl⟩ := recorded_some found
      have waits : request.kind ∈ set.pending.toList := by
        rw [RecordSet.mem_toList, (ConfigSet.record_ok stored).1]
        simp [RecordSet.insert]
      simp only [attempts, found] at quiet
      cases kinds : set.pending.toList with
      | nil =>
        rw [kinds] at waits
        cases waits
      | cons kind rest =>
        rw [kinds] at quiet
        cases quiet
  | _ => rfl

theorem happened_quiet {call : SessionCall} {s : Session} (fits : s.Fits)
    (quiet : s.attempts call = []) : s.happened call = [] := by
  rw [happened_eq, letIn_quiet fits quiet, quiet]
  rfl

/-- As long as a delivery pass does not cost the channel, it leaves nothing waiting. -/
theorem pending_delivered {call : SessionCall} {s begun : Session} (settled : s.Settled)
    (begins : s.delivering? call = some begun) (there : (s.perform call).2.channel.isSome) :
    (s.perform call).2.configs.pending = {} := by
  have configs := (carried_perform settled call).configs
  rw [begins] at configs
  have through (held : begun.channel.isSome)
      (failed : (∃ e, begun.deliverPending.1 = .error e) →
        (s.perform call).2 = begun.deliverPending.2) : begun.deliverPending.1 = .ok () := by
    obtain ⟨_, _, ⟨ok, _⟩ | ⟨error, gone, _⟩⟩ := deliver_cases held begun.configs.pending.toList
    · exact ok
    · rw [failed error, show begun.deliverPending.2.channel = none from gone] at there
      cases there
  rw [configs]
  refine pending_deliverPending ?_
  cases call with
  | control request =>
    obtain ⟨member, _, _, set, _, rfl⟩ := recorded_some begins
    obtain ⟨c, held, _⟩ := settled.holds member (by decide)
    refine through (by simp [held]) ?_
    rintro ⟨e, failed⟩
    have after := control_recorded begins
    rw [failed] at after
    exact after
  | start input =>
    obtain ⟨member, same⟩ := Option.ite_none_right_eq_some.1 begins
    cases same
    obtain ⟨c, held, _⟩ := settled.holds member (by decide)
    refine through (by simp [held]) ?_
    rintro ⟨e, failed⟩
    have after := start_allowed member input
    rw [failed] at after
    exact after
  | _ => cases begins

end Session

namespace Followed

/-- A session that is followed since its beginning under this configuration. -/
structure Faithful (config : SessionConfig) (f : Followed) : Prop where
  sound : f.Sound
  own : f.session.config = config
  suits : ∀ request ∈ RecordEvent.outstanding f.history,
    request.suits config.backend.codec = true

variable {config : SessionConfig} {f : Followed}

theorem Faithful.step (faithful : f.Faithful config) (event : SessionEvent) :
    (f.step event).Faithful config := by
  refine ⟨faithful.sound.step event, ?_, ?_⟩
  · cases event with
    | call call =>
      exact (Session.carried_perform faithful.sound.settled call).config.trans faithful.own
    | world change => exact faithful.own
  · cases event with
    | world change => exact faithful.suits
    | call call =>
      intro request member
      rcases RecordEvent.mem_outstanding_append member with before | now
      · exact faithful.suits request before
      · rw [Session.happened_eq, List.mem_append] at now
        rcases now with let_in | sent
        · obtain ⟨own, let_in, same⟩ := List.mem_map.1 let_in
          cases same
          rw [← faithful.own]
          exact Session.suits_of_letIn let_in
        · obtain ⟨a, _, same⟩ := List.mem_filterMap.1 sent
          rw [Attempt.delivered?] at same
          split at same
          · obtain ⟨_, _, impossible⟩ := Option.map_eq_some_iff.1 same
            cases impossible
          · cases same

theorem outstanding_letIn (f : Followed) (call : SessionCall) :
    RecordEvent.outstanding (f.history ++ (f.session.letIn call).map RecordEvent.accepted) =
      RecordEvent.outstanding f.history ++ f.session.letIn call := by
  cases call with
  | control request =>
    simp only [Session.letIn]
    split
    · exact RecordEvent.outstanding_concat _ _
    · simp
  | _ => simp [Session.letIn]

theorem faithful_run (config : SessionConfig) (events : List SessionEvent) :
    (run config events).Faithful config := by
  have start : Faithful config { session := .ofConfig config } :=
    ⟨sound_start config, rfl, fun _ member => by cases member⟩
  rw [run]
  generalize ({ session := .ofConfig config } : Followed) = f at start
  induction events generalizing f with
  | nil => exact start
  | cons event events ih => exact ih _ (start.step event)

end Followed

end CodecLink
