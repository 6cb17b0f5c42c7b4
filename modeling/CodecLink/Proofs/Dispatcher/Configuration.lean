import CodecLink.Proofs.Dispatcher.Handling
import CodecLink.Proofs.Record.Reference
import CodecLink.Proofs.Record.Transmission

/-! What becomes of the configuration of an engine when its dispatcher handles a primitive. Only a
record changes its values, whatever the engine says of it. -/
namespace CodecLink

namespace AppliedConfig

@[simp] theorem clearChanges_clearChanges (applied : AppliedConfig) :
    applied.clearChanges.clearChanges = applied.clearChanges := by
  obtain ⟨prep, rc, codec, sei⟩ := applied
  cases codec <;> rfl

@[simp] theorem fields_clearChanges (applied : AppliedConfig) :
    applied.clearChanges.fields = applied.fields := by
  obtain ⟨prep, rc, codec, sei⟩ := applied
  cases codec <;> rfl

@[simp] theorem clearChanges_blank (codec : Codec) : (blank codec).clearChanges = blank codec := by
  cases codec <;> rfl

end AppliedConfig

namespace Dispatcher

variable {σ : Type} {host : EngineHost σ} {d : Dispatcher σ} {s : HostSession}

theorem session_opening {config : SessionConfig} {after : Dispatcher σ}
    (opening : Opening host config d after) (closed : d.session = none) :
    after.session = none ∨
      after.session = some { config, applied := .blank config.backend.codec } := by
  cases opening with
  | unsupported absent => exact .inl closed
  | refused created failed => exact .inl closed
  | opened created ready => exact .inr rfl

variable (host) in
/-- A record that suits the session is laid over its configuration. -/
theorem session_record (opened : d.session = some s) {request : ConfigRequest}
    (suits : request.suits s.config.backend.codec = true)
    (alike : s.applied.codec.codec = s.config.backend.codec) :
    ∃ applied,
      (d.dispatch host (.of request.kind.primitive request.encode)).1.session =
          some { s with applied } ∧
        applied.codec.codec = s.config.backend.codec ∧
        applied.clearChanges = s.applied.clearChanges.overwrite request := by
  have known : (Primitive.of request.kind.primitive request.encode).kind? =
      some request.kind.primitive := PrimitiveCode.ofWire?_wire _
  have decoded := ConfigRequest.decode_encode suits
  rw [← alike] at suits
  obtain ⟨applied, merged, same⟩ := AppliedConfig.apply_suits suits
  refine ⟨applied, ?_, same.trans alike, AppliedConfig.clearChanges_apply merged⟩
  rw [dispatch_record host _ known opened, Primitive.of, onRecord_taken decoded merged,
    session_attempt]

def TaskEnd.isCompleted : TaskEnd → Bool
  | completed _ => true
  | unimported | failed _ => false

variable (host) in
/-- A primitive that asks for a completed task, for which the engine has a result. -/
def completes (turn : Dispatcher σ × Primitive) : Bool :=
  turn.2.kind? = some .wait && (turn.1.taskEnd? host turn.2.payload).any (·.isCompleted)

theorem completes_iff {p : Primitive} :
    completes host (d, p) = true ↔ p.kind? = some .wait ∧
      ∃ s output calls feedback, d.session = some s ∧
        requested? p.payload d.regions = some (.ok output) ∧
        host.Drain { s.task with output } d.allowance d.hosted calls (.ok feedback) := by
  rw [completes, Bool.and_eq_true, decide_eq_true_eq, taskEnd?]
  refine and_congr_right fun _ => ?_
  cases opened : d.session with
  | none => simp
  | some s =>
    rcases named : requested? p.payload d.regions with _ | e | output
    · simp
    · simp [TaskEnd.isCompleted]
    · rw [Option.any_some]
      constructor
      · intro completed
        cases ended : d.collected host output s with
        | unimported | failed =>
          rw [ended] at completed
          cases completed
        | completed feedback =>
          obtain ⟨calls, drain⟩ := collected_eq_completed_iff.1 ended
          exact ⟨s, output, calls, feedback, rfl, rfl, drain⟩
      · rintro ⟨_, _, calls, feedback, ⟨⟩, ⟨⟩, drain⟩
        rw [collected_eq_completed_iff.2 ⟨calls, drain⟩]
        rfl

theorem completes_request {p : Primitive} (kind : p.kind? = some .wait) :
    completes host (d, p) = (d.taskEnd? host p.payload).any (·.isCompleted) := by
  rw [completes, decide_eq_true kind, Bool.true_and]

theorem completes_other {p : Primitive} {code : PrimitiveCode} (known : p.kind? = some code)
    (other : code ≠ .wait) : completes host (d, p) = false := by
  have apart : ¬ p.kind? = some .wait := by
    rw [known]
    exact fun same => other (Option.some.inj same)
  rw [completes, decide_eq_false apart, Bool.false_and]

theorem session_finishTask (output : Option Buffer) (tag : Option UInt64) :
    (d.finishTask host output tag s).1.session =
      some (if (d.collected host output s).isCompleted then s.done else s.failed) := by
  rw [finishTask, collected_eq]
  cases d.collect host { s.task with output } (d.settings.maxTries - 1) with
  | mk result after =>
    cases result with
    | error e => rfl
    | ok feedback =>
      dsimp only
      cases s.config.completion with
      | roundTrip timeoutMs => rfl
      | polling intervalMs maxPolls => exact session_publish _ _ _

variable (host) in
theorem session_request {p : Primitive} (opened : d.session = some s)
    (kind : p.kind? = some .wait) :
    ∃ next, (d.dispatch host p).1.session = some next ∧ next.config = s.config ∧
      next.applied =
        if completes host (d, p) then s.applied.clearChanges else s.applied := by
  rw [completes_request kind, taskEnd?, opened, dispatch_request host kind opened]
  cases requested? p.payload d.regions with
  | none => exact ⟨s, opened, rfl, rfl⟩
  | some imported =>
    cases imported with
    | error e => exact ⟨s, opened, rfl, rfl⟩
    | ok output =>
      refine ⟨_, session_finishTask _ _, ?_⟩
      rw [collected_countPrimitive]
      dsimp only [Option.any_some]
      split <;> exact ⟨rfl, rfl⟩

variable (host) in
/-- Whatever is neither a record nor a farewell leaves the configuration as it is, but that a
completed task uses up the change words. -/
theorem session_plain (opened : d.session = some s) {p : Primitive} {code : PrimitiveCode}
    (known : p.kind? = some code) (plain : RecordKind.ofPrimitive? code = none)
    (stays : code ≠ .deinit) :
    ∃ next, (d.dispatch host p).1.session = some next ∧ next.config = s.config ∧
      next.applied =
        if completes host (d, p) then s.applied.clearChanges else s.applied := by
  by_cases request : code = .wait
  · subst request
    exact session_request host opened known
  rw [completes_other known request]
  have handled := dispatch_handling host p d
  generalize d.dispatch host p = result at handled ⊢
  cases handled with
  | dropped => exact ⟨s, opened, rfl, rfl⟩
  | unimported _ kind named => exact absurd (Option.some.inj (known.symm.trans kind)) request
  | opening closed kind opening => cases closed.symm.trans opened
  | farewell _ kind => exact absurd (Option.some.inj (known.symm.trans kind)) stays
  | @ordered own next operation found orders =>
    cases found.symm.trans opened
    refine ⟨next, session_attempt _ _, ?_⟩
    cases orders with
    | @record kind _ _ told _ _ =>
      cases Option.some.inj (known.symm.trans told)
      cases kind <;> cases plain
    | prepare _ | start _ _ | control _ | reset _ | flush _ => exact ⟨rfl, rfl⟩
  | finished found kind named finish =>
    exact absurd (Option.some.inj (known.symm.trans kind)) request

variable (host) in
theorem session_kept (opened : d.session = some s) {p : Primitive} {code : PrimitiveCode}
    (known : p.kind? = some code) (plain : RecordKind.ofPrimitive? code = none)
    (stays : code ≠ .deinit) :
    ∃ next, (d.dispatch host p).1.session = some next ∧ next.config = s.config ∧
      next.applied.clearChanges = s.applied.clearChanges := by
  obtain ⟨next, later, config, applied⟩ := session_plain host opened known plain stays
  refine ⟨next, later, config, ?_⟩
  rw [applied]
  split
  · exact AppliedConfig.clearChanges_clearChanges _
  · rfl

theorem session_farewell (opened : d.session = some s) {p : Primitive}
    (known : p.kind? = some .deinit) : (d.dispatch host p).1.session = none := by
  rw [dispatch_open known opened, route, onDeinit]
  exact session_attempt _ _

end Dispatcher

end CodecLink
