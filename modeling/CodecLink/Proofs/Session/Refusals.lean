import CodecLink.Proofs.Session.Scripts

/-! How the calls of a session end. A call that is refused leaves everything as it was. A failure of
the channel costs the session that channel, so that none goes on with a channel that failed it, and
no call that is let through misses one. -/
namespace CodecLink

/-- The name by which a call is refused. -/
def SessionCall.operation : SessionCall → String
  | attach _ => "attach"
  | init _ => "init"
  | control _ => "control"
  | genRegs => "gen_regs"
  | start _ => "start"
  | wait _ _ => "wait"
  | reset => "reset"
  | flush => "flush"
  | deinit => "deinit"

namespace Session

/-- A request for a record that the backend does not take. -/
def Ignores (s : Session) : SessionCall → Prop
  | .control request => s.config.backend.accepted.has request.kind = false
  | _ => False

/-- What a step on a channel comes to: the session goes on in a state that is known beforehand, or
the channel is lost. -/
inductive Passage {α : Type} (state : SessionState) : Answer α → Prop
  | through {a : α} {after : Session} (there : after.channel.isSome)
      (arrived : after.state = state) : Passage state (.ok a, after)
  | lost {e : ChannelError} {after : Session} (fatal : e.isFatal = true)
      (gone : after.channel = none) (ended : after.state = .disconnected) :
      Passage state (.error (.connection e), after)

/-- What a call on a settled session comes to. -/
inductive Conclusion (s : Session) (call : SessionCall) : Answer Unit → Prop
  | refused (barred : ¬ s.Admits call) (quiet : s.attempts call = []) :
      Conclusion s call (.error (.invalidState call.operation s.state), s)
  | invalid {request : ConfigRequest} {error : RecordError} (asked : call = .control request)
      (admitted : s.Admits call) (taken : ¬ s.Ignores call) (quiet : s.attempts call = []) :
      Conclusion s call (.error (.invalidConfig error), s)
  | ignored (admitted : s.Admits call) (foreign : s.Ignores call) (quiet : s.attempts call = []) :
      Conclusion s call (.ok (), s)
  | unopened {e : ChannelError} {after : Session} (opens : call.code? = some .init)
      (admitted : s.Admits call) (vacant : after.channel = none)
      (same : after = { s with retired := after.retired }) :
      Conclusion s call (.error (.connection e), after)
  | lost {e : ChannelError} {after : Session} (opened : call.code? ≠ some .init)
      (admitted : s.Admits call) (taken : ¬ s.Ignores call) (fatal : e.isFatal = true)
      (gone : after.channel = none) (ended : after.state = .disconnected) :
      Conclusion s call (.error (.connection e), after)
  | through {after : Session} (admitted : s.Admits call) (taken : ¬ s.Ignores call)
      (settled : after.Settled) (arrived : after.state = s.stateAfter call) :
      Conclusion s call (.ok (), after)

namespace Conclusion

variable {call : SessionCall} {s : Session} {answer : Answer Unit}

/-- The check of the state is the only one to give this answer. -/
theorem let_through (conclusion : Conclusion s call answer) (admitted : s.Admits call)
    (operation : String) (state : SessionState) :
    answer.1 ≠ .error (.invalidState operation state) := by
  cases conclusion with
  | refused barred _ => exact absurd admitted barred
  | invalid _ _ _ _ | ignored _ _ _ | unopened _ _ _ _ | lost _ _ _ _ _ _ | through _ _ _ _ => simp

theorem fatal (conclusion : Conclusion s call answer) (opened : call.code? ≠ some .init)
    {e : ChannelError} (failed : answer.1 = .error (.connection e)) : e.isFatal = true := by
  cases conclusion with
  | unopened opens _ _ _ => exact absurd opens opened
  | lost _ _ _ fatal _ _ =>
    cases failed
    exact fatal
  | refused _ _ | invalid _ _ _ _ | ignored _ _ _ | through _ _ _ _ => cases failed

end Conclusion

theorem passage_send {s : Session} (held : s.channel.isSome) (kind : PrimitiveCode)
    (payload : Bytes) : Passage s.state (s.send kind payload) := by
  obtain ⟨c, own⟩ := Option.isSome_iff_exists.1 held
  rw [send, own]
  dsimp only
  split
  · exact .through rfl rfl
  · rename_i error after failed
    rcases c.send_cases (.of kind payload) with ⟨sent, _⟩ | ⟨e, _, refused, fatal, _⟩
    · rw [failed] at sent
      cases sent
    · rw [failed] at refused
      cases refused
      rw [fail, if_pos fatal]
      exact .lost fatal rfl rfl

theorem passage_deliver {s : Session} (held : s.channel.isSome) (kinds : List RecordKind) :
    Passage s.state (s.deliver kinds) := by
  induction kinds generalizing s with
  | nil => exact .through held rfl
  | cons kind rest ih =>
    have first := passage_send held kind.primitive (s.configs.encoded kind)
    cases outcome : s.send kind.primitive (s.configs.encoded kind) with
    | mk result middle =>
      rw [outcome] at first
      cases first with
      | through there same =>
        rw [(deliver_cons_ok outcome rest).1, ← same]
        exact ih (s := { middle with configs := middle.configs.delivered kind }) there
      | lost fatal gone ended =>
        rw [(deliver_cons_error outcome rest).1]
        exact .lost fatal gone ended

theorem passage_complete {s : Session} (held : s.channel.isSome) (flag : Option ReadyFlag)
    (tag : Option UInt64) :
    Passage .configured ((s.complete flag tag).1, (s.complete flag tag).2.2) := by
  obtain ⟨c, own⟩ := Option.isSome_iff_exists.1 held
  have waited := c.awaitCompletion_cases s.config.completion flag tag
  rw [complete, own]
  dsimp only
  split
  · rename_i e _ after failed
    rw [failed] at waited
    have fatal := waited.2 e rfl
    dsimp only
    rw [fail, if_pos fatal]
    exact .lost fatal rfl rfl
  · exact .through rfl rfl

theorem passage_finishWait {s : Session} (held : s.channel.isSome) (awaited : Awaited)
    (flag : Option ReadyFlag) :
    Passage .configured ((s.finishWait awaited flag).1, (s.finishWait awaited flag).2.2) := by
  cases awaited with
  | reply tag => exact passage_complete held none (some tag)
  | word => exact passage_complete held flag none
  | nothing => exact .through held rfl

/-- A call ends with its last step on the channel, unless for the state it then takes. -/
theorem Passage.conclusion {call : SessionCall} {s : Session} {state final : SessionState}
    {answer : Answer Unit} (passage : Passage state answer) (admitted : s.Admits call)
    (opened : call.code? ≠ some .init) (taken : ¬ s.Ignores call)
    (usable : final ∈ [.connected, .configured, .running]) (arrives : final = s.stateAfter call) :
    Conclusion s call
      (match answer with
        | (.error e, after) => (.error e, after)
        | (.ok (), after) => (.ok (), { after with state := final })) := by
  cases passage with
  | through there _ => exact .through admitted taken (.inl ⟨there, usable⟩) arrives
  | lost fatal gone ended => exact .lost opened admitted taken fatal gone ended

theorem conclusion_attach {s : Session} (settled : s.Settled) (c : Channel) :
    Conclusion s (.attach c) (s.attach c) := by
  rcases s.require_cases "attach" openingStates with ⟨member, allowed⟩ | ⟨outside, refused⟩
  · rw [attach, show s.require "attach" [.uninitialized, .disconnected] = .ok () from allowed]
    dsimp only
    split
    · exact .unopened rfl member (settled.vacant member) rfl
    · exact .through member id (.inl ⟨rfl, by simp⟩) rfl
  · rw [attach, show s.require "attach" [.uninitialized, .disconnected] = .error _ from refused]
    exact .refused outside (if_neg outside)

theorem conclusion_init {s : Session} (settled : s.Settled)
    (attempt : Except ChannelError Channel) : Conclusion s (.init attempt) (s.init attempt) := by
  rcases s.require_cases "init" openingStates with ⟨member, allowed⟩ | ⟨outside, refused⟩
  · cases attempt with
    | error e =>
      rw [init, show s.require "init" [.uninitialized, .disconnected] = .ok () from allowed]
      exact .unopened rfl member (settled.vacant member) rfl
    | ok c =>
      rw [init, show s.require "init" [.uninitialized, .disconnected] = .ok () from allowed]
      generalize attached : s.attach c = answer
      have outcome := attached ▸ conclusion_attach settled c
      cases outcome with
      | refused barred _ => exact absurd member barred
      | unopened opens admitted vacant same => exact .unopened rfl member vacant same
      | ignored admitted foreign _ => exact foreign.elim
      | lost opened => exact absurd rfl opened
      | through admitted taken settled arrived => exact .through member taken settled arrived
      | invalid asked => cases asked
  · cases attempt <;>
      rw [init, show s.require "init" [.uninitialized, .disconnected] = .error _ from refused]
    · exact .refused outside rfl
    · exact .refused outside (if_neg outside)

theorem conclusion_control {s : Session} (settled : s.Settled) (request : ConfigRequest) :
    Conclusion s (.control request) (s.control request) := by
  have opened : (SessionCall.control request).code? ≠ some .init := by simp [SessionCall.code?]
  have quiet (unrecorded : s.recorded? request = none) : s.attempts (.control request) = [] := by
    simp only [attempts, unrecorded]
  rcases s.require_cases "control" [.connected, .configured] with
    ⟨member, allowed⟩ | ⟨outside, refused⟩
  · obtain ⟨c, held, _⟩ := settled.holds member (by decide)
    rw [control, allowed]
    cases has : s.config.backend.accepted.has request.kind with
    | false => exact .ignored member has (quiet (if_neg (by simp [has])))
    | true =>
      have taken : ¬ s.Ignores (.control request) := by simp [Ignores, has]
      cases kept : s.recordRequest request with
      | error e =>
        obtain ⟨error, rfl⟩ : ∃ error, e = .invalidConfig error := by
          rw [recordRequest] at kept
          split at kept
          · exact ⟨_, (Except.error.inj kept).symm⟩
          · split at kept
            · exact ⟨_, (Except.error.inj kept).symm⟩
            · cases kept
        refine .invalid rfl member taken (quiet ?_)
        rw [recorded?, if_pos ⟨member, has⟩, kept]
        rfl
      | ok recorded =>
        have found : s.recorded? request = some recorded := by
          rw [recorded?, if_pos ⟨member, has⟩, kept]
          rfl
        obtain ⟨_, _, _, configs, _, rfl⟩ := recorded_some found
        have passage := passage_deliver (s := { s with configs }) (by simp [held])
          configs.pending.toList
        dsimp only [Bool.not_true, Bool.false_eq_true, if_false]
        exact passage.conclusion member opened taken (by simp) rfl
  · rw [control, refused]
    exact .refused outside (quiet (if_neg fun both => outside both.1))

theorem conclusion_genRegs {s : Session} (settled : s.Settled) :
    Conclusion s .genRegs s.genRegs := by
  rcases s.require_cases "gen_regs" [.connected, .configured] with
    ⟨member, allowed⟩ | ⟨outside, refused⟩
  · obtain ⟨c, held, state⟩ := settled.holds member (by decide)
    rw [genRegs, allowed]
    have sent := passage_send (s := s) (by simp [held]) .regs []
    generalize s.send .regs [] = answer at sent ⊢
    cases sent with
    | @through _ after there same =>
      exact .through member id (.inl ⟨there, show after.state ∈ _ from same ▸ state⟩) same
    | lost fatal gone ended => exact .lost (by simp [SessionCall.code?]) member id fatal gone ended
  · rw [genRegs, refused]
    exact .refused outside (if_neg outside)

theorem conclusion_start {s : Session} (settled : s.Settled) (input : Descriptor) :
    Conclusion s (.start input) (s.start input) := by
  have opened : (SessionCall.start input).code? ≠ some .init := by simp [SessionCall.code?]
  rcases s.require_cases "start" startingStates with ⟨member, allowed⟩ | ⟨outside, refused⟩
  · obtain ⟨c, held, _⟩ := settled.holds member (by decide)
    have records := passage_deliver (s := s) (by simp [held]) s.configs.pending.toList
    rw [start, show s.require "start" [.connected, .configured, .waiting] = .ok () from allowed,
      deliverPending]
    generalize s.deliver s.configs.pending.toList = answer at records ⊢
    cases records with
    | lost fatal gone ended => exact .lost opened member id fatal gone ended
    | @through _ middle there _ =>
      have last := passage_send there .start (startPayload input)
      exact last.conclusion member opened id (by simp) rfl
  · rw [start, show s.require "start" [.connected, .configured, .waiting] = .error _ from refused]
    exact .refused outside (if_neg outside)

theorem conclusion_wait {s : Session} (settled : s.Settled) (output : Descriptor)
    (flag : Option ReadyFlag) :
    Conclusion s (.wait output flag) (s.perform (.wait output flag)) := by
  have opened : (SessionCall.wait output flag).code? ≠ some .init := by simp [SessionCall.code?]
  rw [perform, wait, isSome_armFor]
  by_cases running : s.state = .running
  · have member : s.state ∈ [SessionState.running] := by simp [running]
    obtain ⟨c, held, _⟩ := settled.holds member (by decide)
    obtain ⟨begun, awaited, payload, submitted, _, _, channel, _⟩ :=
      submitWait_running running output flag.isSome flag
    have request := passage_send (s := begun) (by rw [channel, held]; rfl) .wait payload
    rw [submitted, submit]
    generalize begun.send .wait payload = answer at request ⊢
    cases request with
    | lost fatal gone ended => exact .lost opened running id fatal gone ended
    | @through _ middle there _ =>
      have finish := passage_finishWait there awaited (s.armFor output flag)
      dsimp only
      generalize middle.finishWait awaited (s.armFor output flag) = answer at finish ⊢
      obtain ⟨result, after, last⟩ := answer
      cases finish with
      | through there arrived =>
        have usable : last.state ∈ [.connected, .configured, .running] := by
          rw [show last.state = .configured from arrived]
          simp
        exact .through running id (.inl ⟨there, usable⟩) arrived
      | lost fatal gone ended => exact .lost opened running id fatal gone ended
  · have refused : s.require "wait" [.running] = .error (.invalidState "wait" s.state) := by
      simp [require, running]
    rw [submitWait, refused]
    exact .refused running (if_neg running)

theorem conclusion_interrupt {call : SessionCall} {s : Session} (settled : s.Settled)
    (kind : PrimitiveCode) (admits : s.Admits call ↔ s.state ∈ openStates)
    (opened : call.code? ≠ some .init) (taken : ¬ s.Ignores call)
    (state : s.stateAfter call = .configured)
    (attempts : s.attempts call = if s.state ∈ openStates then [s.attempt kind []] else []) :
    Conclusion s call (s.interrupt call.operation kind) := by
  rcases s.require_cases call.operation openStates with ⟨member, allowed⟩ | ⟨outside, refused⟩
  · obtain ⟨c, held, _⟩ := settled.holds member (by decide)
    have sent := passage_send (s := { s with state := .resetting }) (by simp [held]) kind []
    rw [interrupt, show s.requireConnected call.operation = .ok () from allowed]
    exact sent.conclusion (admits.2 member) opened taken (by simp) state.symm
  · rw [interrupt, show s.requireConnected call.operation = .error _ from refused]
    exact .refused (mt admits.1 outside) (attempts.trans (if_neg outside))

theorem conclusion_deinit (s : Session) : Conclusion s .deinit s.deinit := by
  rcases s.require_cases "deinit" openStates with ⟨member, allowed⟩ | ⟨outside, refused⟩
  · rw [deinit, show s.requireConnected "deinit" = .ok () from allowed]
    exact .through member id (settled_gone rfl rfl) rfl
  · rw [deinit, show s.requireConnected "deinit" = .error _ from refused]
    exact .refused outside (if_neg outside)

theorem conclusion_perform {s : Session} (settled : s.Settled) (call : SessionCall) :
    Conclusion s call (s.perform call) := by
  cases call with
  | attach c => exact conclusion_attach settled c
  | init attempt => exact conclusion_init settled attempt
  | control request => exact conclusion_control settled request
  | genRegs => exact conclusion_genRegs settled
  | start input => exact conclusion_start settled input
  | wait output flag => exact conclusion_wait settled output flag
  | reset => exact conclusion_interrupt settled .reset .rfl (by simp [SessionCall.code?]) id rfl rfl
  | flush => exact conclusion_interrupt settled .flush .rfl (by simp [SessionCall.code?]) id rfl rfl
  | deinit => exact conclusion_deinit s

end Session

namespace Followed

/-- Whatever was called and whatever became of the channel, between calls a session is in one of
five states and holds a channel in three of them. A call that the state bars, a request that is not
valid and one that the backend does not take change nothing and send nothing. A call that fails for
the channel leaves none, and past the opening of a session it fails for good. A call that the state
admits never misses its channel. -/
theorem refusals_change_nothing (config : SessionConfig) (events : List SessionEvent) :
    let s := (run config events).session
    s.state ∈ [.uninitialized, .connected, .configured, .running, .disconnected] ∧
      (s.channel.isSome ↔ s.state ∈ [.connected, .configured, .running]) ∧
      ∀ call, s.Conclusion call (s.perform call) ∧
        (s.Admits call → ∀ operation state,
          (s.perform call).1 ≠ .error (.invalidState operation state)) ∧
        (call.code? ≠ some .init → ∀ e,
          (s.perform call).1 = .error (.connection e) → e.isFatal = true) := by
  have settled : (run config events).session.Settled :=
    ((sound_start config).run events).settled
  refine ⟨?_, ?_, fun call => ?_⟩
  · rcases settled with ⟨_, state⟩ | ⟨_, state⟩ <;>
      simp only [Session.openingStates, List.mem_cons, List.not_mem_nil, or_false] at state ⊢ <;>
      tauto
  · rcases settled with ⟨held, state⟩ | ⟨vacant, state⟩
    · exact ⟨fun _ => state, fun _ => held⟩
    · simp only [Session.openingStates, List.mem_cons, List.not_mem_nil, or_false] at state
      rcases state with state | state <;> simp [vacant, state]
  · have conclusion := Session.conclusion_perform settled call
    exact ⟨conclusion, conclusion.let_through,
      fun opened _ failed => conclusion.fatal opened failed⟩

end Followed

end CodecLink
