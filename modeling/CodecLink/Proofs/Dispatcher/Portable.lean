import CodecLink.Proofs.Dispatcher.Answering
import CodecLink.Proofs.Dispatcher.Observed
import CodecLink.Proofs.Message.LocalFields

/-! What a host makes of the local fields of descriptors: nothing it does depends on them, and no
descriptor that it hands to an engine or sends back has any. -/
namespace CodecLink

namespace Task

def buffers (task : Task) : List Buffer := task.input.toList ++ task.output.toList

def Portable (task : Task) : Prop := ∀ b ∈ task.buffers, b.descriptor.Portable

end Task

namespace EngineCall

/-- The buffers that an engine is handed with a call. -/
def buffers : EngineCall → List Buffer
  | perform (.prepare task) | perform (.start task) | wait task => task.buffers
  | perform _ => []

def Portable (call : EngineCall) : Prop := ∀ b ∈ call.buffers, b.descriptor.Portable

end EngineCall

theorem RegionTable.portable_import {t : RegionTable} {d : Descriptor} {b : Buffer}
    (imported : t.importBuffer d = .ok b) : b.descriptor.Portable := by
  rw [importBuffer] at imported
  split at imported
  · cases imported
    exact d.portable_sanitized
  · split at imported
    · cases imported
    · split at imported
      · cases imported
      · split at imported
        · cases imported
        · cases imported
          exact d.portable_sanitized

namespace Dispatcher

variable {σ : Type} {host : EngineHost σ}

theorem importPayload_masked (payload : Bytes) (d : Dispatcher σ) :
    d.importPayload (Descriptor.masked payload) = d.importPayload payload := by
  rw [importPayload, importPayload, Descriptor.isEmpty_masked, Descriptor.decode_masked]

theorem decodeWait_masked (payload : Bytes) :
    decodeWait (Descriptor.masked payload) = decodeWait payload := by
  rw [decodeWait, decodeWait, Descriptor.isEmpty_masked, WaitRequest.decode_masked]

variable (host) in
theorem dispatch_masked (p : Primitive) (d : Dispatcher σ) :
    d.dispatch host p.masked = d.dispatch host p := by
  rw [Primitive.masked]
  split
  · rename_i names
    rw [Primitive.namesBuffer, Bool.or_eq_true, decide_eq_true_eq, decide_eq_true_eq] at names
    have same (payload : Bytes) : ({ p with payload } : Primitive).kind? = p.kind? := rfl
    rw [dispatch, dispatch, same]
    cases d.countPrimitive.session with
    | none => rcases names with kind | kind <;> rw [kind]
    | some s =>
      rcases names with kind | kind
      · rw [kind]
        simp only [route, onStart, importPayload_masked]
      · rw [kind]
        simp only [route, onWait, decodeWait_masked]
  · rfl

variable (host) in
theorem reached_masked (ps : List Primitive) (d : Dispatcher σ) :
    d.reached host (ps.map Primitive.masked) = d.reached host ps := by
  simp only [reached, List.foldl_map, dispatch_masked]

variable (host) in
theorem replies_masked (ps : List Primitive) (d : Dispatcher σ) :
    d.replies host (ps.map Primitive.masked) = d.replies host ps := by
  induction ps generalizing d with
  | nil => rfl
  | cons p ps ih =>
    have rest := ih (d.dispatch host p).1
    simp only [replies, List.map_cons, turns, List.filterMap_cons, dispatch_masked] at rest ⊢
    rw [rest]

/-- Nothing that the host keeps of a task or told an engine is of use on the other side only. -/
structure Portable (d : Dispatcher σ) : Prop where
  task : ∀ s ∈ d.session, s.task.Portable
  calls : ∀ call ∈ d.calls, call.Portable

theorem portable_requested {payload : Bytes} {t : RegionTable} {output : Option Buffer}
    (named : requested? payload t = some (.ok output)) : ∀ b ∈ output, b.descriptor.Portable := by
  rw [requested?] at named
  split at named
  · cases named
  · cases named
    simp
  · rename_i request _
    cases imported : t.importBuffer request.output with
    | error e =>
      rw [imported] at named
      cases named
    | ok buffer =>
      rw [imported] at named
      cases named
      intro b member
      cases member
      exact RegionTable.portable_import imported

theorem portable_importPayload {payload : Bytes} {d : Dispatcher σ} {input : Option Buffer}
    (imported : d.importPayload payload = .ok input) : ∀ b ∈ input, b.descriptor.Portable := by
  rw [importPayload] at imported
  split at imported
  · cases imported
    simp
  · cases decoded : Descriptor.decode payload with
    | error e =>
      rw [decoded] at imported
      cases imported
    | ok descriptor =>
      rw [decoded] at imported
      cases own : d.regions.importBuffer descriptor with
      | error e =>
        simp only [own, bind, Except.bind] at imported
        cases imported
      | ok buffer =>
        simp only [own, bind, Except.bind, pure, Except.pure] at imported
        cases imported
        intro b member
        cases member
        exact RegionTable.portable_import own

theorem portable_failedReply {s : HostSession} {tag : Option UInt64} :
    ∀ m ∈ failedReply s tag, m.output.Portable := by
  intro m answered
  rw [failedReply] at answered
  split at answered
  · cases answered
    exact ⟨rfl, rfl⟩
  · cases answered

theorem portable_doneReply {output : Option Buffer}
    (imported : ∀ b ∈ output, b.descriptor.Portable) (feedback : Feedback) (tag : Option UInt64) :
    (doneReply output feedback tag).output.Portable := by
  cases output with
  | none => exact ⟨rfl, rfl⟩
  | some b => exact imported b rfl

/-- One more call, in a session whose task has portable buffers only. -/
theorem Portable.called {d after : Dispatcher σ} (portable : d.Portable) {made : List EngineCall}
    (calls : after.calls = d.calls ++ made)
    (handed : ∀ call ∈ made, call.Portable) (task : ∀ s ∈ after.session, s.task.Portable) :
    after.Portable where
  task := task
  calls call member := by
    rw [calls] at member
    exact (List.mem_append.1 member).elim (portable.calls call) (handed call)

theorem portable_opening {config : SessionConfig} {d after : Dispatcher σ} (portable : d.Portable)
    (opening : Opening host config d after) : after.Portable := by
  have plain : ∀ call ∈ [EngineCall.perform (.init config)], call.Portable := by
    simp [EngineCall.Portable, EngineCall.buffers]
  cases opening with
  | unsupported absent => exact ⟨portable.task, portable.calls⟩
  | refused created failed => exact portable.called rfl plain portable.task
  | opened created ready =>
    exact portable.called rfl plain (by simp [Task.Portable, Task.buffers])

theorem Orders.portable {p : Primitive} {s next : HostSession} {d : Dispatcher σ}
    {operation : EngineOperation} (orders : Orders p s d operation next)
    (task : s.task.Portable) : (EngineCall.perform operation).Portable ∧ next.task.Portable := by
  have bare (command : EngineControl) : (EngineCall.perform (.control command)).Portable := by
    simp [EngineCall.Portable, EngineCall.buffers]
  cases orders with
  | prepare kind => exact ⟨task, task⟩
  | @start input kind imported =>
    have fresh : ({ sequence := s.task.sequence + 1, input } : Task).Portable := fun b member =>
      portable_importPayload imported b (by simpa [Task.buffers] using member)
    exact ⟨fresh, fresh⟩
  | record known decoded merged | control kind => exact ⟨bare _, task⟩
  | reset kind | flush kind => exact ⟨by simp [EngineCall.Portable, EngineCall.buffers], task⟩

theorem Finish.portable {d : Dispatcher σ} {output : Option Buffer} {tag : Option UInt64}
    {s : HostSession} {result : Dispatcher σ × Option WaitReply} (portable : d.Portable)
    (opened : d.session = some s) (imported : ∀ b ∈ output, b.descriptor.Portable)
    (finish : Finish host output tag s d result) :
    result.1.Portable ∧ ∀ m ∈ result.2, m.output.Portable := by
  have input : ∀ b ∈ s.task.input, b.descriptor.Portable := fun b member =>
    portable.task s opened b (by simp [Task.buffers, Option.mem_def.1 member])
  have handed (times : Nat) :
      ∀ call ∈ List.replicate times (EngineCall.wait { s.task with output }), call.Portable := by
    intro call member b named
    rw [(List.mem_replicate.1 member).2] at named
    rcases List.mem_append.1 named with source | target
    · exact input b (Option.mem_toList.1 source)
    · exact imported b (Option.mem_toList.1 target)
  obtain ⟨times, _, _, calls⟩ := finish.calls_eq
  have kept {next : HostSession} (last : result.1.session = some next)
      (own : next.task = { s.task with output := none }) : result.1.Portable := by
    refine portable.called calls (handed times) fun other present b named => ?_
    cases last.symm.trans present
    rw [own] at named
    exact input b (by simpa [Task.buffers] using named)
  cases finish with
  | failed drain => exact ⟨kept rfl rfl, portable_failedReply⟩
  | replied drain mode =>
    refine ⟨kept rfl rfl, fun m answered => ?_⟩
    cases answered
    exact portable_doneReply imported _ tag
  | published drain mode => exact ⟨kept (session_publish _ _ _) rfl, by simp⟩

variable (host) in
theorem portable_dispatch {d : Dispatcher σ} (portable : d.Portable) (p : Primitive) :
    (d.dispatch host p).1.Portable ∧ ∀ m ∈ (d.dispatch host p).2.2, m.output.Portable := by
  have counted : d.countPrimitive.Portable := ⟨portable.task, portable.calls⟩
  have handled := dispatch_handling host p d
  generalize d.dispatch host p = result at handled ⊢
  cases handled with
  | dropped => exact ⟨⟨portable.task, portable.calls⟩, by simp⟩
  | unimported opened kind named =>
    exact ⟨⟨portable.task, portable.calls⟩, portable_failedReply⟩
  | opening closed kind opening => exact ⟨portable_opening counted opening, by simp⟩
  | farewell opened kind =>
    have gone : (d.countPrimitive.onDeinit host).session = none := session_attempt _ _
    have plain : (EngineCall.perform .deinit).Portable := by
      simp [EngineCall.Portable, EngineCall.buffers]
    refine ⟨counted.called (calls_attempt _ _) (by simpa using plain) ?_, by simp⟩
    rw [gone]
    simp
  | @ordered s next operation opened orders =>
    obtain ⟨handed, task⟩ := orders.portable (portable.task s opened)
    refine ⟨counted.called (calls_attempt _ _) (by simpa using handed) ?_, by simp⟩
    rw [session_attempt]
    intro other present
    cases present
    exact task
  | finished opened kind named finish =>
    exact finish.portable counted opened (portable_requested named)

variable (host) in
/-- Every call on an engine and every reply of a run. -/
theorem portable_run {d : Dispatcher σ} (portable : d.Portable) (ps : List Primitive) :
    (d.reached host ps).Portable ∧ ∀ m ∈ d.replies host ps, m.output.Portable := by
  have reached (front : List Primitive) : (d.reached host front).Portable :=
    reached_induction Portable (fun p d portable => (portable_dispatch host portable p).1) front
      portable
  refine ⟨reached ps, fun m member => ?_⟩
  obtain ⟨turn, handled, answered⟩ := List.mem_filterMap.1 member
  obtain ⟨front, _, _, same⟩ := mem_turns handled
  exact (portable_dispatch host (same ▸ reached front) turn.2).2 m answered

end Dispatcher

end CodecLink
