import CodecLink.Proofs.Dispatcher.CheckedSteps
import CodecLink.Proofs.Dispatcher.Copying
import CodecLink.Proofs.Regions

/-! How far a dispatcher can be brought. One primitive adds at most one to whatever is counted and
to the commands that are kept, and what the regions and the engine hold fits into memory. -/
namespace CodecLink

open Checked (memoryLimit wordCount)

structure Region.Fits (r : Region) : Prop where
  content : r.data.length ≤ r.capacity
  capacity : r.capacity ≤ memoryLimit

namespace RegionTable

variable {t after : RegionTable}

def Fits (t : RegionTable) : Prop := ∀ r ∈ t.regions, r.Fits

theorem Fits.region? (fits : t.Fits) {id : RegionId} {r : Region} (here : t.region? id = some r) :
    r.Fits :=
  fits r (List.mem_of_getElem? here)

theorem Fits.modify (fits : t.Fits) (id : RegionId) {f : Region → Region}
    (keeps : ∀ r, t.region? id = some r → (f r).Fits) : (t.modify id f).Fits :=
  forall_modify fits id keeps

theorem Fits.publish (fits : t.Fits) (id : RegionId) (word : UInt32) : (t.publish id word).Fits :=
  fits.modify id fun _ here => ⟨(fits.region? here).content, (fits.region? here).capacity⟩

theorem Fits.write (fits : t.Fits) {id : RegionId} {bs : Bytes}
    (written : t.write id bs = .ok after) : after.Fits := by
  rw [write_ok written]
  refine fits.modify id fun r here => ⟨?_, (fits.region? here).capacity⟩
  rw [RegionTable.write, here] at written
  dsimp only at written
  rw [Region.write] at written
  split at written
  · cases written
  · exact Nat.not_lt.1 ‹_›

theorem Fits.insert (fits : t.Fits) {r : Region} (room : r.Fits) : (t.insert r).Fits := by
  intro other member
  rcases List.mem_append.1 member with old | new
  · exact fits other old
  · rw [List.mem_singleton.1 new]
    exact room

end RegionTable

namespace Passthrough

variable {t after : RegionTable}

theorem fits_deliver {produced : Produced} {output : Option Buffer} (fits : t.Fits)
    (delivered : deliver produced output t = .ok after) : after.Fits := by
  rw [deliver] at delivered
  cases target : output.bind (·.region) with
  | none =>
    rw [target] at delivered
    cases delivered
    exact fits
  | some id =>
    rw [target] at delivered
    dsimp only at delivered
    cases present : t.region? id with
    | none =>
      rw [present] at delivered
      cases delivered
      exact fits
    | some r =>
      rw [present] at delivered
      dsimp only at delivered
      split at delivered
      · cases delivered
      · cases written : t.write id produced.toBytes with
        | error e =>
          rw [written] at delivered
          cases delivered
        | ok next =>
          rw [written] at delivered
          cases delivered
          exact fits.write written

theorem fits_wait (task : Task) (fits : t.Fits) (e : Passthrough) : (e.wait task t).2.1.Fits := by
  rw [wait]
  split
  · exact fits
  · cases e.pending with
    | none => exact fits
    | some produced =>
      dsimp only
      split
      · exact fits
      · rename_i delivered
        exact fits_deliver fits delivered

/-- What a started task will produce is counted in a word. -/
theorem size_inputOf (task : Task) (fits : t.Fits) : (inputOf task t).size < wordCount := by
  rw [inputOf]
  cases task.input with
  | none => exact (by decide : 0 < wordCount)
  | some buffer =>
    dsimp only
    cases here : buffer.region.bind t.region? with
    | none => exact buffer.descriptor.size.toNat_lt
    | some r =>
      obtain ⟨id, -, here⟩ := Option.bind_eq_some_iff.1 here
      have room := fits.region? here
      calc ((r.data.take buffer.descriptor.size.toNat).length)
        _ ≤ r.data.length := List.length_take_le' _ _
        _ ≤ memoryLimit := Nat.le_trans room.content room.capacity
        _ < wordCount := by decide

theorem controls_perform (operation : EngineOperation) (e : Passthrough) :
    (e.perform operation t).2.controls.length ≤ e.controls.length + 1 := by
  cases operation with
  | prepare task | start task =>
    rw [perform]
    split <;> exact Nat.le_succ _
  | control command =>
    rw [perform]
    split
    · simp
    · exact Nat.le_succ _
  | _ => exact Nat.le_succ _

theorem controls_wait (task : Task) (e : Passthrough) :
    (e.wait task t).2.2.controls = e.controls := by
  rw [wait]
  split
  · rfl
  · cases e.pending with
    | none => rfl
    | some produced =>
      dsimp only
      split <;> rfl

end Passthrough

namespace ScriptedEngine

variable {t : RegionTable}

theorem regions_perform (operation : EngineOperation) (s : ScriptedEngine) :
    (s.perform operation t).2.1 = t := by
  rw [perform]
  rcases s.take (.ofOperation operation) with ⟨_ | _ | _, s⟩ <;> rfl

theorem engine_take (method : EngineMethod) (s : ScriptedEngine) :
    (s.take method).2.engine = s.engine := rfl

theorem controls_perform (operation : EngineOperation) (s : ScriptedEngine) :
    (s.perform operation t).2.2.engine.controls.length ≤ s.engine.controls.length + 1 := by
  rw [perform, ← engine_take (.ofOperation operation) s]
  rcases s.take (.ofOperation operation) with ⟨_ | _ | _, after⟩
  · exact Passthrough.controls_perform operation after.engine
  · exact Nat.le_succ _
  · exact Passthrough.controls_perform operation after.engine

theorem controls_wait (task : Task) (s : ScriptedEngine) :
    (s.wait task t).2.2.engine.controls = s.engine.controls := by
  rw [wait, ← engine_take .wait s]
  rcases s.take .wait with ⟨_ | _ | _, after⟩
  · exact Passthrough.controls_wait task after.engine
  · rfl
  · rfl

theorem fits_wait (task : Task) (fits : t.Fits) (s : ScriptedEngine) :
    (s.wait task t).2.1.Fits := by
  rw [wait]
  rcases s.take .wait with ⟨_ | _ | _, after⟩
  · exact Passthrough.fits_wait task fits after.engine
  · exact fits
  · exact fits

end ScriptedEngine

namespace Dispatcher

variable {registry : EngineRegistry} {d : Dispatcher ScriptedEngine}

def sequence (d : Dispatcher ScriptedEngine) : Nat :=
  (d.session.map (·.task.sequence.toNat)).getD 0

/-- All that is counted, and how many commands the engine keeps. -/
def counters (d : Dispatcher ScriptedEngine) : List Nat :=
  [ d.summary.primitives, d.summary.dropped, d.summary.engineErrors, d.summary.tasks, d.sequence,
    d.engine.engine.controls.length ]

theorem sequence_orders {p : Primitive} {s next : HostSession} {operation : EngineOperation}
    (orders : Orders p s d operation next) :
    next.task.sequence.toNat ≤ s.task.sequence.toNat + 1 := by
  cases orders with
  | start kind imported =>
    rw [UInt64.toNat_add]
    exact Nat.mod_le _ _
  | _ => exact Nat.le_succ _

theorem controls_waited (task : Task) (times : Nat) :
    (d.waited (ScriptedEngine.host registry) task times).engine.engine.controls =
      d.engine.engine.controls := by
  refine waited_induction task d
    (fun after => after.engine.engine.controls = d.engine.engine.controls) ?_ times rfl
  exact fun after same => (ScriptedEngine.controls_wait task after.engine).trans same

theorem fits_waited (task : Task) (times : Nat) (fits : d.regions.Fits) :
    (d.waited (ScriptedEngine.host registry) task times).regions.Fits := by
  refine waited_induction task d (fun after => after.regions.Fits) ?_ times fits
  exact fun after fits => ScriptedEngine.fits_wait task fits after.engine

variable (registry) in
theorem counters_attempt (operation : EngineOperation) (d : Dispatcher ScriptedEngine) :
    ∃ errors controls, errors ≤ d.summary.engineErrors + 1 ∧
      controls ≤ d.engine.engine.controls.length + 1 ∧
      (d.attempt (ScriptedEngine.host registry) operation).counters =
        [d.summary.primitives, d.summary.dropped, errors, d.summary.tasks, d.sequence,
          controls] := by
  have kept := ScriptedEngine.controls_perform (t := d.regions) operation d.engine
  rw [attempt_eq]
  cases (d.perform (ScriptedEngine.host registry) operation).1 with
  | ok _ => exact ⟨_, _, Nat.le_succ _, kept, rfl⟩
  | error e => exact ⟨_, _, Nat.le_refl _, kept, rfl⟩

theorem Opening.counters {config : SessionConfig} {after : Dispatcher ScriptedEngine}
    (opening : Opening (ScriptedEngine.host registry) config d after) (closed : d.session = none) :
    ∃ errors controls, errors ≤ d.summary.engineErrors + 1 ∧
      controls ≤ d.engine.engine.controls.length + 1 ∧
      after.counters =
        [d.summary.primitives, d.summary.dropped, errors, d.summary.tasks, 0, controls] := by
  have unopened : d.sequence = 0 := by
    rw [sequence, closed]
    rfl
  have fresh {engine : ScriptedEngine}
      (created : (ScriptedEngine.host registry).create config.backend d.engine = some engine) :
      (({ d with engine }.perform (ScriptedEngine.host registry) (.init config)
        ).2.engine.engine.controls.length ≤ d.engine.engine.controls.length + 1) := by
    have blank : engine.engine = {} := by
      simp only [ScriptedEngine.host] at created
      split at created
      · cases created
        rfl
      · cases created
    have kept := ScriptedEngine.controls_perform (t := d.regions) (.init config) engine
    rw [blank] at kept
    exact Nat.le_trans kept (Nat.succ_le_succ (Nat.zero_le _))
  cases opening with
  | unsupported absent =>
    exact ⟨_, _, Nat.le_refl _, Nat.le_succ _, congrArg (fun n => [_, _, _, _, n, _]) unopened⟩
  | refused created failed =>
    exact ⟨_, _, Nat.le_refl _, fresh created, congrArg (fun n => [_, _, _, _, n, _]) unopened⟩
  | opened created ready => exact ⟨_, _, Nat.le_succ _, fresh created, rfl⟩

theorem Finish.counters {output : Option Buffer} {tag : Option UInt64} {s : HostSession}
    {result : Dispatcher ScriptedEngine × Option WaitReply}
    (finish : Finish (ScriptedEngine.host registry) output tag s d result) :
    ∃ errors tasks, errors ≤ d.summary.engineErrors + 1 ∧ tasks ≤ d.summary.tasks + 1 ∧
      result.1.counters =
        [ d.summary.primitives, d.summary.dropped, errors, tasks, s.task.sequence.toNat,
          d.engine.engine.controls.length ] := by
  cases finish with
  | failed drain =>
    refine ⟨_, _, Nat.le_refl _, Nat.le_succ _, ?_⟩
    simp only [Dispatcher.counters, sequence, countEngineError, summary_waited, controls_waited]
    rfl
  | replied drain mode =>
    refine ⟨_, _, Nat.le_succ _, Nat.le_refl _, ?_⟩
    simp only [Dispatcher.counters, sequence, summary_waited, controls_waited]
    rfl
  | published drain mode =>
    refine ⟨_, _, Nat.le_succ _, Nat.le_refl _, ?_⟩
    simp only [Dispatcher.counters, sequence, summary_publish, session_publish, engine_publish,
      summary_waited, controls_waited]
    rfl

abbrev Rises (after before : List Nat) : Prop := List.Forall₂ (fun k m => k ≤ m + 1) after before

theorem rises_refl (counters : List Nat) : Rises counters counters :=
  List.forall₂_same.2 fun k _ => Nat.le_succ k

theorem bounded_of_rises {after before : List Nat} {n : Nat} (rises : Rises after before)
    (bounded : ∀ k ∈ before, k ≤ n) : ∀ k ∈ after, k ≤ n + 1 := by
  induction rises with
  | nil => simp
  | cons rise _ ih =>
    rw [List.forall_mem_cons] at bounded ⊢
    exact ⟨Nat.le_trans rise (Nat.succ_le_succ bounded.1), ih bounded.2⟩

variable (registry) in
/-- Handling a primitive counts nothing twice. -/
theorem counters_dispatch (p : Primitive) (d : Dispatcher ScriptedEngine) :
    Rises (d.dispatch (ScriptedEngine.host registry) p).1.counters d.counters := by
  have handled := dispatch_handling (ScriptedEngine.host registry) p d
  generalize d.dispatch (ScriptedEngine.host registry) p = result at handled ⊢
  have current {s : HostSession} (opened : d.session = some s) :
      d.sequence = s.task.sequence.toNat := by
    rw [sequence, opened]
    rfl
  cases handled with
  | dropped | unimported opened kind named =>
    exact .cons (Nat.le_refl _) (.cons (Nat.le_refl _) (rises_refl _))
  | opening closed kind opening =>
    obtain ⟨errors, controls, error_bound, control_bound, same⟩ :=
      opening.counters (by exact closed)
    rw [same]
    exact .cons (Nat.le_refl _) (.cons (Nat.le_succ _) (.cons error_bound
      (.cons (Nat.le_succ _) (.cons (Nat.zero_le _) (.cons control_bound .nil)))))
  | farewell opened kind =>
    obtain ⟨errors, controls, error_bound, control_bound, same⟩ :=
      counters_attempt registry .deinit { d.countPrimitive with session := none }
    have kept : (d.countPrimitive.onDeinit (ScriptedEngine.host registry)).counters = _ := same
    rw [kept]
    exact .cons (Nat.le_refl _) (.cons (Nat.le_succ _) (.cons error_bound
      (.cons (Nat.le_succ _) (.cons (Nat.zero_le _) (.cons control_bound .nil)))))
  | ordered opened orders =>
    obtain ⟨errors, controls, error_bound, control_bound, same⟩ := counters_attempt registry _ _
    have numbered := sequence_orders orders
    rw [← current opened] at numbered
    rw [same]
    exact .cons (Nat.le_refl _) (.cons (Nat.le_succ _) (.cons error_bound
      (.cons (Nat.le_succ _) (.cons numbered (.cons control_bound .nil)))))
  | finished opened kind named finish =>
    obtain ⟨errors, tasks, error_bound, task_bound, same⟩ := finish.counters
    rw [same, ← current opened]
    exact .cons (Nat.le_refl _) (.cons (Nat.le_succ _) (.cons error_bound
      (.cons task_bound (rises_refl _))))

variable (registry) in
theorem regions_attempt (operation : EngineOperation) (d : Dispatcher ScriptedEngine) :
    (d.attempt (ScriptedEngine.host registry) operation).regions = d.regions := by
  have kept : (d.perform (ScriptedEngine.host registry) operation).2.regions = d.regions :=
    ScriptedEngine.regions_perform operation d.engine
  rw [attempt_eq]
  cases (d.perform (ScriptedEngine.host registry) operation).1 with
  | ok _ => exact kept
  | error e => exact kept

theorem fits_publish (output : Option Buffer) (feedback : Feedback) (fits : d.regions.Fits) :
    (d.publish output feedback).regions.Fits := by
  rw [publish]
  split
  · exact fits
  · exact fits.publish _ _

variable (registry) in
theorem fits_dispatch (p : Primitive) (fits : d.regions.Fits) :
    (d.dispatch (ScriptedEngine.host registry) p).1.regions.Fits := by
  have handled := dispatch_handling (ScriptedEngine.host registry) p d
  generalize d.dispatch (ScriptedEngine.host registry) p = result at handled ⊢
  cases handled with
  | dropped | unimported opened kind named => exact fits
  | opening closed kind opening =>
    have kept (engine : ScriptedEngine) (config : SessionConfig) :
        ({ d.countPrimitive with engine }.perform (ScriptedEngine.host registry)
          (.init config)).2.regions = d.regions :=
      ScriptedEngine.regions_perform (.init config) engine
    cases opening with
    | unsupported absent => exact fits
    | refused created failed | opened created ready => exact (kept _ _).symm ▸ fits
  | farewell opened kind =>
    have kept := regions_attempt registry .deinit { d.countPrimitive with session := none }
    exact kept.symm ▸ fits
  | ordered opened orders => exact (regions_attempt registry _ _).symm ▸ fits
  | finished opened kind named finish =>
    cases finish with
    | failed drain | replied drain mode => exact fits_waited _ _ fits
    | published drain mode => exact fits_publish _ _ (fits_waited _ _ fits)

/-- What so many events can have brought a dispatcher to. -/
structure Within (n : Nat) (d : Dispatcher ScriptedEngine) : Prop where
  copies : d.Copies
  counters : ∀ k ∈ d.counters, k ≤ n
  regions : d.regions.Fits
  slot : ∀ content, d.slot = some content → content.size < wordCount

variable (registry) in
theorem Within.dispatch {n : Nat} (within : d.Within n) (p : Primitive) :
    (d.dispatch (ScriptedEngine.host registry) p).1.Within (n + 1) where
  copies := (dispatch_holds registry within.copies p).1
  counters := bounded_of_rises (counters_dispatch registry p d) within.counters
  regions := fits_dispatch registry p within.regions
  slot content held := by
    rcases (dispatch_holds registry within.copies p).2 content held with
      ⟨-, -, input, -, rfl⟩ | ⟨-, before⟩
    · exact Passthrough.size_inputOf _ within.regions
    · exact within.slot content before

end Dispatcher

end CodecLink
