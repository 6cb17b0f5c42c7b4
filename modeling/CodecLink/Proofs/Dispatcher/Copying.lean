import CodecLink.Engine.Scripted
import CodecLink.Proofs.Dispatcher.TaskEnds

/-! A host whose engines copy their input. What such an engine holds ready was put there by a start
whose input could be taken; nothing else puts anything there, and what does not empty it leaves it
as it is. -/
namespace CodecLink

namespace Produced

/-- What goes out if the output is to hold it. -/
def cutTo (output : Option Buffer) (produced : Produced) : Produced :=
  match output with
  | none => produced
  | some buffer => produced.take buffer.descriptor.size.toNat

end Produced

namespace Passthrough

theorem perform_ready {e : Passthrough} (ready : e.initialized = true)
    (operation : EngineOperation) (t : RegionTable) : (e.perform operation t).1 = .ok () := by
  cases operation <;> simp [perform, ready]

theorem deliver_error {produced : Produced} {output : Option Buffer} {t : RegionTable}
    {e : EngineError} (refused : deliver produced output t = .error e) :
    ∃ reason, e = .failed reason := by
  unfold deliver at refused
  split at refused
  · cases refused
  · split at refused
    · cases refused
    · split at refused
      · cases refused
        exact ⟨_, rfl⟩
      · split at refused
        · cases refused
        · cases refused
          exact ⟨_, rfl⟩

theorem wait_loaded {e : Passthrough} (ready : e.initialized = true) {content : Produced}
    (loaded : e.pending = some content) (task : Task) (t : RegionTable) :
    e.wait task t =
      match deliver (content.cutTo task.output) task.output t with
      | .error fault => (.error fault, t, { e with pending := none })
      | .ok t => (.ok (.done (.ofNat (content.cutTo task.output).size)), t,
          { e with pending := none }) := by
  rw [wait, ready, loaded]
  rfl

theorem wait_empty {e : Passthrough} (ready : e.initialized = true) (empty : e.pending = none)
    (task : Task) (t : RegionTable) : e.wait task t = (.error .notReady, t, e) := by
  rw [wait, ready, empty]
  rfl

end Passthrough

namespace ScriptedEngine

variable {s : ScriptedEngine}

theorem take_unscripted (unscripted : s.outcomes = []) (method : EngineMethod) :
    s.take method = (.reach, s) := by
  rw [take, unscripted, next]
  cases s
  cases unscripted
  rfl

theorem perform_unscripted (unscripted : s.outcomes = []) (operation : EngineOperation)
    (t : RegionTable) :
    s.perform operation t = ((s.engine.perform operation t).1, t,
      { s with engine := (s.engine.perform operation t).2 }) := by
  rw [perform, take_unscripted unscripted]

theorem wait_unscripted (unscripted : s.outcomes = []) (task : Task) (t : RegionTable) :
    s.wait task t = ((s.engine.wait task t).1, (s.engine.wait task t).2.1,
      { s with engine := (s.engine.wait task t).2.2 }) := by
  rw [wait, take_unscripted unscripted]

end ScriptedEngine

namespace Dispatcher

variable {registry : EngineRegistry} {d : Dispatcher ScriptedEngine}

def slot (d : Dispatcher ScriptedEngine) : Option Produced := d.engine.engine.pending

/-- An engine is ready while a session is open, and holds nothing while none is. -/
structure Copies (d : Dispatcher ScriptedEngine) : Prop where
  unscripted : d.engine.outcomes = []
  opened : d.session.isSome → d.engine.engine.initialized = true
  closed : d.session = none → d.slot = none

/-- The dispatcher after an engine call that went well. -/
def did (operation : EngineOperation) (d : Dispatcher ScriptedEngine) : Dispatcher ScriptedEngine :=
  { d with
    engine.engine := (d.engine.engine.perform operation d.regions).2
    calls := d.calls ++ [.perform operation] }

theorem perform_ready (unscripted : d.engine.outcomes = [])
    (ready : d.engine.engine.initialized = true) (operation : EngineOperation) :
    d.perform (ScriptedEngine.host registry) operation = (.ok (), d.did operation) := by
  rw [perform]
  dsimp only [ScriptedEngine.host]
  rw [ScriptedEngine.perform_unscripted unscripted, Passthrough.perform_ready ready]
  rfl

theorem attempt_ready (unscripted : d.engine.outcomes = [])
    (ready : d.engine.engine.initialized = true) (operation : EngineOperation) :
    d.attempt (ScriptedEngine.host registry) operation = d.did operation := by
  rw [attempt, perform_ready unscripted ready]

/-- The dispatcher after its engine was asked for a result and handed out what it held. -/
def emptied (task : Task) (regions : RegionTable) (d : Dispatcher ScriptedEngine) :
    Dispatcher ScriptedEngine :=
  { d with regions, engine.engine.pending := none, calls := d.calls ++ [.wait task] }

theorem wait_loaded (unscripted : d.engine.outcomes = [])
    (ready : d.engine.engine.initialized = true) {content : Produced}
    (loaded : d.slot = some content)
    (task : Task) :
    d.wait (ScriptedEngine.host registry) task =
      match Passthrough.deliver (content.cutTo task.output) task.output d.regions with
      | .error fault => (.error fault, d.emptied task d.regions)
      | .ok regions => (.ok (.done (.ofNat (content.cutTo task.output).size)),
          d.emptied task regions) := by
  rw [wait]
  dsimp only [ScriptedEngine.host]
  rw [ScriptedEngine.wait_unscripted unscripted, Passthrough.wait_loaded ready loaded]
  cases Passthrough.deliver (content.cutTo task.output) task.output d.regions <;> rfl

/-- An engine that holds something gives a result at the first request. -/
theorem collect_loaded (unscripted : d.engine.outcomes = [])
    (ready : d.engine.engine.initialized = true) {content : Produced}
    (loaded : d.slot = some content)
    (task : Task) (more : Nat) :
    d.collect (ScriptedEngine.host registry) task more =
      d.wait (ScriptedEngine.host registry) task := by
  cases more with
  | zero => rfl
  | succ more =>
    rw [collect, wait_loaded unscripted ready loaded]
    cases delivered : Passthrough.deliver (content.cutTo task.output) task.output d.regions with
    | ok regions => rfl
    | error e =>
      obtain ⟨reason, rfl⟩ := Passthrough.deliver_error delivered
      rfl

variable (registry) in
theorem collect_empty (unscripted : d.engine.outcomes = [])
    (ready : d.engine.engine.initialized = true) (empty : d.slot = none) (task : Task)
    (more : Nat) :
    ∃ calls, d.collect (ScriptedEngine.host registry) task more =
      (.error .notReady, { d with calls }) := by
  have once (d : Dispatcher ScriptedEngine) (unscripted : d.engine.outcomes = [])
      (ready : d.engine.engine.initialized = true) (empty : d.slot = none) :
      d.wait (ScriptedEngine.host registry) task =
        (.error .notReady, { d with calls := d.calls ++ [.wait task] }) := by
    rw [wait]
    dsimp only [ScriptedEngine.host]
    rw [ScriptedEngine.wait_unscripted unscripted, Passthrough.wait_empty ready empty]
  induction more generalizing d with
  | zero => exact ⟨_, once d unscripted ready empty⟩
  | succ more ih =>
    rw [collect, once d unscripted ready empty]
    exact ih unscripted ready empty

theorem collected_completed {output : Option Buffer} {s : HostSession} {feedback : Feedback}
    (copies : d.Copies) (opened : d.session.isSome)
    (ended : d.collected (ScriptedEngine.host registry) output s = .completed feedback) :
    ∃ content regions, d.slot = some content ∧
      Passthrough.deliver (content.cutTo output) output d.regions = .ok regions ∧
      feedback = .done (.ofNat (content.cutTo output).size) := by
  have ready := copies.opened opened
  rw [collected_eq] at ended
  cases held : d.slot with
  | none =>
    obtain ⟨calls, same⟩ := collect_empty registry copies.unscripted ready held
      { s.task with output } (d.settings.maxTries - 1)
    rw [same] at ended
    cases ended
  | some content =>
    rw [collect_loaded copies.unscripted ready held, wait_loaded copies.unscripted ready held]
      at ended
    cases delivered : Passthrough.deliver (content.cutTo output) output d.regions with
    | error e =>
      rw [delivered] at ended
      cases ended
    | ok regions =>
      rw [delivered] at ended
      cases ended
      exact ⟨content, regions, rfl, delivered, rfl⟩

/-- A task that the engine has the content for goes through if the output can take it. -/
theorem finishTask_loaded {output : Option Buffer} {tag : Option UInt64} {s : HostSession}
    {content : Produced} {regions : RegionTable} (unscripted : d.engine.outcomes = [])
    (ready : d.engine.engine.initialized = true) (loaded : d.slot = some content)
    (delivered : Passthrough.deliver (content.cutTo output) output d.regions = .ok regions) :
    d.finishTask (ScriptedEngine.host registry) output tag s =
      let feedback := Feedback.done (.ofNat (content.cutTo output).size)
      let after := { d.emptied { s.task with output } regions with
        session := some { s with task.output := none, applied := s.applied.clearChanges }
        summary.tasks := d.summary.tasks + 1 }
      match s.config.completion with
      | .roundTrip _ => (after, some (doneReply output feedback tag))
      | .polling _ _ => (after.publish output feedback, none) := by
  rw [finishTask, collect_loaded unscripted ready loaded, wait_loaded unscripted ready loaded]
  simp only [delivered]
  rfl

/-- A start whose input the host can take, and what the engine then holds ready. -/
def Loads (p : Primitive) (d : Dispatcher ScriptedEngine) (content : Produced) : Prop :=
  p.kind? = some .start ∧ d.session.isSome ∧
    ∃ input, d.importPayload p.payload = .ok input ∧
      content = Passthrough.inputOf { input } d.regions

/-- What leaves the engine's content alone: a start is refused for its input, and a request for its
output. -/
structure Spares (registry : EngineRegistry) (p : Primitive) (d : Dispatcher ScriptedEngine) :
    Prop where
  start : p.kind? = some .start → ∃ e, d.importPayload p.payload = .error e
  wait : p.kind? = some .wait →
    ∀ ended, d.taskEnd? (ScriptedEngine.host registry) p.payload = some ended → ended = .unimported
  other : p.kind? ∉ [some .reset, some .flush, some .deinit]

theorem copies_kept {after : Dispatcher ScriptedEngine} (copies : d.Copies)
    (engine : after.engine = d.engine) (session : after.session.isSome = d.session.isSome) :
    after.Copies where
  unscripted := by rw [engine, copies.unscripted]
  opened there := by
    rw [engine]
    exact copies.opened (session ▸ there)
  closed gone := by
    rw [slot, engine]
    exact copies.closed (by
      rw [← Option.isNone_iff_eq_none, ← Option.not_isSome, ← session, gone]
      rfl)

theorem copies_open (unscripted : d.engine.outcomes = [])
    (ready : d.engine.engine.initialized = true) (opened : d.session.isSome) : d.Copies where
  unscripted := unscripted
  opened _ := ready
  closed gone := by
    rw [gone] at opened
    cases opened

theorem copies_ended (unscripted : d.engine.outcomes = []) :
    (did .deinit { d with session := none }).Copies where
  unscripted := unscripted
  opened := by simp [did]
  closed _ := rfl

variable (registry) in
theorem finishTask_slot (output : Option Buffer) (tag : Option UInt64) (s : HostSession)
    (copies : d.Copies) (opened : d.session.isSome) :
    (d.finishTask (ScriptedEngine.host registry) output tag s).1.Copies ∧
      (d.finishTask (ScriptedEngine.host registry) output tag s).1.slot = none := by
  have ready := copies.opened opened
  rw [finishTask]
  cases held : d.slot with
  | none =>
    obtain ⟨calls, same⟩ := collect_empty registry copies.unscripted ready held
      { s.task with output } (d.settings.maxTries - 1)
    rw [same]
    exact ⟨copies_open copies.unscripted ready rfl, held⟩
  | some content =>
    rw [collect_loaded copies.unscripted ready held, wait_loaded copies.unscripted ready held]
    cases Passthrough.deliver (content.cutTo output) output d.regions with
    | error e => exact ⟨copies_open copies.unscripted ready rfl, rfl⟩
    | ok regions =>
      dsimp only
      split
      · exact ⟨copies_open copies.unscripted ready rfl, rfl⟩
      · rw [publish]
        split
        · exact ⟨copies_open copies.unscripted ready rfl, rfl⟩
        · exact ⟨copies_open copies.unscripted ready rfl, rfl⟩

theorem openSession_supported {config : SessionConfig} (unscripted : d.engine.outcomes = [])
    (supported : registry.supports config.backend = true) :
    d.openSession (ScriptedEngine.host registry) config =
      { d with
        engine.engine := { initialized := true }
        calls := d.calls ++ [.perform (.init config)]
        session := some { config, applied := .blank config.backend.codec } } := by
  have opened : ScriptedEngine.perform (.init config) d.regions { d.engine with engine := {} } =
      (.ok (), d.regions, { d.engine with engine := { initialized := true } }) :=
    ScriptedEngine.perform_unscripted (s := { d.engine with engine := {} }) unscripted _ _
  simp only [openSession, perform, ScriptedEngine.host, supported, if_true]
  rw [opened]

theorem openSession_slot (config : SessionConfig) (copies : d.Copies) (closed : d.session = none) :
    (d.openSession (ScriptedEngine.host registry) config).Copies ∧
      (d.openSession (ScriptedEngine.host registry) config).slot = none := by
  cases supported : registry.supports config.backend with
  | false =>
    have refused : d.openSession (ScriptedEngine.host registry) config = d.countEngineError := by
      simp [openSession, ScriptedEngine.host, supported]
    rw [refused]
    exact ⟨copies_kept copies rfl rfl, copies.closed closed⟩
  | true =>
    rw [openSession_supported copies.unscripted supported]
    exact ⟨copies_open copies.unscripted rfl rfl, rfl⟩

variable (registry) in
theorem onInit_slot (payload : Bytes) (copies : d.Copies) (closed : d.session = none) :
    (d.onInit (ScriptedEngine.host registry) payload).Copies ∧
      (d.onInit (ScriptedEngine.host registry) payload).slot = none := by
  rw [onInit, closed]
  simp only [Option.isSome_none, Bool.false_eq_true, if_false]
  split
  · exact openSession_slot _ copies closed
  · split
    · exact ⟨copies_kept copies rfl rfl, copies.closed closed⟩
    · exact openSession_slot _ copies closed

theorem copies_did (copies : d.Copies) (opened : d.session.isSome) {operation : EngineOperation}
    (ongoing : ∀ config, operation ≠ .init config) (stays : operation ≠ .deinit) :
    (d.did operation).Copies := by
  have ready := copies.opened opened
  refine copies_open copies.unscripted ?_ opened
  cases operation with
  | init config => exact absurd rfl (ongoing config)
  | deinit => exact absurd rfl stays
  | _ => simp [did, Passthrough.perform, ready]

/-- What the engine holds after a primitive was loaded by it or had been there before. -/
def HoldsFrom (registry : EngineRegistry) (p : Primitive) (d after : Dispatcher ScriptedEngine) :
    Prop :=
  after.Copies ∧ ∀ content, after.slot = some content →
    Loads p d content ∨ Spares registry p d ∧ d.slot = some content

theorem holds_nothing {p : Primitive} {after : Dispatcher ScriptedEngine} (copies : after.Copies)
    (empty : after.slot = none) : HoldsFrom registry p d after :=
  ⟨copies, fun _ held => by cases empty.symm.trans held⟩

theorem holds_same {p : Primitive} {after : Dispatcher ScriptedEngine} (copies : after.Copies)
    (same : after.slot = d.slot) (spares : Spares registry p d) : HoldsFrom registry p d after :=
  ⟨copies, fun _ held => .inr ⟨spares, same ▸ held⟩⟩

theorem spares_quiet {p : Primitive}
    (quiet : p.kind? ∉ [some .start, some .wait, some .reset, some .flush, some .deinit]) :
    Spares registry p d := by
  simp only [List.mem_cons, List.not_mem_nil, or_false, not_or] at quiet
  refine ⟨fun same => absurd same quiet.1, fun same => absurd same quiet.2.1, ?_⟩
  simp [quiet]

theorem slot_did_quiet (copies : d.Copies) (opened : d.session.isSome) {operation : EngineOperation}
    (quiet : (∃ task, operation = .prepare task) ∨ ∃ command, operation = .control command) :
    (d.did operation).slot = d.slot := by
  have ready := copies.opened opened
  rcases quiet with ⟨task, rfl⟩ | ⟨command, rfl⟩ <;> simp [did, slot, Passthrough.perform, ready]

theorem onStart_holds {p : Primitive} {s : HostSession} (copies : d.Copies)
    (kind : p.kind? = some .start) (opened : d.session = some s) :
    HoldsFrom registry p d
      (d.countPrimitive.onStart (ScriptedEngine.host registry) p.payload s) := by
  have isOpen : d.session.isSome := by
    rw [opened]
    rfl
  have ready := copies.opened isOpen
  have same : d.countPrimitive.importPayload p.payload = d.importPayload p.payload := rfl
  rw [onStart, same]
  cases imported : d.importPayload p.payload with
  | error e =>
    refine holds_same (copies_kept copies rfl rfl) rfl ⟨fun _ => ⟨e, imported⟩, ?_, ?_⟩
    · simp [kind]
    · simp [kind]
  | ok input =>
    dsimp only
    rw [attempt_ready (by exact copies.unscripted) (by exact ready)]
    refine ⟨copies_did ?_ rfl (by simp) (by simp), fun content held => .inl ?_⟩
    · exact copies_open copies.unscripted ready rfl
    · refine ⟨kind, isOpen, input, imported, ?_⟩
      have loaded : (Passthrough.perform (.start { sequence := s.task.sequence + 1, input })
          d.regions d.engine.engine).2.pending = some content := held
      simp only [Passthrough.perform, ready, if_true, Option.some.injEq] at loaded
      exact loaded.symm

theorem onWait_holds {p : Primitive} {s : HostSession} (copies : d.Copies)
    (kind : p.kind? = some .wait) (opened : d.session = some s) :
    HoldsFrom registry p d
      (d.countPrimitive.onWait (ScriptedEngine.host registry) p.payload s).1 := by
  have counted : d.countPrimitive.Copies := copies_kept copies rfl rfl
  have isOpen : d.countPrimitive.session.isSome := by
    show d.session.isSome
    rw [opened]
    rfl
  have spares (unasked : ∀ ended, d.taskEnd? (ScriptedEngine.host registry) p.payload = some ended →
      ended = .unimported) : Spares registry p d := by
    refine ⟨by simp [kind], fun _ => unasked, by simp [kind]⟩
  have same : d.countPrimitive.regions = d.regions := rfl
  rw [onWait_eq, same]
  cases asked : requested? p.payload d.regions with
  | none =>
    refine holds_same (copies_kept copies rfl rfl) rfl (spares fun ended answer => ?_)
    simp [taskEnd?, asked] at answer
  | some imported =>
    cases imported with
    | error e =>
      refine holds_same (copies_kept copies rfl rfl) rfl (spares fun ended answer => ?_)
      simpa [taskEnd?, opened, asked, eq_comm] using answer
    | ok output =>
      obtain ⟨after, empty⟩ :=
        finishTask_slot registry output (tagOf p.payload) s counted isOpen
      exact holds_nothing after empty

theorem onDeinit_eq (unscripted : d.engine.outcomes = [])
    (ready : d.engine.engine.initialized = true) :
    d.onDeinit (ScriptedEngine.host registry) =
      { d.did .deinit with session := none, summary.deinit := true } := by
  have said : ({ d with session := none } : Dispatcher ScriptedEngine).attempt
      (ScriptedEngine.host registry) .deinit = { d with session := none }.did .deinit :=
    attempt_ready (d := { d with session := none }) unscripted ready .deinit
  rw [onDeinit, said]
  rfl

theorem onRecord_holds {p : Primitive} {kind : RecordKind} {s : HostSession} (copies : d.Copies)
    (opened : d.session = some s) (spares : Spares registry p d) :
    HoldsFrom registry p d
      (d.countPrimitive.onRecord (ScriptedEngine.host registry) kind p.payload s) := by
  have ready := copies.opened (by simp [opened])
  rw [onRecord]
  split
  · exact holds_same (copies_kept copies rfl rfl) rfl spares
  dsimp only
  split
  · exact holds_same (copies_kept copies rfl rfl) rfl spares
  · rename_i request applied _
    rw [attempt_ready (by exact copies.unscripted) (by exact ready)]
    have open_still : Copies { d.countPrimitive with session := some { s with applied } } :=
      copies_open copies.unscripted ready rfl
    exact holds_same (copies_did open_still rfl (by simp) (by simp))
      (slot_did_quiet open_still rfl (.inr ⟨_, rfl⟩)) spares

variable (registry) in
/-- What one primitive does to the engine's content. -/
theorem dispatch_holds (copies : d.Copies) (p : Primitive) :
    HoldsFrom registry p d (d.dispatch (ScriptedEngine.host registry) p).1 := by
  have counted : d.countPrimitive.Copies := copies_kept copies rfl rfl
  have dropped : d.countPrimitive.countDropped.Copies := copies_kept copies rfl rfl
  rw [dispatch]
  cases opened : d.session with
  | none =>
    have closed : d.countPrimitive.session = none := opened
    have empty := copies.closed opened
    rw [closed]
    cases p.kind? with
    | none => exact holds_nothing dropped empty
    | some kind =>
      cases kind with
      | init =>
        obtain ⟨after, vacant⟩ := onInit_slot registry p.payload counted closed
        exact holds_nothing after vacant
      | _ => exact holds_nothing dropped empty
  | some s =>
    have there : d.countPrimitive.session = some s := opened
    have isOpen : d.countPrimitive.session.isSome := by
      rw [there]
      rfl
    have ready := counted.opened isOpen
    have quietly (operation : EngineOperation) : d.countPrimitive.attempt
        (ScriptedEngine.host registry) operation = d.countPrimitive.did operation :=
      attempt_ready counted.unscripted ready operation
    rw [there]
    cases kind : p.kind? with
    | none => exact holds_same dropped rfl (spares_quiet (by simp [kind]))
    | some code =>
      cases code with
      | undefined => exact holds_same dropped rfl (spares_quiet (by simp [kind]))
      | init =>
        have refused : d.countPrimitive.onInit (ScriptedEngine.host registry) p.payload =
            d.countPrimitive.countDropped := by
          rw [onInit, isOpen]
          rfl
        dsimp only [route]
        rw [refused]
        exact holds_same dropped rfl (spares_quiet (by simp [kind]))
      | deinit =>
        dsimp only [route]
        rw [onDeinit_eq counted.unscripted ready]
        refine holds_nothing ⟨counted.unscripted, fun there => ?_, fun _ => rfl⟩ rfl
        cases there
      | regs =>
        dsimp only [route]
        rw [quietly]
        exact holds_same (copies_did counted isOpen (by simp) (by simp))
          (slot_did_quiet counted isOpen (.inl ⟨_, rfl⟩)) (spares_quiet (by simp [kind]))
      | start => exact onStart_holds copies kind opened
      | wait => exact onWait_holds copies kind opened
      | controlPrep | controlRc | controlCodec | controlSei =>
        exact onRecord_holds copies opened (spares_quiet (by simp [kind]))
      | control =>
        dsimp only [route]
        rw [quietly]
        exact holds_same (copies_did counted isOpen (by simp) (by simp))
          (slot_did_quiet counted isOpen (.inr ⟨_, rfl⟩)) (spares_quiet (by simp [kind]))
      | reset | flush =>
        dsimp only [route]
        rw [quietly]
        exact holds_nothing (copies_did counted isOpen (by simp) (by simp)) rfl

/-- The dispatcher after a run of primitives. -/
def handled (registry : EngineRegistry) (ps : List Primitive) (d : Dispatcher ScriptedEngine) :
    Dispatcher ScriptedEngine :=
  ps.foldl (fun d p => (d.dispatch (ScriptedEngine.host registry) p).1) d

/-- The engine's content is left alone all along a run. -/
def SparedBy (registry : EngineRegistry) : List Primitive → Dispatcher ScriptedEngine → Prop
  | [], _ => True
  | p :: ps, d =>
    Spares registry p d ∧ SparedBy registry ps (d.dispatch (ScriptedEngine.host registry) p).1

variable (registry) in
theorem handled_holds (copies : d.Copies) (ps : List Primitive) :
    (d.handled registry ps).Copies ∧ ∀ content, (d.handled registry ps).slot = some content →
      d.slot = some content ∧ SparedBy registry ps d ∨
        ∃ front q back, ps = front ++ q :: back ∧ Loads q (d.handled registry front) content ∧
          SparedBy registry back (d.handled registry (front ++ [q])) := by
  induction ps generalizing d with
  | nil => exact ⟨copies, fun content held => .inl ⟨held, trivial⟩⟩
  | cons p ps ih =>
    obtain ⟨copied, holds⟩ := dispatch_holds registry copies p
    obtain ⟨after, later⟩ := ih copied
    refine ⟨after, fun content held => ?_⟩
    rcases later content held with ⟨before, spared⟩ | ⟨front, q, back, rfl, loads, spared⟩
    · rcases holds content before with loads | ⟨spares, first⟩
      · exact .inr ⟨[], p, ps, rfl, loads, spared⟩
      · exact .inl ⟨first, spares, spared⟩
    · exact .inr ⟨p :: front, q, back, rfl, loads, spared⟩

end Dispatcher

end CodecLink
