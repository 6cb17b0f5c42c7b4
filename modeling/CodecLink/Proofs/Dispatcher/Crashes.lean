import CodecLink.Proofs.Dispatcher.CheckedCalls

/-! When a worker comes to a step that it cannot take. Of all that a peer can send, only two things
bring it there: a heap input larger than memory, and a request for a result that has more bits than
a word can count. -/
namespace CodecLink

open Checked

namespace Dispatcher

variable {registry : EngineRegistry} {d : Dispatcher ScriptedEngine} {n : Nat}

/-- A start with a heap input that is larger than memory. -/
def startCrash? (payload : Bytes) (d : Dispatcher ScriptedEngine) : Option Crash :=
  match d.importPayload payload with
  | .ok (some buffer) =>
    if buffer.region = none ∧ memoryLimit < buffer.descriptor.size.toNat then some .capacity
    else none
  | _ => none

/-- A result that has more bits than a word can count. -/
def resultCrash? (output : Option Buffer) (d : Dispatcher ScriptedEngine) : Option Crash :=
  match d.slot with
  | none => none
  | some content =>
    if (content.cutTo output).size * 8 < wordCount then none else some .overflow

/-- A request for such a result. -/
def waitCrash? (payload : Bytes) (d : Dispatcher ScriptedEngine) : Option Crash :=
  match requested? payload d.regions with
  | some (.ok output) => d.resultCrash? output
  | _ => none

/-- The crash that handling a primitive comes to. -/
def crash? (p : Primitive) (d : Dispatcher ScriptedEngine) : Option Crash :=
  match d.session, p.kind? with
  | some _, some .start => d.startCrash? p.payload
  | some _, some .wait => d.waitCrash? p.payload
  | _, _ => none

theorem Within.room (within : d.Within n) (lasting : n ≤ 2 ^ 55) {counter : Nat}
    (member : counter ∈ d.counters) : counter + 1 < wordCount := by
  have bounded := within.counters counter member
  rw [wordCount]
  omega

theorem Within.growth (within : d.Within n) (lasting : n ≤ 2 ^ 55) :
    Passthrough.commandSize * max 4 (2 * d.engine.engine.controls.length) ≤ memoryLimit := by
  have bounded := within.counters d.engine.engine.controls.length (by simp [Dispatcher.counters])
  rw [Passthrough.commandSize, memoryLimit]
  omega

theorem Within.through_dropped (within : d.Within n) (lasting : n ≤ 2 ^ 55) :
    Through d.countDroppedChecked :=
  through_counted (within.room lasting (by simp [Dispatcher.counters])) _

theorem Within.through_engineError (within : d.Within n) (lasting : n ≤ 2 ^ 55)
    (after : Dispatcher ScriptedEngine) (same : after.summary = d.summary) :
    Through after.countEngineErrorChecked := by
  refine through_counted ?_ _
  rw [same]
  exact within.room lasting (by simp [Dispatcher.counters])

theorem Within.countPrimitive (within : d.Within n) : d.countPrimitive.Within (n + 1) where
  copies := copies_kept within.copies rfl rfl
  counters := by
    refine bounded_of_rises ?_ within.counters
    exact .cons (Nat.le_refl _) (rises_refl _)
  regions := within.regions
  slot := within.slot

theorem Within.ready (within : d.Within n) {s : HostSession} (opened : d.session = some s) :
    d.engine.engine.initialized = true :=
  within.copies.opened (by rw [opened]; rfl)

theorem Within.through_attempt (within : d.Within n) {s : HostSession}
    (opened : d.session = some s) {operation : EngineOperation}
    (affords : d.engine.engine.Affords operation d.regions) (session : Option HostSession) :
    Through (({ d with session } : Dispatcher ScriptedEngine).attemptChecked
      (ScriptedEngine.checkedHost registry) operation) :=
  Dispatcher.through_attempt (d := { d with session }) within.copies.unscripted
    (within.ready opened) affords

theorem Within.attempt_crashes (within : d.Within n) {s : HostSession} (opened : d.session = some s)
    (task : Task) (vast : memoryLimit < Passthrough.inputSize task.input d.regions)
    (session : Option HostSession) :
    ({ d with session } : Dispatcher ScriptedEngine).attemptChecked
      (ScriptedEngine.checkedHost registry) (.start task) = .error .capacity := by
  have engine : d.engine.performChecked (.start task) d.regions = .error .capacity := by
    rw [ScriptedEngine.performChecked_unscripted within.copies.unscripted,
      Passthrough.perform_crashes (within.ready opened) vast]
    rfl
  rw [attemptChecked, performChecked]
  dsimp only [ScriptedEngine.checkedHost]
  rw [engine]
  rfl

theorem Within.through_finishTask (within : d.Within n) (lasting : n ≤ 2 ^ 55) {s : HostSession}
    (opened : d.session = some s) {output : Option Buffer} {tag : Option UInt64}
    (short : ∀ content, d.slot = some content → (content.cutTo output).size * 8 < wordCount) :
    Through (d.finishTaskChecked (ScriptedEngine.checkedHost registry) output tag s) := by
  refine (through_collect within.copies.unscripted (within.ready opened) _ short).bind
    fun result same => ?_
  have summary : result.2.summary = d.summary := by
    rw [gives_collect (ScriptedEngine.checkedHost_refines registry) _ _ d result same]
    obtain ⟨calls, -, asked⟩ := collect_drain (ScriptedEngine.host registry)
      { s.task with output } d
    rw [asked, summary_waited]
  rcases result with ⟨e | feedback, after⟩
  · refine Through.bind (within.through_engineError lasting _ ?_) fun _ _ => through_ok _
    exact summary
  · have room : after.summary.tasks + 1 < wordCount := by
      rw [summary]
      exact within.room lasting (by simp [Dispatcher.counters])
    refine Through.bind ⟨_, add_ok room⟩ fun _ _ => ?_
    dsimp only
    cases s.config.completion with
    | roundTrip timeoutMs => exact through_ok _
    | polling intervalMs maxPolls => exact through_ok _

theorem finishTask_crashes {output : Option Buffer} {tag : Option UInt64} {s : HostSession}
    (crashes : d.waitChecked (ScriptedEngine.checkedHost registry) { s.task with output } =
      .error .overflow) :
    d.finishTaskChecked (ScriptedEngine.checkedHost registry) output tag s = .error .overflow := by
  rw [finishTaskChecked, collect_crashes crashes]
  rfl

theorem Within.through_openSession (within : d.Within n) (lasting : n ≤ 2 ^ 55)
    (config : SessionConfig) :
    Through (d.openSessionChecked (ScriptedEngine.checkedHost registry) config) := by
  rw [openSessionChecked]
  cases created : (ScriptedEngine.checkedHost registry).create config.backend d.engine with
  | none => exact within.through_engineError lasting d rfl
  | some engine =>
    dsimp only
    have fresh : engine.outcomes = [] := by
      simp only [ScriptedEngine.checkedHost, ScriptedEngine.host] at created
      split at created
      · cases created
        exact within.copies.unscripted
      · cases created
    have affords : engine.engine.Affords (.init config) d.regions := trivial
    refine (through_perform (d := { d with engine }) fresh affords).bind fun result same => ?_
    have summary : result.2.summary = d.summary := by
      rw [gives_perform (ScriptedEngine.checkedHost_refines registry) _ _ result same]
      rfl
    rcases result with ⟨_ | _, after⟩
    · exact within.through_engineError lasting after summary
    · exact through_ok _

theorem Within.through_onInit (within : d.Within n) (lasting : n ≤ 2 ^ 55) (payload : Bytes) :
    Through (d.onInitChecked (ScriptedEngine.checkedHost registry) payload) := by
  rw [onInitChecked]
  split
  · exact within.through_dropped lasting
  · split
    · exact within.through_openSession lasting _
    · cases SessionConfig.ofPayload? payload with
      | none => exact within.through_dropped lasting
      | some config => exact within.through_openSession lasting config

theorem Within.through_onDeinit (within : d.Within n) {s : HostSession}
    (opened : d.session = some s) :
    Through (d.onDeinitChecked (ScriptedEngine.checkedHost registry)) := by
  have affords : d.engine.engine.Affords .deinit d.regions := trivial
  exact (within.through_attempt opened affords none).bind fun _ _ => through_ok _

theorem Within.through_onRecord (within : d.Within n) (lasting : n ≤ 2 ^ 55) {s : HostSession}
    (opened : d.session = some s) (kind : RecordKind) (payload : Bytes) :
    Through (d.onRecordChecked (ScriptedEngine.checkedHost registry) kind payload s) := by
  rw [onRecordChecked]
  split
  · exact within.through_dropped lasting
  rw [ConfigRequest.decodeChecked_eq, ok_bind]
  split
  · exact within.through_dropped lasting
  · rename_i request applied _
    have affords : d.engine.engine.Affords (.control (.configure request)) d.regions :=
      within.growth lasting
    exact within.through_attempt opened affords (some { s with applied })

theorem importPayload_some {payload : Bytes} {buffer : Buffer}
    (imported : d.importPayload payload = .ok (some buffer)) :
    ∃ descriptor, d.regions.importBuffer descriptor = .ok buffer := by
  rw [importPayload] at imported
  split at imported
  · cases imported
  · cases decoded : Descriptor.decode payload with
    | error e =>
      rw [decoded] at imported
      cases imported
    | ok descriptor =>
      refine ⟨descriptor, ?_⟩
      rw [decoded] at imported
      cases named : d.regions.importBuffer descriptor with
      | error e =>
        simp only [bind, Except.bind, named] at imported
        cases imported
      | ok other =>
        simp only [bind, Except.bind, named] at imported
        cases imported
        rfl

theorem Within.onStartChecked_eq (within : d.Within n) (lasting : n ≤ 2 ^ 55) {s : HostSession}
    (opened : d.session = some s) (payload : Bytes) :
    d.onStartChecked (ScriptedEngine.checkedHost registry) payload s =
      outcome (d.startCrash? payload) (d.onStart (ScriptedEngine.host registry) payload s) := by
  have gives := gives_onStart (ScriptedEngine.checkedHost_refines registry) payload s d
  have numbered : Through (increment s.task.sequence) :=
    through_increment (within.room lasting (by simp [Dispatcher.counters, sequence, opened]))
  have affordable {input : Option Buffer} (imported : d.importPayload payload = .ok input)
      (room : Passthrough.inputSize input d.regions ≤ memoryLimit) :
      Through (d.onStartChecked (ScriptedEngine.checkedHost registry) payload s) := by
    rw [onStartChecked, importPayloadChecked_eq, ok_bind, imported]
    refine numbered.bind fun sequence _ => ?_
    have affords : d.engine.engine.Affords (.start { sequence, input }) d.regions := room
    exact within.through_attempt opened affords (some { s with task := { sequence, input } })
  rw [startCrash?]
  cases imported : d.importPayload payload with
  | error e =>
    refine gives.eq ?_
    rw [onStartChecked, importPayloadChecked_eq, ok_bind, imported]
    exact within.through_dropped lasting
  | ok input =>
    cases input with
    | none => exact gives.eq (affordable imported (Nat.zero_le _))
    | some buffer =>
      dsimp only
      split
      · rename_i vast
        rw [onStartChecked, importPayloadChecked_eq, ok_bind, imported]
        obtain ⟨sequence, same⟩ := numbered
        have demand : memoryLimit < Passthrough.inputSize (some buffer) d.regions := by
          rw [Passthrough.inputSize_heap vast.1]
          exact vast.2
        dsimp only
        rw [same, ok_bind]
        exact within.attempt_crashes opened ⟨sequence, some buffer, none⟩ demand _
      · rename_i small
        obtain ⟨descriptor, named⟩ := importPayload_some imported
        refine gives.eq (affordable imported ?_)
        rcases RegionTable.importBuffer_region named with heap | ⟨id, r, shared, here, -⟩
        · rw [Passthrough.inputSize_heap heap]
          exact Nat.not_lt.1 fun vast => small ⟨heap, vast⟩
        · have fits := within.regions.region? here
          rw [Passthrough.inputSize_shared shared here]
          exact Nat.le_trans fits.content fits.capacity

theorem Within.finishTaskChecked_eq (within : d.Within n) (lasting : n ≤ 2 ^ 55) {s : HostSession}
    (opened : d.session = some s) {output : Option Buffer} (tag : Option UInt64)
    (deliverable : ∀ content : Produced, ∃ regions,
      Passthrough.deliver (content.cutTo output) output d.regions = .ok regions) :
    d.finishTaskChecked (ScriptedEngine.checkedHost registry) output tag s =
      outcome (d.resultCrash? output)
        (d.finishTask (ScriptedEngine.host registry) output tag s) := by
  have gives := gives_finishTask (ScriptedEngine.checkedHost_refines registry) output tag s d
  rw [resultCrash?]
  cases held : d.slot with
  | none =>
    refine gives.eq (within.through_finishTask lasting opened fun content other => ?_)
    cases held.symm.trans other
  | some content =>
    dsimp only
    split
    · rename_i short
      refine gives.eq (within.through_finishTask lasting opened fun other same => ?_)
      cases held.symm.trans same
      exact short
    · rename_i long
      obtain ⟨regions, delivered⟩ := deliverable content
      exact finishTask_crashes (wait_crashes within.copies.unscripted (within.ready opened) held
        (within.slot content held) delivered long)

theorem Within.onWaitChecked_eq (within : d.Within n) (lasting : n ≤ 2 ^ 55) {s : HostSession}
    (opened : d.session = some s) (payload : Bytes) :
    d.onWaitChecked (ScriptedEngine.checkedHost registry) payload s =
      outcome (d.waitCrash? payload) (d.onWait (ScriptedEngine.host registry) payload s) := by
  have gives := gives_onWait (ScriptedEngine.checkedHost_refines registry) payload s d
  rw [onWaitChecked, decodeWaitChecked_eq, ok_bind] at gives ⊢
  rw [waitCrash?, requested?]
  rw [onWait] at gives ⊢
  cases asked : decodeWait payload with
  | error e =>
    rw [asked] at gives
    exact gives.eq ((within.through_dropped lasting).bind fun _ _ => through_ok _)
  | ok request =>
    cases request with
    | none => exact within.finishTaskChecked_eq lasting opened none fun content => ⟨d.regions, rfl⟩
    | some request =>
      rw [asked] at gives
      dsimp only at gives ⊢
      cases imported : d.regions.importBuffer request.output with
      | error e =>
        rw [imported] at gives
        exact gives.eq ((within.through_dropped lasting).bind fun _ _ => through_ok _)
      | ok buffer =>
        exact within.finishTaskChecked_eq lasting opened request.tag fun content =>
          Passthrough.deliver_imported imported content

theorem Within.through_onControl (within : d.Within n) (lasting : n ≤ 2 ^ 55) {s : HostSession}
    (opened : d.session = some s) {payload : Bytes} (room : payload.length ≤ memoryLimit) :
    Through (d.onControlChecked (ScriptedEngine.checkedHost registry) payload) := by
  have affords : d.engine.engine.Affords (.control (.raw payload)) d.regions :=
    ⟨room, within.growth lasting⟩
  exact (through_allocate room).bind fun _ _ => within.through_attempt opened affords d.session

theorem Within.routeChecked_eq (within : d.Within n) (lasting : n ≤ 2 ^ 55) {s : HostSession}
    (opened : d.session = some s) {p : Primitive} {kind : PrimitiveCode}
    (known : p.kind? = some kind) (room : p.payload.length ≤ memoryLimit) :
    d.routeChecked (ScriptedEngine.checkedHost registry) kind p.payload s =
      outcome (d.crash? p) (d.route (ScriptedEngine.host registry) kind p.payload s) := by
  have gives := gives_route (ScriptedEngine.checkedHost_refines registry) kind p.payload s d
  have performed (operation : EngineOperation)
      (affords : d.engine.engine.Affords operation d.regions) :
      Through (d.attemptChecked (ScriptedEngine.checkedHost registry) operation) :=
    within.through_attempt opened affords d.session
  rw [crash?, opened, known]
  cases kind with
  | start =>
    exact (congrArg (Except.map _) (within.onStartChecked_eq lasting opened p.payload)).trans
      (map_outcome _ _ _)
  | wait =>
    exact (congrArg (Except.map _) (within.onWaitChecked_eq lasting opened p.payload)).trans
      (map_outcome _ _ _)
  | undefined => exact gives.eq ((within.through_dropped lasting).map _)
  | init => exact gives.eq ((within.through_onInit lasting p.payload).map _)
  | deinit => exact gives.eq ((within.through_onDeinit opened).map _)
  | regs => exact gives.eq ((performed (.prepare s.task) trivial).map _)
  | controlPrep => exact gives.eq ((within.through_onRecord lasting opened .prep p.payload).map _)
  | controlRc => exact gives.eq ((within.through_onRecord lasting opened .rc p.payload).map _)
  | controlCodec => exact gives.eq ((within.through_onRecord lasting opened .codec p.payload).map _)
  | controlSei => exact gives.eq ((within.through_onRecord lasting opened .sei p.payload).map _)
  | control => exact gives.eq ((within.through_onControl lasting opened room).map _)
  | reset => exact gives.eq ((performed .reset trivial).map _)
  | flush => exact gives.eq ((performed .flush trivial).map _)

theorem Within.dispatchChecked_eq (within : d.Within n) (lasting : n < 2 ^ 55) {p : Primitive}
    (room : p.payload.length ≤ memoryLimit) :
    d.dispatchChecked (ScriptedEngine.checkedHost registry) p =
      outcome (d.crash? p) (d.dispatch (ScriptedEngine.host registry) p) := by
  have gives := gives_dispatch (ScriptedEngine.checkedHost_refines registry) p d
  have counted : Checked.counted d.summary.primitives d.countPrimitive = .ok d.countPrimitive :=
    (gives_counted _ _).eq
      (through_counted (within.room (Nat.le_of_lt lasting) (by simp [Dispatcher.counters])) _)
  have within := within.countPrimitive
  have dropped : Through d.countPrimitive.countDroppedChecked := within.through_dropped lasting
  rw [dispatchChecked, counted, ok_bind] at gives ⊢
  cases known : p.kind? with
  | none =>
    have calm : d.crash? p = none := by
      rw [crash?, known]
      cases d.session <;> rfl
    rw [known] at gives
    rw [calm]
    exact gives.eq (dropped.bind fun _ _ => through_ok _)
  | some kind =>
    cases opened : d.session with
    | none =>
      have closed : d.countPrimitive.session = none := opened
      have calm : d.crash? p = none := by
        rw [crash?, opened]
      rw [known, closed] at gives
      rw [calm, closed]
      refine gives.eq ?_
      cases kind with
      | init => exact (within.through_onInit lasting p.payload).bind fun _ _ => through_ok _
      | _ => exact dropped.bind fun _ _ => through_ok _
    | some s =>
      have there : d.countPrimitive.session = some s := opened
      rw [there, dispatch_open known opened]
      exact within.routeChecked_eq lasting there known room

end Dispatcher

end CodecLink
