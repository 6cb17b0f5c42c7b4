import CodecLink.Proofs.Dispatcher.Bounds
import CodecLink.Proofs.Dispatcher.Configuration
import CodecLink.Proofs.Region.Containment

/-! A dispatcher whose engines copy, in a table of regions that others use as well. Over every run
contents stay within their regions, and of all that a primitive can do only the completion of a task
touches a region: that of the output, and no further than the output says. -/
namespace CodecLink

/-- What happens to a dispatcher, or to the table that it shares with others. -/
inductive SharedEvent
  | table (call : TableCall)
  | primitive (p : Primitive)
  | released

namespace Dispatcher

variable {registry : EngineRegistry} {d : Dispatcher ScriptedEngine}

def met (registry : EngineRegistry) (d : Dispatcher ScriptedEngine) :
    SharedEvent → Dispatcher ScriptedEngine
  | .table call => { d with regions := d.regions.called call }
  | .primitive p => (d.dispatch (ScriptedEngine.host registry) p).1
  | .released => d.release (ScriptedEngine.host registry)

def course (registry : EngineRegistry) (events : List SharedEvent)
    (d : Dispatcher ScriptedEngine) : Dispatcher ScriptedEngine :=
  events.foldl (met registry) d

/-- What a request names is a buffer that the table holds. -/
theorem holds_requested {payload : Bytes} {t : RegionTable} {output : Option Buffer}
    (named : requested? payload t = some (.ok output)) : ∀ buffer ∈ output, t.Holds buffer := by
  intro buffer given
  rw [requested?] at named
  split at named
  · cases named
  · cases named
    cases given
  · rename_i request _
    cases imported : t.importBuffer request.output with
    | error e =>
      rw [imported] at named
      cases named
    | ok own =>
      rw [imported] at named
      cases named
      cases given
      exact RegionTable.importBuffer_holds imported

theorem filled_publish {t : RegionTable} {output : Option Buffer} {content : Produced}
    (filled : t.Filled output content d.regions) (feedback : Feedback) :
    t.Filled output content (d.publish output feedback).regions := by
  rw [publish]
  split
  · exact filled
  · rename_i attached
    exact filled.publish attached _

section Finishing

variable {output : Option Buffer} {s : HostSession} {content : Produced}

theorem collected_empty (copies : d.Copies) (opened : d.session.isSome) (empty : d.slot = none) :
    d.collected (ScriptedEngine.host registry) output s = .failed .notReady := by
  obtain ⟨calls, asked⟩ := collect_empty registry copies.unscripted (copies.opened opened) empty
    { s.task with output } (d.settings.maxTries - 1)
  rw [collected_eq, asked]
  rfl

/-- Where nothing was started, nothing is written. -/
theorem regions_finishTask_empty (copies : d.Copies) (opened : d.session.isSome)
    (empty : d.slot = none) (tag : Option UInt64) :
    (d.finishTask (ScriptedEngine.host registry) output tag s).1.regions = d.regions := by
  obtain ⟨calls, asked⟩ := collect_empty registry copies.unscripted (copies.opened opened) empty
    { s.task with output } (d.settings.maxTries - 1)
  rw [finishTask, asked]
  rfl

theorem collected_loaded (copies : d.Copies) (opened : d.session.isSome)
    (loaded : d.slot = some content) (held : ∀ buffer ∈ output, d.regions.Holds buffer) :
    d.collected (ScriptedEngine.host registry) output s =
      .completed (.done (.ofNat (content.cutTo output).size)) := by
  have ready := copies.opened opened
  obtain ⟨after, delivered, -⟩ := Passthrough.filled_held held content
  rw [collected_eq, collect_loaded copies.unscripted ready loaded,
    wait_loaded copies.unscripted ready loaded]
  simp only [delivered]
  rfl

/-- What was started lies in the output when the task is finished. -/
theorem filled_finishTask (copies : d.Copies) (opened : d.session.isSome)
    (loaded : d.slot = some content) (held : ∀ buffer ∈ output, d.regions.Holds buffer)
    (tag : Option UInt64) :
    d.regions.Filled output (content.cutTo output)
      (d.finishTask (ScriptedEngine.host registry) output tag s).1.regions := by
  obtain ⟨after, delivered, filled⟩ := Passthrough.filled_held held content
  rw [finishTask_loaded copies.unscripted (copies.opened opened) loaded delivered]
  dsimp only
  cases s.config.completion with
  | roundTrip timeoutMs => exact filled
  | polling intervalMs maxPolls => exact filled_publish filled _

end Finishing

/-- What a primitive may do to the regions: nothing, unless it asks for a task that is completed;
then the content lies in the output. -/
inductive Touches (registry : EngineRegistry) (p : Primitive) (d : Dispatcher ScriptedEngine) :
    Prop
  | kept (unfinished : completes (ScriptedEngine.host registry) (d, p) = false)
      (same : (d.dispatch (ScriptedEngine.host registry) p).1.regions = d.regions)
  | filled {output : Option Buffer} {content : Produced}
      (named : requested? p.payload d.regions = some (.ok output))
      (loaded : d.slot = some content)
      (finished : completes (ScriptedEngine.host registry) (d, p) = true)
      (ended : d.taskEnd? (ScriptedEngine.host registry) p.payload =
        some (.completed (.done (.ofNat (content.cutTo output).size))))
      (filled : d.regions.Filled output (content.cutTo output)
        (d.dispatch (ScriptedEngine.host registry) p).1.regions)

variable (registry) in
theorem regions_dispatch_other {p : Primitive} (other : p.kind? ≠ some .wait)
    (d : Dispatcher ScriptedEngine) :
    (d.dispatch (ScriptedEngine.host registry) p).1.regions = d.regions := by
  have handled := dispatch_handling (ScriptedEngine.host registry) p d
  generalize d.dispatch (ScriptedEngine.host registry) p = result at handled ⊢
  cases handled with
  | dropped => rfl
  | unimported opened kind | finished opened kind => exact absurd kind other
  | opening closed kind opening =>
    have kept (engine : ScriptedEngine) (config : SessionConfig) :
        ({ d.countPrimitive with engine }.perform (ScriptedEngine.host registry)
          (.init config)).2.regions = d.regions :=
      ScriptedEngine.regions_perform (.init config) engine
    cases opening with
    | unsupported absent => rfl
    | refused created failed | opened created ready => exact kept _ _
  | farewell opened kind =>
    exact regions_attempt registry .deinit { d.countPrimitive with session := none }
  | ordered opened orders => exact regions_attempt registry _ _

/-- Of a request whose output is there it depends on what was started before. -/
theorem touches_finishing {p : Primitive} {s : HostSession} {output : Option Buffer}
    (copies : d.Copies) (kind : p.kind? = some .wait) (opened : d.session = some s)
    (named : requested? p.payload d.regions = some (.ok output)) : Touches registry p d := by
  have handled := dispatch_request (ScriptedEngine.host registry) kind opened
  have ended : completes (ScriptedEngine.host registry) (d, p) =
      (d.collected (ScriptedEngine.host registry) output s).isCompleted := by
    rw [completes_request kind, taskEnd?, opened, named]
    rfl
  have counted : d.countPrimitive.Copies := copies_kept copies rfl rfl
  have isOpen : d.session.isSome := opened ▸ rfl
  rw [named] at handled
  cases slot : d.slot with
  | none =>
    refine .kept ?_ ?_
    · rw [ended, collected_empty copies isOpen slot]
      rfl
    · rw [handled]
      exact regions_finishTask_empty counted isOpen slot _
  | some content =>
    have held := holds_requested named
    have collected : d.collected (ScriptedEngine.host registry) output s =
        .completed (.done (.ofNat (content.cutTo output).size)) :=
      collected_loaded copies isOpen slot held
    refine .filled named slot ?_ ?_ ?_
    · rw [ended, collected]
      rfl
    · rw [taskEnd?, opened, named, ← collected]
    · rw [handled]
      exact filled_finishTask counted isOpen slot held _

variable (registry) in
theorem dispatch_touches (copies : d.Copies) (p : Primitive) : Touches registry p d := by
  by_cases kind : p.kind? = some .wait
  case neg =>
    refine .kept ?_ (regions_dispatch_other registry kind d)
    rw [completes, decide_eq_false kind, Bool.false_and]
  cases opened : d.session with
  | none =>
    refine .kept ?_ ?_
    · rw [completes_request kind, taskEnd?, opened]
      rfl
    · rw [dispatch_closed kind (by decide) opened]
      rfl
  | some s =>
    have handled := dispatch_request (ScriptedEngine.host registry) kind opened
    rcases named : requested? p.payload d.regions with _ | e | output
    · refine .kept ?_ ?_
      · rw [completes_request kind, taskEnd?, opened, named]
        rfl
      · rw [handled, named]
        rfl
    · refine .kept ?_ ?_
      · rw [completes_request kind, taskEnd?, opened, named]
        rfl
      · rw [handled, named]
        rfl
    · exact touches_finishing copies kind opened named

theorem copies_met (copies : d.Copies) (event : SharedEvent) : (d.met registry event).Copies := by
  cases event with
  | table call => exact copies_kept copies rfl rfl
  | primitive p => exact (dispatch_holds registry copies p).1
  | released =>
    rw [met, release]
    split
    · rename_i opened
      rw [perform_ready (d := { d with session := none }) copies.unscripted (copies.opened opened)]
      exact copies_ended copies.unscripted
    · exact copies

theorem copies_course (events : List SharedEvent) (copies : d.Copies) :
    (d.course registry events).Copies := by
  induction events generalizing d with
  | nil => exact copies
  | cons event events ih => exact ih (copies_met copies event)

variable (registry) in
theorem grows_met (copies : d.Copies) (event : SharedEvent) :
    d.regions.Grows (d.met registry event).regions := by
  cases event with
  | table call => exact d.regions.grows_called call
  | primitive p =>
    show d.regions.Grows (d.dispatch (ScriptedEngine.host registry) p).1.regions
    cases dispatch_touches registry copies p with
    | kept _ same =>
      rw [same]
      exact d.regions.grows_refl
    | filled named _ _ _ filled => exact filled.grows (holds_requested named)
  | released =>
    have same : (d.release (ScriptedEngine.host registry)).regions = d.regions := by
      rw [release]
      split
      · exact ScriptedEngine.regions_perform .deinit d.engine
      · rfl
    show d.regions.Grows (d.release (ScriptedEngine.host registry)).regions
    rw [same]
    exact d.regions.grows_refl

variable (registry) in
theorem grows_course (events : List SharedEvent) (copies : d.Copies) :
    d.regions.Grows (d.course registry events).regions := by
  induction events generalizing d with
  | nil => exact d.regions.grows_refl
  | cons event events ih =>
    exact (grows_met registry copies event).trans (ih (copies_met copies event))

/-- An engine that holds something can put it where the request says. -/
theorem taskEnd_failed {payload : Bytes} {error : EngineError} (copies : d.Copies)
    (ended : d.taskEnd? (ScriptedEngine.host registry) payload = some (.failed error)) :
    error = .notReady ∧ d.slot = none := by
  rw [taskEnd?] at ended
  cases opened : d.session with
  | none =>
    rw [opened] at ended
    cases ended
  | some s =>
    have isOpen : d.session.isSome := opened ▸ rfl
    rw [opened] at ended
    rcases named : requested? payload d.regions with _ | e | output
    · rw [named] at ended
      cases ended
    · rw [named] at ended
      cases ended
    · rw [named] at ended
      have ended : d.collected (ScriptedEngine.host registry) output s = .failed error :=
        Option.some.inj ended
      cases slot : d.slot with
      | none =>
        cases (collected_empty copies isOpen slot).symm.trans ended
        exact ⟨rfl, rfl⟩
      | some content =>
        cases (collected_loaded copies isOpen slot (holds_requested named)).symm.trans ended

/-- In any course of calls on the table and primitives, regions never overflow, and a write that
does not fit changes nothing. What was imported stays attached to its region, which keeps its
capacity; so what an engine cuts to the output can be put there at any later time. A request for
completion fails only if nothing was started. The content of a completed task lies in the region of
its output, cut to the output's size; anything else that is dispatched leaves all regions as they
are. -/
theorem shared_memory_bounded (registry : EngineRegistry) (settings : DispatchSettings)
    (events : List SharedEvent) :
    let d := course registry events { settings, engine := {} }
    d.regions.Contained ∧
      (∀ id r bs, d.regions.region? id = some r →
        (d.regions.called (.write id bs)).region? id =
          some (if bs.length ≤ r.capacity then { r with data := bs } else r)) ∧
      (∀ descriptor buffer, d.regions.importBuffer descriptor = .ok buffer →
        d.regions.Attaches descriptor buffer ∧
          ∀ more, d.regions.Grows (d.course registry more).regions ∧
            ∀ content, (d.course registry more).regions.Takes buffer content) ∧
      ∀ p : Primitive,
        (∀ error, d.taskEnd? (ScriptedEngine.host registry) p.payload = some (.failed error) →
          error = .notReady ∧ d.slot = none) ∧
        (completes (ScriptedEngine.host registry) (d, p) = false →
          (d.dispatch (ScriptedEngine.host registry) p).1.regions = d.regions) ∧
        (completes (ScriptedEngine.host registry) (d, p) = true →
          ∃ output content, requested? p.payload d.regions = some (.ok output) ∧
            d.slot = some content ∧
            d.taskEnd? (ScriptedEngine.host registry) p.payload =
              some (.completed (.done (.ofNat (content.cutTo output).size))) ∧
            d.regions.Filled output (content.cutTo output)
              (d.dispatch (ScriptedEngine.host registry) p).1.regions) := by
  intro d
  have start : Copies { settings, engine := {} } :=
    { unscripted := rfl, opened := by simp, closed := fun _ => rfl }
  have copies : d.Copies := copies_course events start
  have grown := grows_course registry events start
  have consistent : d.regions.Consistent :=
    grown.consistent ⟨List.nodup_nil, fun _ member => by cases member⟩
  have contained : d.regions.Contained := grown.contained fun _ member => by cases member
  refine ⟨contained,
    fun id r bs here => RegionTable.region?_written here bs,
    fun descriptor buffer imported => ⟨consistent.attaches imported, fun more => ?_⟩,
    fun p => ⟨fun error ended => taskEnd_failed copies ended, ?_⟩⟩
  · have grows := grows_course registry more copies
    exact ⟨grows, Passthrough.takes_held (grows.holds (RegionTable.importBuffer_holds imported))⟩
  · cases dispatch_touches registry copies p with
    | kept unfinished same =>
      exact ⟨fun _ => same, fun finished => nomatch unfinished.symm.trans finished⟩
    | filled named loaded finished ended filled =>
      exact ⟨fun unfinished => (nomatch finished.symm.trans unfinished),
        fun _ => ⟨_, _, named, loaded, ended, filled⟩⟩

/-- A request that finds nothing started changes no region. Behind a start it gets as much of the
input as its output holds, in the place of what was there. -/
theorem shared_memory_of_lost_and_completed :
    let host := ScriptedEngine.host .full
    let events : List SharedEvent :=
      [ .table (.allocate 8), .table (.allocate 8), .table (.write 0 [1, 2, 3, 4, 5, 6]),
        .table (.write 1 [9]), .primitive (.of .init []) ]
    let start : SharedEvent := .primitive (.of .start (Descriptor.encode (.shared 1 6)))
    let request : Primitive := .of .wait (WaitRequest.encode ⟨.shared 2 4, none⟩)
    let idle := course .full events { engine := {} }
    let started := course .full (events ++ [start]) { engine := {} }
    idle.taskEnd? host request.payload = some (.failed .notReady) ∧
      (idle.dispatch host request).1.regions = idle.regions ∧
      started.taskEnd? host request.payload = some (.completed (.done 4)) ∧
      (started.regions.region? 1).map (·.data) = some [9] ∧
      ((started.dispatch host request).1.regions.region? 1).map (·.data) = some [1, 2, 3, 4] ∧
      (started.dispatch host request).1.regions.region? 0 = started.regions.region? 0 := by
  intro host events start request idle started
  have lost : idle.taskEnd? host request.payload = some (.failed .notReady) := by decide +kernel
  have ready : started.taskEnd? host request.payload = some (.completed (.done 4)) := by
    decide +kernel
  obtain ⟨-, -, -, waiting⟩ := shared_memory_bounded .full {} events
  obtain ⟨-, -, -, holding⟩ := shared_memory_bounded .full {} (events ++ [start])
  obtain ⟨-, unchanged, -⟩ := waiting request
  obtain ⟨-, -, changed⟩ := holding request
  obtain ⟨output, content, named, loaded, -, filled⟩ := changed (by decide +kernel)
  have asked : requested? request.payload started.regions =
      some (.ok (some ⟨.shared 2 4, some 1⟩)) := by decide +kernel
  have slot : started.slot = some (.bytes [1, 2, 3, 4, 5, 6]) := by decide +kernel
  cases named.symm.trans asked
  cases loaded.symm.trans slot
  obtain ⟨r, word, -, there⟩ := filled.own 1 rfl
  refine ⟨lost, unchanged (by decide +kernel), ready, by decide +kernel, ?_, ?_⟩
  · rw [there]
    rfl
  · exact filled.apart 0 (by decide)

end Dispatcher

end CodecLink
