import CodecLink.Proofs.Dispatcher.Copying
import CodecLink.Proofs.Regions
import CodecLink.Session.Link

/-! Whose content a result is. It is that of the last start whose input could be taken, and all that
came after that start was refused. So a start that was refused for its input can be answered with
the content of an earlier one, if the request for that one was refused for its output. -/
namespace CodecLink.Dispatcher

variable {registry : EngineRegistry}

theorem data_publish (t : RegionTable) (place id : RegionId) (word : UInt32) :
    ((t.publish place word).region? id).map (·.data) = (t.region? id).map (·.data) := by
  rw [RegionTable.publish, RegionTable.region?_modify]
  split
  · rw [Option.map_map]
    rfl
  · rfl

/-- The region that a request names holds the result once the request was handled. -/
theorem data_of_completed {d : Dispatcher ScriptedEngine} (copies : d.Copies) {p : Primitive}
    (kind : p.kind? = some .wait) {s : HostSession} (opened : d.session = some s)
    {output : Option Buffer} (asked : requested? p.payload d.regions = some (.ok output))
    {content : Produced} {regions : RegionTable} (loaded : d.slot = some content)
    (delivered : Passthrough.deliver (content.cutTo output) output d.regions = .ok regions)
    (id : RegionId) :
    ((d.dispatch (ScriptedEngine.host registry) p).1.regions.region? id).map (·.data) =
      (regions.region? id).map (·.data) := by
  have counted : d.countPrimitive.Copies := copies_kept copies rfl rfl
  have ready : d.countPrimitive.engine.engine.initialized = true :=
    copies.opened (by simp [opened])
  have there : d.countPrimitive.session = some s := opened
  have same : requested? p.payload d.countPrimitive.regions = some (.ok output) := asked
  have holds : d.countPrimitive.slot = some content := loaded
  have fits : Passthrough.deliver (content.cutTo output) output d.countPrimitive.regions =
      .ok regions := delivered
  rw [dispatch, kind, there]
  dsimp only [route]
  rw [onWait_eq, same]
  dsimp only
  rw [finishTask_loaded counted.unscripted ready holds fits]
  dsimp only
  split
  · rfl
  · rw [publish]
    split
    · rfl
    · exact data_publish _ _ _ _

/-- A result holds the content of the last start whose input the host could take, cut to the size of
the output; every start behind that one was refused for its input, every request for its output. -/
theorem result_of_last_loaded (registry : EngineRegistry) (host : Dispatcher ScriptedEngine)
    (unscripted : host.engine.outcomes = []) (closed : host.session = none)
    (empty : host.slot = none) (ps : List Primitive) (p : Primitive) (kind : p.kind? = some .wait)
    {feedback : Feedback}
    (ended : (host.handled registry ps).taskEnd? (ScriptedEngine.host registry) p.payload =
      some (.completed feedback)) :
    ∃ front start back content output, ps = front ++ start :: back ∧
      Loads start (host.handled registry front) content ∧
      SparedBy registry back (host.handled registry (front ++ [start])) ∧
      requested? p.payload (host.handled registry ps).regions = some (.ok output) ∧
      feedback = .done (.ofNat (content.cutTo output).size) ∧
      ∀ id r, output.bind (·.region) = some id →
        (host.handled registry ps).regions.region? id = some r →
        ((host.handled registry (ps ++ [p])).regions.region? id).map (·.data) =
          some (content.cutTo output).toBytes := by
  have copies : host.Copies := ⟨unscripted, by simp [closed], fun _ => empty⟩
  obtain ⟨copied, holds⟩ := handled_holds registry copies ps
  generalize middle : host.handled registry ps = d at ended copied holds ⊢
  have after : host.handled registry (ps ++ [p]) =
      (d.dispatch (ScriptedEngine.host registry) p).1 := by
    rw [← middle, handled, handled, List.foldl_append]
    rfl
  cases opened : d.session with
  | none => simp [taskEnd?, opened] at ended
  | some s =>
    cases asked : requested? p.payload d.regions with
    | none => simp [taskEnd?, asked] at ended
    | some imported =>
      cases imported with
      | error e => simp [taskEnd?, opened, asked] at ended
      | ok output =>
        have collected : d.countPrimitive.collected (ScriptedEngine.host registry) output s =
            .completed feedback := by
          simpa [taskEnd?, opened, asked] using ended
        have isOpen : d.countPrimitive.session.isSome := by
          show d.session.isSome
          rw [opened]
          rfl
        have counted : d.countPrimitive.Copies := copies_kept copied rfl rfl
        obtain ⟨content, regions, loaded, delivered, result⟩ :=
          collected_completed counted isOpen collected
        rcases holds content loaded with ⟨before, _⟩ | ⟨front, start, back, same, loads, spared⟩
        · cases empty.symm.trans before
        · refine ⟨front, start, back, content, output, same, loads, spared, rfl, result,
            fun id r target present => ?_⟩
          rw [after, data_of_completed copied kind opened asked loaded delivered,
            Passthrough.deliver_region? delivered, if_pos target,
            show d.countPrimitive.regions.region? id = some r from present]
          rfl

/-- A host with one region of eight bytes, three of them filled. -/
def sharing : Dispatcher ScriptedEngine :=
  { engine := {}
    regions :=
      { regions := [{ handle := 1, capacity := 8, data := .ofAscii "abc" }], slots := [(1, 0)]
        nextHandle := 2 } }

def roundTrip : SessionConfig := { completion := .roundTrip 5000 }

theorem result_behind_refusals :
    let ps : List Primitive :=
      [.of .init roundTrip.toPayload, .of .start (Session.startPayload (.shared 1 3)),
        .of .wait (WaitRequest.encode ⟨.shared 9 8, some 1⟩),
        .of .start (Session.startPayload (.shared 9 3))]
    let p : Primitive := .of .wait (WaitRequest.encode ⟨.heap 8, some 2⟩)
    (sharing.handled .full ps).taskEnd? (ScriptedEngine.host .full) p.payload =
        some (.completed (.done 3)) ∧
      ∃ front start back content, ps = front ++ start :: back ∧
        Loads start (sharing.handled .full front) content ∧
        SparedBy .full back (sharing.handled .full (front ++ [start])) := by
  intro ps p
  have ended : (sharing.handled .full ps).taskEnd? (ScriptedEngine.host .full) p.payload =
      some (.completed (.done 3)) := by decide +kernel
  obtain ⟨front, start, back, content, _, same, loads, spared, _⟩ :=
    result_of_last_loaded .full sharing rfl rfl rfl ps p rfl ended
  exact ⟨ended, front, start, back, content, same, loads, spared⟩

/-- A start whose input the host does not know is followed by a wait that is told of three bytes;
they are those of the start before it. -/
theorem refused_start_completed :
    let engines := ScriptedEngine.host .full
    let attached := (Link.attach engines roundTrip sharing).2
    let first := (attached.call engines (·.start (.shared 1 3))).2
    let refused := first.wait engines (.shared 9 8) none
    let second := refused.2.call engines (·.start (.shared 9 3))
    let stale := second.2.wait engines (.heap 8) none
    refused.1.toOption = some ⟨0, .failed, false⟩ ∧ second.1.toOption = some () ∧
      stale.1.toOption = some ⟨3, .done 3, false⟩ ∧
      stale.2.host.regions.importBuffer (.shared 9 3) = .error (.unknownHandle 9) ∧
      stale.2.host.summary.dropped = 2 := by
  decide +kernel

end CodecLink.Dispatcher
