import CodecLink.Proofs.Dispatcher.Crashes

/-! The life of a dispatcher whose engines copy, in a table of regions that others change as well.
Until so much happened that a counter runs out, handling a primitive comes to a crash exactly as its
payload says, and otherwise the primitive is dispatched and the reply sent. -/
namespace CodecLink

open Checked (memoryLimit wordCount outcome)

/-- What happens to a dispatcher or to the table that it shares. Whatever comes in or is made is in
memory already. -/
inductive HostEvent
  | primitive (p : Primitive) (room : p.payload.length ≤ memoryLimit)
  | unreadable
  | released
  | allocated (capacity : Nat) (room : capacity ≤ memoryLimit)
  | inserted (r : Region) (fits : r.Fits)
  | removed (handle : UInt64)
  | written (id : RegionId) (bs : Bytes)
  | published (id : RegionId) (word : UInt32)

namespace Dispatcher

variable {registry : EngineRegistry} {d after : Dispatcher ScriptedEngine} {n : Nat}

def occur (registry : EngineRegistry) (d : Dispatcher ScriptedEngine) :
    HostEvent → Checked (Dispatcher ScriptedEngine)
  | .primitive p _ => (d.dispatchChecked (ScriptedEngine.checkedHost registry) p).map (·.1)
  | .unreadable => d.countDroppedChecked
  | .released => d.releaseChecked (ScriptedEngine.checkedHost registry)
  | .allocated capacity _ => .ok { d with regions := (d.regions.allocate capacity).2 }
  | .inserted r _ => .ok { d with regions := d.regions.insert r }
  | .removed handle => .ok { d with regions := d.regions.unregister handle }
  | .written id bs => .ok { d with regions := (d.regions.write id bs).toOption.getD d.regions }
  | .published id word => .ok { d with regions := d.regions.publish id word }

/-- A run of events, none of which came to a crash. -/
def run (registry : EngineRegistry) (events : List HostEvent) (d : Dispatcher ScriptedEngine) :
    Checked (Dispatcher ScriptedEngine) :=
  events.foldlM (occur registry) d

theorem Within.mono {m : Nat} (within : d.Within n) (more : n ≤ m) : d.Within m :=
  { within with counters := fun k member => Nat.le_trans (within.counters k member) more }

theorem Within.regions_replaced (within : d.Within n) {regions : RegionTable}
    (fits : regions.Fits) : ({ d with regions } : Dispatcher ScriptedEngine).Within (n + 1) :=
  { within.mono (Nat.le_succ n) with
    copies := copies_kept within.copies rfl rfl
    regions := fits }

theorem Within.release (within : d.Within n) :
    (d.release (ScriptedEngine.host registry)).Within (n + 1) := by
  rw [Dispatcher.release]
  split
  · rename_i opened
    rw [perform_ready (d := { d with session := none }) within.copies.unscripted
      (within.copies.opened opened)]
    have empty : (did .deinit { d with session := none }).slot = none := rfl
    refine ⟨copies_ended within.copies.unscripted, ?_, within.regions,
      fun content held => by cases empty.symm.trans held⟩
    refine bounded_of_rises ?_ within.counters
    exact .cons (Nat.le_succ _) (.cons (Nat.le_succ _) (.cons (Nat.le_succ _)
      (.cons (Nat.le_succ _) (.cons (Nat.zero_le _) (.cons (Nat.le_succ _) .nil)))))
  · exact within.mono (Nat.le_succ n)

theorem Within.occur (within : d.Within n) {event : HostEvent}
    (occurs : d.occur registry event = .ok after) : after.Within (n + 1) := by
  have refines := ScriptedEngine.checkedHost_refines registry
  cases event with
  | primitive p room =>
    rw [(gives_dispatch refines p d).map (·.1) after occurs]
    exact within.dispatch registry p
  | unreadable =>
    rw [gives_dropped d after occurs]
    refine { within.mono (Nat.le_succ n) with
      copies := copies_kept within.copies rfl rfl, counters := ?_ }
    refine bounded_of_rises ?_ within.counters
    exact .cons (Nat.le_succ _) (.cons (Nat.le_refl _) (rises_refl _))
  | released =>
    rw [gives_release refines d after occurs]
    exact within.release
  | allocated capacity room =>
    cases occurs
    exact within.regions_replaced (within.regions.insert ⟨Nat.zero_le _, room⟩)
  | inserted r fits =>
    cases occurs
    exact within.regions_replaced (within.regions.insert fits)
  | removed handle =>
    cases occurs
    exact within.regions_replaced within.regions
  | written id bs =>
    cases occurs
    refine within.regions_replaced ?_
    cases written : d.regions.write id bs with
    | error e => exact within.regions
    | ok regions => exact within.regions.write written
  | published id word =>
    cases occurs
    exact within.regions_replaced (within.regions.publish id word)

theorem Within.run {events : List HostEvent} (within : d.Within n)
    (reached : d.run registry events = .ok after) : after.Within (n + events.length) := by
  induction events generalizing d n with
  | nil =>
    cases reached
    exact within
  | cons event events ih =>
    obtain ⟨next, occurs, reached⟩ := Checked.bind_ok.1 reached
    rw [List.length_cons, Nat.add_comm events.length, ← Nat.add_assoc]
    exact ih (within.occur occurs) reached

theorem within_fresh (settings : DispatchSettings) :
    ({ settings, engine := {} } : Dispatcher ScriptedEngine).Within 0 where
  copies := { unscripted := rfl, opened := nofun, closed := fun _ => rfl }
  counters := by simp [counters, sequence]
  regions := by simp [RegionTable.Fits]
  slot := nofun

/-- No counter runs out before so many events, and nothing else but what `crash?` says keeps a
primitive from being handled. -/
theorem handled_unless_vast {settings : DispatchSettings} {events : List HostEvent}
    (reached : run registry events { settings, engine := {} } = .ok d)
    (lasting : events.length < 2 ^ 55) {p : Primitive} (room : p.payload.length ≤ memoryLimit)
    (c : Channel) :
    d.handleChecked (ScriptedEngine.checkedHost registry) p c =
      outcome (d.crash? p) (d.handle (ScriptedEngine.host registry) p c) := by
  have within : d.Within events.length :=
    Nat.zero_add events.length ▸ (within_fresh settings).run reached
  rw [handleChecked, within.dispatchChecked_eq lasting room, handle]
  cases d.crash? p with
  | some crash => rfl
  | none =>
    rw [outcome, outcome, Checked.ok_bind]
    dsimp only
    rw [sendReplyChecked_eq]
    rfl

/-- Content of an eighth as many bytes as a word can count has more bits than that. -/
theorem vast_result_crashes :
    let task : Task := { sequence := 1, input := some { descriptor := .heap 0x2000000000000000 } }
    let d : Dispatcher ScriptedEngine :=
      { engine.engine := { initialized := true, pending := some (.zeros 0x2000000000000000) }
        session := some { config := {}, applied := .blank .h264, task }
        summary := { primitives := 2 }
        calls := [.perform (.init {}), .perform (.start task)] }
    run .full
        [ .primitive (.of .init []) (by decide),
          .primitive (.of .start (Descriptor.heap 0x2000000000000000).encode) (by decide) ]
        { engine := {} } = .ok d ∧
      d.handleChecked (ScriptedEngine.checkedHost .full) (.of .wait []) (.ofLimits "a" 2 {}) =
        .error .overflow := by
  intro task d
  have reached : run .full
      [ .primitive (.of .init []) (by decide),
        .primitive (.of .start (Descriptor.heap 0x2000000000000000).encode) (by decide) ]
      { engine := {} } = .ok d := rfl
  exact ⟨reached, (handled_unless_vast reached (by decide) (by decide) _).trans rfl⟩

/-- Half as many bytes as a word can count are more than can be asked for. -/
theorem vast_input_crashes :
    let d : Dispatcher ScriptedEngine :=
      { engine.engine := { initialized := true }
        session := some { config := {}, applied := .blank .h264 }
        summary := { primitives := 1 }
        calls := [.perform (.init {})] }
    run .full [.primitive (.of .init []) (by decide)] { engine := {} } = .ok d ∧
      d.handleChecked (ScriptedEngine.checkedHost .full)
        (.of .start (Descriptor.heap 0x8000000000000000).encode) (.ofLimits "a" 2 {}) =
          .error .capacity :=
  ⟨rfl, rfl⟩

end Dispatcher

end CodecLink
