import CodecLink.Engine.Scripted
import CodecLink.Proofs.Dispatcher.Handling
import CodecLink.Proofs.Regions

/-! The ready words of shared regions. A dispatcher whose engine leaves them alone changes at most
one of them when it handles a primitive: that of the region which a request names, once its task is
done. -/
namespace CodecLink

namespace RegionTable

def word? (t : RegionTable) (id : RegionId) : Option UInt32 := (t.region? id).map (·.ready)

theorem word?_modify (t : RegionTable) (id other : RegionId) {f : Region → Region}
    (keeps : ∀ r, (f r).ready = r.ready) : (t.modify id f).word? other = t.word? other := by
  rw [word?, word?, region?_modify]
  split
  · cases t.region? other <;> simp [keeps]
  · rfl

theorem word?_publish (t : RegionTable) (id other : RegionId) (word : UInt32) :
    (t.publish id word).word? other =
      if id = other then (t.word? other).map fun _ => word else t.word? other := by
  rw [publish, word?, word?, region?_modify]
  split
  · cases t.region? other <;> rfl
  · rfl

theorem word?_write {t after : RegionTable} {id : RegionId} {bs : Bytes}
    (written : t.write id bs = .ok after) (other : RegionId) :
    after.word? other = t.word? other := by
  rw [write_ok written, word?_modify]
  intro r
  rfl

theorem word?_insert {t : RegionTable} {id : RegionId} {word : UInt32}
    (present : t.word? id = some word) (new : Region) : (t.insert new).word? id = some word := by
  obtain ⟨r, found, own⟩ := Option.map_eq_some_iff.1 present
  rw [word?, region?, insert, List.getElem?_append_left (List.getElem?_eq_some_iff.1 found).1]
  exact present

/-- A ready word once this word was published in this region. -/
def wordAfter (posted : Option (RegionId × UInt32)) (id : RegionId) (t : RegionTable) :
    Option UInt32 :=
  match posted with
  | some (own, word) => if own = id then (t.word? id).map fun _ => word else t.word? id
  | none => t.word? id

/-- The table after a change, but for one ready word, which is as it was before. -/
def withhold (before : RegionTable) (id : RegionId) (after : RegionTable) : RegionTable :=
  match before.word? id with
  | some word => after.publish id word
  | none => after

theorem word?_withhold {before after : RegionTable} {own : RegionId} {word : UInt32}
    (words : ∀ id, after.word? id = before.wordAfter (some (own, word)) id) (id : RegionId) :
    (before.withhold own after).word? id = before.word? id := by
  have words : after.word? id =
      if own = id then (before.word? id).map fun _ => word else before.word? id := words id
  rw [withhold]
  by_cases same : own = id
  · subst same
    rw [if_pos rfl] at words
    cases present : before.word? own with
    | none => simp [words, present]
    | some old => simp [word?_publish, words, present]
  · rw [if_neg same] at words
    cases before.word? own with
    | none => exact words
    | some old => simp [word?_publish, same, words]

end RegionTable

/-- Whatever an engine is asked for, the ready words stay as they are. -/
structure EngineHost.LeavesWords {σ : Type} (host : EngineHost σ) : Prop where
  perform : ∀ operation t engine id, (host.perform operation t engine).2.1.word? id = t.word? id
  wait : ∀ task t engine id, (host.wait task t engine).2.1.word? id = t.word? id

theorem Passthrough.word?_deliver {produced : Produced} {output : Option Buffer}
    {t after : RegionTable} (delivered : deliver produced output t = .ok after) (id : RegionId) :
    after.word? id = t.word? id := by
  rw [RegionTable.word?, RegionTable.word?, deliver_region? delivered]
  split
  · cases t.region? id <;> rfl
  · rfl

theorem ScriptedEngine.leavesWords (registry : EngineRegistry) :
    (ScriptedEngine.host registry).LeavesWords where
  perform operation t engine id := by
    show (ScriptedEngine.perform operation t engine).2.1.word? id = t.word? id
    rw [ScriptedEngine.perform]
    split <;> rfl
  wait task t engine id := by
    show (ScriptedEngine.wait task t engine).2.1.word? id = t.word? id
    rw [ScriptedEngine.wait]
    split
    · rfl
    · rfl
    · simp only [Passthrough.wait]
      split
      · rfl
      · split
        · rfl
        · split
          · rfl
          · rename_i delivered
            exact Passthrough.word?_deliver delivered id

namespace Dispatcher

variable {σ : Type} {host : EngineHost σ}

variable (host) in
/-- The region and the word that a task's result is published with, if it is. -/
def postedFor? (output : Option Buffer) (s : HostSession) (d : Dispatcher σ) :
    Option (RegionId × UInt32) :=
  match output.bind (·.region), d.collected host output s with
  | some id, .completed feedback =>
    if s.config.completion.isPolling then some (id, publishedSize feedback.outputSize) else none
  | _, _ => none

variable (host) in
/-- The region and the word that handling a primitive publishes, if it does. -/
def posted? (p : Primitive) (d : Dispatcher σ) : Option (RegionId × UInt32) :=
  match d.session, requested? p.payload d.regions with
  | some s, some (.ok output) =>
    if p.kind? = some .wait then d.countPrimitive.postedFor? host output s else none
  | _, _ => none

theorem word?_perform (leaves : host.LeavesWords) (operation : EngineOperation) (d : Dispatcher σ)
    (id : RegionId) : (d.perform host operation).2.regions.word? id = d.regions.word? id :=
  leaves.perform operation d.regions d.engine id

theorem word?_attempt (leaves : host.LeavesWords) (operation : EngineOperation) (d : Dispatcher σ)
    (id : RegionId) : (d.attempt host operation).regions.word? id = d.regions.word? id := by
  rw [attempt_eq, ← word?_perform leaves operation d]
  cases (d.perform host operation).1 <;> rfl

theorem word?_collect (leaves : host.LeavesWords) (task : Task) (more : Nat) (d : Dispatcher σ)
    (id : RegionId) : (d.collect host task more).2.regions.word? id = d.regions.word? id := by
  induction more generalizing d with
  | zero => exact leaves.wait task d.regions d.engine id
  | succ more ih =>
    have once := leaves.wait task d.regions d.engine id
    rw [collect]
    split
    · rename_i after unready
      have same : after = (d.wait host task).2 := by rw [unready]
      rw [ih, same]
      exact once
    · exact once

theorem word?_finishTask (leaves : host.LeavesWords) (output : Option Buffer) (tag : Option UInt64)
    (s : HostSession) (d : Dispatcher σ) (id : RegionId) :
    (d.finishTask host output tag s).1.regions.word? id =
      d.regions.wordAfter (d.postedFor? host output s) id := by
  have asked :=
    word?_collect leaves { s.task with output } (d.settings.maxTries - 1) d id
  rw [finishTask, postedFor?, collected_eq]
  cases outcome : d.collect host { s.task with output } (d.settings.maxTries - 1) with
  | mk result after =>
    rw [outcome] at asked
    cases result with
    | error e => cases output.bind (·.region) <;> exact asked
    | ok feedback =>
      dsimp only [TaskEnd.ofResult]
      cases mode : s.config.completion with
      | roundTrip timeoutMs => cases output.bind (·.region) <;> exact asked
      | polling intervalMs maxPolls =>
        dsimp only [publish]
        cases output.bind (·.region) with
        | none => exact asked
        | some own =>
          have words : after.regions.word? id = d.regions.word? id := asked
          simp only [RegionTable.word?_publish, words]
          rfl

/-- Handling a primitive changes no ready word but that which it publishes. -/
theorem word?_dispatch (leaves : host.LeavesWords) (p : Primitive) (d : Dispatcher σ)
    (id : RegionId) :
    (d.dispatch host p).1.regions.word? id = d.regions.wordAfter (d.posted? host p) id := by
  by_cases kind : p.kind? = some .wait
  · cases opened : d.session with
    | none =>
      rw [dispatch_closed kind (by decide) opened]
      simp only [posted?, opened]
      rfl
    | some s =>
      rw [dispatch_request host kind opened]
      simp only [posted?, opened, kind, if_true]
      rcases requested? p.payload d.regions with _ | _ | output
      · rfl
      · rfl
      · exact word?_finishTask leaves output _ s d.countPrimitive id
  · have silent : d.posted? host p = none := by
      simp only [posted?, kind, if_false]
      split <;> rfl
    rw [silent]
    have handled := dispatch_handling host p d
    generalize d.dispatch host p = result at handled ⊢
    cases handled with
    | dropped => rfl
    | unimported _ own _ => exact absurd own kind
    | opening closed own opening =>
      cases opening with
      | unsupported absent => rfl
      | refused created failed => exact word?_perform leaves _ _ id
      | opened created ready => exact word?_perform leaves _ _ id
    | farewell opened own => exact word?_attempt leaves _ _ id
    | ordered opened orders => exact word?_attempt leaves _ _ id
    | finished _ own _ _ => exact absurd own kind

theorem wait_of_posted {p : Primitive} {d : Dispatcher σ} {posted : RegionId × UInt32}
    (publishes : d.posted? host p = some posted) : p.kind? = some .wait := by
  rw [posted?] at publishes
  split at publishes
  · by_contra other
    rw [if_neg other] at publishes
    cases publishes
  · cases publishes

end Dispatcher

end CodecLink
