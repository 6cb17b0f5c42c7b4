import CodecLink.Proofs.Dispatcher.Bounds
import CodecLink.Proofs.Region.Containment

/-! When the calls on an engine that copies can be made to the end. What it is told to keep must fit
into memory, and the bits of what it hands out must be counted in a word. -/
namespace CodecLink

namespace Checked

variable {α β : Type}

def Through (x : Checked α) : Prop := ∃ a, x = .ok a

theorem through_ok (a : α) : Through (.ok a : Checked α) := ⟨a, rfl⟩

theorem Through.bind {x : Checked α} (through : Through x) {f : α → Checked β}
    (next : ∀ a, x = .ok a → Through (f a)) : Through (x >>= f) := by
  obtain ⟨a, same⟩ := through
  rw [same]
  exact next a same

theorem Through.map {x : Checked α} (through : Through x) (f : α → β) : Through (x.map f) := by
  obtain ⟨a, same⟩ := through
  rw [same]
  exact through_ok (f a)

theorem Gives.eq {x : Checked α} {value : α} (gives : Gives x value) (through : Through x) :
    x = .ok value := by
  obtain ⟨a, same⟩ := through
  rw [same, gives a same]

theorem through_allocate {size : Nat} (room : size ≤ memoryLimit) : Through (allocate size) :=
  ⟨(), allocate_ok room⟩

theorem through_counted {counter : Nat} (room : counter + 1 < wordCount) (after : α) :
    Through (counted counter after) := by
  rw [counted, add_ok room]
  exact through_ok after

theorem through_increment {n : UInt64} (room : n.toNat + 1 < wordCount) :
    Through (increment n) := by
  rw [increment, add_ok room]
  exact through_ok _

/-- The value, unless there was a crash. -/
def outcome (crash? : Option Crash) (value : α) : Checked α :=
  match crash? with
  | some crash => .error crash
  | none => .ok value

theorem map_outcome (crash? : Option Crash) (value : α) (f : α → β) :
    (outcome crash? value).map f = outcome crash? (f value) := by
  cases crash? <;> rfl

end Checked

open Checked

namespace Passthrough

variable {t : RegionTable} {e : Passthrough}

/-- How much is asked for to take an input. -/
def inputSize (input : Option Buffer) (t : RegionTable) : Nat :=
  match input with
  | none => 0
  | some buffer =>
    match buffer.region.bind t.region? with
    | some r => r.data.length
    | none => buffer.descriptor.size.toNat

theorem inputSize_heap {buffer : Buffer} (heap : buffer.region = none) (t : RegionTable) :
    inputSize (some buffer) t = buffer.descriptor.size.toNat := by
  rw [inputSize, heap]
  rfl

theorem inputSize_shared {buffer : Buffer} {id : RegionId} {r : Region}
    (shared : buffer.region = some id) (here : t.region? id = some r) :
    inputSize (some buffer) t = r.data.length := by
  rw [inputSize, shared, Option.bind_some, here]

theorem inputChecked_eq (task : Task) (t : RegionTable) :
    inputChecked task t = (allocate (inputSize task.input t)).map fun _ => inputOf task t := by
  rw [inputChecked, inputOf]
  cases task.input with
  | none => rfl
  | some buffer =>
    rw [inputSize]
    dsimp only
    cases buffer.region.bind t.region? <;> rfl

/-- Whether there is room for what an operation keeps. -/
def Affords (operation : EngineOperation) (t : RegionTable) (e : Passthrough) : Prop :=
  match operation with
  | .start task => inputSize task.input t ≤ memoryLimit
  | .control (.raw payload) =>
    payload.length ≤ memoryLimit ∧ commandSize * max 4 (2 * e.controls.length) ≤ memoryLimit
  | .control (.configure _) => commandSize * max 4 (2 * e.controls.length) ≤ memoryLimit
  | _ => True

theorem through_perform {operation : EngineOperation} (affords : e.Affords operation t) :
    Through (e.performChecked operation t) := by
  cases operation with
  | start task =>
    rw [performChecked]
    split
    · rw [inputChecked_eq, allocate_ok affords]
      exact through_ok _
    · exact through_ok _
  | control command =>
    rw [performChecked]
    split
    · cases command with
      | configure request =>
        exact (through_ok ()).bind fun _ _ =>
          (through_allocate affords).bind fun _ _ => through_ok _
      | raw payload =>
        exact (through_allocate affords.1).bind fun _ _ =>
          (through_allocate affords.2).bind fun _ _ => through_ok _
    · exact through_ok _
  | _ => exact through_ok _

theorem perform_crashes {task : Task} (ready : e.initialized = true)
    (vast : memoryLimit < inputSize task.input t) :
    e.performChecked (.start task) t = .error .capacity := by
  rw [performChecked, if_pos ready, inputChecked_eq, allocate, if_neg (Nat.not_le.2 vast)]
  rfl

theorem doneChecked_eq {size : Nat} (small : size < wordCount) :
    Feedback.doneChecked (.ofNat size) =
      outcome (if size * 8 < wordCount then none else some .overflow) (.done (.ofNat size)) := by
  have exact_size : (UInt64.ofNat size).toNat = size := UInt64.toNat_ofNat_of_lt' small
  split
  · rename_i room
    refine (Feedback.gives_done _).eq ?_
    rw [Feedback.doneChecked, exact_size, times, if_pos room]
    exact through_ok _
  · rename_i much
    rw [Feedback.doneChecked, exact_size, times, if_neg much]
    rfl

theorem waitChecked_loaded (ready : e.initialized = true) {content : Produced}
    (loaded : e.pending = some content) (task : Task) (t : RegionTable) :
    e.waitChecked task t =
      match deliver (content.cutTo task.output) task.output t with
      | .error fault => .ok (.error fault, t, { e with pending := none })
      | .ok t => do
        let feedback ← Feedback.doneChecked (.ofNat (content.cutTo task.output).size)
        return (.ok feedback, t, { e with pending := none }) := by
  rw [waitChecked, ready, loaded]
  rfl

theorem waitChecked_empty (ready : e.initialized = true) (empty : e.pending = none) (task : Task)
    (t : RegionTable) : e.waitChecked task t = .ok (.error .notReady, t, e) := by
  rw [waitChecked, ready, empty]
  rfl

end Passthrough

/-- What is cut to an output that was imported can be put there. -/
theorem Passthrough.deliver_imported {t : RegionTable} {d : Descriptor} {buffer : Buffer}
    (imported : t.importBuffer d = .ok buffer) (content : Produced) :
    ∃ regions, deliver (content.cutTo (some buffer)) (some buffer) t = .ok regions :=
  deliver_held (RegionTable.importBuffer_holds imported) content

namespace ScriptedEngine

variable {s : ScriptedEngine}

theorem performChecked_unscripted (unscripted : s.outcomes = []) (operation : EngineOperation)
    (t : RegionTable) :
    s.performChecked operation t = do
      let (result, engine) ← s.engine.performChecked operation t
      return (result, t, { s with engine }) := by
  rw [performChecked, take_unscripted unscripted]

theorem waitChecked_unscripted (unscripted : s.outcomes = []) (task : Task) (t : RegionTable) :
    s.waitChecked task t = do
      let (result, t, engine) ← s.engine.waitChecked task t
      return (result, t, { s with engine }) := by
  rw [waitChecked, take_unscripted unscripted]

end ScriptedEngine

namespace Dispatcher

variable {registry : EngineRegistry} {d : Dispatcher ScriptedEngine}

theorem through_perform (unscripted : d.engine.outcomes = []) {operation : EngineOperation}
    (affords : d.engine.engine.Affords operation d.regions) :
    Through (d.performChecked (ScriptedEngine.checkedHost registry) operation) := by
  have engine : Through (d.engine.performChecked operation d.regions) := by
    rw [ScriptedEngine.performChecked_unscripted unscripted]
    exact (Passthrough.through_perform affords).bind fun _ _ => through_ok _
  exact engine.bind fun _ _ => through_ok _

theorem through_attempt (unscripted : d.engine.outcomes = [])
    (ready : d.engine.engine.initialized = true) {operation : EngineOperation}
    (affords : d.engine.engine.Affords operation d.regions) :
    Through (d.attemptChecked (ScriptedEngine.checkedHost registry) operation) := by
  refine (through_perform unscripted affords).bind fun result same => ?_
  have done := gives_perform (ScriptedEngine.checkedHost_refines registry) operation d result same
  rw [perform_ready unscripted ready] at done
  rw [done]
  exact through_ok _

theorem through_wait (unscripted : d.engine.outcomes = [])
    (ready : d.engine.engine.initialized = true) {task : Task}
    (short : ∀ content, d.slot = some content → (content.cutTo task.output).size * 8 < wordCount) :
    Through (d.waitChecked (ScriptedEngine.checkedHost registry) task) := by
  have asked : Through (d.engine.engine.waitChecked task d.regions) := by
    cases held : d.slot with
    | none =>
      rw [Passthrough.waitChecked_empty ready held]
      exact through_ok _
    | some content =>
      have bits := short content held
      rw [Passthrough.waitChecked_loaded ready held]
      cases Passthrough.deliver (content.cutTo task.output) task.output d.regions with
      | error fault => exact through_ok _
      | ok regions =>
        dsimp only
        rw [Passthrough.doneChecked_eq (by omega), if_pos bits]
        exact through_ok _
  have engine : Through (d.engine.waitChecked task d.regions) := by
    rw [ScriptedEngine.waitChecked_unscripted unscripted]
    exact asked.bind fun _ _ => through_ok _
  exact engine.bind fun _ _ => through_ok _

/-- What was not ready at one request is no more so at the next. -/
theorem through_collect (unscripted : d.engine.outcomes = [])
    (ready : d.engine.engine.initialized = true) {task : Task} (more : Nat)
    (short : ∀ content, d.slot = some content → (content.cutTo task.output).size * 8 < wordCount) :
    Through (d.collectChecked (ScriptedEngine.checkedHost registry) task more) := by
  induction more generalizing d with
  | zero => exact through_wait unscripted ready short
  | succ more ih =>
    refine (through_wait unscripted ready short).bind fun result same => ?_
    have asked := gives_wait (ScriptedEngine.checkedHost_refines registry) task d result same
    cases held : d.slot with
    | some content =>
      rw [wait_loaded unscripted ready held] at asked
      rw [asked]
      cases delivered : Passthrough.deliver (content.cutTo task.output) task.output d.regions with
      | error e =>
        obtain ⟨reason, rfl⟩ := Passthrough.deliver_error delivered
        exact through_ok _
      | ok regions => exact through_ok _
    | none =>
      have unready : result = (.error .notReady, { d with calls := d.calls ++ [.wait task] }) := by
        rw [asked, wait]
        dsimp only [ScriptedEngine.host]
        rw [ScriptedEngine.wait_unscripted unscripted, Passthrough.wait_empty ready held]
      rw [unready]
      refine ih unscripted ready fun content other => ?_
      cases held.symm.trans other

theorem wait_crashes (unscripted : d.engine.outcomes = [])
    (ready : d.engine.engine.initialized = true) {task : Task} {content : Produced}
    {regions : RegionTable} (held : d.slot = some content) (counted : content.size < wordCount)
    (delivered : Passthrough.deliver (content.cutTo task.output) task.output d.regions =
      .ok regions)
    (long : ¬(content.cutTo task.output).size * 8 < wordCount) :
    d.waitChecked (ScriptedEngine.checkedHost registry) task = .error .overflow := by
  have engine : d.engine.waitChecked task d.regions = .error .overflow := by
    rw [ScriptedEngine.waitChecked_unscripted unscripted,
      Passthrough.waitChecked_loaded ready held, delivered]
    dsimp only
    have small := Nat.lt_of_le_of_lt (content.size_cutTo_le task.output) counted
    rw [Passthrough.doneChecked_eq small, if_neg long]
    rfl
  rw [waitChecked]
  dsimp only [ScriptedEngine.checkedHost]
  rw [engine]
  rfl

theorem collect_crashes {task : Task}
    (crashes : d.waitChecked (ScriptedEngine.checkedHost registry) task = .error .overflow)
    (more : Nat) :
    d.collectChecked (ScriptedEngine.checkedHost registry) task more = .error .overflow := by
  cases more with
  | zero => exact crashes
  | succ more =>
    rw [collectChecked, crashes]
    rfl

end Dispatcher

end CodecLink
