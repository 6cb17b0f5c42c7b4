import Mathlib.Logic.Function.Iterate
import CodecLink.Engine.Basic

/-! What an engine answers to one who asks for a task's result until there is one. Each call finds
the regions and the engine as the one before left them. -/
namespace CodecLink.EngineHost

variable {σ : Type} (host : EngineHost σ) (task : Task)

/-- The regions and the engine after so many calls. -/
def asked (times : Nat) (held : RegionTable × σ) : RegionTable × σ :=
  (fun held => (host.wait task held.1 held.2).2)^[times] held

/-- What the engine says when it is asked once more. -/
def answer (times : Nat) (held : RegionTable × σ) : EngineResult Feedback :=
  (host.wait task (host.asked task times held).1 (host.asked task times held).2).1

/-- The first answer other than that nothing is ready, if one of those allowed is. -/
def result : Nat → RegionTable × σ → EngineResult Feedback
  | 0, _ => .error .notReady
  | allowed + 1, held =>
    match host.wait task held.1 held.2 with
    | (.error .notReady, held) => result allowed held
    | (answer, _) => answer

/-- The result is that of the last of the calls, of which there are no more than allowed; all before
it found nothing ready, and the last one does only if no further one is allowed. -/
structure Drain (allowed : Nat) (held : RegionTable × σ) (calls : Nat)
    (result : EngineResult Feedback) : Prop where
  some_call : 0 < calls
  bounded : calls ≤ allowed
  unready : ∀ i < calls - 1, host.answer task i held = .error .notReady
  last : host.answer task (calls - 1) held = result
  exhausted : result = .error .notReady → calls = allowed

variable {host task} {held : RegionTable × σ}

theorem asked_succ (times : Nat) :
    host.asked task (times + 1) held = host.asked task times (host.wait task held.1 held.2).2 :=
  Function.iterate_succ_apply _ _ _

theorem answer_succ (times : Nat) :
    host.answer task (times + 1) held =
      host.answer task times (host.wait task held.1 held.2).2 := by
  rw [answer, asked_succ, answer]

theorem result_again (unready : (host.wait task held.1 held.2).1 = .error .notReady)
    (allowed : Nat) :
    host.result task (allowed + 1) held =
      host.result task allowed (host.wait task held.1 held.2).2 := by
  rw [result, show host.wait task held.1 held.2 =
    (.error .notReady, (host.wait task held.1 held.2).2) from Prod.ext unready rfl]

theorem result_once (ready : (host.wait task held.1 held.2).1 ≠ .error .notReady) (allowed : Nat) :
    host.result task (allowed + 1) held = (host.wait task held.1 held.2).1 := by
  rw [result]
  split
  · rename_i again
    exact absurd (congrArg Prod.fst again) ready
  · rename_i said
    rw [said]

variable {allowed calls others : Nat} {first second : EngineResult Feedback}

theorem Drain.once (ready : (host.wait task held.1 held.2).1 ≠ .error .notReady)
    (some_try : 0 < allowed) : host.Drain task allowed held 1 (host.wait task held.1 held.2).1 where
  some_call := Nat.one_pos
  bounded := some_try
  unready _ before := nomatch before
  last := rfl
  exhausted unready := absurd unready ready

theorem Drain.again (unready : (host.wait task held.1 held.2).1 = .error .notReady)
    (drain : host.Drain task allowed (host.wait task held.1 held.2).2 calls first) :
    host.Drain task (allowed + 1) held (calls + 1) first where
  some_call := Nat.succ_pos _
  bounded := Nat.succ_le_succ drain.bounded
  unready i before := by
    cases i with
    | zero => exact unready
    | succ i =>
      rw [answer_succ]
      exact drain.unready i (Nat.lt_sub_of_add_lt before)
  last := by
    obtain ⟨further, rfl⟩ := Nat.exists_eq_succ_of_ne_zero (Nat.ne_of_gt drain.some_call)
    exact (answer_succ further).trans drain.last
  exhausted ended := congrArg (· + 1) (drain.exhausted ended)

/-- What is left of the asking when the first call found nothing ready. -/
theorem Drain.tail (drain : host.Drain task (allowed + 1) held (calls + 2) first) :
    (host.wait task held.1 held.2).1 = .error .notReady ∧
      host.Drain task allowed (host.wait task held.1 held.2).2 (calls + 1) first where
  left := drain.unready 0 (Nat.succ_pos _)
  right.some_call := Nat.succ_pos _
  right.bounded := Nat.le_of_succ_le_succ drain.bounded
  right.unready i before := by
    rw [← answer_succ]
    exact drain.unready (i + 1) (Nat.succ_lt_succ before)
  right.last := (answer_succ calls).symm.trans drain.last
  right.exhausted ended := Nat.succ.inj (drain.exhausted ended)

theorem Drain.not_lt (drain : host.Drain task allowed held calls first)
    (other : host.Drain task allowed held others second) : ¬calls < others := by
  intro less
  have some_call := drain.some_call
  have unready := other.unready (calls - 1) (by omega)
  have ended := drain.exhausted (drain.last.symm.trans unready)
  have bounded := other.bounded
  omega

/-- The answers of an engine determine when the asking ends, and with what. -/
theorem Drain.unique (drain : host.Drain task allowed held calls first)
    (other : host.Drain task allowed held others second) : first = second := by
  obtain rfl : calls = others :=
    Nat.le_antisymm (Nat.not_lt.1 (other.not_lt drain)) (Nat.not_lt.1 (drain.not_lt other))
  exact drain.last.symm.trans other.last

variable (host task) in
theorem drain_result (more : Nat) (held : RegionTable × σ) :
    ∃ calls, host.Drain task (more + 1) held calls (host.result task (more + 1) held) := by
  induction more generalizing held with
  | zero =>
    refine ⟨1, Nat.one_pos, Nat.le_refl 1, nofun, ?_, fun _ => rfl⟩
    by_cases unready : (host.wait task held.1 held.2).1 = .error .notReady
    · rw [result_again unready]
      exact unready
    · exact (result_once unready 0).symm
  | succ more ih =>
    by_cases unready : (host.wait task held.1 held.2).1 = .error .notReady
    · obtain ⟨calls, drain⟩ := ih (host.wait task held.1 held.2).2
      rw [result_again unready]
      exact ⟨calls + 1, drain.again unready⟩
    · rw [result_once unready]
      exact ⟨1, .once unready (Nat.succ_pos _)⟩

theorem Drain.result_eq (drain : host.Drain task allowed held calls first) :
    host.result task allowed held = first := by
  obtain ⟨more, rfl⟩ := Nat.exists_eq_succ_of_ne_zero
    (Nat.ne_of_gt (Nat.lt_of_lt_of_le drain.some_call drain.bounded))
  obtain ⟨_, other⟩ := drain_result host task more held
  exact other.unique drain

end CodecLink.EngineHost
