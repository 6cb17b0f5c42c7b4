import CodecLink.Dispatcher.Basic
import CodecLink.Proofs.Engine.Answers

/-! What the calls that a dispatcher makes on its engine leave of it. A result is asked for until
there is one, an error other than that it is not ready, or no try left. -/
namespace CodecLink.Dispatcher

variable {σ : Type} (host : EngineHost σ)

/-- The dispatcher after it handled these primitives one after another. -/
def reached (ps : List Primitive) (d : Dispatcher σ) : Dispatcher σ :=
  ps.foldl (fun d p => (d.dispatch host p).1) d

/-- Each of these primitives, with the dispatcher that comes to handle it. -/
def turns : List Primitive → Dispatcher σ → List (Dispatcher σ × Primitive)
  | [], _ => []
  | p :: ps, d => (d, p) :: turns ps (d.dispatch host p).1

/-- The dispatcher after it asked so many times for the task's result. -/
def waited (task : Task) (times : Nat) (d : Dispatcher σ) : Dispatcher σ :=
  (fun d => (d.wait host task).2)^[times] d

/-- All that an engine call sees and changes. -/
def hosted (d : Dispatcher σ) : RegionTable × σ := (d.regions, d.engine)

/-- How often a result is asked for at most. -/
def allowance (d : Dispatcher σ) : Nat := max 1 d.settings.maxTries

variable {host}

theorem reached_induction (holds : Dispatcher σ → Prop)
    (step : ∀ p d, holds d → holds (d.dispatch host p).1) (ps : List Primitive) {d : Dispatcher σ}
    (start : holds d) : holds (d.reached host ps) := by
  induction ps generalizing d with
  | nil => exact start
  | cons p ps ih => exact ih (step p d start)

theorem turns_concat (ps : List Primitive) (p : Primitive) (d : Dispatcher σ) :
    turns host (ps ++ [p]) d = turns host ps d ++ [(d.reached host ps, p)] := by
  induction ps generalizing d with
  | nil => rfl
  | cons q ps ih =>
    rw [List.cons_append, turns, turns, ih]
    rfl

theorem reached_concat (ps : List Primitive) (p : Primitive) (d : Dispatcher σ) :
    d.reached host (ps ++ [p]) = ((d.reached host ps).dispatch host p).1 := by
  rw [reached, List.foldl_append]
  rfl

theorem mem_turns {ps : List Primitive} {d : Dispatcher σ} {turn : Dispatcher σ × Primitive}
    (member : turn ∈ turns host ps d) :
    ∃ front back, ps = front ++ turn.2 :: back ∧ turn.1 = d.reached host front := by
  induction ps generalizing d with
  | nil => cases member
  | cons p ps ih =>
    rcases List.mem_cons.1 member with rfl | later
    · exact ⟨[], ps, rfl, rfl⟩
    · obtain ⟨front, back, rfl, same⟩ := ih later
      exact ⟨p :: front, back, rfl, same⟩

section

variable (operation : EngineOperation) (task : Task) (d : Dispatcher σ)

@[simp] theorem calls_perform :
    (d.perform host operation).2.calls = d.calls ++ [.perform operation] := rfl

theorem attempt_eq :
    d.attempt host operation =
      match (d.perform host operation).1 with
      | .ok () => (d.perform host operation).2
      | .error _ => (d.perform host operation).2.countEngineError := by
  rw [attempt]
  rcases d.perform host operation with ⟨_ | _, after⟩ <;> rfl

@[simp] theorem session_attempt : (d.attempt host operation).session = d.session := by
  rw [attempt_eq]
  cases (d.perform host operation).1 <;> rfl

@[simp] theorem settings_attempt : (d.attempt host operation).settings = d.settings := by
  rw [attempt_eq]
  cases (d.perform host operation).1 <;> rfl

@[simp] theorem calls_attempt :
    (d.attempt host operation).calls = d.calls ++ [.perform operation] := by
  rw [attempt_eq]
  cases (d.perform host operation).1 <;> rfl

theorem waited_succ (times : Nat) :
    d.waited host task (times + 1) = (d.wait host task).2.waited host task times :=
  Function.iterate_succ_apply _ _ _

variable (host) in
theorem hosted_waited (times : Nat) :
    (d.waited host task times).hosted = host.asked task times d.hosted := by
  induction times generalizing d with
  | zero => rfl
  | succ times ih =>
    rw [waited_succ, ih, EngineHost.asked_succ]
    rfl

variable (host) in
/-- What is no business of the engine's is kept, and the calls are noted. -/
theorem waited_fields (times : Nat) :
    (d.waited host task times).settings = d.settings ∧
      (d.waited host task times).session = d.session ∧
      (d.waited host task times).calls = d.calls ++ List.replicate times (.wait task) := by
  induction times generalizing d with
  | zero => exact ⟨rfl, rfl, (List.append_nil _).symm⟩
  | succ times ih =>
    obtain ⟨settings, session, calls⟩ := ih (d.wait host task).2
    rw [waited_succ]
    refine ⟨settings, session, ?_⟩
    rw [calls, List.replicate_succ, List.append_cons]
    rfl

theorem waited_induction (holds : Dispatcher σ → Prop)
    (step : ∀ d, holds d → holds (d.wait host task).2) (times : Nat) (start : holds d) :
    holds (d.waited host task times) := by
  induction times generalizing d with
  | zero => exact start
  | succ times ih =>
    rw [waited_succ]
    exact ih _ (step d start)

theorem summary_waited (times : Nat) : (d.waited host task times).summary = d.summary :=
  waited_induction task d (fun after => after.summary = d.summary) (fun _ same => same) times rfl

theorem collect_again {more : Nat} (unready : (d.wait host task).1 = .error .notReady) :
    d.collect host task (more + 1) = (d.wait host task).2.collect host task more := by
  rw [collect, show d.wait host task = (.error .notReady, (d.wait host task).2) from
    Prod.ext unready rfl]

theorem collect_once {more : Nat} (ready : (d.wait host task).1 ≠ .error .notReady) :
    d.collect host task more = d.wait host task := by
  cases more with
  | zero => rfl
  | succ more =>
    rw [collect]
    split
    · rename_i again
      exact absurd (congrArg Prod.fst again) ready
    · rfl

/-- The dispatcher's loop asks as often as it has to, and takes the answer. -/
theorem collect_of_drain {more calls : Nat} {result : EngineResult Feedback}
    (drain : host.Drain task (more + 1) d.hosted calls result) :
    d.collect host task more = (result, d.waited host task calls) := by
  induction more generalizing d calls with
  | zero =>
    obtain rfl : calls = 1 := Nat.le_antisymm drain.bounded drain.some_call
    exact Prod.ext drain.last rfl
  | succ more ih =>
    obtain ⟨earlier, rfl⟩ := Nat.exists_eq_succ_of_ne_zero (Nat.ne_of_gt drain.some_call)
    cases earlier with
    | zero =>
      have ready : (d.wait host task).1 ≠ .error .notReady := fun unready =>
        nomatch drain.exhausted (drain.last.symm.trans unready)
      rw [collect_once task d ready]
      exact Prod.ext drain.last rfl
    | succ earlier =>
      obtain ⟨unready, tail⟩ := drain.tail
      rw [collect_again task d unready, ih (d.wait host task).2 tail,
        waited_succ task d (earlier + 1)]

variable (host) in
theorem collect_drain :
    ∃ calls, host.Drain task d.allowance d.hosted calls (host.result task d.allowance d.hosted) ∧
      d.collect host task (d.settings.maxTries - 1) =
        (host.result task d.allowance d.hosted, d.waited host task calls) := by
  have allowed : d.allowance = d.settings.maxTries - 1 + 1 := by rw [allowance]; omega
  rw [allowed]
  obtain ⟨calls, drain⟩ := host.drain_result task (d.settings.maxTries - 1) d.hosted
  exact ⟨calls, drain, collect_of_drain task d drain⟩

end

end CodecLink.Dispatcher
