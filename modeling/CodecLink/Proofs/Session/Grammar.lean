import Mathlib.Computability.Language
import Mathlib.Data.List.Chain
import CodecLink.Session.Basic

/-! The order in which a session's primitives may come: an opening, whole turns, and at most one task
under way and one farewell. Each state of a session stands for the words its channel may have
carried by then. -/
namespace CodecLink

open scoped Computability

namespace PrimitiveCode

/-- What may be sent while no task is under way. -/
def free : List PrimitiveCode :=
  [controlPrep, controlRc, controlCodec, controlSei, regs, reset, flush]

/-- What ends a task. -/
def closing : List PrimitiveCode := [wait, reset, flush]

def oneOf (codes : List PrimitiveCode) : Language PrimitiveCode :=
  {word | ∃ code ∈ codes, word = [code]}

def turn : Language PrimitiveCode := oneOf free + {[start]} * oneOf closing

/-- What a channel has carried while no task is under way. -/
def between : Language PrimitiveCode := {[init]} * turn∗

/-- All that a channel may carry from its opening to its farewell. -/
def conversation : Language PrimitiveCode := between * (1 + {[start]}) * (1 + {[deinit]})

def Begins (word : List PrimitiveCode) : Prop := ∃ rest, word ++ rest ∈ conversation

/-- Which primitive may come directly behind which. -/
def Follows : PrimitiveCode → PrimitiveCode → Prop
  | start, next => next ∈ closing ∨ next = deinit
  | deinit, _ => False
  | _, next => next ∈ free ∨ next = start ∨ next = deinit

/-- A word that opens with the opening and leaves no task under way. -/
structure Settles (word : List PrimitiveCode) : Prop where
  opening : word.head? = some init
  chain : word.IsChain Follows
  last : ∀ code ∈ word.getLast?, code ≠ start ∧ code ≠ deinit

theorem follows_of_idle {code next : PrimitiveCode} (idle : code ≠ start ∧ code ≠ deinit)
    (allowed : next ∈ free ∨ next = start ∨ next = deinit) : Follows code next := by
  cases code <;> first | exact allowed | exact absurd rfl idle.1 | exact absurd rfl idle.2

theorem Settles.append_turn {word more : List PrimitiveCode} (settles : Settles word)
    (whole : more ∈ turn) : Settles (word ++ more) := by
  have opening : (word ++ more).head? = some init := by
    rw [List.head?_append, settles.opening]
    rfl
  rcases whole with ⟨code, member, rfl⟩ | whole
  · have idle : code ≠ start ∧ code ≠ deinit := by
      constructor <;> rintro rfl <;> simp [free] at member
    refine ⟨opening, settles.chain.append (.singleton _) ?_, by simpa using idle⟩
    intro last final next same
    cases same
    exact follows_of_idle (settles.last last final) (.inl member)
  · obtain ⟨_, rfl, _, ⟨code, member, rfl⟩, rfl⟩ := Language.mem_mul.1 whole
    have idle : code ≠ start ∧ code ≠ deinit := by
      constructor <;> rintro rfl <;> simp [closing] at member
    have task : [start, code].IsChain Follows := List.isChain_pair.2 (.inl member)
    refine ⟨opening, settles.chain.append task ?_, by simpa using idle⟩
    intro last final next same
    cases same
    exact follows_of_idle (settles.last last final) (.inr (.inl rfl))

theorem settles_between {word : List PrimitiveCode} (before : word ∈ between) : Settles word := by
  obtain ⟨_, rfl, later, all, rfl⟩ := Language.mem_mul.1 before
  obtain ⟨turns, rfl, each⟩ := Language.mem_kstar.1 all
  have opened : Settles [init] := ⟨rfl, .singleton _, by simp⟩
  clear before all
  generalize [init] = front at opened ⊢
  induction turns generalizing front with
  | nil => simpa using opened
  | cons first rest ih =>
    rw [List.flatten_cons, ← List.append_assoc]
    exact ih (fun other member => each other (by simp [member])) _
      (opened.append_turn (each first (by simp)))

/-- The order of a word, told by neighbours: there is one opening and it comes first, a task is
followed by what ends it or by the farewell, and the farewell by nothing. -/
theorem Begins.chain {word : List PrimitiveCode} (begins : Begins word) :
    (∀ first ∈ word.head?, first = init) ∧ word.IsChain Follows := by
  obtain ⟨rest, whole⟩ := begins
  obtain ⟨_, front, farewell, ends, same⟩ := Language.mem_mul.1 whole
  obtain ⟨before, turns, task, under_way, rfl⟩ := Language.mem_mul.1 front
  have settles := settles_between turns
  have started : (before ++ task).IsChain Follows ∧
      ∀ last ∈ (before ++ task).getLast?, last ≠ deinit := by
    rcases under_way with rfl | rfl
    · rw [List.append_nil]
      exact ⟨settles.chain, fun last final => (settles.last last final).2⟩
    · refine ⟨settles.chain.append (.singleton _) ?_, by simp⟩
      intro last final next same
      cases same
      exact follows_of_idle (settles.last last final) (.inr (.inl rfl))
  have all : (before ++ task ++ farewell).IsChain Follows := by
    rcases ends with rfl | rfl
    · rw [List.append_nil]
      exact started.1
    · refine started.1.append (.singleton _) ?_
      intro last final next same
      cases same
      have open_end := started.2 last final
      cases last <;> first | exact .inr rfl | exact .inr (.inr rfl) | exact absurd rfl open_end
  rw [same] at all
  refine ⟨fun first present => ?_, all.left_of_append⟩
  have opening : (word ++ rest).head? = some init := by
    rw [← same, List.append_assoc, List.head?_append, settles.opening]
    rfl
  rw [List.head?_append, Option.mem_def.1 present] at opening
  exact Option.some.inj opening

theorem between_append {word more : List PrimitiveCode} (before : word ∈ between)
    (whole : more ∈ turn) : word ++ more ∈ between := by
  obtain ⟨opening, first, later, all, rfl⟩ := Language.mem_mul.1 before
  have longer : later ++ more ∈ turn∗ :=
    kstar_mul_le_kstar (a := turn) (Language.append_mem_mul all whole)
  rw [List.append_assoc]
  exact Language.append_mem_mul first longer

theorem between_append_free {word more : List PrimitiveCode} (before : word ∈ between)
    (all : ∀ code ∈ more, code ∈ free) : word ++ more ∈ between := by
  induction more generalizing word with
  | nil => rwa [List.append_nil]
  | cons code rest ih =>
    have longer : word ++ [code] ∈ between :=
      between_append before (.inl ⟨code, all code (by simp), rfl⟩)
    rw [List.append_cons]
    exact ih longer fun other member => all other (by simp [member])

theorem between_append_task {word : List PrimitiveCode} {code : PrimitiveCode}
    (before : word ∈ between) (ends : code ∈ closing) : word ++ [start] ++ [code] ∈ between := by
  rw [List.append_assoc]
  exact between_append before (.inr (Language.append_mem_mul rfl ⟨code, ends, rfl⟩))

theorem begins_front {word rest : List PrimitiveCode} (begins : Begins (word ++ rest)) :
    Begins word := by
  obtain ⟨more, whole⟩ := begins
  exact ⟨rest ++ more, by rwa [← List.append_assoc]⟩

theorem begins_deinit {word task : List PrimitiveCode} (before : word ∈ between)
    (under_way : task ∈ (1 + {[start]} : Language PrimitiveCode)) :
    Begins (word ++ task ++ [deinit]) := by
  have farewell : [deinit] ∈ (1 + {[deinit]} : Language PrimitiveCode) := .inr rfl
  refine ⟨[], ?_⟩
  rw [List.append_nil]
  exact Language.append_mem_mul (Language.append_mem_mul before under_way) farewell

/-- What the channel of a session in some state has carried. -/
def stage : SessionState → Language PrimitiveCode
  | .connected | .configured => between
  | .running => between * {[start]}
  | _ => 0

theorem stage_split {state : SessionState} {word : List PrimitiveCode}
    (carried : word ∈ stage state) :
    ∃ before ∈ between, ∃ task ∈ (1 + {[start]} : Language PrimitiveCode),
      word = before ++ task := by
  cases state with
  | connected | configured => exact ⟨word, carried, [], .inl rfl, by rw [List.append_nil]⟩
  | running =>
    obtain ⟨before, turns, task, same, rfl⟩ := Language.mem_mul.1 carried
    exact ⟨before, turns, task, .inr same, rfl⟩
  | uninitialized | waiting | resetting | disconnected => cases carried

theorem begins_stage {state : SessionState} {word : List PrimitiveCode}
    (carried : word ∈ stage state) : Begins word := by
  obtain ⟨before, turns, task, under_way, rfl⟩ := stage_split carried
  exact begins_front (begins_deinit turns under_way)

end PrimitiveCode

end CodecLink
