import Mathlib.Data.List.Induction
import Mathlib.Data.List.ReduceOption
import CodecLink.Proofs.Dispatcher.Answering
import CodecLink.Proofs.Dispatcher.Publishing
import CodecLink.Proofs.Dispatcher.Serving
import CodecLink.Waiting

/-! The discipline of the ready words. A dispatcher whose engine leaves them alone writes a word
only to tell of a result, which is never the word of an unfinished task; and looking at a word finds
the first other one that it shows, up to the last look. -/
namespace CodecLink

namespace ReadyFlag

/-- What the next look shows once so many were made. -/
def shown (flag : ReadyFlag) (looks : Nat) : UInt32 := flag.upcoming[looks]?.getD flag.value

theorem load_eq (flag : ReadyFlag) :
    flag.load =
      (flag.shown 0,
        { flag with upcoming := flag.upcoming.tail, loads := flag.loads + 1 }) := by
  obtain ⟨_ | ⟨word, upcoming⟩, value, arms, loads⟩ := flag <;> rfl

theorem shown_succ (flag : ReadyFlag) (looks : Nat) :
    flag.shown (looks + 1) = flag.load.2.shown looks := by
  rw [load_eq]
  simp [shown]

theorem loads_load (flag : ReadyFlag) : flag.load.2.loads = flag.loads + 1 := by
  rw [load_eq]

/-- One look, and the rest of the poll where it does not end it. -/
theorem poll_eq (polls : Nat) (flag : ReadyFlag) :
    flag.poll polls =
      if flag.shown 0 ≠ readySentinel then (.ready (flag.shown 0).toUInt64, flag.load.2)
      else
        match polls with
        | 0 => (.timeout, flag.load.2)
        | polls + 1 => flag.load.2.poll polls := by
  have first : flag.load.1 = flag.shown 0 := by rw [load_eq]
  rw [← first]
  cases polls <;> rfl

/-- The first word shown that is not that of an unfinished task ends the looking, with nothing
looked at behind it. -/
theorem poll_of_ready {flag : ReadyFlag} {polls looks : Nat} (within : looks ≤ polls)
    (unready : ∀ i < looks, flag.shown i = readySentinel)
    (ready : flag.shown looks ≠ readySentinel) :
    (flag.poll polls).1 = .ready (flag.shown looks).toUInt64 ∧
      (flag.poll polls).2.loads = flag.loads + (looks + 1) := by
  induction looks generalizing flag polls with
  | zero =>
    rw [poll_eq, if_pos ready]
    exact ⟨rfl, flag.loads_load⟩
  | succ looks ih =>
    obtain ⟨polls, rfl⟩ : ∃ fewer, polls = fewer + 1 := ⟨polls - 1, by omega⟩
    rw [shown_succ] at ready ⊢
    rw [poll_eq, if_neg (not_not.2 (unready 0 (Nat.succ_pos looks)))]
    obtain ⟨outcome, loads⟩ := ih (Nat.le_of_succ_le_succ within)
      (fun i before => (flag.shown_succ i).symm.trans (unready (i + 1) (Nat.succ_lt_succ before)))
      ready
    refine ⟨outcome, ?_⟩
    rw [loads, loads_load]
    omega

theorem poll_of_unready {flag : ReadyFlag} {polls : Nat}
    (unready : ∀ i ≤ polls, flag.shown i = readySentinel) :
    (flag.poll polls).1 = .timeout ∧ (flag.poll polls).2.loads = flag.loads + (polls + 1) := by
  induction polls generalizing flag with
  | zero =>
    rw [poll_eq, if_neg (not_not.2 (unready 0 (Nat.le_refl 0)))]
    exact ⟨rfl, flag.loads_load⟩
  | succ polls ih =>
    rw [poll_eq, if_neg (not_not.2 (unready 0 (Nat.zero_le _)))]
    obtain ⟨outcome, loads⟩ := ih fun i within =>
      (flag.shown_succ i).symm.trans (unready (i + 1) (Nat.succ_le_succ within))
    refine ⟨outcome, ?_⟩
    rw [loads, loads_load]
    omega

theorem poll_eq_timeout_iff {flag : ReadyFlag} {polls : Nat} :
    (flag.poll polls).1 = .timeout ↔ ∀ i ≤ polls, flag.shown i = readySentinel := by
  refine ⟨fun late i within => ?_, fun unready => (poll_of_unready unready).1⟩
  induction i using Nat.strong_induction_on with
  | _ i before =>
    by_contra ready
    have found := (poll_of_ready within (fun j less => before j less (by omega)) ready).1
    cases late.symm.trans found

end ReadyFlag

namespace Dispatcher

theorem toNat_publishedSize (size : UInt64) :
    (publishedSize size).toNat = min size.toNat (2 ^ 32 - 2) := by
  have top : readySentinel.toNat = 2 ^ 32 - 1 := rfl
  rw [publishedSize, UInt32.toNat_ofNat', top]
  omega

variable {σ : Type} (host : EngineHost σ)

/-- Handling the primitive tells of a result. It is a request, in a session that polls, for an
output that was imported with this region; the last time that it was asked, the engine had a result,
and the word is the size that this states. -/
inductive Publishes (p : Primitive) (d : Dispatcher σ) (id : RegionId) (word : UInt32) : Prop
  | completed {s : HostSession} {output : Option Buffer} {calls : Nat} {feedback : Feedback}
      (opened : d.session = some s) (polling : s.config.completion.isPolling = true)
      (kind : p.kind? = some .wait) (named : requested? p.payload d.regions = some (.ok output))
      (attached : output.bind (·.region) = some id)
      (drain : host.Drain { s.task with output } d.allowance d.hosted calls (.ok feedback))
      (size : word.toNat = min feedback.outputSize.toNat (2 ^ 32 - 2))

variable {host} {d : Dispatcher σ} {p : Primitive} {id : RegionId} {word : UInt32}

/-- What is published when a primitive is handled, in terms of what the primitive is and what the
engine answers. -/
theorem posted?_eq_some_iff :
    d.posted? host p = some (id, word) ↔ Publishes host p d id word := by
  constructor
  · intro posted
    have kind := wait_of_posted posted
    rw [posted?] at posted
    split at posted
    · rename_i s output opened named
      rw [if_pos kind, postedFor?] at posted
      split at posted
      · rename_i own feedback attached completed
        split at posted
        · rename_i polling
          cases posted
          obtain ⟨calls, drain⟩ := collected_eq_completed_iff.1 completed
          exact .completed opened polling kind named attached drain (toNat_publishedSize _)
        · cases posted
      · cases posted
    · cases posted
  · rintro @⟨s, output, calls, feedback, opened, polling, kind, named, attached, drain, size⟩
    have completed := collected_eq_completed_iff.2 ⟨calls, drain⟩
    have same : publishedSize feedback.outputSize = word :=
      UInt32.toNat_inj.1 ((toNat_publishedSize _).trans size.symm)
    simp only [posted?, opened, named, kind, if_true, postedFor?, attached,
      collected_countPrimitive, completed, polling, same]

/-- An output that was imported with a region has it in the table. -/
theorem region_of_requested {payload : Bytes} {t : RegionTable} {output : Option Buffer}
    (named : requested? payload t = some (.ok output))
    (attached : output.bind (·.region) = some id) : ∃ r, t.region? id = some r := by
  rw [requested?] at named
  split at named
  · cases named
  · cases named
    cases attached
  · rename_i request decoded
    cases imported : t.importBuffer request.output with
    | error e =>
      rw [imported] at named
      cases named
    | ok buffer =>
      rw [imported] at named
      cases named
      rcases RegionTable.importBuffer_region imported with heap | ⟨own, r, shared, here, -⟩
      · cases heap.symm.trans attached
      · cases shared.symm.trans attached
        exact ⟨r, here⟩

/-- The word of a result takes the place of one that was there. -/
theorem Publishes.present (publishes : Publishes host p d id word) :
    ∃ old, d.regions.word? id = some old := by
  obtain ⟨-, -, -, named, attached, -, -⟩ := publishes
  obtain ⟨r, here⟩ := region_of_requested named attached
  exact ⟨r.ready, by rw [RegionTable.word?, here]; rfl⟩

theorem Publishes.published (publishes : Publishes host p d id word) : word ≠ readySentinel := by
  obtain ⟨-, -, -, -, -, -, size⟩ := publishes
  rintro rfl
  have top : readySentinel.toNat = 2 ^ 32 - 1 := rfl
  omega

/-- A result is told of in one region, whose word changes to its size. -/
theorem Publishes.words (leaves : host.LeavesWords) (publishes : Publishes host p d id word) :
    (d.dispatch host p).1.regions.word? id = some word ∧
      ∀ other, other ≠ id → (d.dispatch host p).1.regions.word? other = d.regions.word? other := by
  obtain ⟨old, present⟩ := publishes.present
  have posted := posted?_eq_some_iff.2 publishes
  constructor
  · rw [word?_dispatch leaves, posted, RegionTable.wordAfter, if_pos rfl, present]
    rfl
  · intro other apart
    rw [word?_dispatch leaves, posted, RegionTable.wordAfter, if_neg apart.symm]

theorem words_of_silent (leaves : host.LeavesWords)
    (silent : ∀ id word, ¬Publishes host p d id word) (id : RegionId) :
    (d.dispatch host p).1.regions.word? id = d.regions.word? id := by
  have unposted : d.posted? host p = none := by
    by_contra spoken
    obtain ⟨⟨own, word⟩, posted⟩ := Option.ne_none_iff_exists'.1 spoken
    exact silent own word (posted?_eq_some_iff.1 posted)
  rw [word?_dispatch leaves, unposted]
  rfl

variable (host) in
/-- How a run came from one dispatcher to another, and the primitives that it handled with the
dispatchers that came to handle them. Frames that could not be read are counted on the way, and the
engine of an open session may be let go. -/
inductive Course (first : Dispatcher σ) : List (Dispatcher σ × Primitive) → Dispatcher σ → Prop
  | start : Course first [] first
  | dropped {turns : List (Dispatcher σ × Primitive)} {d : Dispatcher σ}
      (course : Course first turns d) : Course first turns d.countDropped
  | handled {turns : List (Dispatcher σ × Primitive)} {d : Dispatcher σ}
      (course : Course first turns d) (p : Primitive) :
      Course first (turns ++ [(d, p)]) (d.dispatch host p).1
  | released {turns : List (Dispatcher σ × Primitive)} {d : Dispatcher σ}
      (course : Course first turns d) : Course first turns (d.release host)

variable {first after : Dispatcher σ}

theorem course_reached (ps : List Primitive) (d : Dispatcher σ) :
    Course host d (turns host ps d) (d.reached host ps) := by
  induction ps using List.reverseRecOn with
  | nil => exact .start
  | append_singleton ps p ih =>
    rw [turns_concat, reached_concat]
    exact .handled ih p

/-- Serving a channel is such a run, whatever the channel brings. -/
theorem course_serve (stops : List Bool) (d : Dispatcher σ) (c : Channel) :
    ∃ turns, Course host d turns (d.serve host stops c).dispatcher := by
  have step (p : Primitive) (after : Dispatcher σ) (ran : ∃ turns, Course host d turns after) :
      Behind (fun after => ∃ turns, Course host d turns after)
        (fun after => ∃ turns, Course host d turns after) (after.dispatch host p) := by
    obtain ⟨turns, course⟩ := ran
    rw [Behind]
    split <;> exact ⟨_, course.handled p⟩
  cases serve_end (fun _ ⟨turns, course⟩ => ⟨turns, course.dropped⟩) step stops c
      ⟨[], Course.start⟩ with
  | ended status held released =>
    obtain ⟨turns, course⟩ := held.elim id id
    exact ⟨turns, released ▸ course.released⟩
  | waiting status held => exact held
  | failed status aborts held => exact held

theorem word?_release (leaves : host.LeavesWords) (d : Dispatcher σ) (id : RegionId) :
    (d.release host).regions.word? id = d.regions.word? id := by
  rw [release]
  split
  · exact word?_perform leaves .deinit { d with session := none } id
  · rfl

/-- The words of the table once these were written, one after another. -/
def rewritten (posts : List (Option (RegionId × UInt32))) (t : RegionTable) : RegionTable :=
  posts.reduceOption.foldl (fun t post => t.publish post.1 post.2) t

/-- A run writes no ready word but those that the primitives publish which it handles. -/
theorem Course.words (leaves : host.LeavesWords) {turns : List (Dispatcher σ × Primitive)}
    (course : Course host first turns after) (id : RegionId) :
    after.regions.word? id =
      (rewritten (turns.map fun turn => turn.1.posted? host turn.2) first.regions).word? id := by
  induction course generalizing id with
  | start => rfl
  | dropped course ih => exact ih id
  | released course ih => exact (word?_release leaves _ id).trans (ih id)
  | @handled turns d course p ih =>
    -- What this primitive publishes is written last, over what the words were when it came.
    rw [word?_dispatch leaves, List.map_append, rewritten, List.reduceOption_append,
      List.foldl_append]
    change _ = ((d.posted? host p).toList.foldl _ (rewritten _ first.regions)).word? id
    cases d.posted? host p with
    | none => exact ih id
    | some post =>
      rw [RegionTable.wordAfter, ih id]
      exact (RegionTable.word?_publish _ post.1 id post.2).symm

/-- The discipline of the ready words. Handling a primitive writes one of them if the primitive is a
request that completes in a session that polls, with an output in that region, and none otherwise;
what is written is the size of the result as far as a word holds it, and never the word of an
unfinished task. So a run writes one word for each such request that it handles and nothing else, be
it over primitives one after another or over all that a channel brings. Looking at a word again and
again finds the first other word that it shows and looks no further, and times out exactly if none
of the looks shows one, so not with a result that is there at the last look. -/
theorem ready_word_discipline (leaves : host.LeavesWords) :
    (∀ (p : Primitive) (d : Dispatcher σ),
      (∀ id word, Publishes host p d id word →
        word ≠ readySentinel ∧ (d.dispatch host p).1.regions.word? id = some word ∧
        ∀ other, other ≠ id →
          (d.dispatch host p).1.regions.word? other = d.regions.word? other) ∧
      ((∀ id word, ¬Publishes host p d id word) →
        ∀ id, (d.dispatch host p).1.regions.word? id = d.regions.word? id)) ∧
    (∀ (first after : Dispatcher σ) (turns : List (Dispatcher σ × Primitive)),
      Course host first turns after → ∃ posts,
        List.Forall₂ (fun turn post => ∀ id word,
          post = some (id, word) ↔ Publishes host turn.2 turn.1 id word) turns posts ∧
        ∀ id, after.regions.word? id = (rewritten posts first.regions).word? id) ∧
    (∀ ps d, Course host d (turns host ps d) (d.reached host ps)) ∧
    (∀ stops d c, ∃ turns, Course host d turns (d.serve host stops c).dispatcher) ∧
    ∀ (flag : ReadyFlag) (polls : Nat),
      (∀ looks ≤ polls, (∀ i < looks, flag.shown i = readySentinel) →
        flag.shown looks ≠ readySentinel →
        (flag.poll polls).1 = .ready (flag.shown looks).toUInt64 ∧
        (flag.poll polls).2.loads = flag.loads + (looks + 1)) ∧
      ((flag.poll polls).1 = .timeout ↔ ∀ i ≤ polls, flag.shown i = readySentinel) ∧
      ((flag.poll polls).1 = .timeout → (flag.poll polls).2.loads = flag.loads + (polls + 1)) ∧
      ∀ p d id, Publishes host p d id (flag.shown polls) → (flag.poll polls).1 ≠ .timeout := by
  refine ⟨fun p d => ⟨fun id word publishes => ?_, words_of_silent leaves⟩,
    fun first after turns course => ?_, course_reached, course_serve, fun flag polls => ?_⟩
  · obtain ⟨own, others⟩ := publishes.words leaves
    exact ⟨publishes.published, own, others⟩
  · refine ⟨turns.map fun turn => turn.1.posted? host turn.2, ?_, course.words leaves⟩
    rw [List.forall₂_map_right_iff]
    exact List.forall₂_same.2 fun turn _ id word => posted?_eq_some_iff
  · refine ⟨fun looks within unready ready => ReadyFlag.poll_of_ready within unready ready,
      ReadyFlag.poll_eq_timeout_iff, fun late => ?_, fun p d id publishes late => ?_⟩
    · exact (ReadyFlag.poll_of_unready (ReadyFlag.poll_eq_timeout_iff.1 late)).2
    · exact publishes.published (ReadyFlag.poll_eq_timeout_iff.1 late polls (Nat.le_refl polls))

/-- A request whose result is too large for a word puts the largest size there, and a poll whose
last look shows it does not time out. -/
theorem ready_word_of_vast_result :
    let host := ScriptedEngine.host .full
    let config : SessionConfig := { completion := .polling 1 2 }
    let d : Dispatcher ScriptedEngine :=
      { regions := { regions := [⟨7, 64, readySentinel, []⟩], slots := [(7, 0)] }
        engine := { outcomes := [(.wait, [.fail .notReady, .report (.done 0x10000000000)])] }
        session := some { config, applied := .blank .h264 } }
    let p : Primitive := .of .wait (WaitRequest.encode { output := .shared 7 64 })
    let flag : ReadyFlag := { upcoming := [readySentinel, readySentinel], value := 0xFFFFFFFE }
    host.LeavesWords ∧ Publishes host p d 0 0xFFFFFFFE ∧
      (d.dispatch host p).1.regions.word? 0 = some 0xFFFFFFFE ∧
      (flag.poll 2).1 = .ready 0xFFFFFFFE := by
  intro host config d p flag
  have leaves := ScriptedEngine.leavesWords .full
  have publishes : Publishes host p d 0 0xFFFFFFFE := posted?_eq_some_iff.1 (by decide +kernel)
  obtain ⟨turn, -, -, -, looks⟩ := ready_word_discipline leaves
  obtain ⟨-, own, -⟩ := (turn p d).1 0 _ publishes
  obtain ⟨found, -⟩ := (looks flag 2).1 2 (Nat.le_refl 2) (by decide) (by decide)
  exact ⟨leaves, publishes, own, found⟩

end Dispatcher

end CodecLink
