import CodecLink.Proofs.Session.Polling

/-! What a wait that looks at a ready word returns: a length that the host published after the word
was armed, for the wait's own request or for one of those that were still to be handled then. -/
namespace CodecLink

namespace ReadyFlag

/-- A look sees what was laid out next, or the word as it is. -/
theorem load_cases (flag : ReadyFlag) :
    (flag.load.1 ∈ flag.upcoming ∨ flag.load.1 = flag.value) ∧
      flag.load.2.value = flag.value ∧ ∀ word ∈ flag.load.2.upcoming, word ∈ flag.upcoming := by
  obtain ⟨upcoming, value, arms, loads⟩ := flag
  cases upcoming with
  | nil => simp [load]
  | cons word later =>
    refine ⟨.inl (by simp [load]), rfl, fun other member => ?_⟩
    exact List.mem_cons_of_mem word member

/-- A poll runs out of looks, or ends with a word that was seen. -/
theorem poll_cases (polls : Nat) (flag : ReadyFlag) :
    (flag.poll polls).1 = .timeout ∨
      ∃ word, word ≠ readySentinel ∧ (flag.poll polls).1 = .ready word.toUInt64 ∧
        (word ∈ flag.upcoming ∨ word = flag.value) := by
  induction polls generalizing flag with
  | zero =>
    obtain ⟨seen, _⟩ := flag.load_cases
    rw [poll]
    generalize flag.load = looked at seen
    obtain ⟨word, after⟩ := looked
    by_cases published : word ≠ readySentinel
    · simp only [if_pos published]
      exact .inr ⟨word, published, rfl, seen⟩
    · simp only [if_neg published]
      exact .inl trivial
  | succ polls ih =>
    obtain ⟨seen, value, fewer⟩ := flag.load_cases
    rw [poll]
    generalize flag.load = looked at seen value fewer
    obtain ⟨word, after⟩ := looked
    by_cases published : word ≠ readySentinel
    · simp only [if_pos published]
      exact .inr ⟨word, published, rfl, seen⟩
    · simp only [if_neg published]
      refine (ih after).imp_right ?_
      rintro ⟨word, published, same, later⟩
      exact ⟨word, published, same, later.imp (fewer word) fun own => own.trans value⟩

end ReadyFlag

namespace Poll

variable {σ : Type} {w : Poll σ}

/-- A word that is seen was published since the word was armed, if it is not the armed one. -/
def Shows (w : Poll σ) (word : UInt32) : Prop :=
  word = readySentinel ∨ ∃ p ∈ w.posted, p.word = word

/-- Requests that can be handled during a wait. -/
def Meets (w : Poll σ) (request : Request) : Prop := request ∈ w.left ∨ request = w.request

theorem note_own {p : Posting σ} (own : p.region = w.flag) :
    w.note p = { w with posted := w.posted ++ [p] } := if_pos own

theorem note_other {p : Posting σ} (other : p.region ≠ w.flag) : w.note p = w := if_neg other

theorem awaited_note (p : Posting σ) : (w.note p).awaited = w.awaited := by
  rw [note]
  split <;> rfl

end Poll

namespace Polling

variable {σ : Type} {engines : EngineHost σ} {s : Polling σ} {w : Poll σ}

/-- What holds of a wait under way. -/
structure Watches (engines : EngineHost σ) (s : Polling σ) (w : Poll σ) : Prop where
  polling : s.session.config.completion.isPolling = true
  armed : w.awaited = none → s.session.state = .running ∧
    s.session.watchesWord w.output true = true ∧ w.number = s.waits + 1
  there : w.awaited.isSome → s.session.channel.isSome ∧ w.number = s.waits
  word : ∃ word, s.host.regions.word? w.flag = some word ∧ w.Shows word
  looks : ∀ word ∈ w.looks, w.Shows word
  posted : ∀ p ∈ w.posted, w.Meets p.request ∧
    p.handler.posted? engines p.request.primitive = some (w.flag, p.word)
  pending : ∀ r ∈ s.outstanding, w.Meets r
  earlier : ∀ r ∈ w.left, ∀ number ∈ r.wait, number < w.number

structure Sound (engines : EngineHost σ) (s : Polling σ) : Prop where
  due : ∀ p ∈ s.due, p.handler.posted? engines p.request.primitive = some (p.region, p.word)
  settled : (∀ w ∈ s.poll, w.awaited = none) → s.session.Settled
  numbered : ∀ r ∈ s.outstanding, ∀ number ∈ r.wait, number ≤ s.waits
  poll : ∀ w ∈ s.poll, s.Watches engines w

variable (engines) in
theorem sound_start (config : SessionConfig) (host : Dispatcher σ) :
    Sound engines { session := .ofConfig config, host } where
  due _ member := by cases member
  settled _ := .inr ⟨rfl, by simp [Session.ofConfig, Session.openingStates]⟩
  numbered _ member := by cases member
  poll _ member := by cases member

theorem Sound.call (sound : s.Sound engines) (idle : s.poll = none) (call : SessionCall) :
    (s.call call).Sound engines where
  due := sound.due
  settled _ := by
    have settled := sound.settled (by simp [idle])
    exact (Session.carried_perform settled call).settled
  numbered r member number label := by
    have grown : s.waits ≤ (s.call call).waits := by
      simp only [Polling.call]
      split <;> omega
    rw [outstanding, Polling.call, ← List.append_assoc] at member
    rcases List.mem_append.1 member with before | now
    · exact Nat.le_trans (sound.numbered r before number label) grown
    · obtain ⟨p, _, rfl⟩ := List.mem_map.1 now
      simp only [Polling.call] at label ⊢
      split at label
      · cases label
        simp [*]
      · cases label
  poll w member := by
    rw [show (s.call call).poll = none from idle] at member
    cases member

theorem Sound.arm (sound : s.Sound engines) (idle : s.poll = none)
    (running : s.session.state = .running) {output : Descriptor} {flag : RegionId}
    (watches : s.session.watchesWord output true = true)
    (present : (s.host.regions.word? flag).isSome) : (s.arm output flag).Sound engines where
  due := sound.due
  settled _ := sound.settled (by simp [idle])
  numbered := sound.numbered
  poll w member := by
    cases member
    obtain ⟨word, own⟩ := Option.isSome_iff_exists.1 present
    have polling : s.session.config.completion.isPolling = true := by
      simp only [Session.watchesWord, Bool.and_eq_true] at watches
      exact watches.1.1
    have armed : (s.host.regions.arm flag).word? flag = some readySentinel := by
      rw [show s.host.regions.arm flag = s.host.regions.publish flag readySentinel from rfl,
        RegionTable.word?_publish, if_pos rfl, own]
      rfl
    refine ⟨polling, fun _ => ⟨running, watches, rfl⟩, fun sent => ?_, ⟨_, armed, .inl rfl⟩, ?_, ?_,
      fun r pending => .inl pending, fun r left number label => ?_⟩
    · cases sent
    · simp
    · simp
    · exact Nat.lt_succ_of_le (sound.numbered r left number label)

/-- All that submitting a wait sends is its request. -/
theorem mem_submitted {s : Session} (settled : s.Settled) (running : s.state = .running)
    {output : Descriptor} (watches : s.watchesWord output true = true) {p : Primitive}
    (sent : p ∈ Frame.whole (submitted output s)) : p = .of .wait output.encode := by
  have begun := Session.begun_wait settled output (some {})
  have member : s.state ∈ [SessionState.running] := by simp [running]
  obtain ⟨c, held, _⟩ := settled.holds member (by decide)
  obtain ⟨final, bs, last, written, _, wrote⟩ := begun.sends c held
  have last : (s.submitWait output true).2.latest = some final := last
  have before : s.latest = some c := by
    rw [Session.latest, held]
    rfl
  have bytes : submitted output s = bs := by
    simp [submitted, last, before, written]
  have short : ∀ a ∈ s.attempts (.wait output (some {})),
      a.primitive.payload.length < 2 ^ 32 := fun a member => Session.short_of_mem member
  have payload : s.waitPayload output true = output.encode := by
    have polling : s.config.completion.isPolling = true := by
      simp only [Session.watchesWord, Bool.and_eq_true] at watches
      exact watches.1.1
    rw [Session.waitPayload, if_pos polling, if_pos watches]
  have attempts : (s.attempts (.wait output (some {}))).map (·.primitive) =
      [.of .wait output.encode] := by
    rw [show s.attempts (.wait output (some {})) = [s.waitAttempt output true] from if_pos running,
      List.map_singleton, Session.primitive_waitAttempt, payload]
  have front := (wrote.frames short).1
  rw [attempts] at front
  rw [bytes] at sent
  exact List.mem_singleton.1 (front.subset sent)

theorem Sound.send (sound : s.Sound engines) (waits : s.poll = some w) (unsent : w.awaited = none) :
    (s.send w).Sound engines := by
  have watch := sound.poll w waits
  obtain ⟨running, watches, number⟩ := watch.armed unsent
  have settled := sound.settled (by simp [waits, unsent])
  have begun : Session.Begun (.wait w.output (some {})) s.session
      (s.session.submitWait w.output true).1.toOption
      (s.session.submitWait w.output true).2 :=
    Session.begun_wait settled w.output (some {})
  have added : ∀ r ∈ (s.send w).outstanding, r ∈ s.outstanding ∨ r = w.request := by
    intro r member
    rw [outstanding, Polling.send, ← List.append_assoc] at member
    refine (List.mem_append.1 member).imp_right fun now => ?_
    obtain ⟨p, sent, rfl⟩ := List.mem_map.1 now
    rw [mem_submitted settled running watches sent]
    rfl
  constructor
  case due => exact sound.due
  case settled =>
    intro unsubmitted
    refine begun.settled ?_
    cases submitted : (s.session.submitWait w.output true).1.toOption with
    | none => rfl
    | some awaited =>
      have impossible := unsubmitted { w with awaited := some awaited } (by
        simp [Polling.send, submitted])
      cases impossible
  case numbered =>
    intro r member own label
    rcases added r member with before | rfl
    · exact Nat.le_succ_of_le (sound.numbered r before own label)
    · cases label
      exact Nat.le_of_eq number
  case poll =>
    intro sent member
    obtain ⟨awaited, submitted, rfl⟩ := Option.map_eq_some_iff.1 member
    refine ⟨?_, fun unsent => ?_, fun _ => ⟨?_, number⟩, watch.word, watch.looks, watch.posted,
      fun r pending => ?_, watch.earlier⟩
    · rw [show (s.send w).session.config = s.session.config from begun.config]
      exact watch.polling
    · cases unsent
    · exact (begun.submitted awaited submitted).1
    · exact (added r pending).elim (watch.pending r) .inr

theorem Sound.look (sound : s.Sound engines) (waits : s.poll = some w) {word : UInt32}
    (seen : s.host.regions.word? w.flag = some word) (sent : w.awaited.isSome) :
    Sound engines { s with poll := some { w with looks := w.looks ++ [word] } } where
  due := sound.due
  settled unsent := by
    have impossible : w.awaited = none := unsent { w with looks := w.looks ++ [word] } rfl
    rw [impossible] at sent
    cases sent
  numbered := sound.numbered
  poll looking member := by
    cases member
    have watch := sound.poll w waits
    obtain ⟨now, present, shown⟩ := watch.word
    cases present.symm.trans seen
    refine { watch with looks := fun look member => ?_ }
    rcases List.mem_append.1 member with before | last
    · exact watch.looks look before
    · rw [List.mem_singleton.1 last]
      exact shown

theorem Sound.finish (sound : s.Sound engines) (waits : s.poll = some w) {awaited : Awaited}
    (submitted : w.awaited = some awaited) :
    Sound engines { s with
      session := (s.session.finishWait awaited (s.flagOf w)).2.2, poll := none } where
  due := sound.due
  settled _ := by
    have there := (sound.poll w waits).there (by simp [submitted])
    obtain ⟨c, held⟩ := Option.isSome_iff_exists.1 there.1
    obtain ⟨final, _, ⟨e, _, after⟩ | ⟨output, _, after⟩⟩ :=
      Session.finishWait_cases held awaited (s.flagOf w)
    · rw [after]
      exact Session.settled_gone rfl rfl
    · rw [after]
      exact .inl ⟨rfl, by simp⟩
  numbered := sound.numbered
  poll w member := by cases member

theorem Sound.handle (leaves : engines.LeavesWords) (sound : s.Sound engines) {request : Request}
    {requests : List Request} (free : s.due = none) (next : s.requests = request :: requests) :
    (s.handle engines request requests).Sound engines := by
  have words := Dispatcher.word?_dispatch leaves request.primitive s.host
  have before : s.outstanding = request :: requests := by simp [outstanding, free, next]
  rw [Polling.handle]
  cases posted : s.host.posted? engines request.primitive with
  | none =>
    rw [posted] at words
    have still : ∀ r ∈ requests, r ∈ s.outstanding := fun r member =>
      before ▸ List.mem_cons_of_mem request member
    refine ⟨sound.due, sound.settled, fun r member => ?_, fun w waits => ?_⟩
    · exact sound.numbered r (still r (by simpa [outstanding, free] using member))
    · have watch := sound.poll w waits
      obtain ⟨word, present, shown⟩ := watch.word
      exact { watch with
        word := ⟨word, (words w.flag).trans present, shown⟩
        pending := fun r member =>
          watch.pending r (still r (by simpa [outstanding, free] using member)) }
  | some entry =>
    obtain ⟨region, word⟩ := entry
    rw [posted] at words
    refine ⟨fun p member => ?_, sound.settled, fun r member => ?_, fun w waits => ?_⟩
    · cases member
      exact posted
    · exact sound.numbered r (before ▸ member)
    · have watch := sound.poll w waits
      obtain ⟨seen, present, shown⟩ := watch.word
      exact { watch with
        word := ⟨seen, (RegionTable.word?_withhold words w.flag).trans present, shown⟩
        pending := fun r member => watch.pending r (before ▸ member) }

theorem Sound.publish (sound : s.Sound engines) {p : Posting σ} (due : s.due = some p) :
    (s.publish p).Sound engines := by
  have still : ∀ r ∈ s.requests, r ∈ s.outstanding := fun r member =>
    List.mem_append_right _ member
  refine ⟨fun p member => ?_, fun unsent => ?_, fun r member => ?_, fun noted member => ?_⟩
  · cases member
  · refine sound.settled fun w waits => ?_
    rw [← w.awaited_note p]
    exact unsent _ (Option.mem_map_of_mem (·.note p) waits)
  · exact sound.numbered r (still r member)
  · obtain ⟨w, waits, rfl⟩ := Option.map_eq_some_iff.1 member
    have watch := sound.poll w waits
    obtain ⟨old, present, shown⟩ := watch.word
    have words := s.host.regions.word?_publish p.region w.flag p.word
    have pending : ∀ r ∈ s.requests, w.Meets r := fun r member => watch.pending r (still r member)
    by_cases own : p.region = w.flag
    · rw [Poll.note_own own]
      rw [if_pos own, present] at words
      have shows {seen : UInt32} (before : w.Shows seen) :
          Poll.Shows { w with posted := w.posted ++ [p] } seen :=
        before.imp_right fun ⟨other, member, same⟩ => ⟨other, List.mem_append_left _ member, same⟩
      have fresh : Poll.Shows { w with posted := w.posted ++ [p] } p.word := .inr ⟨p, by simp, rfl⟩
      refine ⟨watch.polling, watch.armed, watch.there, ⟨p.word, words, fresh⟩,
        fun look seen => shows (watch.looks look seen), fun other member => ?_, pending,
        watch.earlier⟩
      rcases List.mem_append.1 member with before | now
      · exact watch.posted other before
      · rw [List.mem_singleton.1 now]
        refine ⟨watch.pending p.request (by simp [outstanding, due]), ?_⟩
        rw [← own]
        exact sound.due p due
    · rw [Poll.note_other own]
      rw [if_neg own, present] at words
      exact ⟨watch.polling, watch.armed, watch.there, ⟨old, words, shown⟩, watch.looks,
        watch.posted, pending, watch.earlier⟩

theorem Sound.adjust (sound : s.Sound engines) {regions : RegionTable}
    (keeps : ∀ id word, s.host.regions.word? id = some word → regions.word? id = some word) :
    Sound engines { s with host.regions := regions } where
  due := sound.due
  settled := sound.settled
  numbered := sound.numbered
  poll w member := by
    have watch := sound.poll w member
    obtain ⟨word, present, shown⟩ := watch.word
    exact { watch with word := ⟨word, keeps _ _ present, shown⟩ }

theorem Sound.step (leaves : engines.LeavesWords) (sound : s.Sound engines) (event : PollingEvent) :
    (s.step engines event).Sound engines := by
  cases event with
  | call call =>
    rw [Polling.step]
    split
    · exact sound
    · rename_i free
      simp only [Bool.or_eq_true, not_or, Bool.not_eq_true, Option.isSome_eq_false_iff,
        Option.isNone_iff_eq_none] at free
      exact sound.call free.1 call
  | world change =>
    refine ⟨sound.due, fun unsent => ?_, sound.numbered, fun w waits => ?_⟩
    · rcases sound.settled unsent with ⟨held, state⟩ | ⟨vacant, state⟩
      · exact .inl ⟨by simpa [Polling.step] using held, state⟩
      · exact .inr ⟨by simp [Polling.step, vacant], state⟩
    · have watch := sound.poll w waits
      exact { watch with
        there := fun sent => ⟨by simpa [Polling.step] using (watch.there sent).1,
          (watch.there sent).2⟩ }
  | arm output flag =>
    rw [Polling.step]
    split
    · rename_i armed
      obtain ⟨idle, running, watches, present⟩ := armed
      exact sound.arm (Option.isNone_iff_eq_none.1 idle) running watches present
    · exact sound
  | send =>
    rw [Polling.step]
    split
    · exact sound
    · rename_i w waits
      split
      · exact sound
      · rename_i unsent
        exact sound.send waits (Option.not_isSome_iff_eq_none.1 unsent)
  | look =>
    rw [Polling.step]
    split
    · rename_i w word waits seen
      rw [waits, Option.bind_some] at seen
      split
      · rename_i sent
        exact sound.look waits seen sent
      · exact sound
    · exact sound
  | finish =>
    rw [Polling.step]
    split
    · rename_i w awaited waits submitted
      rw [waits, Option.bind_some] at submitted
      exact sound.finish waits submitted
    · exact sound
  | handle =>
    rw [Polling.step]
    split
    · rename_i request requests free next
      exact sound.handle leaves free next
    · exact sound
  | publish =>
    rw [Polling.step]
    split
    · exact sound
    · rename_i p due
      exact sound.publish due
  | fill id content =>
    rw [Polling.step]
    split
    · exact sound
    · rename_i regions written
      exact sound.adjust fun other word present => by
        rw [RegionTable.word?_write written, present]
  | share region =>
    exact sound.adjust fun id word present => RegionTable.word?_insert present region
  | retire handle => exact sound.adjust fun id word present => present

theorem sound_run (leaves : engines.LeavesWords) (config : SessionConfig) (host : Dispatcher σ)
    (events : List PollingEvent) : (run engines config host events).Sound engines := by
  have start := sound_start engines config host
  rw [run]
  generalize ({ session := .ofConfig config, host } : Polling σ) = s at start
  induction events generalizing s with
  | nil => exact start
  | cons event events ih => exact ih _ (start.step leaves event)

theorem Sound.finished (sound : s.Sound engines) (waits : s.poll = some w)
    (submitted : w.awaited = some .word) {output : TaskOutput}
    (returned : (s.session.finishWait .word (s.flagOf w)).1 = .ok output)
    (inTime : output.timedOut = false) :
    w.number = s.waits ∧ ∃ p ∈ w.posted, output = .ofOutcome (.ready p.word.toUInt64) ∧
      w.Meets p.request ∧
      p.handler.posted? engines p.request.primitive = some (w.flag, p.word) := by
  have watch := sound.poll w waits
  obtain ⟨there, number⟩ := watch.there (by simp [submitted])
  obtain ⟨c, held⟩ := Option.isSome_iff_exists.1 there
  obtain ⟨now, present, shown⟩ := watch.word
  refine ⟨number, ?_⟩
  cases mode : s.session.config.completion with
  | roundTrip timeoutMs =>
    have polling := watch.polling
    rw [mode] at polling
    cases polling
  | polling intervalMs maxPolls =>
    have flag : s.flagOf w = some { upcoming := w.looks, value := now } := by
      rw [flagOf, present]
      rfl
    have result := (Session.finishWait_word mode held (s.flagOf w)).2 _ flag
    cases returned.symm.trans result
    rcases ReadyFlag.poll_cases maxPolls.toNat { upcoming := w.looks, value := now } with
      late | ⟨word, published, ready, seen⟩
    · rw [late] at inTime
      cases inTime
    · have shows : w.Shows word := by
        rcases seen with looked | rfl
        · exact watch.looks word looked
        · exact shown
      rcases shows with unpublished | ⟨p, member, rfl⟩
      · exact absurd unpublished published
      · exact ⟨p, member, by rw [ready], watch.posted p member⟩

/-- A length that a wait sees in its region's ready word was published after the word was armed,
while the host handled either the wait's own request or that of an earlier wait which it had not
handled when the word was armed. -/
theorem length_of_unhandled_request (leaves : engines.LeavesWords) (config : SessionConfig)
    (host : Dispatcher σ) (events : List PollingEvent) {output : TaskOutput} :
    let s := run engines config host events
    s.poll = some w → w.awaited = some .word →
      (s.session.finishWait .word (s.flagOf w)).1 = .ok output → output.timedOut = false →
      ∃ p ∈ w.posted, output = .ofOutcome (.ready p.word.toUInt64) ∧
        p.handler.posted? engines p.request.primitive = some (w.flag, p.word) ∧
        (p.request = ⟨some s.waits, .of .wait w.output.encode⟩ ∨
          p.request ∈ w.left ∧ p.request.primitive.kind? = some .wait ∧
            ∀ number ∈ p.request.wait, number < s.waits) := by
  intro s waits submitted returned inTime
  have sound : s.Sound engines := sound_run leaves config host events
  obtain ⟨number, p, member, result, meets, publishes⟩ :=
    sound.finished waits submitted returned inTime
  refine ⟨p, member, result, publishes, ?_⟩
  rw [← number]
  rcases meets with before | own
  · exact .inr ⟨before, Dispatcher.wait_of_posted publishes,
      (sound.poll w waits).earlier p.request before⟩
  · exact .inl own

/-- A session that looks three times at a ready word. -/
def threeLooks : SessionConfig := { completion := .polling 1 2 }

/-- A host that shares a region with three bytes and an empty one. -/
def sharing : Dispatcher ScriptedEngine :=
  { engine := {}
    regions := (RegionTable.insert {} { handle := 1, capacity := 8, data := [97, 98, 99] }).insert
      { handle := 2, capacity := 8 } }

def submitTask (size : UInt64) : List PollingEvent :=
  [.call (.start (.shared 1 size)), .arm (.shared 2 8) 1, .send]

/-- The first wait runs out of looks before the host has handled anything; its task's length is
published when the second wait has armed the same word. -/
def overtaken : List PollingEvent :=
  [.call (.attach { id := "client" })] ++ submitTask 3 ++ [.look, .look, .look, .finish] ++
    submitTask 2 ++ [.handle, .handle, .handle, .publish]

theorem length_behind_late_publish :
    let engines := ScriptedEngine.host .full
    let s := run engines threeLooks sharing (overtaken ++ [.handle, .handle, .publish, .look])
    ∃ w, s.poll = some w ∧ w.awaited = some .word ∧
      (s.session.finishWait .word (s.flagOf w)).1 = .ok ⟨2, .done 2, false⟩ ∧
      ∃ p ∈ w.posted, p.word = 2 ∧
        p.handler.posted? engines p.request.primitive = some (w.flag, p.word) ∧
        (p.request = ⟨some 2, .of .wait w.output.encode⟩ ∨
          p.request ∈ w.left ∧ p.request.primitive.kind? = some .wait ∧
            ∀ number ∈ p.request.wait, number < 2) := by
  intro engines s
  have waits : s.waits = 2 := by decide +kernel
  let w := s.poll.get (by decide +kernel)
  have waiting : s.poll = some w := (Option.some_get _).symm
  have awaited : w.awaited = some .word := by decide +kernel
  have returned : (s.session.finishWait .word (s.flagOf w)).1 = .ok ⟨2, .done 2, false⟩ := by
    decide +kernel
  obtain ⟨p, member, result, publishes, whose⟩ :=
    length_of_unhandled_request (ScriptedEngine.leavesWords .full) threeLooks sharing _
      waiting awaited returned rfl
  have word : p.word = 2 := by
    have same : p.word.toUInt64 = 2 := (congrArg TaskOutput.length result).symm
    rw [← UInt32.toUInt32_toUInt64 p.word, same]
    rfl
  exact ⟨w, waiting, awaited, returned, p, member, word, publishes,
    waits ▸ whose⟩

/-- The second wait returns with the length of the first task, before the host has come to its own
request, which would publish another. -/
theorem late_publish_taken :
    let engines := ScriptedEngine.host .full
    let s := run engines threeLooks sharing overtaken
    ∃ w, s.poll = some w ∧ w.awaited = some .word ∧ ∃ output,
      (s.session.finishWait .word (s.flagOf w)).1 = .ok output ∧ output.timedOut = false ∧
      output.length = 3 ∧
      (¬∃ p ∈ w.posted, output = .ofOutcome (.ready p.word.toUInt64) ∧
        p.request = ⟨some s.waits, .of .wait w.output.encode⟩) ∧
      ((run engines threeLooks sharing (overtaken ++ [.handle, .handle])).due.map fun p =>
        (p.request.wait, p.word)) = some (some s.waits, 2) := by
  intro engines s
  let w := s.poll.get (by decide +kernel)
  have others : ∀ p ∈ w.posted, p.request.wait = some 1 := by decide +kernel
  have waits : s.waits = 2 := by decide +kernel
  refine ⟨w, (Option.some_get _).symm, by decide +kernel, ⟨3, .done 3, false⟩,
    by decide +kernel, rfl, rfl, ?_, by decide +kernel⟩
  rintro ⟨p, member, _, own⟩
  have first := others p member
  rw [own, waits] at first
  cases first

end Polling

end CodecLink
