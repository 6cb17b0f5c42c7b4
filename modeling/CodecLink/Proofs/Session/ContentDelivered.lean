import CodecLink.Proofs.Session.CoupledSteps

/-! What a session that is served by a host that copies gets to see: a wait ends with the size of
what its task copied, and its output then holds that. -/
namespace CodecLink

open Dispatcher

theorem publishedSize_published (size : UInt64) : publishedSize size ≠ readySentinel := by
  have top : readySentinel.toNat = 2 ^ 32 - 1 := rfl
  intro same
  have value := congrArg UInt32.toNat same
  rw [publishedSize, UInt32.toNat_ofNat', top] at value
  omega

theorem publishedSize_small {n : Nat} (small : n < 2 ^ 32 - 1) :
    (publishedSize (.ofNat n)).toUInt64 = .ofNat n := by
  have top : readySentinel.toNat = 2 ^ 32 - 1 := rfl
  apply UInt64.toNat_inj.1
  rw [publishedSize, UInt32.toNat_toUInt64, UInt32.toNat_ofNat', UInt64.toNat_ofNat', top]
  omega

namespace Coupling

variable {registry : EngineRegistry} {config : SessionConfig} {s : Coupling} {stage : Stage}
  {queue : List Primitive} {w : Watch}

/-- A wait ends with the session configured and its channel empty. -/
def Ends (w : Watch) (s : Coupling) : Prop :=
  ∃ c, (s.session.finishWait w.awaited (s.flagOf w)).2.2 =
    { s.session with channel := some c, state := .configured } ∧
      c.Faultless ∧ c.written = [] ∧ c.held ++ s.toClient = []

theorem Sound.waiting (sound : Sound config s) (watch : s.watch = some w) :
    ∃ c, s.session.channel = some c ∧ c.Faultless ∧ c.written = [] ∧
      s.coming = c.held ++ s.toClient := by
  obtain ⟨c, held⟩ := Option.isSome_iff_exists.1 (sound.apt.waiting w watch).1
  refine ⟨c, held, sound.apt.line c held, ?_, ?_⟩
  · exact sound.clean c (by rw [Session.latest, held]; rfl)
  · rw [Coupling.coming, held]
    rfl

theorem finish_apart (sound : Sound config s) (watch : s.watch = some w)
    (unasked : w.awaited = .nothing) (silent : s.coming = []) :
    s.Ends w ∧ (s.session.finishWait w.awaited (s.flagOf w)).1 = .ok .empty := by
  obtain ⟨c, held, faultless, clean, coming⟩ := sound.waiting watch
  have ended : s.session.finishWait w.awaited (s.flagOf w) =
      (.ok .empty, s.flagOf w, { s.session with channel := some c, state := .configured }) := by
    rw [unasked, ← held]
    rfl
  exact ⟨⟨c, congrArg (·.2.2) ended, faultless, clean, coming.symm.trans silent⟩,
    congrArg Prod.fst ended⟩

/-- A wait whose completion is there tells how much was copied, if its word can. -/
theorem finish_answered (sound : Sound config s) (watch : s.watch = some w)
    {tag : Option UInt64} (answered : Answered config w tag s) (seen : s.Seen w) :
    s.Ends w ∧
      (config.completion.isPolling = false ∨ s.Owns w ∧ (s.copied w).length < 2 ^ 32 - 1 →
        (s.session.finishWait w.awaited (s.flagOf w)).1 =
          .ok (.ofOutcome (.ready (.ofNat (s.copied w).length)))) := by
  obtain ⟨expects, region, looks, answer⟩ := answered
  obtain ⟨_, arrived, time⟩ := seen expects.awaits
  obtain ⟨c, held, faultless, clean, coming⟩ := sound.waiting watch
  cases completion : config.completion with
  | roundTrip timeout =>
    cases expects with
    | word mode => simp [completion, Completion.isPolling] at mode
    | @reply tag mode awaited proper =>
      have here : s.session.config.completion = .roundTrip timeout := by
        rw [sound.apt.mode, completion]
      have some_time : timeout ≠ 0 := by simpa [hasTime, here] using time
      have there : c.held = Frame.bytes (.of .wait (s.reply w (some tag)).encode) := by
        rw [coming, arrived, List.append_nil, mode] at answer
        exact answer
      obtain ⟨after, ended, good, left, written⟩ := Session.finishWait_reply here some_time held
        faultless rfl proper there (s.flagOf w)
      rw [Ends, awaited, ended, arrived]
      exact ⟨⟨after, rfl, good, written.trans clean, by rw [left]; rfl⟩, fun _ => rfl⟩
  | polling interval polls =>
    cases expects with
    | reply mode => simp [completion, Completion.isPolling] at mode
    | word mode awaited shared flagged =>
      have here : s.session.config.completion = .polling interval polls := by
        rw [sound.apt.mode, completion]
      obtain ⟨ended, seen⟩ := Session.finishWait_word here held (s.flagOf w)
      rw [Ends, awaited]
      refine ⟨⟨c, ended.trans (by rw [held]), faultless, clean, ?_⟩, ?_⟩
      · rw [← coming, answer, mode]
        rfl
      · rintro (other | ⟨owns, small⟩)
        · cases other
        · obtain ⟨r, present, _, ready⟩ := region shared
          have few : w.looks.length ≤ polls.toNat := by simpa [hasTime, here] using time
          have looked := ReadyFlag.poll_published (publishedSize_published _) (looks owns) few 0 0
          have given : s.flagOf w = some { upcoming := w.looks, value := s.word w } := by
            rw [flagOf, owns.flagOf, present, ← ready mode]
            rfl
          rw [seen _ given, word, looked, publishedSize_small small]

theorem Underway.unseen {front : List Primitive} {p : Primitive}
    (under : Underway config s stage (front ++ [p])) (awaits : w.awaited ≠ .nothing) :
    ¬s.Seen w := by
  intro seen
  have empty := under.served (seen awaits).1
  simp at empty

theorem sound_finish (sound : Sound config s) (allowed : s.Allows .finish) :
    Sound config (s.step registry .finish) := by
  rw [step]
  cases watch : s.watch with
  | none => exact sound
  | some w =>
    have seen : s.Seen w := allowed w watch
    obtain ⟨stage, queue, under⟩ := sound.underway
    obtain ⟨⟨c, after, faultless, clean, silent⟩, onward⟩ :
        s.Ends w ∧ Travels config s.host.regions stage queue .idle := by
      cases under.phase with
      | apart unasked travels silent =>
        have target : s.target = .idle := by
          rw [Coupling.target, (sound.apt.waiting w watch).2]
          rfl
        exact ⟨(finish_apart sound watch (unasked w watch).1 silent).1, target ▸ travels⟩
      | asked there _ asked =>
        -- A request on its way is not served yet.
        cases watch.symm.trans there
        exact absurd seen (under.unseen asked.awaits)
      | answered there idle answered =>
        cases watch.symm.trans there
        rw [idle]
        exact ⟨(finish_answered sound watch answered seen).1, .nil⟩
    dsimp only
    rw [after]
    refine sound_settle [] ?_ clean sound.hostEnd sound.hostClean
      ⟨under.bytes, under.short, under.stands, under.dropped, under.engineErrors⟩ (by simp)
      under.tasks ?_
    · refine ⟨sound.apt.mode, sound.apt.fits, fun _ => .inl ⟨rfl, by simp⟩,
        fun _ gone => (by cases gone), fun d own => ?_⟩
      cases own
      exact faultless
    · rw [List.append_nil]
      exact phase_idle rfl onward silent

theorem Sound.step (supported : registry.supports config.backend = true) (sound : Sound config s)
    {event : CouplingEvent} (allowed : s.Allows event) :
    Sound config (s.step registry event) := by
  cases event with
  | call call => exact sound_call sound allowed
  | wait output flag => exact sound_wait sound allowed
  | look => exact sound_look sound
  | finish => exact sound_finish sound allowed
  | toHost bytes => exact sound_toHost sound bytes
  | toClient bytes => exact sound_toClient sound bytes
  | handle => exact sound_handle supported sound
  | fill id content => exact sound_fill sound allowed
  | share region => exact sound_share sound allowed
  | retire handle => exact sound_retire sound allowed

theorem Sound.run (supported : registry.supports config.backend = true) (sound : Sound config s)
    {events : List CouplingEvent} (permitted : Permits registry s events) :
    Sound config (s.run registry events) := by
  induction events generalizing s with
  | nil => exact sound
  | cons event rest ih => exact ih (sound.step supported permitted.1) permitted.2

theorem permits_append {front back : List CouplingEvent} (first : Permits registry s front)
    (second : Permits registry (s.run registry front) back) :
    Permits registry s (front ++ back) := by
  induction front generalizing s with
  | nil => exact second
  | cons event rest ih => exact ⟨first.1, ih first.2 second⟩

/-- Once all that was sent is there, the host gets to the end of it. -/
theorem Sound.catches_up (supported : registry.supports config.backend = true)
    (sound : Sound config s) (under : Underway config s stage queue) (arrived : s.toHost = []) :
    ∃ events, Permits registry s events ∧ (s.run registry events).Served ∧
      (s.run registry events).session = s.session ∧
        (s.run registry events).watch = s.watch := by
  -- Every turn takes exactly the front of the way.
  induction queue generalizing s stage with
  | nil => exact ⟨[], trivial, ⟨arrived, (List.append_eq_nil_iff.1 under.bytes).1⟩, rfl, rfl⟩
  | cons p rest ih =>
    have there : s.hostEnd.held = (p :: rest).flatMap Frame.bytes := by
      rw [← under.bytes, Coupling.underway, arrived, List.append_nil]
    obtain ⟨given, received, left⟩ := sound.hostEnd.recv_arrived
      (fun q member => Frame.within_default (under.short q member)) there
    have handled : s.step registry .handle = s.handling registry p :=
      handle_received sound received (congrArg Prod.fst given)
    have remaining : s.hostEnd.recv.2.held ++ s.toHost = rest.flatMap Frame.bytes := by
      rw [left, arrived, List.append_nil]
    obtain ⟨next, onward⟩ := underway_received supported under rfl remaining
    have later := sound_handle supported sound
    rw [handled] at later
    obtain ⟨events, permitted, ended⟩ := ih later onward arrived
    have first : s.run registry (.handle :: events) = (s.handling registry p).run registry events :=
      congrArg (Coupling.run registry · events) handled
    refine ⟨.handle :: events, ⟨trivial, handled ▸ permitted⟩, ?_⟩
    rw [first]
    exact ended

theorem Sound.completes (supported : registry.supports config.backend = true)
    (sound : Sound config s) (watch : s.watch = some w) (time : s.hasTime w = true) :
    ∃ events, Permits registry s events ∧ (s.run registry events).watch = some w ∧
      (s.run registry events).Seen w := by
  let sent := s.step registry (.toHost s.toHost.length)
  have sound_sent : Sound config sent := sound_toHost sound _
  obtain ⟨stage, queue, under⟩ := sound_sent.underway
  obtain ⟨events, permitted, served, session, watching⟩ :=
    sound_sent.catches_up supported under List.drop_length
  let handled := sent.run registry events
  have sound_handled : Sound config handled := sound_sent.run supported permitted
  have waiting : handled.watch = some w := watching.trans watch
  obtain ⟨c, held, _⟩ := sound_handled.waiting waiting
  let last := CouplingEvent.toClient handled.toClient.length
  have run : s.run registry (.toHost s.toHost.length :: (events ++ [last])) =
      handled.step registry last := by
    show sent.run registry (events ++ [last]) = _
    rw [Coupling.run, List.foldl_append]
    rfl
  have arrived : handled.step registry last = { handled with
      session.channel := some (c.arrive (handled.toClient.take handled.toClient.length))
      toClient := handled.toClient.drop handled.toClient.length } := by
    simp only [last, Coupling.step, held]
  have patient : handled.hasTime w = true := by
    have same : handled.session = s.session := session
    rw [hasTime, same]
    exact time
  refine ⟨.toHost s.toHost.length :: (events ++ [last]),
    ⟨trivial, permits_append permitted ⟨trivial, trivial⟩⟩, ?_⟩
  rw [run, arrived]
  exact ⟨waiting, fun _ => ⟨served, List.drop_length, patient⟩⟩

theorem sound_ofConfig (config : SessionConfig) (settings : DispatchSettings)
    (regions : RegionTable) : Sound config (ofConfig config settings regions) := by
  constructor
  case apt =>
    have fresh : (Session.ofConfig config).Settled :=
      .inr ⟨rfl, by simp [Session.ofConfig, Session.openingStates]⟩
    exact ⟨rfl, Session.fits_ofConfig config, fun _ => fresh, fun _ gone => (by cases gone),
      fun _ gone => (by cases gone)⟩
  case clean =>
    intro c own
    cases own
  case hostEnd => exact Channel.faultless_ofLimits "host" 2 none
  case hostClean => rfl
  case underway =>
    exact ⟨.vacant, [], ⟨rfl, by simp, ⟨rfl, rfl⟩, rfl, rfl⟩, rfl, phase_idle rfl .nil rfl⟩

/-- What the region of the last start's input held when the host handled that start. -/
def stored (s : Coupling) : Bytes := ((s.snapshot.get? s.started.handle).map (·.data)).getD []

/-- How much of it a wait is to get: no more than the input says, and no more than the output
takes; a heap buffer holds nothing for the host. -/
def due (w : Watch) (s : Coupling) : Nat :=
  min (if s.started.isShared then min s.stored.length s.started.size.toNat else 0)
    w.output.size.toNat

theorem copied_stored (w : Watch) (s : Coupling) : s.copied w = s.stored.take (s.due w) := by
  rw [copied, RegionTable.contentOf, due]
  cases s.started.isShared with
  | false => simp
  | true =>
    rw [if_pos rfl, if_pos rfl, stored, List.take_take, List.take_eq_take_iff]
    omega

theorem length_copied (w : Watch) (s : Coupling) : (s.copied w).length = s.due w := by
  rw [copied_stored, List.length_take, due]
  split <;> omega

theorem due_lt (w : Watch) (s : Coupling) : s.due w < 2 ^ 64 :=
  Nat.lt_of_le_of_lt (Nat.min_le_right _ _) w.output.size.toNat_lt

/-- A session that is not waiting starts and submits what it is asked to. -/
theorem Sound.accepts (sound : Sound config s) (idle : s.watch = none) :
    (∀ input, s.session.state ∈ Session.startingStates → (s.session.start input).1 = .ok ()) ∧
      ∀ output hasFlag, s.session.state = .running →
        (s.session.submitWait output hasFlag).1 = .ok (s.session.awaitedBy output hasFlag) := by
  have settled := sound.apt.settled idle
  refine ⟨fun input member => ?_, fun output hasFlag running => ?_⟩
  · obtain ⟨c, held, _⟩ := settled.holds member (by decide)
    exact (Session.through_start member input held (sound.apt.line c held)).result
  · have member : s.session.state ∈ [SessionState.running] := by simp [running]
    obtain ⟨c, held, _⟩ := settled.holds member (by decide)
    rw [Session.submitWait_faultless running held (sound.apt.line c held)]

theorem Sound.tallies (sound : Sound config s) :
    s.host.summary.dropped = 0 ∧ s.host.summary.engineErrors = 0 ∧
      s.host.summary.tasks + (Frame.whole s.underway).countP isRequest = s.waits := by
  obtain ⟨stage, queue, under⟩ := sound.underway
  have whole : Frame.whole s.underway = queue := by
    rw [under.bytes]
    exact Frame.whole_frames fun p member => Nat.lt_of_le_of_lt (under.short p member) (by decide)
  rw [whole]
  exact ⟨under.dropped, under.engineErrors, under.tasks⟩

/-- What a wait is told when its completion was seen. -/
theorem Sound.told (sound : Sound config s) (watch : s.watch = some w) (seen : s.Seen w) :
    (config.completion.isPolling = false ∨
        w.output.isShared = true ∧ (∃ id, w.flag = some id ∧
          s.host.regions.find? w.output.handle = some id) ∧ s.due w < 2 ^ 32 - 1 →
      (s.session.finishWait w.awaited (s.flagOf w)).1 =
          .ok ⟨.ofNat (s.due w), .done (.ofNat (s.due w)), false⟩ ∧
        (w.output.isShared = true → ∃ r,
          s.host.regions.get? w.output.handle = some r ∧ r.data = s.stored.take (s.due w))) ∧
      (config.completion.isPolling = true → w.output.isShared = false ∨ w.flag = none →
        (s.session.finishWait w.awaited (s.flagOf w)).1 = .ok .empty) := by
  obtain ⟨stage, queue, under⟩ := sound.underway
  cases under.phase with
  | apart unasked _ silent =>
    obtain ⟨awaited, polling, unnamed⟩ := unasked w watch
    refine ⟨?_, fun _ _ => (finish_apart sound watch awaited silent).2⟩
    rintro (other | ⟨shared, ⟨id, flag, _⟩, _⟩)
    · cases polling.symm.trans other
    · rcases unnamed with heap | unflagged
      · cases heap.symm.trans shared
      · cases unflagged.symm.trans flag
  | asked there _ asked =>
    cases watch.symm.trans there
    exact absurd seen (under.unseen asked.awaits)
  | answered there _ answered =>
    cases watch.symm.trans there
    obtain ⟨_, told⟩ := finish_answered sound watch answered seen
    rw [length_copied] at told
    refine ⟨fun known => ⟨told ?_, fun shared => ?_⟩, fun polling unnamed => ?_⟩
    · cases answered.expects with
      | reply mode => exact .inl mode
      | word _ awaited shared _ =>
        refine known.imp_right fun ⟨_, ⟨id, flag, place⟩, small⟩ => ?_
        exact ⟨⟨awaited, shared, flag.trans place.symm⟩, small⟩
    · obtain ⟨r, present, content, _⟩ := answered.region shared
      exact ⟨r, present, content.trans (copied_stored w s)⟩
    · cases answered.expects with
      | reply mode => cases mode.symm.trans polling
      | word _ _ shared flagged =>
        rcases unnamed with heap | unflagged
        · cases heap.symm.trans shared
        · simp [unflagged] at flagged

/-- Over every run in which each completion is seen, a session starts and submits all that it is
asked to; its waits are told how much of the input was copied, which the output then holds; and the
host drops nothing, fails at nothing and completes a task for every request it came to. -/
theorem content_delivered (supported : registry.supports config.backend = true)
    (settings : DispatchSettings) (regions : RegionTable) {events : List CouplingEvent}
    (permitted : Permits registry (ofConfig config settings regions) events) :
    let s := (ofConfig config settings regions).run registry events
    (s.watch = none →
      (∀ input, s.session.state ∈ Session.startingStates →
        (s.session.start input).1 = .ok ()) ∧
      ∀ output hasFlag, s.session.state = .running →
        (s.session.submitWait output hasFlag).1 = .ok (s.session.awaitedBy output hasFlag)) ∧
    (∀ w, s.watch = some w → s.Seen w →
      (config.completion.isPolling = false ∨
          w.output.isShared = true ∧ (∃ id, w.flag = some id ∧
            s.host.regions.find? w.output.handle = some id) ∧ s.due w < 2 ^ 32 - 1 →
        (s.session.finishWait w.awaited (s.flagOf w)).1 =
            .ok ⟨.ofNat (s.due w), .done (.ofNat (s.due w)), false⟩ ∧
          (UInt64.ofNat (s.due w)).toNat = s.due w ∧
          (w.output.isShared = true → ∃ r,
            s.host.regions.get? w.output.handle = some r ∧
              r.data = s.stored.take (s.due w))) ∧
      (config.completion.isPolling = true → w.output.isShared = false ∨ w.flag = none →
        (s.session.finishWait w.awaited (s.flagOf w)).1 = .ok ⟨0, .done 0, false⟩)) ∧
    s.host.summary.dropped = 0 ∧ s.host.summary.engineErrors = 0 ∧
      s.host.summary.tasks + (Frame.whole s.underway).countP isRequest = s.waits := by
  intro s
  have sound : Sound config s := (sound_ofConfig config settings regions).run supported permitted
  refine ⟨sound.accepts, fun w watch seen => ?_, sound.tallies⟩
  obtain ⟨told, untold⟩ := sound.told watch seen
  refine ⟨fun known => ?_, untold⟩
  obtain ⟨result, content⟩ := told known
  exact ⟨result, UInt64.toNat_ofNat_of_lt' (s.due_lt w), content⟩

/-- However a run got to a wait, one that still has time can get to see its completion. -/
theorem completion_in_reach (supported : registry.supports config.backend = true)
    (settings : DispatchSettings) (regions : RegionTable) {events : List CouplingEvent}
    (permitted : Permits registry (ofConfig config settings regions) events)
    (watch : ((ofConfig config settings regions).run registry events).watch = some w)
    (time : ((ofConfig config settings regions).run registry events).hasTime w = true) :
    ∃ more, Permits registry (ofConfig config settings regions) (events ++ more) ∧
      ((ofConfig config settings regions).run registry (events ++ more)).watch = some w ∧
      ((ofConfig config settings regions).run registry (events ++ more)).Seen w := by
  have sound := (sound_ofConfig config settings regions).run supported permitted
  obtain ⟨more, onward, watching, seen⟩ := sound.completes supported watch time
  refine ⟨more, permits_append permitted onward, ?_⟩
  rw [Coupling.run, List.foldl_append]
  exact ⟨watching, seen⟩

def polled : SessionConfig := { completion := .polling 1 50 }

/-- Two regions, the first of which holds three bytes. -/
def pairOfRegions : RegionTable :=
  { regions :=
      [{ handle := 1, capacity := 8, data := .ofAscii "abc" }, { handle := 2, capacity := 2 }]
    slots := [(1, 0), (2, 1)]
    nextHandle := 3 }

/-- The input is overwritten as soon as the host has handled the start. -/
def overwritten : List CouplingEvent :=
  [.call (.attach (.ofLimits "client" 2 {})), .call (.start (.shared 1 8)), .toHost 200, .handle,
    .toHost 200, .handle, .fill 0 (.ofAscii "xyz"), .wait (.shared 2 2) (some 1), .look,
    .toHost 200, .handle, .look]

theorem content_before_overwriting :
    let s := (ofConfig polled {} pairOfRegions).run .full overwritten
    let w : Watch :=
      { awaited := .word, output := .shared 2 2, flag := some 1, looks := [readySentinel, 2] }
    EngineRegistry.full.supports polled.backend = true ∧
      Permits .full (ofConfig polled {} pairOfRegions) overwritten ∧
      s.watch = some w ∧ s.Seen w ∧ s.host.regions.find? 2 = some 1 ∧
      (s.session.finishWait w.awaited (s.flagOf w)).1 = .ok ⟨2, .done 2, false⟩ ∧
      ∃ r, s.host.regions.get? 2 = some r ∧ r.data = .ofAscii "ab" := by
  intro s w
  have supported : EngineRegistry.full.supports polled.backend = true := by decide +kernel
  have permitted : Permits .full (ofConfig polled {} pairOfRegions) overwritten := by
    decide +kernel
  have watch : s.watch = some w := by decide +kernel
  have seen : s.Seen w := by decide +kernel
  have place : s.host.regions.find? 2 = some 1 := by decide +kernel
  have due : s.due w = 2 := by decide +kernel
  have stored : s.stored = .ofAscii "abc" := by decide +kernel
  obtain ⟨_, waits, _⟩ := content_delivered supported {} pairOfRegions permitted
  have own : polled.completion.isPolling = false ∨ w.output.isShared = true ∧
      (∃ id, w.flag = some id ∧ s.host.regions.find? w.output.handle = some id) ∧
        s.due w < 2 ^ 32 - 1 :=
    .inr ⟨rfl, ⟨1, rfl, place⟩, by rw [due]; decide⟩
  obtain ⟨result, _, content⟩ := (waits w watch seen).1 own
  obtain ⟨r, present, data⟩ := content rfl
  refine ⟨supported, permitted, watch, seen, place, ?_, r, present, ?_⟩
  · rw [result, due]
    rfl
  · rw [data, due, stored]
    rfl

end Coupling

end CodecLink
