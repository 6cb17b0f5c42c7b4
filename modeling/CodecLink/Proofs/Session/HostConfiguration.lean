import CodecLink.Engine.Scripted
import CodecLink.Proofs.Session.Feed

/-! The configuration of a host's engine over a whole run: whenever a start comes to be handled, it
is what the requests of the caller come to, one laid over the other in the order in which they were
made. -/
namespace CodecLink

namespace Heard

variable {σ : Type} {engines : EngineHost σ} {d : Dispatcher σ} {s : HostSession}
  {codec : Codec} {applied : AppliedConfig} {p : Primitive} {requests : List ConfigRequest}
  {queue : List (Primitive × List ConfigRequest)} {last : Option AppliedConfig}

theorem calm_of_quiet {code : PrimitiveCode}
    (among : code ∈ [PrimitiveCode.regs, .wait, .reset, .flush]) :
    RecordKind.ofPrimitive? code = none ∧ code ≠ .init ∧ code ≠ .deinit := by
  revert code
  decide

theorem of_start (heard : Heard codec applied ((p, requests) :: queue) last)
    (start : p.kind? = some .start) : applied = .reference codec requests := by
  cases heard with
  | @record _ request _ _ _ suits later =>
    have known : (Primitive.of request.kind.primitive request.encode).kind? =
        some request.kind.primitive := PrimitiveCode.ofWire?_wire _
    rw [known] at start
    cases request <;> cases start
  | start kind agrees later => exact agrees
  | quiet kind among later =>
    rw [kind] at start
    cases start
    exact absurd among (by decide)
  | farewell kind =>
    rw [kind] at start
    cases start

/-- In a session, the primitive does to the configuration what it is there for. -/
theorem served (heard : Heard codec s.applied.clearChanges ((p, requests) :: queue) last)
    (opened : d.session = some s) (own : s.config.backend.codec = codec)
    (alike : s.applied.codec.codec = codec) :
    (queue = [] ∧ last = none ∧ (d.dispatch engines p).1.session = none) ∨
      ∃ next, (d.dispatch engines p).1.session = some next ∧
        next.config.backend.codec = codec ∧ next.applied.codec.codec = codec ∧
        Heard codec next.applied.clearChanges queue last := by
  have kept {code : PrimitiveCode} (known : p.kind? = some code)
      (plain : RecordKind.ofPrimitive? code = none) (stays : code ≠ .deinit)
      (later : Heard codec s.applied.clearChanges queue last) :
      ∃ next, (d.dispatch engines p).1.session = some next ∧
        next.config.backend.codec = codec ∧ next.applied.codec.codec = codec ∧
        Heard codec next.applied.clearChanges queue last := by
    obtain ⟨next, session, config, values⟩ :=
      Dispatcher.session_kept engines opened known plain stays
    refine ⟨next, session, by rw [config, own], ?_, values ▸ later⟩
    rw [← AppliedConfig.codec_clearChanges, values, AppliedConfig.codec_clearChanges, alike]
  cases heard with
  | record suits later =>
    rw [← own] at suits
    obtain ⟨applied, session, same, values⟩ :=
      Dispatcher.session_record engines opened suits (alike.trans own.symm)
    exact .inr ⟨_, session, own, same.trans own, values ▸ later⟩
  | start kind agrees later => exact .inr (kept kind rfl (by decide) later)
  | quiet kind among later =>
    obtain ⟨plain, -, stays⟩ := calm_of_quiet among
    exact .inr (kept kind plain stays later)
  | farewell kind => exact .inl ⟨rfl, rfl, Dispatcher.session_farewell opened kind⟩

/-- Without a session it is dropped. -/
theorem dropped (heard : Heard codec applied ((p, requests) :: queue) last)
    (closed : d.session = none) :
    p.kind? ≠ some .init ∧ (d.dispatch engines p).1.session = none ∧
      (queue = [] ∧ last = none ∨ ∃ next, Heard codec next queue last) := by
  have unopened {code : PrimitiveCode} (known : p.kind? = some code) (other : code ≠ .init) :
      p.kind? ≠ some .init ∧ (d.dispatch engines p).1.session = none := by
    refine ⟨fun first => other (Option.some.inj (known.symm.trans first)), ?_⟩
    rw [Dispatcher.dispatch_closed known other closed]
    exact closed
  cases heard with
  | @record _ request _ _ _ suits later =>
    have known : (Primitive.of request.kind.primitive request.encode).kind? =
        some request.kind.primitive := PrimitiveCode.ofWire?_wire _
    obtain ⟨apart, still⟩ := unopened known (by cases request.kind <;> decide)
    exact ⟨apart, still, .inr ⟨_, later⟩⟩
  | start kind agrees later =>
    obtain ⟨apart, still⟩ := unopened kind (by decide)
    exact ⟨apart, still, .inr ⟨_, later⟩⟩
  | quiet kind among later =>
    obtain ⟨apart, still⟩ := unopened kind (calm_of_quiet among).2.1
    exact ⟨apart, still, .inr ⟨_, later⟩⟩
  | farewell kind =>
    obtain ⟨apart, still⟩ := unopened kind (by decide)
    exact ⟨apart, still, .inl ⟨rfl, rfl⟩⟩

end Heard

namespace Feed

variable {σ : Type} {config : SessionConfig} {f : Feed σ} {last : Option AppliedConfig}

/-- How far a host got: it has still to be greeted, or it serves the session, or its engine could
not be initialised. What follows builds on the configuration that stands last. -/
inductive Standing (config : SessionConfig) :
    Option HostSession → Bool → List (Primitive × List ConfigRequest) → AppliedConfig → Prop
  | greeting {requests : List ConfigRequest} :
      Standing config none false [(.of .init config.toPayload, requests)]
        (.blank config.backend.codec)
  | serving {s : HostSession} {initialised : Bool}
      (own : s.config.backend.codec = config.backend.codec)
      (alike : s.applied.codec.codec = config.backend.codec) :
      Standing config (some s) initialised [] s.applied.clearChanges
  | refused {applied : AppliedConfig} : Standing config none false [] applied

theorem Standing.handle (engines : EngineHost σ) {d : Dispatcher σ} {initialised : Bool}
    {ahead queue rest : List (Primitive × List ConfigRequest)} {applied : AppliedConfig}
    {p : Primitive} {requests : List ConfigRequest}
    (standing : Standing config d.session initialised ahead applied)
    (heard : Heard config.backend.codec applied queue last)
    (split : (p, requests) :: rest = ahead ++ queue) :
    (rest = [] ∧ last = none ∧ (d.dispatch engines p).1.session = none) ∨
      ∃ next, Standing config (d.dispatch engines p).1.session
          (if p.kind? = some .init then (d.dispatch engines p).1.session.isSome else initialised)
          [] next ∧ Heard config.backend.codec next rest last := by
  generalize session : d.session = before at standing
  cases standing with
  | greeting =>
    cases split
    refine .inr ⟨.blank config.backend.codec, ?_, heard⟩
    have known : (Primitive.of .init config.toPayload).kind? = some .init :=
      PrimitiveCode.ofWire?_wire .init
    have opening : Dispatcher.Opening engines config d.countPrimitive
        (d.countPrimitive.openSession engines config) := Dispatcher.openSession_opening config _
    rw [if_pos known, Dispatcher.dispatch_opening session config]
    dsimp only
    rcases Dispatcher.session_opening opening session with closed | opened
    · rw [closed]
      exact .refused
    · have serving : Standing config
          (some { config, applied := .blank config.backend.codec }) true []
          (AppliedConfig.blank config.backend.codec).clearChanges :=
        .serving rfl (AppliedConfig.codec_blank _)
      rw [AppliedConfig.clearChanges_blank] at serving
      rw [opened]
      exact serving
  | @serving s _ own alike =>
    cases split
    refine (heard.served session own alike).imp_right ?_
    rintro ⟨next, opened, config, codec, later⟩
    rw [opened]
    exact ⟨_, .serving config codec, later⟩
  | refused =>
    cases split
    obtain ⟨apart, closed, ending⟩ := heard.dropped session
    rw [if_neg apart, closed]
    refine ending.imp (fun gone => ⟨gone.1, gone.2, rfl⟩) ?_
    rintro ⟨next, later⟩
    exact ⟨next, .refused, later⟩

def Hears (config : SessionConfig) (f : Feed σ) (last : Option AppliedConfig) : Prop :=
  ∃ ahead applied queue, f.queue = ahead ++ queue ∧
    Standing config f.host.session f.initialised ahead applied ∧
    Heard config.backend.codec applied queue last

def IsOver (f : Feed σ) : Prop :=
  f.queue = [] ∧ f.host.session = none ∧ f.client.session.channel = none

/-- Behind all that was sent, the host has what the session has been asked for, but for the records
that wait; that is so until the session ends. -/
structure Sound (config : SessionConfig) (f : Feed σ) : Prop where
  client : f.client.Faithful config
  course : f.IsOver ∨ ∃ last, f.Hears config last ∧
    (f.client.session.channel.isSome → ∃ next, last = some next ∧
      f.client.Informs config f.requests next)

theorem call_unheld (faithful : f.client.Faithful config) {call : SessionCall}
    (keeps : f.client.session.opens call = false) (vacant : f.client.session.channel = none) :
    f.call call = f := by
  have line := Session.line_of_not_opens keeps
  rw [vacant] at line
  have none_used (used : (f.client.session.line call).isSome) : f.call call = f := by
    rw [line] at used
    cases used
  cases Session.course_perform faithful.sound.settled call with
  | idle same quiet =>
    have nothing := Session.happened_quiet faithful.sound.fits quiet
    have unasked := Session.letIn_quiet faithful.sound.fits quiet
    simp only [Feed.call, Followed.step, Traffic.told_idle keeps same quiet, nothing, unasked, same,
      Frame.whole_nil, List.append_nil, List.map_nil]
  | through _ used _ _ _ _ => exact none_used used
  | lost _ used _ _ => exact none_used used

theorem Hears.append {requests : List ConfigRequest} {more : List (Primitive × List ConfigRequest)}
    {client : Followed} {middle : AppliedConfig} (hears : f.Hears config (some middle))
    (heard : Heard config.backend.codec middle more last) :
    ({ f with client, requests, queue := f.queue ++ more } : Feed σ).Hears config last := by
  obtain ⟨ahead, applied, queue, split, standing, before⟩ := hears
  exact ⟨ahead, applied, queue ++ more, by rw [split, List.append_assoc], standing,
    before.append heard⟩

theorem Sound.call (sound : f.Sound config) {call : SessionCall}
    (keeps : f.client.session.opens call = false) : (f.call call).Sound config := by
  cases held : f.client.session.channel with
  | none => rwa [call_unheld sound.client keeps held]
  | some c =>
    have there : f.client.session.channel.isSome := by rw [held]; rfl
    refine ⟨sound.client.step (.call call), ?_⟩
    rcases sound.course with ⟨_, _, vacant⟩ | ⟨last, hears, informed⟩
    · rw [held] at vacant
      cases vacant
    · obtain ⟨next, rfl, informs⟩ := informed there
      obtain ⟨last, heard, after⟩ := Followed.heard_call sound.client informs there keeps
      exact .inr ⟨last, hears.append heard, after⟩

theorem Sound.handle (sound : f.Sound config) (engines : EngineHost σ) :
    (f.handle engines).Sound config := by
  rw [Feed.handle]
  split
  · exact sound
  · rename_i p requests rest front
    refine ⟨sound.client, ?_⟩
    rcases sound.course with ⟨empty, _⟩ | ⟨last, ⟨ahead, applied, queue, split, standing, heard⟩,
      informed⟩
    · rw [front] at empty
      cases empty
    rcases standing.handle engines heard (front.symm.trans split) with
      ⟨rfl, rfl, closed⟩ | ⟨next, standing, later⟩
    · refine .inl ⟨rfl, closed, ?_⟩
      cases held : f.client.session.channel with
      | none => rfl
      | some c =>
        obtain ⟨_, impossible, _⟩ := informed (by rw [held]; rfl)
        cases impossible
    · exact .inr ⟨last, ⟨[], next, rest, rfl, standing, later⟩, informed⟩

theorem Sound.step (sound : f.Sound config) (engines : EngineHost σ) (event : FeedEvent) :
    (f.step engines event).Sound config := by
  cases event with
  | call call =>
    rw [Feed.step]
    split
    · exact sound
    · rename_i keeps
      exact sound.call (eq_false_of_ne_true keeps)
  | world change =>
    refine ⟨sound.client.step (.world change), ?_⟩
    refine sound.course.imp (fun gone => ⟨gone.1, gone.2.1, ?_⟩) ?_
    · simp [Feed.step, Followed.step, gone.2.2]
    · rintro ⟨last, hears, informed⟩
      refine ⟨last, hears, fun there => ?_⟩
      obtain ⟨next, same, informs⟩ :=
        informed (by simpa [Feed.step, Followed.step] using there)
      exact ⟨next, same, informs.codec, informs.agrees⟩
  | handle => exact sound.handle engines
  | share regions => exact ⟨sound.client, sound.course⟩

theorem Sound.run (sound : f.Sound config) (engines : EngineHost σ) (events : List FeedEvent) :
    (f.run engines events).Sound config := by
  induction events generalizing f with
  | nil => exact sound
  | cons event events ih => exact ih (sound.step engines event)

theorem sound_attached (config : SessionConfig) (past : List SessionEvent) (c : Channel)
    {host : Dispatcher σ} (closed : host.session = none) :
    (attached config past c host).Sound config := by
  have faithful := Followed.faithful_run config past
  rw [attached]
  generalize Followed.run config past = client at faithful
  have nothing : client.session.happened (.attach c) = [] :=
    Session.happened_idle faithful.sound.fits rfl
  have informs : (client.step (.call (.attach c))).Informs config
      (RecordEvent.outstanding client.history ++ client.session.letIn (.attach c))
      (.blank config.backend.codec) := by
    refine ⟨AppliedConfig.codec_blank _, ?_⟩
    rw [Followed.step, nothing, List.append_nil,
      show client.session.letIn (.attach c) = [] from rfl, List.append_nil]
    rfl
  have whole : Frame.whole (Traffic.told (.attach c) client.session).bytes <+:
      [.of .init config.toPayload] := by
    have wrote := Traffic.wrote_told faithful.sound.settled (.attach c)
    have short : ∀ a ∈ client.session.attempts (.attach c),
        a.primitive.payload.length < 2 ^ 32 := fun a member => Session.short_of_mem member
    refine (wrote.frames short).1.trans ?_
    show (if _ then _ else _ : List Attempt).map (·.primitive) <+: _
    split
    · rw [← faithful.own]
      exact List.prefix_rfl
    · exact List.nil_prefix
  refine ⟨faithful.step (.call (.attach c)), .inr ⟨some (.blank config.backend.codec), ?_,
    fun _ => ⟨_, rfl, informs⟩⟩⟩
  rw [Hears, Feed.call]
  dsimp only
  rw [closed]
  cases sent : Frame.whole (Traffic.told (.attach c) client.session).bytes with
  | nil => exact ⟨[], _, [], rfl, .refused, .nothing⟩
  | cons p rest =>
    rw [sent] at whole
    obtain ⟨rfl, tail⟩ := List.cons_prefix_cons.1 whole
    rw [List.prefix_nil.1 tail]
    exact ⟨_, _, [], rfl, .greeting, .nothing⟩

/-- Whenever a host whose engine was initialised handles a start, its configuration is what the
requests come to that waited when the channel was attached and that were let in since. -/
theorem configuration_of_requests (engines : EngineHost σ) (config : SessionConfig)
    (past : List SessionEvent) (c : Channel) {host : Dispatcher σ} (closed : host.session = none)
    (events : List FeedEvent) {p : Primitive} {requests : List ConfigRequest}
    {rest : List (Primitive × List ConfigRequest)} :
    let f := (attached config past c host).run engines events
    let reference := AppliedConfig.reference config.backend.codec requests
    f.queue = (p, requests) :: rest → p.kind? = some .start → f.initialised = true →
      ∃ s after, f.host.session = some s ∧ (f.host.dispatch engines p).1.session = some after ∧
        s.applied.fields = reference.fields ∧ after.applied.fields = reference.fields := by
  intro f reference next start initialised
  have sound : f.Sound config := (sound_attached config past c closed).run engines events
  rcases sound.course with ⟨empty, _⟩ | ⟨last, ⟨ahead, applied, queue, split, standing, heard⟩, _⟩
  · rw [next] at empty
    cases empty
  rw [next] at split
  generalize opened : f.host.session = session at standing
  rw [initialised] at standing
  cases standing with
  | @serving s _ own alike =>
    cases split
    obtain ⟨after, handled, _, values⟩ :=
      Dispatcher.session_kept engines opened start rfl (by decide)
    refine ⟨s, after, rfl, handled, ?_, ?_⟩
    · rw [← AppliedConfig.fields_clearChanges, heard.of_start start]
    · rw [← AppliedConfig.fields_clearChanges, values, heard.of_start start]

def geometry : ConfigRequest := .prep (.input 640 480)

def pixels : ConfigRequest := .prep { change := 4, format := 3 }

def quality : ConfigRequest := .codec (.jpeg { change := 1, quant := 99 })

/-- Two channels that break before a request is delivered. -/
def broken : List SessionEvent :=
  [.call (.attach { id := "first" }), .world Channel.shutdown, .call (.control geometry),
    .call (.attach { id := "second" }), .world Channel.shutdown, .call (.control pixels)]

def uncontrolled : Dispatcher ScriptedEngine :=
  { engine := { outcomes := [(.control, [.fail .notReady, .fail .notReady])] } }

/-- The backend takes no request for rate control. -/
def lastChannel : List FeedEvent :=
  [.call (.control quality), .handle, .call (.control (.rc { change := 1, gop := 5 })), .handle,
    .call (.start (.heap 0)), .handle]

theorem configuration_behind_broken_channels :
    let engines := ScriptedEngine.host .full
    let f := (attached { backend := .jpegEncoder } broken { id := "third" } uncontrolled).run
      engines lastChannel
    uncontrolled.session = none ∧ f.queue = [(.of .start [], [geometry, pixels, quality])] ∧
      f.initialised = true ∧ f.host.summary.engineErrors = 2 ∧
      ∃ s after, f.host.session = some s ∧
        (f.host.dispatch engines (.of .start [])).1.session = some after ∧
        s.applied.fields =
          ([640, 480, 640, 480, 3], [0, 0, 0, 0, 0, 0, 0, 0, 0], (.jpeg, [8]), 0) ∧
        after.applied.fields = s.applied.fields := by
  intro engines f
  have closed : uncontrolled.session = none := rfl
  have next : f.queue = [(.of .start [], [geometry, pixels, quality])] := by decide +kernel
  have initialised : f.initialised = true := by decide +kernel
  have reference : (AppliedConfig.reference .jpeg [geometry, pixels, quality]).fields =
      ([640, 480, 640, 480, 3], [0, 0, 0, 0, 0, 0, 0, 0, 0], (.jpeg, [8]), 0) := by
    decide +kernel
  obtain ⟨s, after, opened, handled, before, later⟩ :=
    configuration_of_requests engines { backend := .jpegEncoder } broken { id := "third" } closed
      lastChannel next rfl initialised
  exact ⟨closed, next, initialised, by decide +kernel, s, after, opened, handled,
    before.trans reference, later.trans before.symm⟩

end Feed

end CodecLink
