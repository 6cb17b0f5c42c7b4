import CodecLink.Proofs.Dispatcher.Configuration
import CodecLink.Proofs.Session.CallOrder
import CodecLink.Proofs.Session.Outstanding

/-! A session attached to a host by one channel that loses nothing: whatever the session wrote there
is handled in order, each primitive at any time after it was sent. What a call sends makes the
host's configuration what the requests let in so far come to, and a start is sent only then. -/
namespace CodecLink

structure Feed (σ : Type) where
  client : Followed
  host : Dispatcher σ
  /-- The requests that waited when the channel was attached, and those let in since. -/
  requests : List ConfigRequest
  /-- What the host has not handled yet, with the requests let in by the time it was sent. -/
  queue : List (Primitive × List ConfigRequest) := []
  /-- Whether the host's engine was initialised for this channel. -/
  initialised : Bool := false

inductive FeedEvent
  | call (call : SessionCall)
  /-- What arrives at the session's end of the channel, or becomes of it. -/
  | world (change : Channel → Channel)
  | handle
  /-- What is done to the shared regions besides. -/
  | share (regions : RegionTable)

namespace Feed

variable {σ : Type}

def call (call : SessionCall) (f : Feed σ) : Feed σ :=
  let requests := f.requests ++ f.client.session.letIn call
  let sent := Frame.whole (Traffic.told call f.client.session).bytes
  { f with
    client := f.client.step (.call call), requests, queue := f.queue ++ sent.map (·, requests) }

def handle (engines : EngineHost σ) (f : Feed σ) : Feed σ :=
  match f.queue with
  | [] => f
  | (p, _) :: queue =>
    let host := (f.host.dispatch engines p).1
    { f with
      queue, host
      initialised := if p.kind? = some .init then host.session.isSome else f.initialised }

/-- A call that would put another channel in the place of this one is left out. -/
def step (engines : EngineHost σ) (f : Feed σ) : FeedEvent → Feed σ
  | .call call => if f.client.session.opens call then f else f.call call
  | .world change => { f with client := f.client.step (.world change) }
  | .handle => f.handle engines
  | .share regions => { f with host.regions := regions }

/-- A session with a past of its own is given a channel to a host. -/
def attached (config : SessionConfig) (past : List SessionEvent) (c : Channel)
    (host : Dispatcher σ) : Feed σ :=
  let client := Followed.run config past
  Feed.call (.attach c) { client, host, requests := RecordEvent.outstanding client.history }

def run (engines : EngineHost σ) (f : Feed σ) (events : List FeedEvent) : Feed σ :=
  events.foldl (step engines) f

end Feed

/-- What handling these primitives makes of a configuration, nothing if the last is a farewell.
Every start among them meets what the requests let in by then come to. -/
inductive Heard (codec : Codec) :
    AppliedConfig → List (Primitive × List ConfigRequest) → Option AppliedConfig → Prop
  | nothing {applied : AppliedConfig} : Heard codec applied [] (some applied)
  | record {applied : AppliedConfig} {request : ConfigRequest} {requests : List ConfigRequest}
      {queue : List (Primitive × List ConfigRequest)} {last : Option AppliedConfig}
      (suits : request.suits codec = true)
      (later : Heard codec (applied.overwrite request) queue last) :
      Heard codec applied ((.of request.kind.primitive request.encode, requests) :: queue) last
  | start {applied : AppliedConfig} {p : Primitive} {requests : List ConfigRequest}
      {queue : List (Primitive × List ConfigRequest)} {last : Option AppliedConfig}
      (kind : p.kind? = some .start) (agrees : applied = .reference codec requests)
      (later : Heard codec applied queue last) : Heard codec applied ((p, requests) :: queue) last
  | quiet {applied : AppliedConfig} {p : Primitive} {code : PrimitiveCode}
      {requests : List ConfigRequest} {queue : List (Primitive × List ConfigRequest)}
      {last : Option AppliedConfig} (kind : p.kind? = some code)
      (among : code ∈ [.regs, .wait, .reset, .flush]) (later : Heard codec applied queue last) :
      Heard codec applied ((p, requests) :: queue) last
  | farewell {applied : AppliedConfig} {p : Primitive} {requests : List ConfigRequest}
      (kind : p.kind? = some .deinit) : Heard codec applied [(p, requests)] none

namespace Heard

variable {codec : Codec} {applied middle : AppliedConfig} {last : Option AppliedConfig}
  {front back : List (Primitive × List ConfigRequest)}

theorem append (heard : Heard codec applied front (some middle))
    (more : Heard codec middle back last) : Heard codec applied (front ++ back) last := by
  generalize next : some middle = result at heard
  induction heard with
  | nothing =>
    cases next
    exact more
  | record suits _ ih => exact .record suits (ih next)
  | start kind agrees _ ih => exact .start kind agrees (ih next)
  | quiet kind among _ ih => exact .quiet kind among (ih next)
  | farewell kind => cases next

theorem of_append (heard : Heard codec applied (front ++ back) last) :
    ∃ last, Heard codec applied front last := by
  generalize whole : front ++ back = queue at heard
  induction heard generalizing front with
  | nothing =>
    obtain ⟨rfl, -⟩ := List.append_eq_nil_iff.1 whole
    exact ⟨_, .nothing⟩
  | record suits _ ih =>
    cases front with
    | nil => exact ⟨_, .nothing⟩
    | cons item front =>
      cases whole
      obtain ⟨last, heard⟩ := ih rfl
      exact ⟨last, .record suits heard⟩
  | start kind agrees _ ih =>
    cases front with
    | nil => exact ⟨_, .nothing⟩
    | cons item front =>
      cases whole
      obtain ⟨last, heard⟩ := ih rfl
      exact ⟨last, .start kind agrees heard⟩
  | quiet kind among _ ih =>
    cases front with
    | nil => exact ⟨_, .nothing⟩
    | cons item front =>
      cases whole
      obtain ⟨last, heard⟩ := ih rfl
      exact ⟨last, .quiet kind among heard⟩
  | farewell kind =>
    cases front with
    | nil => exact ⟨_, .nothing⟩
    | cons item front =>
      obtain ⟨rfl, tail⟩ := List.cons.inj whole
      obtain ⟨rfl, -⟩ := List.append_eq_nil_iff.1 tail
      exact ⟨none, .farewell kind⟩

theorem one_quiet {code : PrimitiveCode}
    (among : code ∈ [PrimitiveCode.regs, .wait, .reset, .flush])
    (payload : Bytes) (requests : List ConfigRequest) :
    Heard codec applied [(.of code payload, requests)] (some applied) :=
  .quiet (PrimitiveCode.ofWire?_wire code) among .nothing

variable (applied) in
/-- Records that a session delivers are laid over the configuration. -/
theorem deliveries {set : ConfigSet} (fits : set.codec.codec = codec)
    (requests : List ConfigRequest) :
    Heard codec applied (set.deliveries.map (·, requests))
      (some (applied.overwriteAll set.waitingRequests)) := by
  rw [ConfigSet.deliveries, ConfigSet.waitingRequests]
  generalize set.pending.toList = kinds
  induction kinds generalizing applied with
  | nil => exact .nothing
  | cons kind kinds ih =>
    have first : Primitive.of kind.primitive (set.encoded kind) =
        .of (set.stored kind).kind.primitive (set.stored kind).encode := by
      rw [ConfigSet.kind_stored, ConfigSet.encode_stored]
    rw [List.map_cons, List.map_cons, first]
    exact .record (ConfigSet.suits_stored fits kind) (ih _)

end Heard

theorem Attempt.Wrote.whole_eq {attempts : List Attempt} {bs : Bytes} (wrote : Wrote attempts bs)
    (short : ∀ a ∈ attempts, a.primitive.payload.length < 2 ^ 32)
    (succeeded : ∀ a ∈ attempts, a.sent = true) :
    Frame.whole bs = attempts.map (·.primitive) := by
  induction wrote with
  | nil => exact Frame.whole_nil
  | @sent a rest bs _ later ih =>
    rw [Frame.whole_bytes_append (short a (by simp)),
      ih (fun other member => short other (by simp [member])) fun other member =>
        succeeded other (by simp [member])]
    rfl
  | failed stopped _ =>
    rw [succeeded _ (by simp)] at stopped
    cases stopped

/-- A host with this configuration is up to date but for the records that still wait. -/
structure Followed.Informs (f : Followed) (config : SessionConfig) (requests : List ConfigRequest)
    (applied : AppliedConfig) : Prop where
  codec : applied.codec.codec = config.backend.codec
  agrees : applied.overwriteAll (RecordEvent.outstanding f.history) =
    .reference config.backend.codec requests

namespace Followed

variable {config : SessionConfig} {f : Followed} {call : SessionCall}
  {requests : List ConfigRequest} {applied : AppliedConfig}

theorem Informs.reference (requests : List ConfigRequest)
    (idle : RecordEvent.outstanding f.history = []) :
    f.Informs config requests (.reference config.backend.codec requests) := by
  refine ⟨?_, ?_⟩
  · rw [AppliedConfig.reference, AppliedConfig.codec_overwriteAll, AppliedConfig.codec_blank]
  · rw [idle]
    rfl

theorem Informs.unchanged (informs : f.Informs config requests applied)
    (nothing : f.session.happened call = []) :
    (f.step (.call call)).Informs config requests applied := by
  refine ⟨informs.codec, ?_⟩
  rw [step, nothing, List.append_nil]
  exact informs.agrees

/-- The records that a session has stored make up for what the host has not been told. -/
theorem Informs.deliveries (informs : f.Informs config requests applied)
    (faithful : f.Faithful config) {set : ConfigSet}
    (accounts : set.Accounts (f.history ++ (f.session.letIn call).map RecordEvent.accepted)) :
    applied.overwriteAll set.waitingRequests =
      .reference config.backend.codec (requests ++ f.session.letIn call) := by
  have all := f.outstanding_letIn call
  have suits : ∀ r ∈ RecordEvent.outstanding
      (f.history ++ (f.session.letIn call).map RecordEvent.accepted),
      r.suits applied.codec.codec = true := by
    intro r member
    rw [informs.codec]
    rcases List.mem_append.1 (all ▸ member) with before | now
    · exact faithful.suits r before
    · rw [← faithful.own]
      exact Session.suits_of_letIn now
  have before := informs.agrees
  rw [AppliedConfig.overwriteAll] at before
  rw [ConfigSet.overwriteAll_waiting accounts suits, all, AppliedConfig.overwriteAll,
    List.foldl_append, before, AppliedConfig.reference, AppliedConfig.reference,
    AppliedConfig.overwriteAll, AppliedConfig.overwriteAll, List.foldl_append]

/-- A call that is let through tells the host of all that waits, or of nothing. -/
theorem heard_script (faithful : f.Faithful config) (informs : f.Informs config requests applied)
    (held : f.session.channel.isSome) (admitted : f.session.Admits call) :
    ∃ last, Heard config.backend.codec applied
        ((f.session.script call).map (·, requests ++ f.session.letIn call)) last ∧
      (f.session.stateAfter call ≠ .disconnected → last = some (
        match f.session.delivering? call with
        | some _ => .reference config.backend.codec (requests ++ f.session.letIn call)
        | none => applied)) := by
  have taken (opening : f.session.state ∈ Session.openingStates) : False := by
    rw [faithful.sound.settled.vacant opening] at held
    cases held
  have fits : f.session.configs.codec.codec = config.backend.codec := by
    rw [← faithful.own]
    exact faithful.sound.fits
  have quiet {code : PrimitiveCode} (among : code ∈ [PrimitiveCode.regs, .wait, .reset, .flush])
      (payload : Bytes) (asked : List ConfigRequest) :
      ∃ last, Heard config.backend.codec applied [(.of code payload, asked)] last ∧
        (f.session.stateAfter call ≠ .disconnected → last = some applied) :=
    ⟨_, .one_quiet among payload asked, fun _ => rfl⟩
  cases call with
  | attach c => exact (taken admitted).elim
  | init attempt => exact (taken admitted).elim
  | control request =>
    cases found : f.session.recorded? request with
    | none =>
      have idle : f.session.delivering? (.control request) = none := found
      refine ⟨_, ?_, fun _ => by rw [idle]⟩
      rw [Session.script, found]
      exact .nothing
    | some recorded =>
      have begins : f.session.delivering? (.control request) = some recorded := found
      obtain ⟨_, _, _, set, stored, rfl⟩ := Session.recorded_some found
      have let_in : f.session.letIn (.control request) = [request] := by
        rw [Session.letIn, ← Session.isSome_recorded faithful.sound.fits, found]
        rfl
      have accounts : set.Accounts
          (f.history ++ (f.session.letIn (.control request)).map RecordEvent.accepted) := by
        rw [let_in]
        exact faithful.sound.accounts.record stored
      refine ⟨_, ?_, fun _ => by rw [begins]⟩
      rw [← informs.deliveries faithful accounts, Session.script, found]
      exact .deliveries _ ((ConfigSet.record_ok stored).2.1.trans fits) _
  | start input =>
    have begins : f.session.delivering? (.start input) = some f.session := if_pos admitted
    have accounts : f.session.configs.Accounts
        (f.history ++ (f.session.letIn (.start input)).map RecordEvent.accepted) := by
      rw [show f.session.letIn (.start input) = [] from rfl, List.map_nil, List.append_nil]
      exact faithful.sound.accounts
    have told := Heard.deliveries applied fits
      (requests ++ f.session.letIn (.start input))
    rw [informs.deliveries faithful accounts] at told
    refine ⟨_, ?_, fun _ => by rw [begins]⟩
    rw [Session.script, List.map_append]
    exact told.append (.start (PrimitiveCode.ofWire?_wire .start) rfl .nothing)
  | genRegs => exact quiet (by simp) _ _
  | wait output flag => exact quiet (by simp) _ _
  | reset => exact quiet (by simp) _ _
  | flush => exact quiet (by simp) _ _
  | deinit =>
    exact ⟨none, .farewell (PrimitiveCode.ofWire?_wire .deinit), fun stays => absurd rfl stays⟩

/-- What a call sends over the channel, whether it goes through or is cut off, keeps the host
informed. -/
theorem heard_call (faithful : f.Faithful config) (informs : f.Informs config requests applied)
    (held : f.session.channel.isSome) (keeps : f.session.opens call = false) :
    ∃ last, Heard config.backend.codec applied
        ((Frame.whole (Traffic.told call f.session).bytes).map
          (·, requests ++ f.session.letIn call)) last ∧
      ((f.step (.call call)).session.channel.isSome → ∃ next, last = some next ∧
        (f.step (.call call)).Informs config (requests ++ f.session.letIn call) next) := by
  have settled := faithful.sound.settled
  have wrote := Traffic.wrote_told settled call
  have short : ∀ a ∈ f.session.attempts call, a.primitive.payload.length < 2 ^ 32 :=
    fun a member => Session.short_of_mem member
  have after := faithful.step (.call call)
  cases Session.course_perform settled call with
  | idle same quiet =>
    rw [Traffic.told_idle keeps same quiet, Session.letIn_quiet faithful.sound.fits quiet,
      List.append_nil, Frame.whole_nil]
    have nothing := Session.happened_quiet faithful.sound.fits quiet
    exact ⟨_, .nothing, fun _ => ⟨applied, rfl, informs.unchanged nothing⟩⟩
  | through admitted used whole sent there state =>
    obtain ⟨last, heard, ending⟩ := heard_script faithful informs held admitted
    have stays : f.session.stateAfter call ≠ .disconnected := by
      intro left
      have closed : (f.session.perform call).2.state = .disconnected := state.trans left
      rcases after.sound.settled with ⟨_, member⟩ | ⟨gone, _⟩
      · rw [show (f.step (.call call)).session.state = _ from closed] at member
        simp at member
      · rw [show (f.session.perform call).2.channel = none from gone] at there
        cases there
    have all : Frame.whole (Traffic.told call f.session).bytes = f.session.script call :=
      (wrote.whole_eq short sent).trans whole
    rw [all]
    refine ⟨last, heard, fun _ => ⟨_, ending stays, ?_⟩⟩
    cases begins : f.session.delivering? call with
    | none =>
      rw [Session.letIn_idle faithful.sound.fits begins, List.append_nil]
      exact informs.unchanged (Session.happened_idle faithful.sound.fits begins)
    | some begun =>
      have idle := Session.pending_delivered settled begins there
      exact .reference _ (ConfigSet.outstanding_of_idle after.sound.accounts idle)
  | lost admitted used front gone =>
    obtain ⟨last, heard, -⟩ := heard_script faithful informs held admitted
    obtain ⟨rest, script⟩ := (wrote.frames short).1.trans front
    rw [← script, List.map_append] at heard
    obtain ⟨last, heard⟩ := heard.of_append
    refine ⟨last, heard, fun there => ?_⟩
    rw [show (f.step (.call call)).session.channel = none from gone] at there
    cases there

end Followed

end CodecLink
