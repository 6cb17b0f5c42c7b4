import CodecLink.Proofs.Session.Coupling
import CodecLink.Proofs.Session.PendingRecords

/-! What holds of a coupled session and host at every moment: what is on its way takes the host to
where the session's state says, and the completion of the wait under way is asked for, or there. -/
namespace CodecLink

open Dispatcher

/-- The stage of the host when it has handled all that a session in this state sent. -/
def stageOf (started : Descriptor) : SessionState → Stage
  | .uninitialized | .disconnected => .vacant
  | .running => .loaded started
  | .connected | .configured | .waiting | .resetting => .idle

theorem stageOf_opened {state : SessionState} (opened : state ∈ Session.openStates)
    (started : Descriptor) : stageOf started state ≠ .vacant := by
  cases state <;> simp [Session.openStates] at opened <;> simp [stageOf]

theorem stageOf_between {state : SessionState} (between : state ∈ [.connected, .configured])
    (started : Descriptor) : stageOf started state = .idle := by
  cases state <;> simp at between <;> rfl

namespace Session

theorem travels_deliveries {config : SessionConfig} {t : RegionTable} {stage : Stage}
    (opened : stage ≠ .vacant) {set : ConfigSet}
    (codec : set.codec.codec = config.backend.codec) :
    Travels config t stage set.deliveries stage := by
  rw [ConfigSet.deliveries]
  induction set.pending.toList with
  | nil => exact .nil
  | cons kind rest ih =>
    refine .cons (.record opened ?_) ih
    rw [ConfigSet.length_encoded_eq, codec]

def startedBy (started : Descriptor) : SessionCall → Descriptor
  | .start input => input
  | _ => started

/-- What a call sends takes the host from where the session stood to where it then stands. -/
theorem travels_script {s : Session} (settled : s.Settled) (fits : s.Fits) {call : SessionCall}
    (other : ∀ output flag, call ≠ .wait output flag) (admitted : s.Admits call)
    {t : RegionTable} (admits : ∀ input, call = .start input → t.Admits input)
    (started : Descriptor) :
    Travels s.config t (stageOf started s.state) (s.script call)
      (stageOf (startedBy started call) (s.stateAfter call)) := by
  have vacant (opening : s.state ∈ openingStates) : stageOf started s.state = .vacant := by
    cases state : s.state <;> simp [openingStates, state] at opening <;> rfl
  cases call with
  | attach c =>
    rw [vacant admitted]
    exact Leads.init.travels
  | init attempt =>
    rw [vacant admitted]
    exact Leads.init.travels
  | control request =>
    rw [stageOf_between admitted]
    cases found : s.recorded? request with
    | none =>
      simp only [script, found]
      exact .nil
    | some recorded =>
      obtain ⟨_, _, _, configs, stored, rfl⟩ := recorded_some found
      simp only [script, found]
      exact travels_deliveries (by simp) ((ConfigSet.record_ok stored).2.1.trans fits)
  | genRegs =>
    have same : stageOf started s.state = .idle := stageOf_between admitted started
    show Travels _ _ (stageOf started s.state) _ (stageOf started s.state)
    rw [same]
    exact (Leads.prepare (by simp)).travels
  | start input =>
    have between : s.state ∈ [.connected, .configured] := by
      obtain ⟨_, _, state⟩ := settled.holds admitted (by decide)
      cases same : s.state <;> simp [same, Admits, startingStates] at state admitted ⊢
    rw [stageOf_between between]
    exact (travels_deliveries (by simp) fits).append
      (Leads.start (by simp) (admits input rfl)).travels
  | wait output flag => exact absurd rfl (other output flag)
  | reset => exact (Leads.clear (stageOf_opened admitted started) (.inl rfl)).travels
  | flush => exact (Leads.clear (stageOf_opened admitted started) (.inr rfl)).travels
  | deinit => exact (Leads.deinit (stageOf_opened admitted started)).travels

end Session

def isRequest (p : Primitive) : Bool := p.kind? = some .wait

theorem Session.quiet_script {s : Session} {call : SessionCall}
    (other : ∀ output flag, call ≠ .wait output flag) :
    (s.script call).countP isRequest = 0 := by
  have known (kind : PrimitiveCode) (payload : Bytes) :
      isRequest (.of kind payload) = decide (kind = .wait) := by
    rw [isRequest, show (Primitive.of kind payload).kind? = some kind from
      PrimitiveCode.ofWire?_wire kind]
    simp
  have records (set : ConfigSet) : set.deliveries.countP isRequest = 0 := by
    rw [List.countP_eq_zero, ConfigSet.deliveries]
    intro p member
    obtain ⟨kind, _, rfl⟩ := List.mem_map.1 member
    cases kind <;> simp [known, RecordKind.primitive]
  cases call with
  | control request =>
    rw [script]
    split
    · rfl
    · exact records _
  | start input => simp [script, records, known]
  | wait output flag => exact absurd rfl (other output flag)
  | _ => simp [script, known]

/-- What the completion of a wait is asked for with: a reply to its tag or the word of the output's
region. -/
inductive Watch.Expects (config : SessionConfig) (w : Watch) : Option UInt64 → Prop
  | reply {tag : UInt64} (mode : config.completion.isPolling = false)
      (awaited : w.awaited = .reply tag) (proper : tag ≠ 0) : Expects config w (some tag)
  | word (mode : config.completion.isPolling = true) (awaited : w.awaited = .word)
      (shared : w.output.isShared = true) (flagged : w.flag.isSome) : Expects config w none

theorem Watch.Expects.awaits {config : SessionConfig} {w : Watch} {tag : Option UInt64}
    (expects : w.Expects config tag) : w.awaited ≠ .nothing := by
  cases expects with
  | reply _ awaited => simp [awaited]
  | word _ awaited => simp [awaited]

namespace Coupling

def target (s : Coupling) : Stage := stageOf s.started s.session.state

/-- Bytes that the client has not taken yet, arrived or not. -/
def coming (s : Coupling) : Bytes := ((s.session.channel.map Channel.held).getD []) ++ s.toClient

/-- Bytes that the host has not taken yet. -/
def underway (s : Coupling) : Bytes := s.hostEnd.held ++ s.toHost

/-- The word that a wait looks at is that of its output's region. -/
def Owns (w : Watch) (s : Coupling) : Prop :=
  w.awaited = .word ∧ w.output.isShared = true ∧
    w.flag = s.host.regions.find? w.output.handle

/-- What the output of a wait is to hold: the input's content as it was when the host handled the
start, as far as it fits. -/
def copied (w : Watch) (s : Coupling) : Bytes :=
  (s.snapshot.contentOf s.started).take w.output.size.toNat

def word (w : Watch) (s : Coupling) : UInt32 :=
  publishedSize (.ofNat (s.copied w).length)

def reply (w : Watch) (tag : Option UInt64) (s : Coupling) : WaitReply :=
  { output := { w.output.sanitized with size := .ofNat (s.copied w).length }, tag }

/-- A request for the completion of a wait, and what the wait sees while it is on its way. -/
structure Asked (config : SessionConfig) (w : Watch) (payload : Bytes) (s : Coupling) : Prop where
  request : ∃ tag, decodeWait payload = .ok (some ⟨w.output.sanitized, tag⟩) ∧
    w.Expects config tag
  admits : s.host.regions.Admits w.output
  armed : s.Owns w → ∀ r, s.host.regions.get? w.output.handle = some r → r.ready = readySentinel
  looks : s.Owns w → ∀ look ∈ w.looks, look = readySentinel
  silent : s.coming = []

/-- What a wait sees, now or soon, of the task that the host completed for it. -/
structure Answered (config : SessionConfig) (w : Watch) (tag : Option UInt64) (s : Coupling) :
    Prop where
  expects : w.Expects config tag
  region : w.output.isShared = true → ∃ r,
    s.host.regions.get? w.output.handle = some r ∧ r.data = s.copied w ∧
      (config.completion.isPolling = true → r.ready = s.word w)
  looks : s.Owns w → ∀ look ∈ w.looks, look = readySentinel ∨ look = s.word w
  answer : s.coming =
    if config.completion.isPolling then [] else Frame.bytes (.of .wait (s.reply w tag).encode)

theorem Asked.awaits {config : SessionConfig} {w : Watch} {payload : Bytes} {s : Coupling}
    (asked : Asked config w payload s) : w.awaited ≠ .nothing := by
  obtain ⟨_, _, expects⟩ := asked.request
  exact expects.awaits

/-- How far the wait under way is, with these primitives on their way to a host at this stage. -/
inductive Phase (config : SessionConfig) (s : Coupling) (stage : Stage) :
    List Primitive → Prop
  /-- There is none, or none that is to be answered. -/
  | apart {queue : List Primitive}
      (unasked : ∀ w, s.watch = some w → w.awaited = .nothing ∧
        config.completion.isPolling = true ∧ (w.output.isShared = false ∨ w.flag = none))
      (travels : Travels config s.host.regions stage queue s.target)
      (silent : s.coming = []) : Phase config s stage queue
  /-- Its request is the last on the way. -/
  | asked {w : Watch} {front : List Primitive} {payload : Bytes} (watch : s.watch = some w)
      (travels : Travels config s.host.regions stage front (.loaded s.started))
      (asked : Asked config w payload s) : Phase config s stage (front ++ [.of .wait payload])
  /-- The host completed its task. -/
  | answered {w : Watch} {tag : Option UInt64} (watch : s.watch = some w) (idle : stage = .idle)
      (answered : Answered config w tag s) : Phase config s stage []

/-- These primitives are on their way to a host at this stage, which failed at nothing. -/
structure Way (config : SessionConfig) (s : Coupling) (stage : Stage) (queue : List Primitive) :
    Prop where
  bytes : s.underway = queue.flatMap Frame.bytes
  short : ∀ p ∈ queue, p.payload.length ≤ 255
  stands : s.host.Stands config s.snapshot stage
  dropped : s.host.summary.dropped = 0
  engineErrors : s.host.summary.engineErrors = 0

structure Underway (config : SessionConfig) (s : Coupling) (stage : Stage)
    (queue : List Primitive) : Prop extends Way config s stage queue where
  tasks : s.host.summary.tasks + queue.countP isRequest = s.waits
  phase : Phase config s stage queue

/-- A session of the configuration over a channel on which nothing goes wrong, and what it waits
for. -/
structure Apt (config : SessionConfig) (watch : Option Watch) (session : Session) : Prop where
  mode : session.config = config
  fits : session.Fits
  settled : watch = none → session.Settled
  waiting : ∀ w, watch = some w → session.channel.isSome ∧ session.state = .waiting
  line : ∀ c, session.channel = some c → c.Faultless

structure Sound (config : SessionConfig) (s : Coupling) : Prop where
  apt : Apt config s.watch s.session
  clean : ∀ c, s.session.latest = some c → c.written = []
  hostEnd : s.hostEnd.Faultless
  hostClean : s.hostEnd.written = []
  underway : ∃ stage queue, Underway config s stage queue

variable {registry : EngineRegistry} {config : SessionConfig} {s t : Coupling} {stage : Stage}
  {queue : List Primitive}

theorem Phase.congr (phase : Phase config s stage queue) (watch : t.watch = s.watch)
    (regions : t.host.regions = s.host.regions) (target : t.target = s.target)
    (coming : t.coming = s.coming) (started : t.started = s.started)
    (snapshot : t.snapshot = s.snapshot) : Phase config t stage queue := by
  have owns (w : Watch) : t.Owns w ↔ s.Owns w := by rw [Owns, Owns, regions]
  have copied (w : Watch) : t.copied w = s.copied w := by
    rw [Coupling.copied, Coupling.copied, snapshot, started]
  have word (w : Watch) : t.word w = s.word w := by rw [Coupling.word, Coupling.word, copied]
  have reply (w : Watch) (tag : Option UInt64) : t.reply w tag = s.reply w tag := by
    rw [Coupling.reply, Coupling.reply, copied]
  cases phase with
  | apart unasked travels silent =>
    exact .apart (by rwa [watch]) (by rwa [regions, target]) (by rwa [coming])
  | asked there travels asked =>
    obtain ⟨request, admits, armed, looks, silent⟩ := asked
    exact .asked (watch.trans there) (by rwa [regions, started]) ⟨request, by rwa [regions],
      by rwa [owns, regions], by rwa [owns], by rwa [coming]⟩
  | answered there idle answered =>
    obtain ⟨expects, region, looks, answer⟩ := answered
    exact .answered (watch.trans there) idle ⟨expects, by rwa [regions, copied, word],
      by rwa [owns, word], by rwa [coming, reply]⟩

/-- With no wait under way all that matters is that the host is led to the session's stage. -/
theorem phase_idle (idle : s.watch = none)
    (travels : Travels config s.host.regions stage queue s.target) (silent : s.coming = []) :
    Phase config s stage queue :=
  .apart (fun w watch => by cases idle.symm.trans watch) travels silent

theorem Phase.idle (phase : Phase config s stage queue) (idle : s.watch = none) :
    Travels config s.host.regions stage queue s.target ∧ s.coming = [] := by
  cases phase with
  | apart _ travels silent => exact ⟨travels, silent⟩
  | asked watch => cases idle.symm.trans watch
  | answered watch => cases idle.symm.trans watch

/-- Other regions may change, and come in, while a wait is under way. -/
theorem Phase.regions {regions : RegionTable} (phase : Phase config s stage queue)
    (keeps : s.host.regions.Keeps regions)
    (same : ∀ w, s.watch = some w → w.output.isShared = true → ∀ r,
      s.host.regions.get? w.output.handle = some r →
        regions.find? w.output.handle = s.host.regions.find? w.output.handle ∧
          regions.get? w.output.handle = some r) :
    Phase config { s with host.regions := regions } stage queue := by
  cases phase with
  | apart unasked travels silent => exact .apart unasked (travels.mono keeps) silent
  | @asked w front payload there travels asked =>
    -- The output's region is where it was, so what was seen there is what it says now.
    have known (owns : Owns w { s with host.regions := regions }) : s.Owns w ∧ ∀ r,
        regions.get? w.output.handle = some r → s.host.regions.get? w.output.handle = some r := by
      obtain ⟨awaited, shared, flag⟩ := owns
      obtain ⟨r, present, _⟩ := asked.admits shared
      obtain ⟨place, still⟩ := same w there shared r present
      refine ⟨⟨awaited, shared, flag.trans place⟩, fun other found => ?_⟩
      cases still.symm.trans found
      exact present
    exact .asked there (travels.mono keeps) { asked with
      admits := keeps.admits asked.admits
      armed := fun owns r found => asked.armed (known owns).1 r ((known owns).2 r found)
      looks := fun owns => asked.looks (known owns).1 }
  | @answered w tag there idle answered =>
    refine .answered there idle { answered with
      region := fun shared => ?_
      looks := fun owns => answered.looks ?_ }
    · obtain ⟨r, present, content⟩ := answered.region shared
      exact ⟨r, (same w there shared r present).2, content⟩
    · obtain ⟨awaited, shared, flag⟩ := owns
      obtain ⟨r, present, _⟩ := answered.region shared
      exact ⟨awaited, shared, flag.trans (same w there shared r present).1⟩

theorem Underway.regions {regions : RegionTable} (under : Underway config s stage queue)
    (phase : Phase config { s with host.regions := regions } stage queue) :
    Underway config { s with host.regions := regions } stage queue where
  bytes := under.bytes
  short := under.short
  stands := by
    have stands := under.stands
    cases stage with
    | vacant => exact stands
    | idle => exact ⟨stands.unscripted, stands.ready, stands.session⟩
    | loaded input => exact ⟨⟨stands.1.unscripted, stands.1.ready, stands.1.session⟩, stands.2⟩
  dropped := under.dropped
  engineErrors := under.engineErrors
  tasks := under.tasks
  phase := phase

/-- The shared regions may be changed in any way that suits what is on its way. -/
theorem Sound.regions {regions : RegionTable} (sound : Sound config s)
    (suits : ∀ stage queue, Underway config s stage queue →
      Phase config { s with host.regions := regions } stage queue) :
    Sound config { s with host.regions := regions } where
  apt := sound.apt
  clean := sound.clean
  hostEnd := sound.hostEnd
  hostClean := sound.hostClean
  underway := by
    obtain ⟨stage, queue, under⟩ := sound.underway
    exact ⟨stage, queue, under.regions (suits stage queue under)⟩

end Coupling

end CodecLink
