import CodecLink.Proofs.Session.CoupledPhases
import CodecLink.Proofs.Session.LateReplies

/-! Every move of a coupled session and host keeps what is on its way in order: what the client
sends follows on what it sent before, and what the host handles takes it to the next stage. -/
namespace CodecLink

open Dispatcher

namespace Coupling

variable {registry : EngineRegistry} {config : SessionConfig} {s t : Coupling} {stage : Stage}
  {queue : List Primitive}

theorem sound_fill (sound : Sound config s) {id : RegionId} {content : Bytes}
    (allowed : s.Allows (.fill id content)) :
    Sound config (s.step registry (.fill id content)) := by
  rw [step]
  cases written : s.host.regions.write id content with
  | error e => exact sound
  | ok regions =>
    obtain rfl := RegionTable.write_ok written
    refine sound.regions fun _ _ under => under.phase.regions
      (RegionTable.keeps_modify _ id fun _ => rfl) fun w watch shared r present => ⟨rfl, ?_⟩
    rw [RegionTable.get?_modify_other _ (allowed w watch shared), present]

theorem bytes_ne_nil (p : Primitive) : Frame.bytes p ≠ [] := by
  simp [Frame.bytes, Header.encode]

/-- Nothing is on its way if the host has handled all that was sent. -/
theorem Underway.served (under : Underway config s stage queue) (served : s.Served) :
    queue = [] := by
  have bytes := under.bytes
  rw [Coupling.underway, served.1, served.2] at bytes
  cases queue with
  | nil => rfl
  | cons p ps =>
    rw [List.flatMap_cons] at bytes
    exact absurd (List.append_eq_nil_iff.1 bytes.symm).1 (bytes_ne_nil p)

/-- With no wait under way and nothing on its way to the host, the regions may change at will. -/
theorem Sound.replaced (sound : Sound config s) (idle : s.watch.isNone = true) (served : s.Served)
    (regions : RegionTable) : Sound config { s with host.regions := regions } := by
  have none_left : s.watch = none := Option.isNone_iff_eq_none.1 idle
  refine sound.regions fun stage queue under => ?_
  obtain ⟨travels, silent⟩ := under.phase.idle none_left
  rw [under.served served] at travels ⊢
  cases travels
  exact phase_idle none_left .nil silent

theorem sound_retire (sound : Sound config s) {handle : UInt64}
    (allowed : s.Allows (.retire handle)) : Sound config (s.step registry (.retire handle)) :=
  sound.replaced allowed.1 allowed.2 _

theorem sound_share (sound : Sound config s) {region : Region}
    (allowed : s.Allows (.share region)) : Sound config (s.step registry (.share region)) := by
  rcases allowed with ⟨idle, served⟩ | fresh
  · exact sound.replaced idle served _
  · exact sound.regions fun _ _ under => under.phase.regions (RegionTable.keeps_insert fresh)
      fun _ _ _ _ present => RegionTable.insert_fresh fresh present

theorem sound_toHost (sound : Sound config s) (bytes : Nat) :
    Sound config (s.step registry (.toHost bytes)) := by
  obtain ⟨stage, queue, under⟩ := sound.underway
  have same : (s.step registry (.toHost bytes)).underway = s.underway := by
    rw [Coupling.underway, Coupling.underway, step]
    simp only [Channel.held_arrive sound.hostEnd, List.append_assoc, List.take_append_drop]
  exact { sound with
    hostEnd := sound.hostEnd.arrive _
    hostClean := sound.hostClean
    underway := ⟨stage, queue, { under with
      bytes := same.trans under.bytes
      phase := under.phase.congr rfl rfl rfl rfl rfl rfl }⟩ }

theorem sound_toClient (sound : Sound config s) (bytes : Nat) :
    Sound config (s.step registry (.toClient bytes)) := by
  rw [step]
  cases held : s.session.channel with
  | none => exact sound
  | some c =>
    obtain ⟨stage, queue, under⟩ := sound.underway
    have faultless := sound.apt.line c held
    constructor
    case apt =>
      refine ⟨sound.apt.mode, sound.apt.fits, fun idle => ?_,
        fun w watch => ⟨rfl, (sound.apt.waiting w watch).2⟩, fun d own => ?_⟩
      · rcases sound.apt.settled idle with ⟨_, state⟩ | ⟨vacant, _⟩
        · exact .inl ⟨rfl, state⟩
        · cases held.symm.trans vacant
      · cases own
        exact faultless.arrive _
    case clean =>
      intro d own
      cases own
      exact sound.clean c (by rw [Session.latest, held]; rfl)
    case hostEnd => exact sound.hostEnd
    case hostClean => exact sound.hostClean
    case underway =>
      refine ⟨stage, queue, { under with phase := under.phase.congr rfl rfl rfl ?_ rfl rfl }⟩
      simp [coming, held, Channel.held_arrive faultless]

/-- What a wait sees at its output's own word is what that region holds ready. -/
theorem Owns.flagOf {w : Watch} (owns : s.Owns w) :
    s.link.flagOf w.flag =
      (s.host.regions.get? w.output.handle).map fun r => { value := r.ready } := by
  rw [RegionTable.get?, ← owns.2.2]
  cases w.flag with
  | none => rfl
  | some id =>
    rw [Option.bind_some]
    cases present : s.host.regions.region? id <;> simp [Link.flagOf, link, present]

theorem sound_look (sound : Sound config s) : Sound config (s.step registry .look) := by
  rw [step]
  split
  · rename_i w flag watch seen
    rw [watch, Option.bind_some] at seen
    obtain ⟨stage, queue, under⟩ := sound.underway
    have expected {tag : Option UInt64} (expects : w.Expects config tag) :
        Watch.Expects config { w with looks := w.looks ++ [flag.value] } tag := by
      cases expects with
      | reply mode awaited proper => exact .reply mode awaited proper
      | word mode awaited shared flagged => exact .word mode awaited shared flagged
    refine { sound with
      apt := ⟨sound.apt.mode, sound.apt.fits, fun idle => (by cases idle),
        fun _ _ => sound.apt.waiting w watch, sound.apt.line⟩
      underway := ⟨stage, queue, { under with phase := ?_ }⟩ }
    cases under.phase with
    | apart unasked travels silent =>
      refine .apart (fun other same => ?_) travels silent
      cases same
      exact unasked w watch
    | asked there travels asked =>
      cases watch.symm.trans there
      obtain ⟨tag, decoded, expects⟩ := asked.request
      refine .asked rfl travels { asked with
        request := ⟨tag, decoded, expected expects⟩
        looks := fun owns look member => ?_ }
      rcases List.mem_append.1 member with before | last
      · exact asked.looks owns look before
      · rw [Owns.flagOf (w := w) (s := s) owns] at seen
        obtain ⟨r, present, rfl⟩ := Option.map_eq_some_iff.1 seen
        rw [List.mem_singleton.1 last]
        exact asked.armed owns r present
    | answered there idle answered =>
      cases watch.symm.trans there
      refine .answered rfl idle { answered with
        expects := expected answered.expects
        looks := fun owns look member => ?_ }
      rcases List.mem_append.1 member with before | last
      · exact answered.looks owns look before
      · rw [Owns.flagOf (w := w) (s := s) owns] at seen
        obtain ⟨r, present, rfl⟩ := Option.map_eq_some_iff.1 seen
        obtain ⟨other, found, _, ready⟩ := answered.region owns.2.1
        cases present.symm.trans found
        rw [List.mem_singleton.1 last]
        cases answered.expects with
        | reply mode awaited proper =>
          have awaited := awaited.symm.trans owns.1
          cases awaited
        | word mode awaited shared flagged => exact .inr (ready mode)
  · exact sound

def replyBytes (reply : Option WaitReply) : Bytes :=
  (reply.map fun m => Frame.bytes (.of .wait m.encode)).getD []

theorem sendReply_faultless {c : Channel} (faultless : c.Faultless) (reply : Option WaitReply) :
    (sendReply reply c).2 = c.grown (replyBytes reply) := by
  cases reply with
  | none => exact c.grown_nil.symm
  | some m =>
    have short : m.encode.length ≤ 255 := Nat.le_trans m.length_encode_le (by decide)
    exact congrArg Prod.snd (faultless.send (p := .of .wait m.encode) short)

/-- The host after it handled a primitive, with the rest still on its way. -/
def handling (registry : EngineRegistry) (p : Primitive) (s : Coupling) : Coupling :=
  let outcome := s.host.dispatch (ScriptedEngine.host registry) p
  { s with
    host := outcome.1
    hostEnd := (s.hostEnd.recv.2.grown (replyBytes outcome.2.2)).emptied
    toClient := s.toClient ++ replyBytes outcome.2.2
    snapshot := if p.kind? = some .start then s.host.regions else s.snapshot }

theorem handle_received (sound : Sound config s) (received : s.hostEnd.recv.2.Faultless)
    {p : Primitive} (given : s.hostEnd.recv.1 = .ok p) :
    s.handle registry = s.handling registry p := by
  have both : s.hostEnd.recv = (.ok p, s.hostEnd.recv.2) := Prod.ext given rfl
  have written : s.hostEnd.recv.2.written = [] := sound.hostClean
  rw [handle, both]
  simp only [sendReply_faultless received, Channel.written_grown, written, List.nil_append]
  rfl

theorem underway_handling {next : Stage} {p : Primitive} {rest : List Primitive}
    (under : Underway config s stage (p :: rest))
    (stands : (s.handling registry p).host.Stands config (s.handling registry p).snapshot next)
    (counted : Counted s.host (s.handling registry p).host (if p.kind? = some .wait then 1 else 0))
    (left : s.hostEnd.recv.2.held ++ s.toHost = rest.flatMap Frame.bytes)
    (phase : Phase config (s.handling registry p) next rest) :
    Underway config (s.handling registry p) next rest where
  bytes := left
  short q member := under.short q (by simp [member])
  stands := stands
  dropped := counted.dropped.trans under.dropped
  engineErrors := counted.engineErrors.trans under.engineErrors
  tasks := by
    have tasks := under.tasks
    rw [List.countP_cons] at tasks
    show _ = s.waits
    rw [counted.tasks, ← tasks, isRequest]
    simp only [decide_eq_true_eq]
    omega
  phase := phase

/-- What needs no answer is handled without one, and changes no region. -/
theorem underway_quiet (supported : registry.supports config.backend = true) {next : Stage}
    {p : Primitive} {rest : List Primitive} (under : Underway config s stage (p :: rest))
    (leads : Leads config s.host.regions stage p next)
    (left : s.hostEnd.recv.2.held ++ s.toHost = rest.flatMap Frame.bytes)
    (phase : (s.handling registry p).host.regions = s.host.regions →
      (s.handling registry p).coming = s.coming → Phase config (s.handling registry p) next rest) :
    Underway config (s.handling registry p) next rest := by
  have handled := handled_leads supported under.stands leads
  refine underway_handling under handled.stands handled.counted left (phase handled.regions ?_)
  simp [coming, handling, handled.silent, replyBytes]

/-- The host completes a task when it comes to its request. -/
theorem underway_answer {w : Watch} {payload : Bytes}
    (under : Underway config s (.loaded s.started) [.of .wait payload]) (watch : s.watch = some w)
    (asked : Asked config w payload s)
    (left : s.hostEnd.recv.2.held ++ s.toHost = ([] : List Primitive).flatMap Frame.bytes) :
    Underway config (s.handling registry (.of .wait payload)) .idle [] := by
  obtain ⟨tag, decoded, expects⟩ := asked.request
  have known : (Primitive.of .wait payload).kind? = some .wait := PrimitiveCode.ofWire?_wire .wait
  obtain ⟨serving, counted, answer, places, filled⟩ :=
    answered_request registry under.stands decoded asked.admits
  have snapshot : (s.handling registry (.of .wait payload)).snapshot = s.snapshot := by
    simp [handling, known]
  have copied : (s.handling registry (.of .wait payload)).copied w = s.copied w := by
    rw [Coupling.copied, Coupling.copied, snapshot]
    rfl
  have tallied : Counted s.host (s.handling registry (.of .wait payload)).host
      (if (Primitive.of .wait payload).kind? = some .wait then 1 else 0) := by
    rw [if_pos known]
    exact counted
  refine underway_handling under serving tallied left (.answered watch rfl ⟨expects, ?_, ?_, ?_⟩)
  · intro shared
    obtain ⟨r, present, _⟩ := asked.admits shared
    refine ⟨_, filled shared r present, copied.symm, fun polling => ?_⟩
    rw [Coupling.word, copied]
    exact if_pos polling
  · intro owns look member
    exact .inl (asked.looks ⟨owns.1, owns.2.1, owns.2.2.trans (places _)⟩ look member)
  · have added : (s.handling registry (.of .wait payload)).coming = s.coming ++ replyBytes
        (s.host.dispatch (ScriptedEngine.host registry) (.of .wait payload)).2.2 := by
      simp [coming, handling]
    rw [added, asked.silent, answer, Coupling.reply, copied]
    split <;> rfl

theorem underway_received (supported : registry.supports config.backend = true) {p : Primitive}
    {rest : List Primitive} (under : Underway config s stage queue) (queued : queue = p :: rest)
    (left : s.hostEnd.recv.2.held ++ s.toHost = rest.flatMap Frame.bytes) :
    ∃ next, Underway config (s.handling registry p) next rest := by
  have phase := under.phase
  -- Only at the end of the way is there a request to answer; all before it leads on.
  cases phase with
  | apart unasked travels silent =>
    subst queued
    cases travels with
    | cons leads later =>
      refine ⟨_, underway_quiet supported under leads left fun regions coming => ?_⟩
      exact .apart unasked (regions ▸ later) (coming.trans silent)
  | @asked w front payload watch travels asked =>
    cases travels with
    | nil =>
      cases queued
      exact ⟨_, underway_answer under watch asked left⟩
    | cons leads later =>
      cases queued
      refine ⟨_, underway_quiet supported under leads left fun regions coming => ?_⟩
      have same (owns : Owns w (s.handling registry p)) : s.Owns w := by
        rwa [Owns, regions] at owns
      exact .asked watch (regions ▸ later) { asked with
        admits := regions ▸ asked.admits
        armed := fun owns => regions ▸ asked.armed (same owns)
        looks := fun owns => asked.looks (same owns)
        silent := coming.trans asked.silent }
  | answered => cases queued

theorem sound_handle (supported : registry.supports config.backend = true)
    (sound : Sound config s) : Sound config (s.step registry .handle) := by
  obtain ⟨stage, queue, under⟩ := sound.underway
  obtain ⟨received, outcome⟩ := sound.hostEnd.recv
    (fun q member => Frame.within_default (under.short q member)) under.bytes
  -- The host takes the front of the way if it is there whole, and else leaves every byte.
  rcases outcome with ⟨p, rest, queued, given, left⟩ | ⟨late, kept, _⟩
  · show Sound config (s.handle registry)
    rw [handle_received sound received given]
    obtain ⟨next, onward⟩ := underway_received supported under queued left
    exact { sound with
      hostEnd := (received.grown _).emptied
      hostClean := rfl
      underway := ⟨next, rest, onward⟩ }
  · have quiet : s.step registry .handle = { s with hostEnd := s.hostEnd.recv.2 } := by
      have both : s.hostEnd.recv =
          (.error (.timeout (s.hostEnd.recvTimeout.getD 0)), s.hostEnd.recv.2) :=
        Prod.ext late rfl
      rw [step, handle, both]
    rw [quiet]
    exact { sound with
      hostEnd := received
      hostClean := sound.hostClean
      underway := ⟨stage, queue, { under with
        bytes := (congrArg (· ++ s.toHost) kept).trans under.bytes
        phase := under.phase.congr rfl rfl rfl rfl rfl rfl }⟩ }

/-- A step of the session, which put these primitives on their way. -/
theorem sound_settle {after : Session} (sent : List Primitive) (apt : Apt config s.watch after)
    (written : (after.latest.map Channel.written).getD [] = sent.flatMap Frame.bytes)
    (hostEnd : s.hostEnd.Faultless) (hostClean : s.hostEnd.written = [])
    (way : Way config s stage queue) (short : ∀ p ∈ sent, p.payload.length ≤ 255)
    (tasks : s.host.summary.tasks + (queue.countP isRequest + sent.countP isRequest) = s.waits)
    (phase : Phase config (s.settle after) stage (queue ++ sent)) :
    Sound config (s.settle after) := by
  have bytes : (s.settle after).underway = (queue ++ sent).flatMap Frame.bytes := by
    show s.hostEnd.held ++ (s.toHost ++ _) = _
    rw [written, ← List.append_assoc, List.flatMap_append, ← way.bytes]
    rfl
  have whole : ∀ p ∈ queue ++ sent, p.payload.length ≤ 255 := by
    intro p member
    exact (List.mem_append.1 member).elim (way.short p) (short p)
  constructor
  case apt =>
    refine ⟨apt.mode, apt.fits, fun idle => Exchange.settled_emptied (apt.settled idle),
      fun w watch => ?_, fun c own => ?_⟩
    · obtain ⟨there, state⟩ := apt.waiting w watch
      exact ⟨by simpa [settle, Session.emptied] using there, state⟩
    · obtain ⟨d, there, rfl⟩ := Option.map_eq_some_iff.1 own
      exact (apt.line d there).emptied
  case clean => exact Exchange.clean_emptied after
  case hostEnd => exact hostEnd
  case hostClean => exact hostClean
  case underway =>
    refine ⟨stage, queue ++ sent, ⟨bytes, whole, way.stands, way.dropped, way.engineErrors⟩, ?_,
      phase⟩
    rw [List.countP_append]
    exact tasks

/-- The channel that a call uses is as good as new. -/
theorem Sound.used (sound : Sound config s) (silent : s.coming = []) {call : SessionCall}
    (allowed : s.AllowsCall call) {c : Channel} (line : s.session.line call = some c) :
    c.Faultless ∧ c.written = [] ∧ c.held = [] := by
  have fresh {d : Channel} (fresh : d = .ofLimits d.id d.tag {} d.recvTimeout) :
      d.Faultless ∧ d.written = [] ∧ d.held = [] := by
    rw [fresh]
    exact ⟨Channel.faultless_ofLimits _ _ _, rfl, rfl⟩
  have own (held : s.session.channel = some c) : c.Faultless ∧ c.written = [] ∧ c.held = [] := by
    refine ⟨sound.apt.line c held, sound.clean c (by rw [Session.latest, held]; rfl), ?_⟩
    have front : c.held ++ s.toClient = [] := by simpa [coming, held] using silent
    exact (List.append_eq_nil_iff.1 front).1
  have given {d : Channel} (allowed : d = .ofLimits d.id d.tag {} d.recvTimeout)
      (line : (if s.session.state ∈ Session.openingStates then some d else s.session.channel) =
        some c) : c.Faultless ∧ c.written = [] ∧ c.held = [] := by
    split at line
    · cases line
      exact fresh allowed
    · exact own line
  cases call with
  | attach d => exact given allowed line
  | init attempt =>
    cases attempt with
    | error e => exact own line
    | ok d => exact given allowed line
  | _ => exact own line

theorem Travels.short {t : RegionTable} {first last : Stage} {ps : List Primitive}
    (travels : Travels config t first ps last) : ∀ p ∈ ps, p.payload.length ≤ 255 := by
  induction travels with
  | nil => simp
  | cons leads _ ih =>
    intro p member
    rcases List.mem_cons.1 member with rfl | later
    · cases leads with
      | init => exact config.length_toPayload
      | @record _ kind payload opened sized =>
        show payload.length ≤ 255
        rw [sized]
        generalize config.backend.codec = codec
        cases kind <;> cases codec <;> decide
      | @start _ input opened admits =>
        show (Session.startPayload input).length ≤ 255
        rw [Session.startPayload]
        split <;> simp [Descriptor.wireSize]
      | _ => exact Nat.zero_le _
    · exact ih p later

theorem Sound.unwritten (sound : Sound config s) :
    (s.session.latest.map Channel.written).getD [] = ([] : List Primitive).flatMap Frame.bytes := by
  cases latest : s.session.latest with
  | none => rfl
  | some c => exact sound.clean c latest

theorem coming_settle (s : Coupling) : (s.settle s.session).coming = s.coming := by
  rw [coming, coming, settle]
  cases held : s.session.channel with
  | none => simp [Session.emptied, held]
  | some c =>
    simp only [Session.emptied, held, Option.map_some, Option.getD_some]
    rfl

theorem sound_refused (sound : Sound config s) : Sound config (s.settle s.session) := by
  obtain ⟨stage, queue, under⟩ := sound.underway
  have phase : Phase config (s.settle s.session) stage (queue ++ []) := by
    rw [List.append_nil]
    exact under.phase.congr rfl rfl rfl (coming_settle s) rfl rfl
  exact sound_settle [] sound.apt sound.unwritten sound.hostEnd sound.hostClean under.toWay
    (by simp) under.tasks phase

theorem startedBy_refused {call : SessionCall}
    (unstarted : ∀ input, call = .start input → (s.session.perform call).1 ≠ .ok ()) :
    s.startedBy call = s.started := by
  cases call with
  | start input =>
    have refused := unstarted input rfl
    cases outcome : (s.session.perform (.start input)).1 with
    | ok => exact absurd outcome refused
    | error e => simp [startedBy, outcome]
  | _ => rfl

theorem startedBy_through {call : SessionCall} (result : (s.session.perform call).1 = .ok ()) :
    s.startedBy call = Session.startedBy s.started call := by
  cases call with
  | start input => simp [startedBy, result, Session.startedBy]
  | _ => rfl

theorem apt_through (sound : Sound config s) (idle : s.watch = none) {call : SessionCall}
    {c : Channel} (through : Session.Through call s.session c (s.session.perform call)) :
    Apt config s.watch (s.session.perform call).2 where
  mode := through.config.trans sound.apt.mode
  fits := by
    rw [Session.Fits, through.codec, through.config]
    exact sound.apt.fits
  settled _ := (Session.carried_perform (sound.apt.settled idle) call).settled
  waiting w watch := by cases idle.symm.trans watch
  line d own := by
    obtain ⟨final, _, _, _, ⟨gone, _⟩ | ⟨there, faultless⟩⟩ := through.line
    · cases gone.symm.trans own
    · cases there.symm.trans own
      exact faultless

theorem coming_through {call : SessionCall} {c : Channel} (silent : s.coming = [])
    (empty : c.held = []) (through : Session.Through call s.session c (s.session.perform call)) :
    (s.settle (s.session.perform call).2).coming = [] := by
  have rest : s.toClient = [] := (List.append_eq_nil_iff.1 silent).2
  obtain ⟨final, _, _, held, ⟨gone, _⟩ | ⟨there, _⟩⟩ := through.line
  · simp [coming, settle, Session.emptied, gone, rest]
  · have left : final.emptied.held = [] := held.trans empty
    simp [coming, settle, Session.emptied, there, rest, left]

theorem sound_call (sound : Sound config s) {call : SessionCall}
    (allowed : s.Allows (.call call)) : Sound config (s.step registry (.call call)) := by
  rw [step]
  split
  · exact sound
  · rename_i free
    have idle : s.watch = none := by simpa using free
    have settled := sound.apt.settled idle
    have other : ∀ output flag, call ≠ .wait output flag := by
      rintro output flag rfl
      exact allowed
    obtain ⟨stage, queue, under⟩ := sound.underway
    obtain ⟨travels, silent⟩ := under.phase.idle idle
    have usable {c : Channel} (line : s.session.line call = some c) :=
      sound.used silent allowed line
    cases Session.perform_outcome settled other fun c line => (usable line).1 with
    | refused same unstarted =>
      rw [same, startedBy_refused unstarted]
      exact sound_refused sound
    | through admitted line through =>
      obtain ⟨faultless, fresh, empty⟩ := usable line
      have admits : ∀ input, call = .start input → s.host.regions.Admits input := by
        rintro input rfl
        exact allowed admitted
      -- What the call sends goes on from the stage that all before it leads to.
      have onward := Session.travels_script settled sound.apt.fits other admitted admits s.started
      rw [sound.apt.mode] at onward
      have quiet := Session.quiet_script (s := s.session) other
      have sent : ((s.session.perform call).2.latest.map Channel.written).getD [] =
          (s.session.script call).flatMap Frame.bytes := by
        obtain ⟨final, latest, written, _⟩ := through.line
        rw [latest]
        exact written.trans (by rw [fresh, List.nil_append])
      rw [startedBy_through through.result]
      refine sound_settle (s.session.script call) (apt_through sound idle through) sent
        sound.hostEnd sound.hostClean
        ⟨under.bytes, under.short, under.stands, under.dropped, under.engineErrors⟩
        (Travels.short onward) (by rw [quiet]; exact under.tasks) ?_
      have state : (s.session.perform call).2.emptied.state = s.session.stateAfter call :=
        through.state
      rw [← state] at onward
      exact phase_idle idle (travels.append onward) (coming_through silent empty through)

theorem armFor_host (s : Coupling) (output : Descriptor) (flag : Option RegionId) :
    ∃ regions, (s.link.armFor output flag).host = { s.host with regions } ∧
      s.host.regions.Keeps regions ∧
      (∀ handle, regions.find? handle = s.host.regions.find? handle) ∧
      (s.session.state = .running → s.session.watchesWord output flag.isSome = true →
        ∀ handle r, flag = regions.find? handle → regions.get? handle = some r →
          r.ready = readySentinel) := by
  have unchanged : s.host.regions.Keeps s.host.regions := fun _ r present => ⟨r, present, rfl⟩
  cases flag with
  | none =>
    refine ⟨s.host.regions, rfl, unchanged, fun _ => rfl, fun _ watches => ?_⟩
    simp [Session.watchesWord] at watches
  | some id =>
    by_cases arms : s.session.state = .running ∧ s.session.watchesWord output true = true
    · have armed : (s.link.armFor output (some id)).host =
          { s.host with regions := s.host.regions.arm id } := by
        simp [Link.armFor, link, arms.1, arms.2]
      refine ⟨_, armed, RegionTable.keeps_modify _ id fun _ => rfl, fun _ => rfl,
        fun _ _ handle r found present => ?_⟩
      have place : s.host.regions.find? handle = some id := found.symm
      rw [RegionTable.arm, RegionTable.get?_modify _ place] at present
      obtain ⟨before, _, rfl⟩ := Option.map_eq_some_iff.1 present
      rfl
    · have unarmed : (s.link.armFor output (some id)).host = s.host := by
        have refused : ¬(s.link.session.state = .running ∧
            s.link.session.watchesWord output true = true) := arms
        simp [Link.armFor, refused]
        rfl
      exact ⟨s.host.regions, unarmed, unchanged, fun _ => rfl,
        fun running watches => absurd ⟨running, watches⟩ arms⟩

theorem decodeWait_encode (output : Descriptor) (tag : Option UInt64) :
    decodeWait (WaitRequest.encode ⟨output, tag⟩) = .ok (some ⟨output.sanitized, tag⟩) := by
  have filled : (WaitRequest.encode ⟨output, tag⟩).isEmpty = false := by
    rw [List.isEmpty_eq_false_iff, ← List.length_pos_iff, WaitRequest.encode, List.length_append,
      Descriptor.length_encode]
    exact Nat.lt_of_lt_of_le (by decide) (Nat.le_add_right _ _)
  rw [decodeWait, filled, WaitRequest.decode_encode]
  rfl

/-- A wait sends a request for the completion that it awaits, or awaits none. -/
theorem wait_asks (session : Session) (output : Descriptor) (flag : Option RegionId) :
    (session.awaitedBy output flag.isSome = .nothing ∧
        session.waitPayload output flag.isSome = [] ∧
        session.config.completion.isPolling = true ∧
        (output.isShared = false ∨ flag = none)) ∨
      ∃ tag, session.waitPayload output flag.isSome = WaitRequest.encode ⟨output, tag⟩ ∧
        Watch.Expects session.config
          { awaited := session.awaitedBy output flag.isSome, output, flag } tag := by
  cases polling : session.config.completion.isPolling with
  | false =>
    refine .inr ⟨some (Session.nextTag session.waitTag), ?_, .reply polling ?_
      (Session.nextTag_ne_zero _)⟩
    · simp [Session.waitPayload, polling]
    · simp [Session.awaitedBy, polling]
  | true =>
    cases watching : session.watchesWord output flag.isSome with
    | false =>
      refine .inl ⟨?_, ?_, rfl, ?_⟩
      · simp [Session.awaitedBy, polling, watching]
      · simp [Session.waitPayload, polling, watching]
      · cases flag with
        | none => exact .inr rfl
        | some id => exact .inl (by simpa [Session.watchesWord, polling] using watching)
    | true =>
      have named : flag.isSome = true ∧ output.isShared = true := by
        simpa [Session.watchesWord, polling] using watching
      refine .inr ⟨none, ?_, .word polling ?_ named.2 named.1⟩
      · simp [Session.waitPayload, polling, watching, WaitRequest.encode]
      · simp [Session.awaitedBy, polling, watching]

theorem watchesWord_awaited {session : Session} {output : Descriptor} {hasFlag : Bool}
    (awaited : session.awaitedBy output hasFlag = .word) :
    session.watchesWord output hasFlag = true := by
  rw [Session.awaitedBy] at awaited
  split at awaited
  · split at awaited
    · assumption
    · cases awaited
  · cases awaited

theorem length_waitPayload_le (session : Session) (output : Descriptor) (flag : Option RegionId) :
    (session.waitPayload output flag.isSome).length ≤ 255 := by
  rcases wait_asks session output flag with ⟨_, payload, _⟩ | ⟨tag, payload, _⟩
  · rw [payload]
    exact Nat.zero_le _
  · rw [payload]
    exact Nat.le_trans (WaitRequest.length_encode_le _) (by decide)

/-- What a wait sends follows the start, and asks for the completion that it awaits. -/
theorem phase_submitted {session : Session} {output : Descriptor} {flag : Option RegionId}
    (mode : session.config = config)
    (watch : s.watch = some { awaited := session.awaitedBy output flag.isSome, output, flag })
    (travels : Travels config s.host.regions stage queue (.loaded s.started))
    (target : s.target = .idle) (silent : s.coming = [])
    (admits : s.host.regions.Admits output)
    (armed : session.watchesWord output flag.isSome = true → ∀ r,
      flag = s.host.regions.find? output.handle →
        s.host.regions.get? output.handle = some r → r.ready = readySentinel) :
    Phase config s stage (queue ++ [.of .wait (session.waitPayload output flag.isSome)]) := by
  subst mode
  rcases wait_asks session output flag with
    ⟨awaited, payload, polling, apart⟩ | ⟨tag, payload, expects⟩
  · rw [payload]
    refine .apart (fun w same => ?_) ?_ silent
    · cases watch.symm.trans same
      exact ⟨awaited, polling, apart⟩
    · rw [target]
      exact travels.append (Leads.drain polling).travels
  · rw [payload]
    refine .asked watch travels ⟨⟨tag, decodeWait_encode output tag, expects⟩, admits,
      fun owns r present => ?_, fun _ look member => (by cases member), silent⟩
    exact armed (watchesWord_awaited owns.1) r owns.2.2 present

theorem sound_wait (sound : Sound config s) {output : Descriptor} {flag : Option RegionId}
    (allowed : s.Allows (.wait output flag)) :
    Sound config (s.step registry (.wait output flag)) := by
  rw [step]
  split
  · exact sound
  · rename_i free
    have idle : s.watch = none := by simpa using free
    -- The word is armed first, which changes a region while nothing is waited for.
    obtain ⟨regions, armed, keeps, _, ready⟩ := s.armFor_host output flag
    have changed : Sound config { s with host.regions := regions } :=
      sound.regions fun _ _ under =>
        under.phase.regions keeps fun w watch => by cases idle.symm.trans watch
    rcases s.session.require_cases "wait" [.running] with ⟨member, _⟩ | ⟨_, refused⟩
    · have running : s.session.state = .running := by simpa using member
      obtain ⟨c, held, _⟩ := (sound.apt.settled idle).holds member (by decide)
      have faultless := sound.apt.line c held
      have clean : c.written = [] := sound.clean c (by rw [Session.latest, held]; rfl)
      have submitted := Session.submitWait_faultless running held faultless output flag.isSome
      obtain ⟨stage, queue, under⟩ := changed.underway
      obtain ⟨travels, silent⟩ := under.phase.idle idle
      have loaded : s.target = .loaded s.started := by
        rw [Coupling.target, running]
        rfl
      have rest : c.held ++ s.toClient = [] := by
        simpa [coming, held] using silent
      rw [wait, armed, submitted]
      dsimp only
      refine sound_settle [.of .wait (s.session.waitPayload output flag.isSome)] ?apt ?written
        sound.hostEnd sound.hostClean
        ⟨under.bytes, under.short, under.stands, under.dropped, under.engineErrors⟩ ?short ?tasks
        (phase_submitted sound.apt.mode rfl (loaded ▸ travels) rfl rest
          (keeps.admits (allowed running)) (ready running · _))
      case apt =>
        refine ⟨sound.apt.mode, sound.apt.fits, fun idle => (by cases idle),
          fun _ _ => ⟨rfl, rfl⟩, fun d own => ?_⟩
        cases own
        exact faultless.grown _
      case written =>
        show (c.grown _).written = _
        rw [Channel.written_grown, clean, List.nil_append, List.flatMap_singleton]
      case short =>
        intro p member
        rw [List.mem_singleton.1 member]
        exact length_waitPayload_le s.session output flag
      case tasks =>
        have tasks := under.tasks
        have one : [Primitive.of .wait (s.session.waitPayload output flag.isSome)].countP
          isRequest = 1 := rfl
        rw [one, ← Nat.add_assoc]
        exact congrArg (· + 1) tasks
    · have unsent : s.session.submitWait output flag.isSome =
          (.error (.invalidState "wait" s.session.state), s.session) := by
        rw [Session.submitWait, refused]
      rw [wait, armed, unsent]
      exact sound_refused changed

end Coupling

end CodecLink
