import CodecLink.Engine.Scripted
import CodecLink.Proofs.Dispatcher.Portable
import CodecLink.Proofs.Session.CallOrder

/-! What is of use on one side only stays there. A session does and writes the same whatever the
local fields of the descriptors it is given, and a host the same whatever bytes come in their
place. -/
namespace CodecLink

def SessionCall.sanitized : SessionCall → SessionCall
  | .start input => .start input.sanitized
  | .wait output flag => .wait output.sanitized flag
  | call => call

def SessionEvent.sanitized : SessionEvent → SessionEvent
  | call asked => call asked.sanitized
  | world change => world change

namespace Session

/-- All that a caller is told, with the ready word that a wait leaves behind. -/
def answer (call : SessionCall) (s : Session) :
    Except SessionError (Option TaskOutput) × Option ReadyFlag :=
  match call with
  | .wait output flag =>
    let (result, flag, _) := s.wait output flag
    (result.map some, flag)
  | call => ((s.perform call).1.map fun _ => none, none)

def answers : List SessionEvent → Session →
    List (Except SessionError (Option TaskOutput) × Option ReadyFlag)
  | [], _ => []
  | .call call :: events, s => s.answer call :: answers events (s.perform call).2
  | .world change :: events, s => answers events { s with channel := s.channel.map change }

theorem perform_sanitized (call : SessionCall) (s : Session) :
    s.perform call.sanitized = s.perform call := by
  cases call <;> rfl

theorem answer_sanitized (call : SessionCall) (s : Session) :
    s.answer call.sanitized = s.answer call := by
  cases call <;> rfl

theorem answers_sanitized (events : List SessionEvent) (s : Session) :
    answers (events.map SessionEvent.sanitized) s = answers events s := by
  induction events generalizing s with
  | nil => rfl
  | cons event events ih =>
    cases event with
    | call call =>
      simp only [List.map_cons, SessionEvent.sanitized, answers, answer_sanitized,
        perform_sanitized, ih]
    | world change => simp only [List.map_cons, SessionEvent.sanitized, answers, ih]

theorem blank_plain {kind : PrimitiveCode} (plain : kind ≠ .start ∧ kind ≠ .wait)
    (payload : Bytes) : (Primitive.of kind payload).Blank := by
  intro names
  rw [Primitive.namesBuffer, Primitive.of, Primitive.kind?, PrimitiveCode.ofWire?_wire] at names
  simp [plain] at names

theorem blank_deliveries (set : ConfigSet) : ∀ p ∈ set.deliveries, p.Blank := by
  intro p member
  obtain ⟨kind, _, rfl⟩ := List.mem_map.1 member
  exact blank_plain (by cases kind <;> decide) _

theorem blank_startPayload (input : Descriptor) : Descriptor.Blank (startPayload input) := by
  rw [startPayload]
  split
  · exact input.blank_encode
  · exact Descriptor.blank_nil

theorem blank_waitPayload (output : Descriptor) (hasFlag : Bool) (s : Session) :
    Descriptor.Blank (s.waitPayload output hasFlag) := by
  rw [waitPayload]
  split
  · split
    · exact output.blank_encode
    · exact Descriptor.blank_nil
  · exact WaitRequest.blank_encode _

theorem blank_script (call : SessionCall) (s : Session) : ∀ p ∈ s.script call, p.Blank := by
  intro p member
  cases call with
  | control request =>
    rw [script] at member
    split at member
    · cases member
    · exact blank_deliveries _ p member
  | start input =>
    rcases List.mem_append.1 member with record | last
    · exact blank_deliveries _ p record
    · rw [List.mem_singleton.1 last]
      exact fun _ => blank_startPayload input
  | wait output flag =>
    rw [List.mem_singleton.1 member]
    exact fun _ => s.blank_waitPayload output flag.isSome
  | attach _ | init _ | genRegs | reset | flush | deinit =>
    rw [List.mem_singleton.1 member]
    exact blank_plain (by decide) _

theorem blank_attempts {s : Session} (settled : s.Settled) (call : SessionCall) :
    ∀ a ∈ s.attempts call, a.primitive.Blank := by
  intro a member
  have scripted (front : (s.attempts call).map (·.primitive) <+: s.script call) :
      a.primitive.Blank :=
    s.blank_script call _ (front.subset (List.mem_map_of_mem member))
  cases course_perform settled call with
  | idle same quiet =>
    rw [quiet] at member
    cases member
  | through _ _ whole _ _ _ => exact scripted (whole ▸ List.prefix_rfl)
  | lost _ _ front _ => exact scripted front

end Session

namespace Traffic

def Blank (t : Traffic) : Prop := ∀ line ∈ t.lines, ∀ a ∈ line.attempts, a.primitive.Blank

theorem step_sanitized (t : Traffic) (event : SessionEvent) :
    t.step event.sanitized = t.step event := by
  cases event with
  | call call => cases call <;> rfl
  | world change => rfl

theorem run_sanitized (config : SessionConfig) (events : List SessionEvent) :
    run config (events.map SessionEvent.sanitized) = run config events := by
  simp only [run, List.foldl_map, step_sanitized]

theorem Blank.step {t : Traffic} (blank : t.Blank) (settled : t.session.Settled)
    (event : SessionEvent) : (t.step event).Blank := by
  cases event with
  | world change => exact blank
  | call call =>
    have told := Session.blank_attempts settled call
    intro line member
    dsimp only [Traffic.step] at member
    split at member
    · rcases List.mem_cons.1 member with rfl | earlier
      · exact told
      · exact blank line earlier
    · cases lines : t.lines with
      | nil =>
        rw [lines] at member
        cases member
      | cons last others =>
        rw [lines] at member
        rw [Blank, lines] at blank
        rcases List.mem_cons.1 member with rfl | earlier
        · intro a attempted
          exact (List.mem_append.1 attempted).elim (blank last (by simp) a) (told a)
        · exact blank line (by simp [earlier])

theorem Blank.run {t : Traffic} (blank : t.Blank) (sound : t.Sound) (events : List SessionEvent) :
    (events.foldl Traffic.step t).Blank := by
  induction events generalizing t with
  | nil => exact blank
  | cons event events ih => exact ih (blank.step sound.settled event) (sound.step event)

end Traffic

/-- Two runs of a session whose descriptors differ in local fields only are one run, down to the
bytes on each channel, and what those bytes are frames of has zeros in these places. Two runs of a
host on primitives that differ in these places only are one run too, and no engine is handed a
descriptor with local fields, nor is one sent back. -/
theorem local_fields_isolated {σ : Type} (host : EngineHost σ) :
    (∀ (config : SessionConfig) (events others : List SessionEvent),
      events.map SessionEvent.sanitized = others.map SessionEvent.sanitized →
        Traffic.run config events = Traffic.run config others ∧
          Session.answers events (.ofConfig config) = Session.answers others (.ofConfig config)) ∧
    (∀ (config : SessionConfig) (events : List SessionEvent),
      ∀ line ∈ (Traffic.run config events).lines,
        Attempt.Wrote line.attempts line.bytes ∧ ∀ a ∈ line.attempts, a.primitive.Blank) ∧
    (∀ (d : Dispatcher σ) (ps others : List Primitive),
      ps.map Primitive.masked = others.map Primitive.masked →
        d.reached host ps = d.reached host others ∧ d.replies host ps = d.replies host others ∧
          d.trace host ps = d.trace host others) ∧
    ∀ (settings : DispatchSettings) (regions : RegionTable) (engine : σ) (ps : List Primitive),
      let fresh : Dispatcher σ := { settings, regions, engine }
      (∀ call ∈ (fresh.reached host ps).calls, call.Portable) ∧
        ∀ m ∈ fresh.replies host ps, m.output.Portable ∧ Descriptor.Blank m.encode := by
  refine ⟨fun config events others same => ?_, fun config events line member => ?_,
    fun d ps others same => ?_, fun settings regions engine ps => ?_⟩
  · have runs := Traffic.run_sanitized config others
    have told := Session.answers_sanitized others (.ofConfig config)
    rw [← same] at runs told
    exact ⟨(Traffic.run_sanitized config events).symm.trans runs,
      (Session.answers_sanitized events _).symm.trans told⟩
  · have sound := Traffic.sound_start config
    have blank : Traffic.Blank { session := .ofConfig config } := by simp [Traffic.Blank]
    exact ⟨((sound.run events).lines line member).wrote, blank.run sound events line member⟩
  · have same_trace (ps : List Primitive) :
        d.trace host (ps.map Primitive.masked) = d.trace host ps := by
      rw [Dispatcher.trace, Dispatcher.reached_masked]
      rfl
    rw [← Dispatcher.reached_masked, ← Dispatcher.replies_masked, ← same_trace, same]
    exact ⟨Dispatcher.reached_masked host others d, Dispatcher.replies_masked host others d,
      same_trace others⟩
  · have portable : ({ settings, regions, engine } : Dispatcher σ).Portable :=
      ⟨by simp, by simp⟩
    obtain ⟨reached, replied⟩ := Dispatcher.portable_run host portable ps
    exact ⟨reached.calls, fun m member => ⟨replied m member, m.blank_encode⟩⟩

/-- A file number and an address given to a session, and bytes in their place that reach a host. -/
theorem leftovers_isolated :
    let given : Descriptor := { kind := .shared, size := 3, fd := 7, handle := 1, ptr := 4096 }
    let events (d : Descriptor) : List SessionEvent :=
      [.call (.attach { id := "" }), .call (.start d), .call (.wait d none)]
    let sent (noise : UInt8) : Bytes := ((Descriptor.shared 1 3).encode.set 12 noise).set 31 noise
    let ps (noise : UInt8) : List Primitive :=
      [.of .init [], .of .start (sent noise), .of .wait (sent noise)]
    let d : Dispatcher ScriptedEngine :=
      { settings := { defaultSession := { completion := .roundTrip 50 } }
        regions := (RegionTable.allocate {} 8).2
        engine := {} }
    let host := ScriptedEngine.host .full
    Traffic.run {} (events given) = Traffic.run {} (events (.shared 1 3)) ∧
      (Traffic.run {} (events given)).lines.map (·.attempts.length) = [3] ∧ ps 9 ≠ ps 0 ∧
      d.reached host (ps 9) = d.reached host (ps 0) ∧
      d.replies host (ps 9) = [{ output := .shared 1 0 }] ∧
      ((d.reached host (ps 9)).calls.flatMap EngineCall.buffers).length = 3 := by
  intro given events sent ps d host
  obtain ⟨session, -, runs, -⟩ := local_fields_isolated host
  exact ⟨(session {} (events given) (events (.shared 1 3)) rfl).1, by decide +kernel,
    by decide +kernel, (runs d (ps 9) (ps 0) (by decide +kernel)).1, by decide +kernel,
    by decide +kernel⟩

end CodecLink
