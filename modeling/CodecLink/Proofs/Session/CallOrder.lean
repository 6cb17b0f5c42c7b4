import CodecLink.Proofs.Frame.Whole
import CodecLink.Proofs.Session.Grammar
import CodecLink.Proofs.Session.Scripts

/-! The order of what a session writes. Whatever calls are made and whatever becomes of the writes,
each channel carries a front of a conversation; it carries whole frames but for a part of the last,
and nothing after a send that failed. -/
namespace CodecLink

open PrimitiveCode

theorem Attempt.Wrote.frames {attempts : List Attempt} {bs : Bytes} (wrote : Wrote attempts bs)
    (short : ∀ a ∈ attempts, a.primitive.payload.length < 2 ^ 32) :
    Frame.whole bs <+: attempts.map (·.primitive) ∧
      ∃ part, bs = (Frame.whole bs).flatMap Frame.bytes ++ part ∧
        (part = [] ∨ ∃ a ∈ attempts.getLast?, a.sent = false ∧
          part <+: Frame.bytes a.primitive ∧ part ≠ Frame.bytes a.primitive) := by
  induction wrote with
  | nil =>
    rw [Frame.whole_nil]
    exact ⟨List.prefix_rfl, [], rfl, .inl rfl⟩
  | @sent a rest bs succeeded later ih =>
    obtain ⟨front, part, same, ending⟩ := ih fun other member => short other (by simp [member])
    rw [Frame.whole_bytes_append (short a (by simp))]
    refine ⟨List.prefix_cons_inj _ |>.2 front, part, ?_, ending.imp_right ?_⟩
    · rw [List.flatMap_cons, List.append_assoc, ← same]
    · rintro ⟨last, final, stopped⟩
      refine ⟨last, ?_, stopped⟩
      rw [List.getLast?_cons, Option.mem_def.1 final]
      rfl
  | @failed a part stopped front =>
    rcases Frame.whole_part (short a (by simp)) front with none_whole | all
    · rw [none_whole]
      refine ⟨List.nil_prefix, part, rfl, .inr ⟨a, by simp, stopped, front, ?_⟩⟩
      rintro rfl
      have one := Frame.whole_bytes_append (short a (by simp)) []
      rw [List.append_nil, none_whole] at one
      cases one
    · have one := Frame.whole_bytes_append (short a (by simp)) []
      rw [List.append_nil, Frame.whole_nil] at one
      rw [all, one]
      exact ⟨List.prefix_rfl, [], by simp, .inl rfl⟩

theorem Attempt.Wrote.stops {attempts : List Attempt} {bs : Bytes} (wrote : Wrote attempts bs) :
    ∀ a ∈ attempts.dropLast, a.sent = true := by
  induction wrote with
  | nil => simp
  | @sent a rest bs succeeded later ih =>
    intro other member
    cases rest with
    | nil => cases member
    | cons next rest =>
      rcases List.mem_cons.1 member with rfl | member
      · exact succeeded
      · exact ih other member
  | failed _ _ => simp

namespace Session

theorem free_deliveries (set : ConfigSet) :
    ∃ codes : List PrimitiveCode, set.deliveries.map (·.kind?) = codes.map some ∧
      ∀ code ∈ codes, code ∈ free := by
  refine ⟨set.pending.toList.map RecordKind.primitive, ?_, ?_⟩
  · rw [ConfigSet.deliveries, List.map_map, List.map_map]
    exact List.map_congr_left fun kind _ => PrimitiveCode.ofWire?_wire _
  · intro code member
    obtain ⟨kind, _, rfl⟩ := List.mem_map.1 member
    cases kind <;> decide

/-- Whether a call puts a channel of its own in the place of the one before. -/
def opens (call : SessionCall) (s : Session) : Bool :=
  match call with
  | .attach _ | .init (.ok _) => s.state ∈ openingStates
  | _ => false

theorem line_of_opens {call : SessionCall} {s : Session} (opening : s.opens call = true) :
    s.attempts call ≠ [] ∧ (s.script call).map (·.kind?) = [some .init] ∧
      s.stateAfter call = .connected := by
  cases call with
  | attach c =>
    have member : s.state ∈ openingStates := of_decide_eq_true opening
    refine ⟨?_, rfl, rfl⟩
    rw [attempts, if_pos member]
    simp
  | init attempt =>
    cases attempt with
    | error e => cases opening
    | ok c =>
      have member : s.state ∈ openingStates := of_decide_eq_true opening
      refine ⟨?_, rfl, rfl⟩
      rw [attempts, if_pos member]
      simp
  | _ => cases opening

theorem not_opens_of_quiet {call : SessionCall} {s : Session} (quiet : s.attempts call = []) :
    s.opens call = false := by
  cases opening : s.opens call with
  | false => rfl
  | true => exact absurd quiet (line_of_opens opening).1

theorem line_of_not_opens {call : SessionCall} {s : Session} (keeps : s.opens call = false) :
    s.line call = s.channel := by
  cases call with
  | attach c => exact if_neg (of_decide_eq_false keeps)
  | init attempt =>
    cases attempt with
    | error e => rfl
    | ok c => exact if_neg (of_decide_eq_false keeps)
  | _ => rfl

theorem stage_closed {state : SessionState} {word : List PrimitiveCode} {code : PrimitiveCode}
    (carried : word ∈ stage state) (ends : code ∈ [PrimitiveCode.reset, .flush]) :
    word ++ [code] ∈ between := by
  have everywhere : code ∈ free ∧ code ∈ closing := by
    rcases List.mem_cons.1 ends with rfl | last
    · decide
    · rw [List.mem_singleton.1 last]
      decide
  obtain ⟨before, turns, task, under_way, rfl⟩ := stage_split carried
  rcases under_way with rfl | rfl
  · rw [List.append_nil]
    exact between_append_free turns (by simpa using everywhere.1)
  · exact between_append_task turns everywhere.2

/-- The script of a call takes the channel from the stage of the session's state to that of the
state after it. -/
theorem codes_script {call : SessionCall} {s : Session} {word : List PrimitiveCode}
    (admitted : s.Admits call) (carried : word ∈ stage s.state) (stays : call ≠ .deinit) :
    ∃ codes : List PrimitiveCode, (s.script call).map (·.kind?) = codes.map some ∧
      word ++ codes ∈ stage (s.stateAfter call) := by
  have idle (member : s.state ∈ [.connected, .configured]) : word ∈ between := by
    simp only [List.mem_cons, List.not_mem_nil, or_false] at member
    rcases member with state | state
    · rwa [state] at carried
    · rwa [state] at carried
  have opening (member : s.state ∈ openingStates) : False := by
    simp only [openingStates, List.mem_cons, List.not_mem_nil, or_false] at member
    rcases member with state | state
    · rw [state] at carried
      exact carried
    · rw [state] at carried
      exact carried
  cases call with
  | attach c => exact (opening admitted).elim
  | init attempt => exact (opening admitted).elim
  | control request =>
    cases found : s.recorded? request with
    | none =>
      refine ⟨[], by simp [script, found], ?_⟩
      rw [List.append_nil]
      exact idle admitted
    | some recorded =>
      obtain ⟨codes, same, all⟩ := free_deliveries recorded.configs
      exact ⟨codes, by simpa only [script, found] using same,
        between_append_free (idle admitted) all⟩
  | genRegs =>
    refine ⟨[.regs], rfl, ?_⟩
    have after : word ++ [.regs] ∈ between :=
      between_append_free (idle admitted) (by simp [free])
    have member : s.state ∈ [.connected, .configured] := admitted
    simp only [List.mem_cons, List.not_mem_nil, or_false] at member
    rcases member with state | state
    · rwa [stateAfter, state]
    · rwa [stateAfter, state]
  | start input =>
    obtain ⟨codes, same, all⟩ := free_deliveries s.configs
    have member : s.state ∈ [.connected, .configured] := by
      have starting : s.state ∈ startingStates := admitted
      simp only [startingStates, List.mem_cons, List.not_mem_nil, or_false] at starting
      rcases starting with state | state | state
      · simp [state]
      · simp [state]
      · rw [state] at carried
        exact carried.elim
    refine ⟨codes ++ [.start], ?_, ?_⟩
    · rw [script, List.map_append, same, List.map_append]
      rfl
    · rw [← List.append_assoc]
      exact Language.append_mem_mul (between_append_free (idle member) all) rfl
  | wait output flag =>
    have running : s.state = .running := admitted
    rw [running] at carried
    obtain ⟨before, turns, _, rfl, rfl⟩ := Language.mem_mul.1 carried
    exact ⟨[.wait], rfl, between_append_task turns (by decide)⟩
  | reset => exact ⟨[.reset], rfl, stage_closed carried (by decide)⟩
  | flush => exact ⟨[.flush], rfl, stage_closed carried (by decide)⟩
  | deinit => exact absurd rfl stays

theorem begins_script {call : SessionCall} {s : Session} {word : List PrimitiveCode}
    (admitted : s.Admits call) (carried : word ∈ stage s.state) :
    ∃ codes : List PrimitiveCode, (s.script call).map (·.kind?) = codes.map some ∧
      Begins (word ++ codes) := by
  by_cases stays : call = .deinit
  · subst stays
    obtain ⟨before, turns, task, under_way, rfl⟩ := stage_split carried
    exact ⟨[.deinit], rfl, begins_deinit turns under_way⟩
  · obtain ⟨codes, same, after⟩ := codes_script admitted carried stays
    exact ⟨codes, same, begins_stage after⟩

end Session

/-- A channel that a session was given: what was attempted on it, and the bytes it took. -/
structure Line where
  attempts : List Attempt := []
  bytes : Bytes := []

namespace Line

def append (line more : Line) : Line := ⟨line.attempts ++ more.attempts, line.bytes ++ more.bytes⟩

/-- Whole frames and at most a part of one more, the last attempted; the frames are what was
attempted, and they follow the order of a conversation. -/
structure InOrder (line : Line) : Prop where
  wrote : Attempt.Wrote line.attempts line.bytes
  stops : ∀ a ∈ line.attempts.dropLast, a.sent = true
  attempted : Frame.whole line.bytes <+: line.attempts.map (·.primitive)
  frames : ∃ part, line.bytes = (Frame.whole line.bytes).flatMap Frame.bytes ++ part ∧
    (part = [] ∨ ∃ a ∈ line.attempts.getLast?, a.sent = false ∧
      part <+: Frame.bytes a.primitive ∧ part ≠ Frame.bytes a.primitive)
  order : ∃ word : List PrimitiveCode,
    (Frame.whole line.bytes).map (·.kind?) = word.map some ∧ Begins word ∧
      (∀ first ∈ word.head?, first = .init) ∧ word.IsChain Follows

def Carries (line : Line) (word : List PrimitiveCode) : Prop :=
  (line.attempts.map (·.primitive)).map (·.kind?) = word.map some

structure Sound (line : Line) : Prop where
  wrote : Attempt.Wrote line.attempts line.bytes
  short : ∀ a ∈ line.attempts, a.primitive.payload.length < 2 ^ 32
  begins : ∃ word, line.Carries word ∧ Begins word

theorem Sound.inOrder {line : Line} (sound : line.Sound) : line.InOrder := by
  obtain ⟨attempted, frames⟩ := sound.wrote.frames sound.short
  refine ⟨sound.wrote, sound.wrote.stops, attempted, frames, ?_⟩
  obtain ⟨word, carries, begins⟩ := sound.begins
  have front := attempted.map (·.kind?)
  rw [carries] at front
  obtain ⟨first, prefixed, same⟩ := List.prefix_map_iff.1 front
  obtain ⟨rest, rfl⟩ := prefixed
  have begun := begins_front begins
  exact ⟨first, same, begun, begun.chain⟩

end Line

/-- A session together with every channel it was given, the last one first. -/
structure Traffic where
  session : Session
  lines : List Line := []

namespace Traffic

/-- What a call attempts, and what the session's channel, held or given up, takes in that time. -/
def told (call : SessionCall) (s : Session) : Line where
  attempts := s.attempts call
  bytes :=
    let written := fun channel : Option Channel => (channel.map Channel.written).getD []
    (written (s.perform call).2.latest).drop (written (s.line call <|> s.retired)).length

def step (t : Traffic) : SessionEvent → Traffic
  | .call call =>
    let line := told call t.session
    { session := (t.session.perform call).2
      lines :=
        if t.session.opens call then line :: t.lines
        else t.lines.modifyHead (·.append line) }
  | .world change => { t with session.channel := t.session.channel.map change }

def run (config : SessionConfig) (events : List SessionEvent) : Traffic :=
  events.foldl step { session := .ofConfig config }

structure Sound (t : Traffic) : Prop where
  settled : t.session.Settled
  lines : ∀ line ∈ t.lines, line.Sound
  current : t.session.channel.isSome → ∃ line ∈ t.lines.head?,
    (∀ a ∈ line.attempts, a.sent = true) ∧ ∃ word ∈ stage t.session.state, line.Carries word

theorem told_idle {call : SessionCall} {s : Session} (keeps : s.opens call = false)
    (same : (s.perform call).2 = s) (quiet : s.attempts call = []) : told call s = {} := by
  simp [told, same, quiet, Session.line_of_not_opens keeps, Session.latest]

theorem wrote_told {s : Session} (settled : s.Settled) (call : SessionCall) :
    Attempt.Wrote (told call s).attempts (told call s).bytes := by
  have carried := Session.carried_perform settled call
  have used (there : (s.line call).isSome) :
      Attempt.Wrote (told call s).attempts (told call s).bytes := by
    obtain ⟨c, own⟩ := Option.isSome_iff_exists.1 there
    obtain ⟨final, bs, last, written, wrote⟩ := carried.leaves c own
    have bytes : (told call s).bytes = bs := by
      simp [told, last, own, written]
    rw [bytes]
    exact wrote
  cases Session.course_perform settled call with
  | idle same quiet =>
    rw [told_idle (Session.not_opens_of_quiet quiet) same quiet]
    exact .nil
  | through _ there _ _ _ _ => exact used there
  | lost _ there _ _ => exact used there

theorem sound_append_told {line : Line} {s : Session} {call : SessionCall}
    {word codes : List PrimitiveCode} (sound : line.Sound)
    (sent : ∀ a ∈ line.attempts, a.sent = true) (carries : line.Carries word)
    (settled : s.Settled) (front : (s.attempts call).map (·.primitive) <+: s.script call)
    (script : (s.script call).map (·.kind?) = codes.map some) (begins : Begins (word ++ codes)) :
    (line.append (told call s)).Sound := by
  have carried := front.map (·.kind?)
  rw [script] at carried
  obtain ⟨first, ⟨rest, rfl⟩, same⟩ := List.prefix_map_iff.1 carried
  refine ⟨sound.wrote.append sent (wrote_told settled call), fun a member => ?_,
    word ++ first, ?_, ?_⟩
  · rcases List.mem_append.1 member with before | now
    · exact sound.short a before
    · exact Session.short_of_mem now
  · rw [Line.Carries, Line.append, List.map_append, List.map_append, carries, List.map_append]
    exact congrArg _ same
  · rw [← List.append_assoc] at begins
    exact begins_front begins

/-- The line that a call goes on with: a blank one if it opens a channel, else the last one. -/
theorem Sound.base {t : Traffic} (sound : t.Sound) {call : SessionCall}
    (used : (t.session.line call).isSome) (admitted : t.session.Admits call) :
    ∃ (line : Line) (others : List Line) (word codes : List PrimitiveCode),
      (t.step (.call call)).lines = line.append (told call t.session) :: others ∧
        (∀ other ∈ others, other ∈ t.lines) ∧ line.Sound ∧
        (∀ a ∈ line.attempts, a.sent = true) ∧ line.Carries word ∧
        (t.session.script call).map (·.kind?) = codes.map some ∧ Begins (word ++ codes) ∧
        (call ≠ .deinit → word ++ codes ∈ stage (t.session.stateAfter call)) := by
  cases opening : t.session.opens call with
  | true =>
    obtain ⟨_, script, state⟩ := Session.line_of_opens opening
    have opened : [PrimitiveCode.init] ∈ stage .connected := by
      have settles := Language.append_mem_mul (l := {[PrimitiveCode.init]}) rfl
        (Language.nil_mem_kstar turn)
      exact settles
    refine ⟨{}, t.lines, [], [.init], by simp [step, opening, Line.append], fun _ => id,
      ⟨.nil, by simp, [], rfl, begins_front (begins_stage opened)⟩, by simp, rfl, script,
      begins_stage opened, fun _ => ?_⟩
    rw [state]
    exact opened
  | false =>
    rw [Session.line_of_not_opens opening] at used
    obtain ⟨line, last, sent, word, carried, carries⟩ := sound.current used
    obtain ⟨others, lines⟩ := List.head?_eq_some_iff.1 last
    obtain ⟨codes, script, begins⟩ := Session.begins_script admitted carried
    refine ⟨line, others, word, codes, by simp [step, opening, lines], ?_, ?_, sent, carries,
      script, begins, fun stays => ?_⟩
    · intro other member
      simp [lines, member]
    · exact sound.lines line (by simp [lines])
    · obtain ⟨others, same, after⟩ := Session.codes_script admitted carried stays
      rw [script] at same
      rwa [List.map_injective_iff.2 (Option.some_injective _) same]

theorem Sound.step {t : Traffic} (sound : t.Sound) (event : SessionEvent) :
    (t.step event).Sound := by
  cases event with
  | world change =>
    refine ⟨?_, sound.lines, fun there => sound.current (by simpa [Traffic.step] using there)⟩
    rcases sound.settled with ⟨held, state⟩ | ⟨vacant, state⟩
    · exact .inl ⟨by simpa [Traffic.step] using held, state⟩
    · exact .inr ⟨by simp [Traffic.step, vacant], state⟩
  | call call =>
    have settled := (Session.carried_perform sound.settled call).settled
    cases Session.course_perform sound.settled call with
    | idle same quiet =>
      have keeps := Session.not_opens_of_quiet quiet
      have unchanged : t.step (.call call) = t := by
        have lines : t.lines.modifyHead (·.append {}) = t.lines := by
          cases t.lines <;> simp [Line.append]
        rw [Traffic.step, told_idle keeps same quiet, same, keeps]
        simp only [Bool.false_eq_true, if_false, lines]
      rwa [unchanged]
    | through admitted used whole sent there state =>
      obtain ⟨line, others, word, codes, lines, old, base, all, carries, script, begins, after⟩ :=
        sound.base used admitted
      have front : (t.session.attempts call).map (·.primitive) <+: t.session.script call :=
        whole ▸ List.prefix_rfl
      have extended := sound_append_told base all carries sound.settled front script begins
      have stays : call ≠ .deinit := by
        rintro rfl
        rcases settled with ⟨_, member⟩ | ⟨gone, _⟩
        · rw [state] at member
          simp [Session.stateAfter] at member
        · rw [gone] at there
          cases there
      refine ⟨settled, ?_, fun _ => ⟨_, by rw [lines]; rfl, ?_, word ++ codes, ?_, ?_⟩⟩
      · rw [lines]
        exact List.forall_mem_cons.2
          ⟨extended, fun other member => sound.lines other (old other member)⟩
      · intro a member
        exact (List.mem_append.1 member).elim (all a) (sent a)
      · rw [show (t.step (.call call)).session.state = _ from state]
        exact after stays
      · rw [Line.Carries, Line.append, List.map_append, List.map_append, carries, List.map_append]
        exact congrArg _ ((congrArg _ whole).trans script)
    | lost admitted used front gone =>
      obtain ⟨line, others, word, codes, lines, old, base, all, carries, script, begins, _⟩ :=
        sound.base used admitted
      have extended := sound_append_told base all carries sound.settled front script begins
      refine ⟨settled, ?_, fun there => ?_⟩
      · rw [lines]
        exact List.forall_mem_cons.2
          ⟨extended, fun other member => sound.lines other (old other member)⟩
      · rw [show (t.step (.call call)).session.channel = none from gone] at there
        cases there

theorem Sound.run {t : Traffic} (sound : t.Sound) (events : List SessionEvent) :
    (events.foldl Traffic.step t).Sound := by
  induction events generalizing t with
  | nil => exact sound
  | cons event rest ih => exact ih (sound.step event)

theorem sound_start (config : SessionConfig) : Sound { session := .ofConfig config } where
  settled := .inr ⟨rfl, by simp [Session.ofConfig, Session.openingStates]⟩
  lines _ member := by cases member
  current there := by cases there

/-- Over every run of calls and failures, each channel that the session was given is in order. -/
theorem lines_in_order (config : SessionConfig) (events : List SessionEvent) :
    ∀ line ∈ (run config events).lines, line.InOrder :=
  fun line member => (((sound_start config).run events).lines line member).inOrder

/-- The second start is cut short after two bytes, and a second channel is opened for the farewell. -/
def cutShort : List SessionEvent :=
  [.call (.attach { id := "first" }), .call (.start (.heap 4)), .call (.wait (.heap 4) none),
    .world fun c => { c with stream.outbound.writes := [.accept 2, .fault .brokenPipe] },
    .call (.start (.heap 4)), .call .genRegs, .call (.attach { id := "second" }), .call .deinit]

theorem order_of_cut_line :
    let lines := (run {} cutShort).lines
    lines.map (fun line => line.attempts.map fun a => (a.primitive.kind?, a.sent)) =
        [[(some .init, true), (some .deinit, true)],
          [(some .init, true), (some .start, true), (some .wait, true), (some .start, false)]] ∧
      ∃ cut ∈ lines, cut.attempts.length = 4 ∧ cut.InOrder := by
  refine ⟨by decide +kernel, (run {} cutShort).lines.get ⟨1, by decide +kernel⟩,
    List.get_mem _ _, by decide +kernel, ?_⟩
  exact lines_in_order {} cutShort _ (List.get_mem _ _)

end Traffic

end CodecLink
