import CodecLink.Proofs.Session.PendingRecords

/-! What a call is to send if nothing fails, and the state it then ends in. What it attempts is a
front of that, and it is cut short only by a failure that costs the channel. -/
namespace CodecLink

/-- The records that wait, in the order of their delivery. -/
def ConfigSet.deliveries (set : ConfigSet) : List Primitive :=
  set.pending.toList.map fun kind => .of kind.primitive (set.encoded kind)

namespace Session

/-- Whether the state lets a call through. -/
def Admits (s : Session) : SessionCall → Prop
  | .attach _ | .init _ => s.state ∈ openingStates
  | .control _ | .genRegs => s.state ∈ [.connected, .configured]
  | .start _ => s.state ∈ startingStates
  | .wait _ _ => s.state = .running
  | .reset | .flush | .deinit => s.state ∈ openStates

def waitPayload (output : Descriptor) (hasFlag : Bool) (s : Session) : Bytes :=
  if s.config.completion.isPolling then
    if s.watchesWord output hasFlag then output.encode else []
  else WaitRequest.encode ⟨output, some (nextTag s.waitTag)⟩

/-- What a call that is let through sends. -/
def script (call : SessionCall) (s : Session) : List Primitive :=
  match call with
  | .attach _ | .init _ => [.of .init s.config.toPayload]
  | .control request =>
    match s.recorded? request with
    | none => []
    | some recorded => recorded.configs.deliveries
  | .genRegs => [.of .regs []]
  | .start input => s.configs.deliveries ++ [.of .start (startPayload input)]
  | .wait output flag => [.of .wait (s.waitPayload output flag.isSome)]
  | .reset => [.of .reset []]
  | .flush => [.of .flush []]
  | .deinit => [.of .deinit []]

def stateAfter (call : SessionCall) (s : Session) : SessionState :=
  match call with
  | .attach _ | .init _ => .connected
  | .genRegs => s.state
  | .start _ => .running
  | .control _ | .wait _ _ | .reset | .flush => .configured
  | .deinit => .disconnected

/-- What becomes of a session by a call: nothing, the whole script, or the loss of its channel. -/
inductive Course (call : SessionCall) (s after : Session) : Prop
  | idle (same : after = s) (quiet : s.attempts call = [])
  | through (admitted : s.Admits call) (used : (s.line call).isSome)
      (whole : (s.attempts call).map (·.primitive) = s.script call)
      (sent : ∀ a ∈ s.attempts call, a.sent = true) (there : after.channel.isSome)
      (state : after.state = s.stateAfter call)
  | lost (admitted : s.Admits call) (used : (s.line call).isSome)
      (front : (s.attempts call).map (·.primitive) <+: s.script call) (gone : after.channel = none)

theorem primitives_deliveries (s : Session) :
    ((s.deliveries s.configs.pending.toList).map (·.primitive)) <+: s.configs.deliveries ∧
      ((∀ a ∈ s.deliveries s.configs.pending.toList, a.sent = true) →
        (s.deliveries s.configs.pending.toList).map (·.primitive) = s.configs.deliveries) := by
  have pass := s.deliver_pass s.configs.pending.toList
  obtain ⟨done, front, same⟩ := pass.order
  simp only [ConfigSet.encode_stored] at same
  rw [same]
  refine ⟨front.map _, fun all => ?_⟩
  have whole := pass.whole all
  have count : done.length = s.configs.pending.toList.length := by
    rw [← whole, ← List.length_map (fun a : Attempt => a.primitive), same, List.length_map]
  rw [front.eq_of_length count, ConfigSet.deliveries]

/-- A call that sends a single primitive on the channel that the session holds. -/
theorem course_sent {call : SessionCall} {s after : Session} {c : Channel}
    {kind : PrimitiveCode} {payload : Bytes} (begun : Session) (admitted : s.Admits call)
    (held : s.channel = some c) (own : s.line call = s.channel)
    (attempts : s.attempts call = [s.attempt kind payload])
    (script : s.script call = [.of kind payload])
    (same : begun.channel = s.channel ∧ begun.configs = s.configs)
    (kept : ∀ channel, begun.send kind payload = (.ok (), { begun with channel := some channel }) →
      after.channel = none ∨ after.channel.isSome ∧ after.state = s.stateAfter call)
    (lost : ∀ e gone, begun.send kind payload = (.error e, gone) → after.channel = gone.channel) :
    Course call s after := by
  have used : (s.line call).isSome := by rw [own, held]; rfl
  have primitives : (s.attempts call).map (·.primitive) = s.script call := by
    rw [attempts, script]
    rfl
  have outcome := attempt_congr same.1 same.2 kind payload
  rcases send_cases (same.1.trans held) kind payload with ⟨sent, _⟩ | ⟨e, gone, part, failed, _⟩
  · rcases kept _ sent with gone | ⟨there, state⟩
    · exact .lost admitted used (primitives ▸ List.prefix_rfl) gone
    · refine .through admitted used primitives (fun a member => ?_) there state
      rw [attempts, List.mem_singleton] at member
      rw [member, ← outcome, attempt, sent]
      rfl
  · exact .lost admitted used (primitives ▸ List.prefix_rfl) (lost _ _ failed)

theorem course_attach {s : Session} (settled : s.Settled) (c : Channel) :
    Course (.attach c) s (s.attach c).2 := by
  rcases s.require_cases "attach" openingStates with ⟨member, allowed⟩ | ⟨outside, refused⟩
  · have line : s.line (.attach c) = some c := if_pos member
    have attempts : s.attempts (.attach c) =
        [{ s with channel := some c }.attempt .init s.config.toPayload] := if_pos member
    have outcome := isOk_send (s := { s with channel := some c }) rfl .init s.config.toPayload
    have used : (s.line (.attach c)).isSome := by rw [line]; rfl
    have primitives : (s.attempts (.attach c)).map (·.primitive) = s.script (.attach c) := by
      rw [attempts]
      rfl
    rw [attach, show s.require "attach" [.uninitialized, .disconnected] = .ok () from allowed]
    dsimp only
    cases sending : c.send (.of .init s.config.toPayload) with
    | mk result after =>
      cases result with
      | ok =>
        refine .through member used primitives (fun a present => ?_) rfl rfl
        rw [attempts, List.mem_singleton] at present
        rw [present, attempt, outcome, sending]
        rfl
      | error e =>
        exact .lost member used (primitives ▸ List.prefix_rfl) (settled.vacant member)
  · rw [attach, show s.require "attach" [.uninitialized, .disconnected] = .error _ from refused]
    exact .idle rfl (if_neg outside)

theorem course_init {s : Session} (settled : s.Settled) (attempt : Except ChannelError Channel) :
    Course (.init attempt) s (s.init attempt).2 := by
  cases attempt with
  | error e =>
    refine .idle ?_ rfl
    rw [init]
    split <;> rfl
  | ok c =>
    rcases s.require_cases "init" openingStates with ⟨member, allowed⟩ | ⟨outside, refused⟩
    · rw [init, show s.require "init" [.uninitialized, .disconnected] = .ok () from allowed]
      cases course_attach settled c with
      | idle same quiet => exact .idle same quiet
      | through admitted used whole sent there state =>
        exact .through admitted used whole sent there state
      | lost admitted used front gone => exact .lost admitted used front gone
    · rw [init, show s.require "init" [.uninitialized, .disconnected] = .error _ from refused]
      exact .idle rfl (if_neg outside)

theorem course_control {s : Session} (settled : s.Settled) (request : ConfigRequest) :
    Course (.control request) s (s.control request).2 := by
  cases found : s.recorded? request with
  | none => exact .idle (control_refused found) (by simp only [attempts, found])
  | some recorded =>
    obtain ⟨member, _, _, configs, _, rfl⟩ := recorded_some found
    obtain ⟨c, held, _⟩ := settled.holds member (by decide)
    have used : (s.line (.control request)).isSome := by
      show s.channel.isSome
      rw [held]
      rfl
    have attempts : s.attempts (.control request) =
        deliveries configs.pending.toList { s with configs } := by
      simp only [attempts, found]
    have script : s.script (.control request) = configs.deliveries := by
      simp only [script, found]
    obtain ⟨front, whole⟩ := primitives_deliveries { s with configs }
    obtain ⟨_, _, ending⟩ :=
      deliver_cases (s := { s with configs }) (by simp [held]) configs.pending.toList
    rw [control_recorded found]
    rcases ending with ⟨ok, there, _, sent⟩ | ⟨⟨e, failed⟩, gone, _⟩
    · rw [deliverPending, ok]
      refine .through member used ?_ ?_ there rfl
      · rw [attempts, script]
        exact whole sent
      · rw [attempts]
        exact sent
    · rw [deliverPending, failed]
      refine .lost member used ?_ gone
      rw [attempts, script]
      exact front

theorem course_genRegs {s : Session} (settled : s.Settled) :
    Course .genRegs s s.genRegs.2 := by
  rcases s.require_cases "gen_regs" [.connected, .configured] with
    ⟨member, allowed⟩ | ⟨outside, refused⟩
  · obtain ⟨c, held, _⟩ := settled.holds member (by decide)
    rw [genRegs, allowed]
    refine course_sent s member held rfl (if_pos member) rfl ⟨rfl, rfl⟩ (fun channel sent => ?_)
      fun e gone failed => ?_
    · rw [sent]
      exact .inr ⟨rfl, rfl⟩
    · rw [failed]
  · rw [genRegs, refused]
    exact .idle rfl (if_neg outside)

theorem course_start {s : Session} (settled : s.Settled) (input : Descriptor) :
    Course (.start input) s (s.start input).2 := by
  rcases s.require_cases "start" startingStates with ⟨member, _⟩ | ⟨outside, refused⟩
  · obtain ⟨c, held, _⟩ := settled.holds member (by decide)
    have used : (s.line (.start input)).isSome := by
      show s.channel.isSome
      rw [held]
      rfl
    obtain ⟨front, whole⟩ := s.primitives_deliveries
    obtain ⟨_, _, ending⟩ :=
      deliver_cases (s := s) (by simp [held]) s.configs.pending.toList
    rw [start_allowed member]
    rcases ending with ⟨ok, there, _, all⟩ | ⟨⟨e, failed⟩, gone, _⟩
    · obtain ⟨d, own⟩ := Option.isSome_iff_exists.1 there
      have attempts : s.attempts (.start input) = s.deliveries s.configs.pending.toList ++
          [s.deliverPending.2.attempt .start (startPayload input)] := by
        have split : s.deliverPending = (.ok (), s.deliverPending.2) := Prod.ext ok rfl
        simp only [attempts, if_pos member]
        rw [split]
      have primitives : (s.attempts (.start input)).map (·.primitive) =
          s.script (.start input) := by
        rw [attempts, List.map_append, whole all]
        rfl
      rw [deliverPending, ok]
      rcases send_cases own .start (startPayload input) with
        ⟨sent, _⟩ | ⟨e, after, part, broke, _⟩
      · rw [sent]
        refine .through member used primitives (fun a present => ?_) rfl rfl
        rw [attempts] at present
        rcases List.mem_append.1 present with record | last
        · exact all a record
        · rw [List.mem_singleton.1 last, attempt, deliverPending, sent]
          rfl
      · rw [broke]
        exact .lost member used (primitives ▸ List.prefix_rfl) rfl
    · have attempts : s.attempts (.start input) = s.deliveries s.configs.pending.toList := by
        have split : s.deliverPending = (.error e, s.deliverPending.2) := Prod.ext failed rfl
        simp only [attempts, if_pos member]
        rw [split]
        simp
      rw [deliverPending, failed]
      refine .lost member used ?_ gone
      rw [attempts]
      exact front.trans (List.prefix_append _ _)
  · rw [start, show s.require "start" [.connected, .configured, .waiting] = .error _ from refused]
    exact .idle rfl (if_neg outside)

theorem primitive_waitAttempt (output : Descriptor) (hasFlag : Bool) (s : Session) :
    (s.waitAttempt output hasFlag).primitive = .of .wait (s.waitPayload output hasFlag) := by
  rw [waitAttempt, waitPayload]
  split <;> rfl

theorem course_wait {s : Session} (settled : s.Settled) (output : Descriptor)
    (flag : Option ReadyFlag) : Course (.wait output flag) s (s.wait output flag).2.2 := by
  by_cases running : s.state = .running
  · have member : s.state ∈ [SessionState.running] := by simp [running]
    obtain ⟨c, held, _⟩ := settled.holds member (by decide)
    obtain ⟨begun, awaited, payload, submitted, attempt, _, channel, configs, _, _⟩ :=
      submitWait_running running output flag.isSome flag
    have attempts : s.attempts (.wait output flag) = [s.attempt .wait payload] :=
      (if_pos running).trans (congrArg (fun a => [a]) attempt)
    have script : s.script (.wait output flag) = [.of .wait payload] := by
      have same := s.primitive_waitAttempt output flag.isSome
      rw [attempt] at same
      rw [script, ← same]
      rfl
    rw [wait, isSome_armFor, submitted, submit]
    refine course_sent begun running held rfl attempts script ⟨channel, configs⟩
      (fun channel sent => ?_)
      fun e gone failed => ?_
    · rw [sent]
      obtain ⟨final, _, ending⟩ := finishWait_cases (s := { begun with channel := some channel })
        rfl awaited (s.armFor output flag)
      rcases ending with ⟨e, _, after⟩ | ⟨result, _, after⟩
      · dsimp only
        rw [after]
        exact .inl rfl
      · dsimp only
        rw [after]
        exact .inr ⟨rfl, rfl⟩
    · rw [failed]
  · have refused : s.require "wait" [.running] = .error (.invalidState "wait" s.state) := by
      simp [require, running]
    rw [wait, submitWait, refused]
    exact .idle rfl (if_neg running)

theorem course_interrupt {call : SessionCall} {s : Session} (settled : s.Settled)
    (operation : String) (kind : PrimitiveCode) (own : s.line call = s.channel)
    (admits : s.state ∈ openStates → s.Admits call) (script : s.script call = [.of kind []])
    (state : s.stateAfter call = .configured)
    (attempts : s.attempts call = if s.state ∈ openStates then [s.attempt kind []] else []) :
    Course call s (s.interrupt operation kind).2 := by
  rcases s.require_cases operation openStates with ⟨member, allowed⟩ | ⟨outside, refused⟩
  · obtain ⟨c, held, _⟩ := settled.holds member (by decide)
    rw [if_pos member] at attempts
    rw [interrupt, show s.requireConnected operation = .ok () from allowed]
    refine course_sent { s with state := .resetting } (admits member) held own attempts
      script ⟨rfl, rfl⟩ (fun channel sent => ?_) fun e gone failed => ?_
    · rw [sent]
      exact .inr ⟨rfl, state.symm⟩
    · rw [failed]
  · rw [if_neg outside] at attempts
    rw [interrupt, show s.requireConnected operation = .error _ from refused]
    exact .idle rfl attempts

theorem course_deinit {s : Session} (settled : s.Settled) : Course .deinit s s.deinit.2 := by
  rcases s.require_cases "deinit" openStates with ⟨member, allowed⟩ | ⟨outside, refused⟩
  · obtain ⟨c, held, _⟩ := settled.holds member (by decide)
    have used : (s.line .deinit).isSome := by
      show s.channel.isSome
      rw [held]
      rfl
    have attempts : s.attempts .deinit = [s.attempt .deinit []] := if_pos member
    rw [deinit, show s.requireConnected "deinit" = .ok () from allowed]
    refine .lost member used ?_ rfl
    rw [attempts]
    exact List.prefix_rfl
  · rw [deinit, show s.requireConnected "deinit" = .error _ from refused]
    exact .idle rfl (if_neg outside)

theorem course_perform {s : Session} (settled : s.Settled) (call : SessionCall) :
    Course call s (s.perform call).2 := by
  cases call with
  | attach c => exact course_attach settled c
  | init attempt => exact course_init settled attempt
  | control request => exact course_control settled request
  | genRegs => exact course_genRegs settled
  | start input => exact course_start settled input
  | wait output flag => exact course_wait settled output flag
  | reset => exact course_interrupt settled "reset" .reset rfl id rfl rfl rfl
  | flush => exact course_interrupt settled "flush" .flush rfl id rfl rfl rfl
  | deinit => exact course_deinit settled

end Session

end CodecLink
