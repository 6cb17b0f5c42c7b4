import CodecLink.Proofs.Session.Attempts

/-! What a whole call does to a settled session, one that holds a channel exactly while it can be
used: it settles again, keeps its configuration, changes its records by one delivery pass at most,
and writes what it attempts. -/
namespace CodecLink.Session

/-- Between calls a session holds a channel exactly while it can be used. -/
def Settled (s : Session) : Prop :=
  s.channel.isSome ∧ s.state ∈ [.connected, .configured, .running] ∨
    s.channel = none ∧ s.state ∈ openingStates

theorem settled_gone {s : Session} (gone : s.channel = none) (state : s.state = .disconnected) :
    s.Settled :=
  .inr ⟨gone, by simp [openingStates, state]⟩

/-- The session whose pending records a call delivers, if it delivers any. -/
def delivering? (call : SessionCall) (s : Session) : Option Session :=
  match call with
  | .control request => s.recorded? request
  | .start _ => if s.state ∈ startingStates then some s else none
  | _ => none

theorem recorded_some {s recorded : Session} {request : ConfigRequest}
    (found : s.recorded? request = some recorded) :
    s.state ∈ [.connected, .configured] ∧ s.config.backend.accepted.has request.kind ∧
      s.recordRequest request = .ok recorded ∧
        ∃ configs, s.configs.record request = .ok configs ∧ recorded = { s with configs } := by
  rw [recorded?] at found
  split at found
  · rename_i both
    refine ⟨both.1, both.2, ?_⟩
    cases valid : validate request s.config.backend with
    | error e => simp [recordRequest, valid, Except.toOption] at found
    | ok =>
      cases kept : s.configs.record request with
      | error e => simp [recordRequest, valid, kept, Except.toOption] at found
      | ok configs =>
        have same : { s with configs } = recorded := by
          simpa [recordRequest, valid, kept, Except.toOption] using found
        exact ⟨by simp [recordRequest, valid, kept, same], configs, rfl, same.symm⟩
  · cases found

theorem control_refused {s : Session} {request : ConfigRequest}
    (refused : s.recorded? request = none) : (s.control request).2 = s := by
  rcases s.require_cases "control" [.connected, .configured] with ⟨member, allowed⟩ | ⟨_, closed⟩
  · cases has : s.config.backend.accepted.has request.kind with
    | false => simp [control, allowed, has]
    | true =>
      cases kept : s.recordRequest request with
      | error e => simp [control, allowed, has, kept]
      | ok recorded =>
        rw [recorded?, if_pos ⟨member, has⟩, kept] at refused
        cases refused
  · simp [control, closed]

theorem control_recorded {s recorded : Session} {request : ConfigRequest}
    (found : s.recorded? request = some recorded) :
    (s.control request).2 =
      match recorded.deliverPending.1 with
      | .error _ => recorded.deliverPending.2
      | .ok () => { recorded.deliverPending.2 with state := .configured } := by
  obtain ⟨member, has, kept, _⟩ := recorded_some found
  rcases s.require_cases "control" [.connected, .configured] with ⟨_, allowed⟩ | ⟨outside, _⟩
  · simp only [control, allowed, has, kept, Bool.not_true, Bool.false_eq_true, if_false]
    cases recorded.deliverPending with
    | mk result after => cases result <;> rfl
  · exact absurd member outside

theorem start_allowed {s : Session} (member : s.state ∈ startingStates) (input : Descriptor) :
    (s.start input).2 =
      match s.deliverPending.1 with
      | .error _ => s.deliverPending.2
      | .ok () =>
        match (s.deliverPending.2.send .start (startPayload input)).1 with
        | .error _ => (s.deliverPending.2.send .start (startPayload input)).2
        | .ok () =>
          { (s.deliverPending.2.send .start (startPayload input)).2 with state := .running } := by
  rcases s.require_cases "start" startingStates with ⟨_, allowed⟩ | ⟨outside, _⟩
  · rw [start, show s.require "start" [.connected, .configured, .waiting] = .ok () from allowed]
    cases s.deliverPending with
    | mk result after =>
      cases result with
      | error e => rfl
      | ok =>
        dsimp only
        cases after.send .start (startPayload input) with
        | mk sent last => cases sent <;> rfl
  · exact absurd member outside

theorem isOk_send {s : Session} {c : Channel} (held : s.channel = some c) (kind : PrimitiveCode)
    (payload : Bytes) :
    (s.send kind payload).1.isOk = (c.send (.of kind payload)).1.isOk := by
  rw [send, held]
  dsimp only
  split
  · rename_i sent
    rw [sent]
    rfl
  · rename_i failed
    rw [failed]
    rfl

theorem attempt_congr {s other : Session} (channel : s.channel = other.channel)
    (configs : s.configs = other.configs) (kind : PrimitiveCode) (payload : Bytes) :
    s.attempt kind payload = other.attempt kind payload := by
  cases held : s.channel with
  | none =>
    rw [attempt, attempt, send_unheld held, send_unheld (channel ▸ held), configs]
    rfl
  | some c => rw [attempt, attempt, isOk_send held, isOk_send (channel ▸ held), configs]

def tagAfter (call : SessionCall) (s : Session) : UInt64 :=
  match call with
  | .wait _ _ =>
    if s.state = .running && !s.config.completion.isPolling then nextTag s.waitTag else s.waitTag
  | _ => s.waitTag

/-- Takes a call to its end, or a wait up to the moment at which its request was sent. -/
def begin (call : SessionCall) (s : Session) : Option Awaited × Session :=
  match call with
  | .wait output flag =>
    let (result, after) := s.submitWait output flag.isSome
    (result.toOption, after)
  | call => (none, (s.perform call).2)

/-- All that taking a call so far changes. -/
structure Begun (call : SessionCall) (s : Session) (awaited : Option Awaited) (after : Session) :
    Prop where
  settled : awaited = none → after.Settled
  submitted : ∀ a, awaited = some a →
    after.channel.isSome ∧ (s.config.completion.isPolling = false → a = .reply after.waitTag)
  config : after.config = s.config
  tag : after.waitTag = s.tagAfter call
  configs : after.configs = ((s.delivering? call).map (·.deliverPending.2.configs)).getD s.configs
  sends : Sends { s with channel := s.line call } (s.attempts call) after
  idle : s.line call = none → after = s

theorem begun_refused {call : SessionCall} {s : Session} (settled : s.Settled)
    (quiet : s.attempts call = []) (own : s.line call = s.channel)
    (idle : s.delivering? call = none) (tag : s.tagAfter call = s.waitTag) :
    Begun call s none s where
  settled _ := settled
  submitted a submitted := by cases submitted
  config := rfl
  tag := tag.symm
  configs := by
    rw [idle]
    rfl
  sends := by
    rw [quiet, own]
    exact sends_nothing s
  idle _ := rfl

theorem begun_ended {call : SessionCall} {s after : Session} {c : Channel}
    (line : s.line call = some c) (settled : after.Settled) (config : after.config = s.config)
    (tag : after.waitTag = s.tagAfter call)
    (configs : after.configs =
      ((s.delivering? call).map (·.deliverPending.2.configs)).getD s.configs)
    (sends : Sends { s with channel := s.line call } (s.attempts call) after) :
    Begun call s none after where
  settled _ := settled
  submitted a submitted := by cases submitted
  config := config
  tag := tag
  configs := configs
  sends := sends
  idle vacant := by cases line.symm.trans vacant

theorem Settled.holds {s : Session} (settled : s.Settled) {allowed : List SessionState}
    (member : s.state ∈ allowed) (usable : ∀ state ∈ openingStates, state ∉ allowed) :
    ∃ c, s.channel = some c ∧ s.state ∈ [.connected, .configured, .running] := by
  rcases settled with ⟨held, state⟩ | ⟨_, idle⟩
  · obtain ⟨c, held⟩ := Option.isSome_iff_exists.1 held
    exact ⟨c, held, state⟩
  · exact absurd member (usable _ idle)

theorem Settled.vacant {s : Session} (settled : s.Settled) (opening : s.state ∈ openingStates) :
    s.channel = none := by
  rcases settled with ⟨_, state⟩ | ⟨vacant, _⟩
  · simp only [openingStates, List.mem_cons, List.not_mem_nil, or_false] at opening state
    rcases opening with same | same <;> simp [same] at state
  · exact vacant

theorem begun_sent {call : SessionCall} {s begun after : Session} {awaited : Option Awaited}
    {c : Channel} {kind : PrimitiveCode} {payload : Bytes} (held : begun.channel = some c)
    (same : begun.channel = s.channel ∧ begun.configs = s.configs ∧ begun.config = s.config ∧
      begun.waitTag = s.tagAfter call)
    (own : s.line call = s.channel) (idle : s.delivering? call = none)
    (attempts : s.attempts call = [s.attempt kind payload])
    (kept : ∀ channel, begun.send kind payload = (.ok (), { begun with channel }) →
      ∃ state, after = { begun with channel, state } ∧
        (awaited = none → state ∈ [.connected, .configured, .running]) ∧
        ∀ a, awaited = some a → s.config.completion.isPolling = false → a = .reply begun.waitTag)
    (lost : ∀ e gone, begun.send kind payload = (.error e, gone) →
      awaited = none ∧ after = gone) : Begun call s awaited after := by
  obtain ⟨channel, configs, config, tag⟩ := same
  have sends := sends_send kind payload begun
  rw [attempt_congr channel configs, ← attempts] at sends
  have line : s.line call = begun.channel := own.trans channel.symm
  rcases send_cases held kind payload with ⟨sent, _⟩ | ⟨e, gone, part, failed, _⟩
  · obtain ⟨state, rfl, settles, reply⟩ := kept _ sent
    rw [sent] at sends
    refine ⟨fun ended => .inl ⟨rfl, settles ended⟩, fun a submitted => ⟨rfl, reply a submitted⟩,
      config, tag, ?_, ?_, fun vacant => ?_⟩
    · rw [idle, ← configs]
      rfl
    · rw [line]
      exact sends
    · rw [line, held] at vacant
      cases vacant
  · obtain ⟨rfl, rfl⟩ := lost _ _ failed
    rw [failed] at sends
    refine ⟨fun _ => settled_gone rfl rfl, fun a submitted => ?_, config, tag, ?_, ?_,
      fun vacant => ?_⟩
    · cases submitted
    · rw [idle, ← configs]
      rfl
    · rw [line]
      exact sends
    · rw [line, held] at vacant
      cases vacant

theorem begun_attach {s : Session} (settled : s.Settled) (c : Channel) :
    Begun (.attach c) s none (s.attach c).2 := by
  rcases s.require_cases "attach" openingStates with ⟨member, allowed⟩ | ⟨outside, refused⟩
  · have own : s.line (.attach c) = some c := if_pos member
    have attempts : s.attempts (.attach c) =
        [{ s with channel := some c }.attempt .init s.config.toPayload] := if_pos member
    have vacant := settled.vacant member
    have outcome := isOk_send (s := { s with channel := some c }) rfl .init s.config.toPayload
    rw [attach, show s.require "attach" [.uninitialized, .disconnected] = .ok () from allowed]
    dsimp only
    rcases c.send_cases (.of .init s.config.toPayload) with
      ⟨sent, written⟩ | ⟨e, part, failed, _, front, written⟩
    · rw [sent] at outcome
      rw [(Prod.ext sent rfl : c.send (.of .init s.config.toPayload) = (.ok (), _))]
      refine begun_ended own (.inl ⟨rfl, by simp⟩) rfl rfl rfl ?_
      rw [own, attempts]
      intro d same
      cases same
      refine ⟨_, _ ++ [], rfl, by rw [List.append_nil]; exact written, rfl, .sent ?_ .nil⟩
      rw [attempt, outcome]
      rfl
    · rw [failed] at outcome
      rw [(Prod.ext failed rfl : c.send (.of .init s.config.toPayload) = (.error e, _))]
      refine begun_ended own (.inr ⟨vacant, member⟩) rfl rfl rfl ?_
      rw [own, attempts]
      intro d same
      cases same
      refine ⟨_, part, by rw [latest, vacant]; rfl, written, rfl, .failed ?_ front⟩
      rw [attempt, outcome]
      rfl
  · rw [attach, show s.require "attach" [.uninitialized, .disconnected] = .error _ from refused]
    exact begun_refused settled (if_neg outside) (if_neg outside) rfl rfl

theorem begun_init {s : Session} (settled : s.Settled) (attempt : Except ChannelError Channel) :
    Begun (.init attempt) s none (s.init attempt).2 := by
  cases attempt with
  | error e =>
    have same : (s.init (.error e)).2 = s := by
      rw [init]
      split <;> rfl
    rw [same]
    exact begun_refused settled rfl rfl rfl rfl
  | ok c =>
    rcases s.require_cases "init" openingStates with ⟨member, allowed⟩ | ⟨outside, refused⟩
    · have begun := begun_attach settled c
      rw [init, show s.require "init" [.uninitialized, .disconnected] = .ok () from allowed]
      exact ⟨begun.settled, begun.submitted, begun.config, begun.tag, begun.configs, begun.sends,
        begun.idle⟩
    · rw [init, show s.require "init" [.uninitialized, .disconnected] = .error _ from refused]
      exact begun_refused settled (if_neg outside) (if_neg outside) rfl rfl

theorem begun_control {s : Session} (settled : s.Settled) (request : ConfigRequest) :
    Begun (.control request) s none (s.control request).2 := by
  cases found : s.recorded? request with
  | none =>
    rw [control_refused found]
    exact begun_refused settled (by simp only [attempts, found]) rfl found rfl
  | some recorded =>
    obtain ⟨member, _, _, configs, _, rfl⟩ := recorded_some found
    obtain ⟨c, held, state⟩ := settled.holds member (by decide)
    have sends := sends_deliver configs.pending.toList { s with configs }
    obtain ⟨config, tag, ending⟩ :=
      deliver_cases (s := { s with configs }) (by simp [held]) configs.pending.toList
    have attempts : s.attempts (.control request) =
        deliveries configs.pending.toList { s with configs } := by
      simp only [attempts, found]
    have begins : s.delivering? (.control request) = some { s with configs } := found
    rw [control_recorded found]
    rcases ending with ⟨ok, there, _⟩ | ⟨⟨e, failed⟩, gone, state⟩
    · rw [deliverPending, ok]
      refine begun_ended held (.inl ⟨there, by simp⟩) config tag (by rw [begins]; rfl) ?_
      rw [attempts]
      exact sends
    · rw [deliverPending, failed]
      refine begun_ended held (settled_gone gone state) config tag (by rw [begins]; rfl) ?_
      rw [attempts]
      exact sends

theorem begun_genRegs {s : Session} (settled : s.Settled) : Begun .genRegs s none s.genRegs.2 := by
  rcases s.require_cases "gen_regs" [.connected, .configured] with
    ⟨member, allowed⟩ | ⟨outside, refused⟩
  · obtain ⟨c, held, state⟩ := settled.holds member (by decide)
    rw [genRegs, allowed]
    refine begun_sent held ⟨rfl, rfl, rfl, rfl⟩ rfl rfl (if_pos member) (fun channel sent => ?_)
      fun e gone failed => ?_
    · rw [sent]
      exact ⟨s.state, rfl, fun _ => state, by simp⟩
    · rw [failed]
      exact ⟨rfl, rfl⟩
  · rw [genRegs, refused]
    exact begun_refused settled (if_neg outside) rfl rfl rfl

theorem begun_start {s : Session} (settled : s.Settled) (input : Descriptor) :
    Begun (.start input) s none (s.start input).2 := by
  rcases s.require_cases "start" startingStates with ⟨member, _⟩ | ⟨outside, refused⟩
  · obtain ⟨c, held, state⟩ := settled.holds member (by decide)
    have sends := sends_deliver s.configs.pending.toList s
    obtain ⟨config, tag, ending⟩ :=
      deliver_cases (s := s) (by simp [held]) s.configs.pending.toList
    have begins : s.delivering? (.start input) = some s := if_pos member
    rw [start_allowed member]
    rcases ending with ⟨ok, there, _, all⟩ | ⟨⟨e, failed⟩, gone, state⟩
    · obtain ⟨d, own⟩ := Option.isSome_iff_exists.1 there
      have attempts : s.attempts (.start input) =
          s.deliveries s.configs.pending.toList ++
            [s.deliverPending.2.attempt .start (startPayload input)] := by
        have split : s.deliverPending = (.ok (), s.deliverPending.2) := Prod.ext ok rfl
        simp only [attempts, if_pos member]
        rw [split]
      have whole := sends.append there all (sends_send .start (startPayload input) _)
      rw [deliverPending, ok]
      rcases send_cases own .start (startPayload input) with
        ⟨sent, _⟩ | ⟨e, after, part, broke, _⟩
      · rw [sent] at whole ⊢
        refine begun_ended held (.inl ⟨rfl, by simp⟩) config tag (by rw [begins]; rfl) ?_
        rw [attempts]
        exact whole
      · rw [broke] at whole ⊢
        refine begun_ended held (settled_gone rfl rfl) config tag (by rw [begins]; rfl) ?_
        rw [attempts]
        exact whole
    · have attempts : s.attempts (.start input) = s.deliveries s.configs.pending.toList := by
        have split : s.deliverPending = (.error e, s.deliverPending.2) := Prod.ext failed rfl
        simp only [attempts, if_pos member]
        rw [split]
        simp
      rw [deliverPending, failed]
      refine begun_ended held (settled_gone gone state) config tag (by rw [begins]; rfl) ?_
      rw [attempts]
      exact sends
  · rw [start, show s.require "start" [.connected, .configured, .waiting] = .error _ from refused]
    exact begun_refused settled (if_neg outside) rfl (if_neg outside) rfl

theorem submitWait_running {s : Session} (running : s.state = .running) (output : Descriptor)
    (hasFlag : Bool) (flag : Option ReadyFlag) :
    ∃ (begun : Session) (awaited : Awaited) (payload : Bytes),
      s.submitWait output hasFlag = begun.submit awaited payload ∧
        s.waitAttempt output hasFlag = s.attempt .wait payload ∧
          (s.config.completion.isPolling = false → awaited = .reply begun.waitTag) ∧
            begun.channel = s.channel ∧ begun.configs = s.configs ∧ begun.config = s.config ∧
              begun.waitTag = s.tagAfter (.wait output flag) := by
  have allowed : s.require "wait" [.running] = .ok () := by simp [require, running]
  rw [submitWait, allowed, waitAttempt, tagAfter]
  dsimp only
  cases polling : s.config.completion.isPolling with
  | true =>
    have watches : watchesWord output hasFlag { s with state := .waiting } =
        s.watchesWord output hasFlag := rfl
    simp only [watches, if_true]
    cases s.watchesWord output hasFlag with
    | true =>
      exact ⟨{ s with state := .waiting }, .word, output.encode, rfl, rfl, by simp, rfl, rfl, rfl,
        by simp⟩
    | false =>
      exact ⟨{ s with state := .waiting }, .nothing, [], rfl, rfl, by simp, rfl, rfl, rfl,
        by simp⟩
  | false =>
    exact ⟨{ s with state := .waiting, waitTag := nextTag s.waitTag }, _, _, rfl, rfl,
      fun _ => rfl, rfl, rfl, rfl, by simp [running]⟩

theorem begun_wait {s : Session} (settled : s.Settled) (output : Descriptor)
    (flag : Option ReadyFlag) :
    Begun (.wait output flag) s (s.submitWait output flag.isSome).1.toOption
      (s.submitWait output flag.isSome).2 := by
  by_cases running : s.state = .running
  · have member : s.state ∈ [SessionState.running] := by simp [running]
    obtain ⟨c, held, _⟩ := settled.holds member (by decide)
    obtain ⟨begun, awaited, payload, submitted, attempt, reply, channel, configs, config, tag⟩ :=
      submitWait_running running output flag.isSome flag
    have attempts : s.attempts (.wait output flag) = [s.attempt .wait payload] :=
      (if_pos running).trans (congrArg (fun a => [a]) attempt)
    rw [submitted, submit]
    refine begun_sent (channel.trans held) ⟨channel, configs, config, tag⟩ rfl rfl attempts
      (fun channel sent => ?_) fun e gone failed => ?_
    · rw [sent]
      refine ⟨begun.state, rfl, fun ended => ?_, fun a same round => ?_⟩
      · cases ended
      · cases same
        exact reply round
    · rw [failed]
      exact ⟨rfl, rfl⟩
  · have refused : s.require "wait" [.running] = .error (.invalidState "wait" s.state) := by
      simp [require, running]
    rw [submitWait, refused]
    exact begun_refused settled (if_neg running) rfl rfl (by simp [tagAfter, running])

theorem begun_interrupt {call : SessionCall} {s : Session} (settled : s.Settled)
    (operation : String) (kind : PrimitiveCode) (own : s.line call = s.channel)
    (idle : s.delivering? call = none) (tag : s.tagAfter call = s.waitTag)
    (attempts : s.attempts call = if s.state ∈ openStates then [s.attempt kind []] else []) :
    Begun call s none (s.interrupt operation kind).2 := by
  rcases s.require_cases operation openStates with ⟨member, allowed⟩ | ⟨outside, refused⟩
  · obtain ⟨c, held, _⟩ := settled.holds member (by decide)
    rw [if_pos member] at attempts
    rw [interrupt, show s.requireConnected operation = .ok () from allowed]
    have begun : ({ s with state := .resetting } : Session).channel = some c := held
    refine begun_sent begun ⟨rfl, rfl, rfl, tag.symm⟩ own idle attempts (fun channel sent => ?_)
      fun e gone failed => ?_
    · rw [sent]
      exact ⟨.configured, rfl, by simp, by simp⟩
    · rw [failed]
      exact ⟨rfl, rfl⟩
  · rw [if_neg outside] at attempts
    rw [interrupt, show s.requireConnected operation = .error _ from refused]
    exact begun_refused settled attempts own idle tag

theorem begun_deinit {s : Session} (settled : s.Settled) : Begun .deinit s none s.deinit.2 := by
  rcases s.require_cases "deinit" openStates with ⟨member, allowed⟩ | ⟨outside, refused⟩
  · obtain ⟨c, held, _⟩ := settled.holds member (by decide)
    have attempts : s.attempts .deinit = [s.attempt .deinit []] := if_pos member
    have outcome := isOk_send held .deinit []
    rw [deinit, show s.requireConnected "deinit" = .ok () from allowed]
    refine begun_ended held (settled_gone rfl rfl) rfl rfl rfl ?_
    rw [attempts]
    intro d same
    cases held.symm.trans same
    have retired : (s.channel.map Channel.disconnect) = some c.disconnect := by
      rw [held]
      rfl
    rcases c.send_cases (.of .deinit []) with
      ⟨sent, written⟩ | ⟨e, part, failed, _, front, written⟩
    · rw [sent] at outcome
      refine ⟨c.disconnect, _ ++ [], retired, ?_, rfl, .sent ?_ .nil⟩
      · rw [List.append_nil]
        exact written
      · rw [attempt, outcome]
        rfl
    · rw [failed] at outcome
      refine ⟨c.disconnect, part, retired, written, rfl, .failed ?_ front⟩
      rw [attempt, outcome]
      rfl
  · rw [deinit, show s.requireConnected "deinit" = .error _ from refused]
    exact begun_refused settled (if_neg outside) rfl rfl rfl

theorem begun_begin {s : Session} (settled : s.Settled) (call : SessionCall) :
    Begun call s (s.begin call).1 (s.begin call).2 := by
  cases call with
  | attach c => exact begun_attach settled c
  | init attempt => exact begun_init settled attempt
  | control request => exact begun_control settled request
  | genRegs => exact begun_genRegs settled
  | start input => exact begun_start settled input
  | wait output flag => exact begun_wait settled output flag
  | reset => exact begun_interrupt settled "reset" .reset rfl rfl rfl rfl
  | flush => exact begun_interrupt settled "flush" .flush rfl rfl rfl rfl
  | deinit => exact begun_deinit settled

/-- What a whole call writes on the channel it uses. -/
def Leaves (s : Session) (attempts : List Attempt) (after : Session) : Prop :=
  ∀ c, s.channel = some c →
    ∃ final bs, after.latest = some final ∧ final.written = c.written ++ bs ∧
      Attempt.Wrote attempts bs

theorem Sends.leaves {s after : Session} {attempts : List Attempt}
    (sends : Sends s attempts after) : Leaves s attempts after := by
  intro c held
  obtain ⟨final, bs, present, written, _, wrote⟩ := sends c held
  exact ⟨final, bs, present, written, wrote⟩

/-- All that a whole call changes between two moments at which the session is settled. -/
structure Carried (call : SessionCall) (s after : Session) : Prop where
  settled : after.Settled
  config : after.config = s.config
  configs : after.configs = ((s.delivering? call).map (·.deliverPending.2.configs)).getD s.configs
  leaves : Leaves { s with channel := s.line call } (s.attempts call) after

theorem Begun.carried {call : SessionCall} {s after : Session} (begun : Begun call s none after) :
    Carried call s after :=
  ⟨begun.settled rfl, begun.config, begun.configs, begun.sends.leaves⟩

@[simp] theorem isSome_armFor (output : Descriptor) (flag : Option ReadyFlag) (s : Session) :
    (s.armFor output flag).isSome = flag.isSome := by
  unfold armFor
  split
  · cases flag <;> rfl
  · rfl

theorem carried_wait {s : Session} (settled : s.Settled) (output : Descriptor)
    (flag : Option ReadyFlag) : Carried (.wait output flag) s (s.wait output flag).2.2 := by
  have begun := begun_wait settled output flag
  rw [wait, isSome_armFor]
  cases outcome : s.submitWait output flag.isSome with
  | mk result middle =>
    rw [outcome] at begun
    cases result with
    | error e => exact begun.carried
    | ok awaited =>
      obtain ⟨there, _⟩ := begun.submitted awaited rfl
      obtain ⟨d, held⟩ := Option.isSome_iff_exists.1 there
      have latest_middle : middle.latest = some d := by
        rw [latest, show middle.channel = some d from held]
        rfl
      obtain ⟨final, written, ending⟩ := finishWait_cases held awaited (s.armFor output flag)
      have leaves (after : Session) (last : after.latest = some final) :
          Leaves { s with channel := s.channel } (s.attempts (.wait output flag)) after := by
        intro c own
        obtain ⟨other, bs, present, grown, _, wrote⟩ := begun.sends c own
        cases present.symm.trans latest_middle
        exact ⟨final, bs, last, written.trans grown, wrote⟩
      rcases ending with ⟨e, _, after⟩ | ⟨result, _, after⟩
      · dsimp only
        rw [after]
        exact ⟨settled_gone rfl rfl, begun.config, begun.configs, leaves _ rfl⟩
      · dsimp only
        rw [after]
        exact ⟨.inl ⟨rfl, by simp⟩, begun.config, begun.configs, leaves _ rfl⟩

theorem carried_perform {s : Session} (settled : s.Settled) (call : SessionCall) :
    Carried call s (s.perform call).2 := by
  cases call with
  | wait output flag => exact carried_wait settled output flag
  | attach c => exact (begun_attach settled c).carried
  | init attempt => exact (begun_init settled attempt).carried
  | control request => exact (begun_control settled request).carried
  | genRegs => exact (begun_genRegs settled).carried
  | start input => exact (begun_start settled input).carried
  | reset => exact (begun_begin settled .reset).carried
  | flush => exact (begun_begin settled .flush).carried
  | deinit => exact (begun_deinit settled).carried

end CodecLink.Session
