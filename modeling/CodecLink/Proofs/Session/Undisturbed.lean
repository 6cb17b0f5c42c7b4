import CodecLink.Proofs.Channel.Faultless
import CodecLink.Proofs.Session.Scripts

/-! A session over a channel on which nothing goes wrong. Every call that is let through succeeds,
writes all that it has to send, and ends in the state that it leads to. -/
namespace CodecLink

theorem ConfigSet.encoded_delivered (set : ConfigSet) (kind : RecordKind) :
    (set.delivered kind).encoded = set.encoded := by
  funext other
  rw [← encode_stored, ← encode_stored, stored_delivered]

theorem ConfigSet.codec_delivered (set : ConfigSet) (kinds : List RecordKind) :
    (kinds.foldl delivered set).codec = set.codec := by
  induction kinds generalizing set with
  | nil => rfl
  | cons kind rest ih => exact ih (set.delivered kind)

namespace Session

variable {s : Session} {c : Channel}

theorem send_faultless (held : s.channel = some c) (faultless : c.Faultless) (kind : PrimitiveCode)
    {payload : Bytes} (short : payload.length ≤ 255) :
    s.send kind payload =
      (.ok (), { s with channel := some (c.grown (Frame.bytes (.of kind payload))) }) := by
  have sent : c.send (.of kind payload) = (.ok (), c.grown (Frame.bytes (.of kind payload))) :=
    faultless.send short
  rw [send, held]
  simp only [sent]

theorem deliver_faultless (held : s.channel = some c) (faultless : c.Faultless)
    (kinds : List RecordKind) :
    s.deliver kinds = (.ok (), { s with
      channel := some (c.grown ((kinds.map fun kind =>
        Primitive.of kind.primitive (s.configs.encoded kind)).flatMap Frame.bytes))
      configs := kinds.foldl ConfigSet.delivered s.configs }) := by
  induction kinds generalizing s c with
  | nil =>
    rw [deliver]
    simp [← held]
  | cons kind rest ih =>
    have sent := send_faultless held faultless kind.primitive (s.configs.length_encoded kind)
    have later := ih (s := { s with
      channel := some (c.grown (Frame.bytes (.of kind.primitive (s.configs.encoded kind))))
      configs := s.configs.delivered kind }) rfl (faultless.grown _)
    rw [deliver, sent]
    dsimp only
    rw [later]
    simp [ConfigSet.encoded_delivered]

theorem deliverPending_faultless (held : s.channel = some c) (faultless : c.Faultless) :
    s.deliverPending = (.ok (), { s with
      channel := some (c.grown (s.configs.deliveries.flatMap Frame.bytes))
      configs := s.configs.pending.toList.foldl ConfigSet.delivered s.configs }) :=
  deliver_faultless held faultless _

/-- A call that went through over the channel that it used. -/
structure Through (call : SessionCall) (s : Session) (c : Channel) (answer : Answer Unit) :
    Prop where
  result : answer.1 = .ok ()
  line : ∃ final, answer.2.latest = some final ∧
    final.written = c.written ++ (s.script call).flatMap Frame.bytes ∧ final.held = c.held ∧
    (answer.2.channel = none ∧ s.stateAfter call = .disconnected ∨
      answer.2.channel = some final ∧ final.Faultless)
  state : answer.2.state = s.stateAfter call
  config : answer.2.config = s.config
  codec : answer.2.configs.codec.codec = s.configs.codec.codec

/-- A call that keeps its channel. -/
theorem through_grown {call : SessionCall} {answer : Answer Unit} (faultless : c.Faultless)
    (result : answer.1 = .ok ())
    (channel : answer.2.channel = some (c.grown ((s.script call).flatMap Frame.bytes)))
    (state : answer.2.state = s.stateAfter call) (config : answer.2.config = s.config)
    (codec : answer.2.configs.codec.codec = s.configs.codec.codec) : Through call s c answer where
  result := result
  line := ⟨c.grown ((s.script call).flatMap Frame.bytes), by rw [latest, channel]; rfl, rfl, rfl,
    .inr ⟨channel, faultless.grown _⟩⟩
  state := state
  config := config
  codec := codec

theorem through_attach (opening : s.state ∈ openingStates) (faultless : c.Faultless) :
    Through (.attach c) s c (s.attach c) := by
  have allowed : s.require "attach" [.uninitialized, .disconnected] = .ok () := if_pos opening
  have sent : c.send (.of .init s.config.toPayload) =
      (.ok (), c.grown (Frame.bytes (.of .init s.config.toPayload))) :=
    faultless.send s.config.length_toPayload
  have attached : s.attach c = (.ok (), { s with
      channel := some (c.grown (Frame.bytes (.of .init s.config.toPayload)))
      state := .connected }) := by
    rw [attach, allowed]
    simp only [sent]
  rw [attached]
  exact through_grown faultless rfl (by simp [script]) rfl rfl rfl

theorem through_control {request : ConfigRequest} {recorded : Session}
    (found : s.recorded? request = some recorded) (held : s.channel = some c)
    (faultless : c.Faultless) : Through (.control request) s c (s.control request) := by
  obtain ⟨member, has, kept, configs, stored, rfl⟩ := recorded_some found
  have allowed : s.require "control" [.connected, .configured] = .ok () := if_pos member
  have delivered := deliverPending_faultless (s := { s with configs }) held faultless
  have codec : configs.codec.codec = s.configs.codec.codec := (ConfigSet.record_ok stored).2.1
  have through : s.control request = (.ok (), { s with
      channel := some (c.grown (configs.deliveries.flatMap Frame.bytes))
      configs := configs.pending.toList.foldl ConfigSet.delivered configs
      state := .configured }) := by
    rw [control, allowed]
    simp only [has, kept, delivered, Bool.not_true, Bool.false_eq_true, if_false]
  rw [through]
  refine through_grown faultless rfl (by simp only [script, found]) rfl rfl ?_
  rw [ConfigSet.codec_delivered, codec]

theorem through_genRegs (member : s.state ∈ [.connected, .configured]) (held : s.channel = some c)
    (faultless : c.Faultless) : Through .genRegs s c s.genRegs := by
  have allowed : s.require "gen_regs" [.connected, .configured] = .ok () := if_pos member
  have short : ([] : Bytes).length ≤ 255 := by decide
  have sent := send_faultless held faultless .regs short
  rw [genRegs, allowed]
  dsimp only
  rw [sent]
  exact through_grown faultless rfl (by simp [script]) rfl rfl rfl

theorem through_start (member : s.state ∈ startingStates) (input : Descriptor)
    (held : s.channel = some c) (faultless : c.Faultless) :
    Through (.start input) s c (s.start input) := by
  have allowed : s.require "start" [.connected, .configured, .waiting] = .ok () := if_pos member
  have delivered := deliverPending_faultless held faultless
  have short : (startPayload input).length ≤ 255 := by
    rw [startPayload]
    split <;> simp [Descriptor.wireSize]
  have sent := send_faultless (s := s.deliverPending.2) (by rw [delivered])
    (faultless.grown (s.configs.deliveries.flatMap Frame.bytes)) .start short
  have through : s.start input = (.ok (), { s with
      channel := some (c.grown ((s.script (.start input)).flatMap Frame.bytes))
      configs := s.configs.pending.toList.foldl ConfigSet.delivered s.configs
      state := .running }) := by
    rw [delivered] at sent
    rw [start, allowed]
    simp only [delivered, sent]
    simp [script]
  rw [through]
  exact through_grown faultless rfl rfl rfl rfl (by rw [ConfigSet.codec_delivered])

theorem through_interrupt {call : SessionCall} {operation : String} {kind : PrimitiveCode}
    (member : s.state ∈ openStates) (held : s.channel = some c) (faultless : c.Faultless)
    (own : s.script call = [.of kind []]) (after : s.stateAfter call = .configured) :
    Through call s c (s.interrupt operation kind) := by
  have allowed : s.requireConnected operation = .ok () := if_pos member
  have short : ([] : Bytes).length ≤ 255 := by decide
  have sent := send_faultless (s := { s with state := .resetting }) held faultless kind short
  have through : s.interrupt operation kind = (.ok (), { s with
      channel := some (c.grown (Frame.bytes (.of kind [])))
      state := .configured }) := by
    rw [interrupt, allowed]
    simp only [sent]
  rw [through]
  exact through_grown faultless rfl (by simp [own]) after.symm rfl rfl

theorem through_deinit (member : s.state ∈ openStates) (held : s.channel = some c)
    (faultless : c.Faultless) : Through .deinit s c s.deinit := by
  have allowed : s.requireConnected "deinit" = .ok () := if_pos member
  have sent : c.send (.of .deinit []) = (.ok (), c.grown (Frame.bytes (.of .deinit []))) :=
    faultless.send (by decide)
  have through : s.deinit = (.ok (), { s with
      channel := none
      retired := some (c.grown (Frame.bytes (.of .deinit []))).shutdown
      state := .disconnected }) := by
    rw [deinit, allowed, held]
    simp only [Option.map_some, Channel.disconnect, sent]
  rw [through]
  exact ⟨rfl, ⟨_, rfl, by simp [script, Channel.shutdown, Channel.written, Channel.grown], rfl,
    .inl ⟨rfl, rfl⟩⟩, rfl, rfl, rfl⟩

/-- What becomes of a call over a channel on which nothing goes wrong. -/
inductive Outcome (call : SessionCall) (s : Session) (answer : Answer Unit) : Prop
  | refused (same : answer.2 = s) (unstarted : ∀ input, call = .start input → answer.1 ≠ .ok ())
  | through {c : Channel} (admitted : s.Admits call) (line : s.line call = some c)
      (through : Through call s c answer)

theorem outcome_interrupt {call : SessionCall} {operation : String} {kind : PrimitiveCode}
    (settled : s.Settled) (faultless : ∀ c, s.line call = some c → c.Faultless)
    (line : s.line call = s.channel) (admits : s.state ∈ openStates → s.Admits call)
    (own : s.script call = [.of kind []]) (after : s.stateAfter call = .configured) :
    Outcome call s (s.interrupt operation kind) := by
  rcases s.require_cases operation openStates with ⟨member, _⟩ | ⟨_, refused⟩
  · obtain ⟨c, held, _⟩ := settled.holds member (by decide)
    have used : s.line call = some c := line.trans held
    exact .through (admits member) used (through_interrupt member held (faultless c used) own after)
  · rw [interrupt, show s.requireConnected operation = .error _ from refused]
    exact .refused rfl (by simp)

theorem perform_outcome (settled : s.Settled) {call : SessionCall}
    (other : ∀ output flag, call ≠ .wait output flag)
    (faultless : ∀ c, s.line call = some c → c.Faultless) : Outcome call s (s.perform call) := by
  cases call with
  | attach c =>
    rcases s.require_cases "attach" openingStates with ⟨member, _⟩ | ⟨_, refused⟩
    · exact .through member (if_pos member) (through_attach member (faultless c (if_pos member)))
    · rw [perform, attach,
        show s.require "attach" [.uninitialized, .disconnected] = .error _ from refused]
      exact .refused rfl (by simp)
  | init attempt =>
    cases attempt with
    | error e =>
      refine .refused ?_ (by simp)
      rw [perform, init]
      split <;> rfl
    | ok c =>
      rcases s.require_cases "init" openingStates with ⟨member, allowed⟩ | ⟨_, refused⟩
      · have through := through_attach member (faultless c (if_pos member))
        rw [perform, init,
          show s.require "init" [.uninitialized, .disconnected] = .ok () from allowed]
        exact .through member (if_pos member) ⟨through.result, through.line, through.state,
          through.config, through.codec⟩
      · rw [perform, init,
          show s.require "init" [.uninitialized, .disconnected] = .error _ from refused]
        exact .refused rfl (by simp)
  | control request =>
    cases found : s.recorded? request with
    | none => exact .refused (control_refused found) (by simp)
    | some recorded =>
      obtain ⟨member, _⟩ := recorded_some found
      obtain ⟨c, held, _⟩ := settled.holds member (by decide)
      exact .through member held (through_control found held (faultless c held))
  | genRegs =>
    rcases s.require_cases "gen_regs" [.connected, .configured] with ⟨member, _⟩ | ⟨_, refused⟩
    · obtain ⟨c, held, _⟩ := settled.holds member (by decide)
      exact .through member held (through_genRegs member held (faultless c held))
    · rw [perform, genRegs, refused]
      exact .refused rfl (by simp)
  | start input =>
    rcases s.require_cases "start" startingStates with ⟨member, _⟩ | ⟨_, refused⟩
    · obtain ⟨c, held, _⟩ := settled.holds member (by decide)
      exact .through member held (through_start member input held (faultless c held))
    · rw [perform, start,
        show s.require "start" [.connected, .configured, .waiting] = .error _ from refused]
      exact .refused rfl (by simp)
  | wait output flag => exact absurd rfl (other output flag)
  | reset => exact outcome_interrupt settled faultless rfl id rfl rfl
  | flush => exact outcome_interrupt settled faultless rfl id rfl rfl
  | deinit =>
    rcases s.require_cases "deinit" openStates with ⟨member, _⟩ | ⟨_, refused⟩
    · obtain ⟨c, held, _⟩ := settled.holds member (by decide)
      exact .through member held (through_deinit member held (faultless c held))
    · rw [perform, deinit, show s.requireConnected "deinit" = .error _ from refused]
      exact .refused rfl (by simp)

def awaitedBy (output : Descriptor) (hasFlag : Bool) (s : Session) : Awaited :=
  if s.config.completion.isPolling then
    if s.watchesWord output hasFlag then .word else .nothing
  else .reply (nextTag s.waitTag)

theorem submitWait_faultless (running : s.state = .running) (held : s.channel = some c)
    (faultless : c.Faultless) (output : Descriptor) (hasFlag : Bool) :
    s.submitWait output hasFlag = (.ok (s.awaitedBy output hasFlag), { s with
      state := .waiting
      waitTag := if s.config.completion.isPolling then s.waitTag else nextTag s.waitTag
      channel := some (c.grown (Frame.bytes (.of .wait (s.waitPayload output hasFlag)))) }) := by
  have allowed : s.require "wait" [.running] = .ok () := if_pos (by simp [running])
  let begun : Session := { s with state := .waiting }
  rw [submitWait, allowed, awaitedBy, waitPayload]
  cases polling : s.config.completion.isPolling with
  | false =>
    let tagged : Session := { begun with waitTag := nextTag s.waitTag }
    have short := WaitRequest.length_encode_le ⟨output, some (nextTag s.waitTag)⟩
    have sent := send_faultless (s := tagged) held faultless .wait
      (Nat.le_trans short (by decide))
    simp only [polling, Bool.false_eq_true, if_false, submit]
    rw [sent]
  | true =>
    have watches : begun.watchesWord output hasFlag = s.watchesWord output hasFlag := rfl
    simp only [polling, if_true, submit]
    cases watching : s.watchesWord output hasFlag with
    | false =>
      have sent := send_faultless (s := begun) held faultless .wait
        (show ([] : Bytes).length ≤ 255 by decide)
      rw [if_neg (by rw [watches, watching]; decide), sent]
      rfl
    | true =>
      have sent := send_faultless (s := begun) held faultless .wait
        (show output.encode.length ≤ 255 by simp [Descriptor.wireSize])
      rw [if_pos (by rw [watches, watching]), sent]
      rfl

theorem nextTag_ne_zero (tag : UInt64) : nextTag tag ≠ 0 := by
  rw [nextTag]
  split
  · decide
  · assumption

/-- A wait for a reply takes the one that is there, if it has any time at all. -/
theorem finishWait_reply {timeoutMs : UInt64} (mode : s.config.completion = .roundTrip timeoutMs)
    (some_time : timeoutMs ≠ 0) (held : s.channel = some c) (faultless : c.Faultless)
    {m : WaitReply} {tag : UInt64} (tagged : m.tag = some tag) (proper : tag ≠ 0)
    (arrived : c.held = Frame.bytes (.of .wait m.encode)) (flag : Option ReadyFlag) :
    ∃ after, s.finishWait (.reply tag) flag = (.ok (.ofOutcome m.outcome), flag,
        { s with channel := some after, state := .configured }) ∧
      after.Faultless ∧ after.held = [] ∧ after.written = c.written := by
  have short : ∀ q ∈ [Primitive.of .wait m.encode], q.payload.length ≤ 255 := by
    intro q member
    rw [List.mem_singleton.1 member]
    exact Nat.le_trans m.length_encode_le (by decide)
  let timed : Channel := { c with recvTimeout := some timeoutMs.toNat }
  have patient : timed.Faultless := { faultless with }
  have there : timed.held = [Primitive.of .wait m.encode].flatMap Frame.bytes := by
    rw [List.flatMap_singleton]
    exact arrived
  obtain ⟨received, after, left⟩ := patient.recv_arrived
    (fun q member => Frame.within_default (short q member)) there
  have answer : Channel.replyOutcome? (some tag) (.of .wait m.encode) = some m.outcome := by
    rw [Channel.replyOutcome?_reply tagged proper, if_pos rfl]
  have first : timed.firstReply (some tag) = (.ok m.outcome, timed.recv.2) := by
    rw [Channel.firstReply]
    split
    · rename_i e after failed
      cases received.symm.trans failed
    · rename_i p after taken
      cases received.symm.trans taken
      rw [answer]
  have waiting : timeoutMs.toNat ≠ 0 := fun none_left => some_time (UInt64.toNat_inj.1 none_left)
  have awaited : c.awaitReply timeoutMs.toNat (some tag) =
      (.ok m.outcome, { timed.recv.2 with recvTimeout := c.recvTimeout }) := by
    rw [Channel.awaitReply, if_neg waiting]
    show ((timed.firstReply (some tag)).1,
      { (timed.firstReply (some tag)).2 with recvTimeout := c.recvTimeout }) = _
    rw [first]
  refine ⟨{ timed.recv.2 with recvTimeout := c.recvTimeout }, ?_, { after with }, left, rfl⟩
  rw [finishWait]
  simp only [complete, held, Channel.awaitCompletion, mode, awaited]

/-- A wait that looks at a word leaves the channel alone. -/
theorem finishWait_word {intervalMs : UInt64} {maxPolls : UInt32}
    (mode : s.config.completion = .polling intervalMs maxPolls) (held : s.channel = some c)
    (flag : Option ReadyFlag) :
    (s.finishWait .word flag).2.2 = { s with state := .configured } ∧
      ∀ own, flag = some own →
        (s.finishWait .word flag).1 = .ok (.ofOutcome (own.poll maxPolls.toNat).1) := by
  rw [finishWait]
  cases flag with
  | none =>
    simp only [complete, held, Channel.awaitCompletion, mode]
    exact ⟨trivial, fun own present => by cases present⟩
  | some flag =>
    simp only [complete, held, Channel.awaitCompletion, mode]
    exact ⟨trivial, fun own present => by cases present; rfl⟩

end Session

namespace ReadyFlag

/-- Looks at a word that is published once, and in time, end with it. -/
theorem poll_published {word : UInt32} (published : word ≠ readySentinel) {looks : List UInt32}
    (seen : ∀ look ∈ looks, look = readySentinel ∨ look = word) {polls : Nat}
    (few : looks.length ≤ polls) (arms loads : Nat) :
    (poll polls ⟨looks, word, arms, loads⟩).1 = .ready word.toUInt64 := by
  induction looks generalizing polls loads with
  | nil =>
    rw [poll.eq_def]
    simp [load, published]
  | cons look later ih =>
    rcases seen look (by simp) with rfl | rfl
    · cases polls with
      | zero => cases few
      | succ polls =>
        rw [poll]
        simp only [load, ne_eq, not_true_eq_false, if_false]
        exact ih (fun look member => seen look (by simp [member])) (Nat.le_of_succ_le_succ few) _
    · rw [poll.eq_def]
      simp [load, published]

end ReadyFlag

end CodecLink
