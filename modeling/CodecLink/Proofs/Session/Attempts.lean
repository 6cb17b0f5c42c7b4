import CodecLink.Proofs.Channel.Transfer
import CodecLink.Proofs.Message.Payloads
import CodecLink.Session.Calls

/-! What the calls of a session send. Every call hands a fixed list of primitives to the channel
until one cannot be sent; the bytes on the channel are the frames of those that were sent and a part
of the one that was not. -/
namespace CodecLink

inductive SessionCall
  | attach (channel : Channel)
  | init (attempt : Except ChannelError Channel)
  | control (request : ConfigRequest)
  | genRegs
  | start (input : Descriptor)
  | wait (output : Descriptor) (flag : Option ReadyFlag)
  | reset
  | flush
  | deinit

def SessionCall.code? : SessionCall → Option PrimitiveCode
  | attach _ | init _ => some .init
  | control _ => none
  | genRegs => some .regs
  | start _ => some .start
  | wait _ _ => some .wait
  | reset => some .reset
  | flush => some .flush
  | deinit => some .deinit

/-- A primitive handed to the channel, what was still pending then, and whether it was sent. -/
structure Attempt where
  primitive : Primitive
  pending : RecordSet
  sent : Bool
  deriving DecidableEq, Repr

namespace Attempt

def kind? (a : Attempt) : Option RecordKind := a.primitive.kind?.bind RecordKind.ofPrimitive?

def delivers (kind : RecordKind) (a : Attempt) : Bool := a.sent && a.kind? = some kind

/-- The bytes that attempts leave on a channel. Nothing is attempted after a failure. -/
inductive Wrote : List Attempt → Bytes → Prop
  | nil : Wrote [] []
  | sent {a : Attempt} {rest : List Attempt} {bs : Bytes} (succeeded : a.sent = true)
      (later : Wrote rest bs) : Wrote (a :: rest) (Frame.bytes a.primitive ++ bs)
  | failed {a : Attempt} {part : Bytes} (stopped : a.sent = false)
      (front : part <+: Frame.bytes a.primitive) : Wrote [a] part

theorem Wrote.append {first second : List Attempt} {bs more : Bytes} (wrote : Wrote first bs)
    (succeeded : ∀ a ∈ first, a.sent = true) (later : Wrote second more) :
    Wrote (first ++ second) (bs ++ more) := by
  induction wrote with
  | nil => exact later
  | @sent a rest bs sent _ ih =>
    rw [List.append_assoc]
    exact .sent sent (ih fun other member => succeeded other (by simp [member]))
  | failed stopped _ =>
    rw [succeeded _ (by simp)] at stopped
    cases stopped

end Attempt

namespace Session

def perform (call : SessionCall) (s : Session) : Answer Unit :=
  match call with
  | .attach channel => s.attach channel
  | .init attempt => s.init attempt
  | .control request => s.control request
  | .genRegs => s.genRegs
  | .start input => s.start input
  | .wait output flag =>
    let (result, _, s) := s.wait output flag
    (result.map fun _ => (), s)
  | .reset => s.reset
  | .flush => s.flush
  | .deinit => s.deinit

def attempt (kind : PrimitiveCode) (payload : Bytes) (s : Session) : Attempt :=
  ⟨.of kind payload, s.configs.pending, (s.send kind payload).1.isOk⟩

def deliveries : List RecordKind → Session → List Attempt
  | [], _ => []
  | kind :: rest, s =>
    s.attempt kind.primitive (s.configs.encoded kind) ::
      match s.send kind.primitive (s.configs.encoded kind) with
      | (.error _, _) => []
      | (.ok (), s) => deliveries rest { s with configs := s.configs.delivered kind }

def recorded? (request : ConfigRequest) (s : Session) : Option Session :=
  if s.state ∈ [.connected, .configured] ∧ s.config.backend.accepted.has request.kind then
    (s.recordRequest request).toOption
  else none

def openingStates : List SessionState := [.uninitialized, .disconnected]

def startingStates : List SessionState := [.connected, .configured, .waiting]

def openStates : List SessionState := [.connected, .configured, .running, .waiting, .resetting]

def waitAttempt (output : Descriptor) (hasFlag : Bool) (s : Session) : Attempt :=
  if s.config.completion.isPolling then
    s.attempt .wait (if s.watchesWord output hasFlag then output.encode else [])
  else s.attempt .wait (WaitRequest.encode ⟨output, some (nextTag s.waitTag)⟩)

/-- What a call tries to send, in order. -/
def attempts (call : SessionCall) (s : Session) : List Attempt :=
  match call with
  | .attach c | .init (.ok c) =>
    if s.state ∈ openingStates then
      [{ s with channel := some c }.attempt .init s.config.toPayload]
    else []
  | .init (.error _) => []
  | .control request =>
    match s.recorded? request with
    | none => []
    | some recorded => recorded.deliveries recorded.configs.pending.toList
  | .genRegs => if s.state ∈ [.connected, .configured] then [s.attempt .regs []] else []
  | .start input =>
    if s.state ∈ startingStates then
      s.deliveries s.configs.pending.toList ++
        match s.deliverPending with
        | (.error _, _) => []
        | (.ok (), s) => [s.attempt .start (startPayload input)]
    else []
  | .wait output flag =>
    if s.state = .running then [s.waitAttempt output flag.isSome] else []
  | .reset => if s.state ∈ openStates then [s.attempt .reset []] else []
  | .flush => if s.state ∈ openStates then [s.attempt .flush []] else []
  | .deinit => if s.state ∈ openStates then [s.attempt .deinit []] else []

def line (call : SessionCall) (s : Session) : Option Channel :=
  match call with
  | .attach c | .init (.ok c) => if s.state ∈ openingStates then some c else s.channel
  | _ => s.channel

/-- The channel a session holds, or the last one that it gave up. -/
def latest (s : Session) : Option Channel := s.channel <|> s.retired

theorem require_cases (operation : String) (allowed : List SessionState) (s : Session) :
    s.state ∈ allowed ∧ s.require operation allowed = .ok () ∨
      s.state ∉ allowed ∧
        s.require operation allowed = .error (.invalidState operation s.state) := by
  by_cases member : s.state ∈ allowed
  · exact .inl ⟨member, by simp [require, member]⟩
  · exact .inr ⟨member, by simp [require, member]⟩

theorem send_cases {s : Session} {c : Channel} (held : s.channel = some c) (kind : PrimitiveCode)
    (payload : Bytes) :
    s.send kind payload = (.ok (), { s with channel := some (c.send (.of kind payload)).2 }) ∧
        (c.send (.of kind payload)).2.written = c.written ++ Frame.bytes (.of kind payload) ∨
      ∃ e after part, s.send kind payload =
          (.error (.connection e),
            { s with channel := none, retired := some after, state := .disconnected }) ∧
        part <+: Frame.bytes (.of kind payload) ∧ after.written = c.written ++ part ∧
          after.held = c.held := by
  rcases c.send_cases (.of kind payload) with
    ⟨sent, written⟩ | ⟨e, part, failed, fatal, front, written⟩
  · refine .inl ⟨?_, written⟩
    rw [send, held]
    dsimp only
    split
    · rename_i outcome
      rw [outcome]
    · rename_i outcome
      rw [outcome] at sent
      cases sent
  · refine .inr ⟨e, (c.send (.of kind payload)).2.shutdown, part, ?_, front, written, rfl⟩
    rw [send, held]
    dsimp only
    split
    · rename_i outcome
      rw [outcome] at failed
      cases failed
    · rename_i outcome
      rw [outcome] at failed ⊢
      cases failed
      simp [fail, fatal]

theorem send_unheld {s : Session} (unheld : s.channel = none) (kind : PrimitiveCode)
    (payload : Bytes) : s.send kind payload = (.error (.invalidState kind.name s.state), s) := by
  rw [send, unheld]

@[simp] theorem configs_send (kind : PrimitiveCode) (payload : Bytes) (s : Session) :
    (s.send kind payload).2.configs = s.configs := by
  cases held : s.channel with
  | none => rw [send_unheld held]
  | some c =>
    rcases send_cases held kind payload with ⟨sent, _⟩ | ⟨e, after, part, failed, _⟩
    · rw [sent]
    · rw [failed]

/-- A step of a session leaves the bytes of its attempts on the channel it held, and takes none of
those that arrived there. -/
def Sends (s : Session) (attempts : List Attempt) (after : Session) : Prop :=
  ∀ c, s.channel = some c →
    ∃ final bs, after.latest = some final ∧ final.written = c.written ++ bs ∧
      final.held = c.held ∧ Attempt.Wrote attempts bs

theorem sends_nothing (s : Session) : Sends s [] s := by
  intro c held
  exact ⟨c, [], by simp [latest, held], by simp, rfl, .nil⟩

theorem sends_send (kind : PrimitiveCode) (payload : Bytes) (s : Session) :
    Sends s [s.attempt kind payload] (s.send kind payload).2 := by
  intro c held
  rcases send_cases held kind payload with
    ⟨sent, written⟩ | ⟨e, after, part, failed, front, written, kept⟩
  · rw [sent]
    refine ⟨_, Frame.bytes (.of kind payload) ++ [], rfl, by rw [written, List.append_nil], rfl, ?_⟩
    exact .sent (by rw [attempt, sent]; rfl) .nil
  · rw [failed]
    exact ⟨after, part, rfl, written, kept, .failed (by rw [attempt, failed]; rfl) front⟩

theorem Sends.append {s middle after : Session} {first second : List Attempt}
    (front : Sends s first middle) (there : middle.channel.isSome)
    (succeeded : ∀ a ∈ first, a.sent = true) (back : Sends middle second after) :
    Sends s (first ++ second) after := by
  intro c own
  obtain ⟨final, bs, present, written, kept, wrote⟩ := front c own
  obtain ⟨d, channel⟩ := Option.isSome_iff_exists.1 there
  have same : d = final := by
    simpa [latest, channel] using present
  subst same
  obtain ⟨last, more, later, grown, left, wrote_more⟩ := back d channel
  exact ⟨last, bs ++ more, later, by rw [grown, written, List.append_assoc], left.trans kept,
    wrote.append succeeded wrote_more⟩

theorem channel_of_send {kind : PrimitiveCode} {payload : Bytes} {s middle : Session}
    (sent : s.send kind payload = (.ok (), middle)) : middle.channel.isSome := by
  cases held : s.channel with
  | none =>
    rw [send_unheld held] at sent
    cases sent
  | some c =>
    rcases send_cases held kind payload with ⟨same, _⟩ | ⟨e, after, part, failed, _⟩
    · rw [same] at sent
      cases sent
      rfl
    · rw [failed] at sent
      cases sent

theorem deliver_cons_error {kind : RecordKind} {s middle : Session} {e : SessionError}
    (failed : s.send kind.primitive (s.configs.encoded kind) = (.error e, middle))
    (rest : List RecordKind) :
    s.deliver (kind :: rest) = (.error e, middle) ∧
      s.deliveries (kind :: rest) = [s.attempt kind.primitive (s.configs.encoded kind)] ∧
      (s.attempt kind.primitive (s.configs.encoded kind)).sent = false := by
  refine ⟨by simp only [deliver, failed], by simp only [deliveries, failed], ?_⟩
  simp [attempt, failed, Except.isOk, Except.toBool]

theorem deliver_cons_ok {kind : RecordKind} {s middle : Session}
    (sent : s.send kind.primitive (s.configs.encoded kind) = (.ok (), middle))
    (rest : List RecordKind) :
    s.deliver (kind :: rest) =
        deliver rest { middle with configs := middle.configs.delivered kind } ∧
      s.deliveries (kind :: rest) = s.attempt kind.primitive (s.configs.encoded kind) ::
        deliveries rest { middle with configs := middle.configs.delivered kind } ∧
      (s.attempt kind.primitive (s.configs.encoded kind)).sent = true := by
  refine ⟨by simp only [deliver, sent], by simp only [deliveries, sent], ?_⟩
  simp [attempt, sent, Except.isOk, Except.toBool]

/-- A delivery that goes through leaves the channel in place; one that fails gives it up. -/
theorem deliver_cases {s : Session} (held : s.channel.isSome) (kinds : List RecordKind) :
    (s.deliver kinds).2.config = s.config ∧ (s.deliver kinds).2.waitTag = s.waitTag ∧
      ((s.deliver kinds).1 = .ok () ∧ (s.deliver kinds).2.channel.isSome ∧
          (s.deliver kinds).2.state = s.state ∧ (∀ a ∈ s.deliveries kinds, a.sent = true) ∨
        (∃ e, (s.deliver kinds).1 = .error e) ∧ (s.deliver kinds).2.channel = none ∧
          (s.deliver kinds).2.state = .disconnected) := by
  induction kinds generalizing s with
  | nil => exact ⟨rfl, rfl, .inl ⟨rfl, held, rfl, by simp [deliveries]⟩⟩
  | cons kind rest ih =>
    obtain ⟨c, own⟩ := Option.isSome_iff_exists.1 held
    rcases send_cases own kind.primitive (s.configs.encoded kind) with
      ⟨outcome, _⟩ | ⟨e, after, part, outcome, _⟩
    · obtain ⟨same, attempts, sent⟩ := deliver_cons_ok outcome rest
      rw [same, attempts]
      obtain ⟨config, tag, ⟨ok, there, state, all⟩ | gone⟩ := ih (s := { s with
        channel := some (c.send (.of kind.primitive (s.configs.encoded kind))).2
        configs := s.configs.delivered kind }) rfl
      · refine ⟨config, tag, .inl ⟨ok, there, state, fun a member => ?_⟩⟩
        rcases List.mem_cons.1 member with rfl | member
        · exact sent
        · exact all a member
      · exact ⟨config, tag, .inr gone⟩
    · rw [(deliver_cons_error outcome rest).1]
      exact ⟨rfl, rfl, .inr ⟨⟨_, rfl⟩, rfl, rfl⟩⟩

theorem sends_deliver (kinds : List RecordKind) (s : Session) :
    Sends s (s.deliveries kinds) (s.deliver kinds).2 := by
  induction kinds generalizing s with
  | nil => exact sends_nothing s
  | cons kind rest ih =>
    have first := sends_send kind.primitive (s.configs.encoded kind) s
    cases outcome : s.send kind.primitive (s.configs.encoded kind) with
    | mk result middle =>
      rw [outcome] at first
      cases result with
      | error e =>
        obtain ⟨same, attempts, _⟩ := deliver_cons_error outcome rest
        rw [same, attempts]
        exact first
      | ok =>
        obtain ⟨same, attempts, sent⟩ := deliver_cons_ok outcome rest
        rw [same, attempts]
        exact first.append (channel_of_send outcome) (by simp [sent])
          (ih { middle with configs := middle.configs.delivered kind })

theorem complete_cases {s : Session} {c : Channel} (held : s.channel = some c)
    (flag : Option ReadyFlag) (tag : Option UInt64) :
    ∃ final, final.written = c.written ∧
      ((∃ e, (s.complete flag tag).1 = .error e ∧ (s.complete flag tag).2.2 =
          { s with channel := none, retired := some final, state := .disconnected }) ∨
        ∃ output, (s.complete flag tag).1 = .ok output ∧
          (s.complete flag tag).2.2 = { s with channel := some final, state := .configured }) := by
  have waited := c.awaitCompletion_cases s.config.completion flag tag
  rw [complete, held]
  dsimp only
  split
  · rename_i e after final outcome
    rw [outcome] at waited
    exact ⟨final.shutdown, waited.1, .inl ⟨_, rfl, by simp [fail, waited.2 e rfl]⟩⟩
  · rename_i outcome after final completed
    rw [completed] at waited
    exact ⟨final, waited.1, .inr ⟨_, rfl, rfl⟩⟩

theorem finishWait_cases {s : Session} {c : Channel} (held : s.channel = some c) (awaited : Awaited)
    (flag : Option ReadyFlag) :
    ∃ final, final.written = c.written ∧
      ((∃ e, (s.finishWait awaited flag).1 = .error e ∧ (s.finishWait awaited flag).2.2 =
          { s with channel := none, retired := some final, state := .disconnected }) ∨
        ∃ output, (s.finishWait awaited flag).1 = .ok output ∧
          (s.finishWait awaited flag).2.2 =
            { s with channel := some final, state := .configured }) := by
  cases awaited with
  | reply tag => exact complete_cases held none (some tag)
  | word => exact complete_cases held flag none
  | nothing => exact ⟨c, rfl, .inr ⟨_, rfl, by simp [finishWait, held]⟩⟩

@[simp] theorem code_attempt (kind : PrimitiveCode) (payload : Bytes) (s : Session) :
    (s.attempt kind payload).primitive.kind? = some kind :=
  PrimitiveCode.ofWire?_wire kind

@[simp] theorem kind?_attempt (kind : PrimitiveCode) (payload : Bytes) (s : Session) :
    (s.attempt kind payload).kind? = RecordKind.ofPrimitive? kind := by
  rw [attempt, Attempt.kind?, Primitive.of, Primitive.kind?, PrimitiveCode.ofWire?_wire]
  rfl

theorem kind_attempt (kind : RecordKind) (payload : Bytes) (s : Session) :
    (s.attempt kind.primitive payload).kind? = some kind := by
  cases kind <;> simp [RecordKind.primitive, RecordKind.ofPrimitive?]

theorem mem_deliveries {kinds : List RecordKind} {s : Session} {a : Attempt}
    (member : a ∈ s.deliveries kinds) :
    ∃ (kind : RecordKind) (t : Session),
      a = t.attempt kind.primitive (t.configs.encoded kind) := by
  induction kinds generalizing s with
  | nil => cases member
  | cons kind rest ih =>
    cases outcome : s.send kind.primitive (s.configs.encoded kind) with
    | mk result middle =>
      cases result with
      | error e =>
        rw [(deliver_cons_error outcome rest).2.1, List.mem_singleton] at member
        exact ⟨kind, s, member⟩
      | ok =>
        rw [(deliver_cons_ok outcome rest).2.1] at member
        rcases List.mem_cons.1 member with first | member
        · exact ⟨kind, s, first⟩
        · exact ih member

theorem waitAttempt_eq (output : Descriptor) (hasFlag : Bool) (s : Session) :
    ∃ payload, s.waitAttempt output hasFlag = s.attempt .wait payload ∧ payload.length ≤ 255 := by
  rw [waitAttempt]
  split
  · refine ⟨_, rfl, ?_⟩
    split <;> simp [Descriptor.wireSize]
  · have short := WaitRequest.length_encode_le ⟨output, some (nextTag s.waitTag)⟩
    exact ⟨_, rfl, Nat.le_trans short (by decide)⟩

/-- All that a call tries to send: records, and a primitive of its own. -/
theorem mem_attempts {call : SessionCall} {s : Session} {a : Attempt}
    (member : a ∈ s.attempts call) :
    (∃ (kind : RecordKind) (t : Session),
        a = t.attempt kind.primitive (t.configs.encoded kind)) ∨
      ∃ (code : PrimitiveCode) (payload : Bytes) (t : Session), call.code? = some code ∧
        a = t.attempt code payload ∧ payload.length ≤ 255 := by
  cases call with
  | attach c =>
    simp only [attempts, List.mem_ite_nil_right, List.mem_singleton] at member
    exact .inr ⟨_, _, _, rfl, member.2, s.config.length_toPayload⟩
  | init attempt =>
    cases attempt with
    | error e => cases member
    | ok c =>
      simp only [attempts, List.mem_ite_nil_right, List.mem_singleton] at member
      exact .inr ⟨_, _, _, rfl, member.2, s.config.length_toPayload⟩
  | control request =>
    simp only [attempts] at member
    split at member
    · cases member
    · exact .inl (mem_deliveries member)
  | start input =>
    simp only [attempts, List.mem_ite_nil_right, List.mem_append] at member
    rcases member.2 with delivery | last
    · exact .inl (mem_deliveries delivery)
    · split at last
      · cases last
      · refine .inr ⟨_, _, _, rfl, List.mem_singleton.1 last, ?_⟩
        rw [startPayload]
        split <;> simp [Descriptor.wireSize]
  | wait output flag =>
    obtain ⟨payload, same, short⟩ := s.waitAttempt_eq output flag.isSome
    simp only [attempts, List.mem_ite_nil_right, List.mem_singleton, same] at member
    exact .inr ⟨_, payload, _, rfl, member.2, short⟩
  | genRegs | reset | flush | deinit =>
    simp only [attempts, List.mem_ite_nil_right, List.mem_singleton] at member
    exact .inr ⟨_, _, _, rfl, member.2, by simp⟩

theorem code_of_mem {call : SessionCall} {s : Session} {a : Attempt} (member : a ∈ s.attempts call)
    {code : PrimitiveCode} (carries : a.primitive.kind? = some code)
    (plain : RecordKind.ofPrimitive? code = none) : call.code? = some code := by
  rcases mem_attempts member with ⟨kind, t, rfl⟩ | ⟨own, payload, t, named, rfl, _⟩
  · rw [code_attempt] at carries
    cases carries
    cases kind <;> cases plain
  · rw [code_attempt] at carries
    exact named.trans carries

theorem short_of_mem {call : SessionCall} {s : Session} {a : Attempt}
    (member : a ∈ s.attempts call) : a.primitive.payload.length < 2 ^ 32 := by
  have small {n : Nat} (short : n ≤ 255) : n < 2 ^ 32 := Nat.lt_of_le_of_lt short (by decide)
  rcases mem_attempts member with ⟨kind, t, rfl⟩ | ⟨_, payload, t, _, rfl, short⟩
  · exact small (t.configs.length_encoded kind)
  · exact small short

end Session

end CodecLink
