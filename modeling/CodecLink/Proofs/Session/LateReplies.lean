import CodecLink.Proofs.Session.Exchange

/-! No reply is taken for another wait than the one whose request it answers. Requests are numbered
in the order of the waits, the dispatcher hands each number back, and a wait takes its own only. -/
namespace CodecLink

theorem Attempt.Wrote.whole {attempts : List Attempt} {bs : Bytes} (wrote : Wrote attempts bs)
    (short : ∀ a ∈ attempts, a.primitive.payload.length < 2 ^ 32) :
    ∀ p ∈ Frame.whole bs, ∃ a ∈ attempts, a.primitive = p := by
  induction wrote with
  | nil => simp
  | @sent a rest bs _ _ ih =>
    rw [Frame.whole_bytes_append (short a (by simp))]
    intro p member
    rcases List.mem_cons.1 member with rfl | member
    · exact ⟨a, by simp, rfl⟩
    · obtain ⟨b, present, same⟩ := ih (fun b present => short b (by simp [present])) p member
      exact ⟨b, by simp [present], same⟩
  | @failed a part _ front =>
    intro p member
    -- The whole frame may be out even so, if only the flush behind it failed.
    rcases Frame.whole_part (short a (by simp)) front with none_whole | rfl
    · rw [none_whole] at member
      cases member
    · have one := Frame.whole_bytes_append (short a (by simp)) []
      rw [List.append_nil, Frame.whole_nil] at one
      rw [one, List.mem_singleton] at member
      exact ⟨a, by simp, member.symm⟩

namespace Session

theorem finishWait_frames (tag : UInt64) {s : Session} {c : Channel} {timeoutMs : UInt64}
    {ps : List Primitive} {wire : Bytes} (held : s.channel = some c)
    (mode : s.config.completion = .roundTrip timeoutMs)
    (short : ∀ q ∈ ps, q.payload.length < 2 ^ 32)
    (frames : c.held ++ wire = ps.flatMap Frame.bytes) :
    (∃ e, (s.finishWait (.reply tag) none).1 = .error e ∧
        (s.finishWait (.reply tag) none).2.2.channel = none) ∨
      ∃ outcome after, (s.finishWait (.reply tag) none).1 = .ok (.ofOutcome outcome) ∧
        (s.finishWait (.reply tag) none).2.2.channel = some after ∧
          Channel.WaitEnds (some tag) wire ps (.ok outcome) after := by
  have ends := Channel.awaitReply_frames timeoutMs.toNat (some tag) short frames
  have fatal := (c.awaitReply_cases timeoutMs.toNat (some tag)).2
  rw [finishWait, complete, held]
  simp only [mode, Channel.awaitCompletion]
  cases ended : c.awaitReply timeoutMs.toNat (some tag) with
  | mk result after =>
    rw [ended] at ends fatal
    cases result with
    | error e => exact .inl ⟨_, rfl, by simp [fail, fatal e rfl]⟩
    | ok outcome => exact .inr ⟨outcome, after, rfl, rfl, ends⟩

end Session

/-- A request for a completed task has the number of its wait for a tag, and zero is no number. -/
def Request.Tagged (waits : Nat) (r : Request) : Prop :=
  r.primitive.kind? = some .wait → ∃ number output, r.wait = some number ∧ 0 < number ∧
    number ≤ waits ∧ r.primitive.payload = WaitRequest.encode ⟨output, some (.ofNat number)⟩

def Reply.Answers {σ : Type} (engines : EngineHost σ) (r : Reply σ) : Prop :=
  (r.handler.dispatch engines r.request.primitive).2.2 = some r.message

theorem Request.Tagged.mono {waits more : Nat} {r : Request} (tagged : r.Tagged waits)
    (grown : waits ≤ more) : r.Tagged more := by
  intro kind
  obtain ⟨number, output, label, proper, bounded, payload⟩ := tagged kind
  exact ⟨number, output, label, proper, Nat.le_trans bounded grown, payload⟩

theorem Reply.tag_of_answers {σ : Type} {engines : EngineHost σ} {r : Reply σ} {waits : Nat}
    (answers : r.Answers engines) (tagged : r.request.Tagged waits) :
    ∃ number, r.request.wait = some number ∧ 0 < number ∧ number ≤ waits ∧
      r.message.tag = some (.ofNat number) := by
  obtain ⟨kind, request, decoded, tag⟩ := Dispatcher.dispatch_reply answers
  obtain ⟨number, output, label, proper, bounded, payload⟩ := tagged kind
  refine ⟨number, label, proper, bounded, ?_⟩
  have filled : (WaitRequest.encode ⟨output, some (.ofNat number)⟩).isEmpty = false := by
    rw [List.isEmpty_eq_false_iff, ← List.length_pos_iff]
    simp [WaitRequest.encode]
  rw [payload, Dispatcher.decodeWait, filled, WaitRequest.decode_encode] at decoded
  cases decoded
  exact tag

namespace Exchange

variable {σ : Type} {engines : EngineHost σ}

/-- The bytes that the client is still to take, arrived or not. -/
def untaken (s : Exchange σ) : Bytes :=
  ((s.session.channel.map Channel.held).getD []) ++ s.wire

/-- What holds at every moment: the replies not yet taken are the bytes not yet taken, and whatever
is on its way is numbered. -/
structure Orderly (engines : EngineHost σ) (timeoutMs : UInt64) (s : Exchange σ) : Prop where
  mode : s.session.config.completion = .roundTrip timeoutMs
  settled : s.awaited = none → s.session.Settled
  submitted : ∀ a, s.awaited = some a →
    s.session.channel.isSome ∧ a = .reply s.session.waitTag ∧ 0 < s.waits
  count : s.session.waitTag.toNat = s.waits
  clean : ∀ c, s.session.latest = some c → c.written = []
  requests : ∀ r ∈ s.requests, r.Tagged s.waits
  replies : ∀ r ∈ s.replies, r.Answers engines ∧ r.request.Tagged s.waits
  bytes : s.untaken = frames s.replies

theorem short_replies (replies : List (Reply σ)) :
    ∀ p ∈ replies.map Reply.primitive, p.payload.length < 2 ^ 32 := by
  intro p member
  obtain ⟨r, _, rfl⟩ := List.mem_map.1 member
  exact Nat.lt_of_le_of_lt r.message.length_encode_le (by decide)

theorem whole_frames (replies : List (Reply σ)) :
    (Frame.whole (frames replies)).length = replies.length := by
  rw [frames, Frame.whole_frames (short_replies replies), List.length_map]

theorem orderly_start (config : SessionConfig) {timeoutMs : UInt64}
    (round : config.completion = .roundTrip timeoutMs) (host : Dispatcher σ) :
    Orderly engines timeoutMs { session := .ofConfig config, host } where
  mode := round
  settled _ := .inr ⟨rfl, by simp [Session.ofConfig, Session.openingStates]⟩
  submitted a submitted := by cases submitted
  count := rfl
  clean c present := by cases present
  requests r member := by cases member
  replies r member := by cases member
  bytes := rfl

@[simp] theorem latest_emptied (s : Session) : s.emptied.latest = s.latest.map Channel.emptied := by
  rw [Session.latest, Session.latest, Session.emptied]
  cases s.channel <;> rfl

theorem clean_emptied (s : Session) : ∀ c, s.emptied.latest = some c → c.written = [] := by
  intro c present
  rw [latest_emptied] at present
  cases own : s.latest with
  | none =>
    rw [own] at present
    cases present
  | some d =>
    rw [own] at present
    cases present
    rfl

theorem settled_emptied {s : Session} (settled : s.Settled) : s.emptied.Settled := by
  rcases settled with ⟨held, state⟩ | ⟨vacant, state⟩
  · exact .inl ⟨by simpa [Session.emptied] using held, state⟩
  · exact .inr ⟨by simp [Session.emptied, vacant], state⟩

theorem settle_vacant {s : Exchange σ} {after : Session} (label : Option Nat)
    (vacant : after.channel = none) :
    (s.settle label after).replies = s.replies ∧
      (s.settle label after).untaken = frames s.replies := by
  simp [settle, vacant, untaken, Session.emptied]

theorem settle_held {s : Exchange σ} {after : Session} {c : Channel} (label : Option Nat)
    (held : after.channel = some c) {taken left : List (Reply σ)} (all : s.replies = taken ++ left)
    (bytes : c.held ++ s.wire = frames left) :
    (s.settle label after).replies = left ∧ (s.settle label after).untaken = frames left := by
  have count : s.replies.length - left.length = taken.length := by
    rw [all, List.length_append]
    omega
  have same : c.emptied.held = c.held := rfl
  refine ⟨?_, ?_⟩
  · simp only [settle, held, bytes, whole_frames, count]
    rw [all, List.drop_left]
  · simp only [settle, held, untaken, Session.emptied, Option.map_some, Option.getD_some, same]
    exact bytes

theorem settle_fields (s : Exchange σ) (label : Option Nat) (after : Session) :
    (s.settle label after).session = after.emptied ∧ (s.settle label after).awaited = s.awaited ∧
      (s.settle label after).waits = s.waits ∧ (s.settle label after).requests =
        s.requests ++ (Frame.whole ((after.latest.map Channel.written).getD [])).map
          (Request.mk label) := by
  rw [settle]
  cases after.channel <;> exact ⟨rfl, rfl, rfl, rfl⟩

theorem waits_settle (s : Exchange σ) (label : Option Nat) (after : Session) :
    (s.settle label after).waits = s.waits :=
  (settle_fields s label after).2.2.1

/-- What a step of the client must leave for the exchange to stay in order. -/
theorem orderly_settle {timeoutMs : UInt64} {s : Exchange σ} {after : Session} {label : Option Nat}
    (mode : after.config.completion = .roundTrip timeoutMs)
    (settled : s.awaited = none → after.Settled)
    (submitted : ∀ a, s.awaited = some a →
      after.channel.isSome ∧ a = .reply after.waitTag ∧ 0 < s.waits)
    (count : after.waitTag.toNat = s.waits) (requests : ∀ r ∈ s.requests, r.Tagged s.waits)
    (sent : ∀ p ∈ Frame.whole ((after.latest.map Channel.written).getD []),
      Request.Tagged s.waits ⟨label, p⟩)
    (replies : ∀ r ∈ s.replies, r.Answers engines ∧ r.request.Tagged s.waits)
    (bytes : ∀ c, after.channel = some c →
      ∃ taken left, s.replies = taken ++ left ∧ c.held ++ s.wire = frames left) :
    Orderly engines timeoutMs (s.settle label after) := by
  obtain ⟨session, awaited, waits, queued⟩ := s.settle_fields label after
  have order : (s.settle label after).untaken = frames (s.settle label after).replies ∧
      ∀ r ∈ (s.settle label after).replies, r ∈ s.replies := by
    cases held : after.channel with
    | none =>
      obtain ⟨same, left⟩ := settle_vacant (s := s) label held
      exact ⟨by rw [left, same], by simp [same]⟩
    | some c =>
      obtain ⟨taken, left, all, whole⟩ := bytes c held
      obtain ⟨same, rest⟩ := settle_held label held all whole
      refine ⟨by rw [rest, same], fun r member => ?_⟩
      rw [same] at member
      rw [all]
      exact List.mem_append_right taken member
  constructor
  case mode => exact session ▸ mode
  case settled =>
    intro ended
    rw [session]
    exact settled_emptied (settled (awaited ▸ ended))
  case submitted =>
    intro a waiting
    rw [session, waits]
    obtain ⟨held, reply, some_wait⟩ := submitted a (awaited ▸ waiting)
    exact ⟨by simpa [Session.emptied] using held, reply, some_wait⟩
  case count =>
    rw [session, waits]
    exact count
  case clean =>
    rw [session]
    exact clean_emptied after
  case requests =>
    intro r member
    rw [queued, List.mem_append] at member
    rw [waits]
    rcases member with old | new
    · exact requests r old
    · obtain ⟨p, written, rfl⟩ := List.mem_map.1 new
      exact sent p written
  case replies =>
    intro r member
    rw [waits]
    exact replies r (order.2 r member)
  case bytes => exact order.1

theorem toNat_nextTag {tag : UInt64} (room : tag.toNat + 1 < 2 ^ 64) :
    (Session.nextTag tag).toNat = tag.toNat + 1 := by
  have sum : (tag + 1).toNat = tag.toNat + 1 := by
    rw [UInt64.toNat_add]
    exact Nat.mod_eq_of_lt room
  have proper : tag + 1 ≠ 0 := by
    intro zero
    rw [zero] at sum
    simp at sum
  rw [Session.nextTag, if_neg proper, sum]

theorem tagAfter_eq {s : Session} (round : s.config.completion.isPolling = false)
    (call : SessionCall) :
    s.tagAfter call = if call.submits s then Session.nextTag s.waitTag else s.waitTag := by
  cases call <;> simp [Session.tagAfter, SessionCall.submits, round]

theorem line_fresh {s : Session} (settled : s.Settled) {call : SessionCall} {c : Channel}
    (line : s.line call.fresh = some c) :
    s.channel = some c ∨ s.channel = none ∧ c.written = [] ∧ c.held = [] := by
  have opened (d : Channel) (given : (if s.state ∈ Session.openingStates then some d.fresh
      else s.channel) = some c) :
      s.channel = some c ∨ s.channel = none ∧ c.written = [] ∧ c.held = [] := by
    split at given
    · rename_i opening
      cases given
      exact .inr ⟨settled.vacant opening, rfl, rfl⟩
    · exact .inl given
  cases call with
  | attach d => exact opened d line
  | init attempt =>
    cases attempt with
    | error e => exact .inl line
    | ok d => exact opened d line
  | _ => exact .inl line

theorem wait_attempt {s : Session} (round : s.config.completion.isPolling = false)
    {call : SessionCall} {a : Attempt} (member : a ∈ s.attempts call)
    (kind : a.primitive.kind? = some .wait) :
    call.submits s = true ∧ ∃ output, a.primitive.payload =
      WaitRequest.encode ⟨output, some (Session.nextTag s.waitTag)⟩ := by
  have own := Session.code_of_mem member kind rfl
  cases call with
  | wait output flag =>
    simp only [Session.attempts, List.mem_ite_nil_right, List.mem_singleton] at member
    obtain ⟨running, rfl⟩ := member
    refine ⟨by simp [SessionCall.submits, running], output, ?_⟩
    rw [Session.waitAttempt, if_neg (by simp [round])]
    rfl
  | _ => cases own

theorem submits_of_awaited {s : Session} {call : SessionCall} {a : Awaited}
    (waiting : (s.begin call).1 = some a) : call.submits s = true := by
  cases call with
  | wait output flag =>
    rw [Session.begin, Session.submitWait] at waiting
    rcases s.require_cases "wait" [.running] with ⟨member, _⟩ | ⟨_, refused⟩
    · simpa [SessionCall.submits] using member
    · rw [refused] at waiting
      cases waiting
  | _ => cases waiting

/-- The channel that a call uses holds what is untaken, and nothing was written on it before. -/
theorem Orderly.line {timeoutMs : UInt64} {s : Exchange σ} (orderly : s.Orderly engines timeoutMs)
    (idle : s.awaited = none) {call : SessionCall} {c : Channel}
    (line : s.session.line call.fresh = some c) :
    c.written = [] ∧ c.held ++ s.wire = frames s.replies := by
  have bytes := orderly.bytes
  rcases line_fresh (orderly.settled idle) line with own | ⟨vacant, written, held⟩
  · refine ⟨orderly.clean c (by rw [Session.latest, own]; rfl), ?_⟩
    simpa [untaken, own] using bytes
  · refine ⟨written, ?_⟩
    simpa [untaken, vacant, held] using bytes

theorem Orderly.held_begin {timeoutMs : UInt64} {s : Exchange σ}
    (orderly : s.Orderly engines timeoutMs) (idle : s.awaited = none) (call : SessionCall)
    {d : Channel} (there : (s.session.begin call.fresh).2.channel = some d) :
    d.held ++ s.wire = frames s.replies := by
  have begun := Session.begun_begin (orderly.settled idle) call.fresh
  cases line : s.session.line call.fresh with
  | none =>
    rw [begun.idle line] at there
    simpa [untaken, there] using orderly.bytes
  | some c =>
    obtain ⟨final, bs, present, _, kept, _⟩ := begun.sends c line
    rw [Session.latest, there] at present
    cases present
    rw [kept]
    exact (orderly.line idle line).2

theorem Orderly.written_begin {timeoutMs : UInt64} {s : Exchange σ}
    (orderly : s.Orderly engines timeoutMs) (idle : s.awaited = none) (call : SessionCall)
    {p : Primitive} (member : p ∈ Frame.whole
      (((s.session.begin call.fresh).2.latest.map Channel.written).getD [])) :
    ∃ a ∈ s.session.attempts call.fresh, a.primitive = p := by
  have begun := Session.begun_begin (orderly.settled idle) call.fresh
  cases line : s.session.line call.fresh with
  | none =>
    rw [begun.idle line] at member
    cases latest : s.session.latest with
    | none => simp [latest] at member
    | some c => simp [latest, orderly.clean c latest] at member
  | some c =>
    obtain ⟨final, bs, present, written, _, wrote⟩ := begun.sends c line
    rw [present, Option.map_some, Option.getD_some, written, (orderly.line idle line).1,
      List.nil_append] at member
    exact wrote.whole (fun a present => Session.short_of_mem present) p member

theorem Orderly.begin {timeoutMs : UInt64} {s : Exchange σ} (orderly : s.Orderly engines timeoutMs)
    (idle : s.awaited = none) (call : SessionCall) (few : (s.begin call.fresh).waits < 2 ^ 64) :
    (s.begin call.fresh).Orderly engines timeoutMs := by
  have round : s.session.config.completion.isPolling = false := by
    rw [orderly.mode]
    rfl
  have begun := Session.begun_begin (orderly.settled idle) call.fresh
  have tags := begun.tag.trans (tagAfter_eq round call.fresh)
  have left : ∀ d, (s.session.begin call.fresh).2.channel = some d →
      ∃ taken left, s.replies = taken ++ left ∧ d.held ++ s.wire = frames left :=
    fun d there => ⟨[], s.replies, rfl, orderly.held_begin idle call there⟩
  have submitted (waits : Nat) (one : call.fresh.submits s.session = true → 0 < waits) :
      ∀ a, (s.session.begin call.fresh).1 = some a →
        (s.session.begin call.fresh).2.channel.isSome ∧
          a = .reply (s.session.begin call.fresh).2.waitTag ∧ 0 < waits := by
    intro a waiting
    obtain ⟨there, reply⟩ := begun.submitted a waiting
    exact ⟨there, reply round, one (submits_of_awaited waiting)⟩
  rw [Exchange.begin] at few ⊢
  cases submits : call.fresh.submits s.session with
  | true =>
    rw [submits, if_pos rfl] at few tags
    rw [if_pos rfl]
    have room : s.session.waitTag.toNat + 1 < 2 ^ 64 := by
      rw [orderly.count]
      simpa only [waits_settle] using few
    have next := (toNat_nextTag room).trans (congrArg (· + 1) orderly.count)
    refine orderly_settle (begun.config ▸ orderly.mode) begun.settled (submitted _ ?_) ?_ ?_ ?_ ?_
      left
    · simp
    · rw [tags]
      exact next
    · exact fun r member => (orderly.requests r member).mono (Nat.le_succ _)
    · intro p member kind
      obtain ⟨a, present, rfl⟩ := orderly.written_begin idle call member
      obtain ⟨_, output, payload⟩ := wait_attempt round present kind
      refine ⟨s.waits + 1, output, rfl, Nat.succ_pos _, Nat.le_refl _, ?_⟩
      rw [payload, ← next, UInt64.ofNat_toNat]
    · exact fun r member => ⟨(orderly.replies r member).1,
        (orderly.replies r member).2.mono (Nat.le_succ _)⟩
  | false =>
    rw [submits, if_neg (by simp)] at tags
    rw [if_neg (by simp)]
    refine orderly_settle (begun.config ▸ orderly.mode) begun.settled (submitted _ ?_) ?_
      orderly.requests ?_ orderly.replies left
    · simp [submits]
    · rw [tags]
      exact orderly.count
    · intro p member kind
      obtain ⟨a, present, rfl⟩ := orderly.written_begin idle call member
      rw [(wait_attempt round present kind).1] at submits
      cases submits

theorem split_replies {replies : List (Reply σ)} {taken rest : List Primitive}
    (all : replies.map Reply.primitive = taken ++ rest) :
    ∃ front back, replies = front ++ back ∧ front.map Reply.primitive = taken ∧
      back.map Reply.primitive = rest := by
  obtain ⟨front, back, same, first, second⟩ := List.map_eq_append_iff.1 all
  exact ⟨front, back, same, first, second⟩

theorem Orderly.awaiting {timeoutMs : UInt64} {s : Exchange σ}
    (orderly : s.Orderly engines timeoutMs) {a : Awaited} (waiting : s.awaited = some a) :
    ∃ c, s.session.channel = some c ∧ c.written = [] ∧ a = .reply s.session.waitTag ∧
      0 < s.waits ∧ c.held ++ s.wire = frames s.replies := by
  obtain ⟨there, reply, some_wait⟩ := orderly.submitted a waiting
  obtain ⟨c, held⟩ := Option.isSome_iff_exists.1 there
  refine ⟨c, held, orderly.clean c (by rw [Session.latest, held]; rfl), reply, some_wait, ?_⟩
  simpa [untaken, held] using orderly.bytes

theorem Orderly.finish {timeoutMs : UInt64} {s : Exchange σ} (orderly : s.Orderly engines timeoutMs)
    {a : Awaited} (waiting : s.awaited = some a) :
    ({ s with awaited := none }.settle none (s.session.finishWait a none).2.2).Orderly engines
      timeoutMs := by
  obtain ⟨c, held, written, reply, _, bytes⟩ := orderly.awaiting waiting
  subst reply
  have ends := Session.finishWait_frames s.session.waitTag held orderly.mode
    (short_replies s.replies) bytes
  have left : ∀ d, (s.session.finishWait (.reply s.session.waitTag) none).2.2.channel = some d →
      ∃ taken left, s.replies = taken ++ left ∧ d.held ++ s.wire = frames left := by
    intro d there
    rcases ends with ⟨e, _, gone⟩ | ⟨outcome, after, _, kept, ends⟩
    · cases gone.symm.trans there
    · cases kept.symm.trans there
      obtain ⟨taken, rest, all, left⟩ := ends.rest
      obtain ⟨front, back, same, _, rfl⟩ := split_replies all
      exact ⟨front, back, same, left⟩
  obtain ⟨final, same, ending⟩ :=
    Session.finishWait_cases held (.reply s.session.waitTag) none
  have quiet : final.written = [] := same.trans written
  rcases ending with ⟨e, _, after⟩ | ⟨output, _, after⟩
  · rw [after] at left ⊢
    refine orderly_settle orderly.mode (fun _ => Session.settled_gone rfl rfl) ?_ orderly.count
      orderly.requests ?_ orderly.replies left
    · intro a waiting
      cases waiting
    · simp [Session.latest, quiet]
  · rw [after] at left ⊢
    refine orderly_settle orderly.mode (fun _ => .inl ⟨rfl, by simp⟩) ?_ orderly.count
      orderly.requests ?_ orderly.replies left
    · intro a waiting
      cases waiting
    · simp [Session.latest, quiet]

theorem waits_step (engines : EngineHost σ) (s : Exchange σ) (event : ExchangeEvent σ) :
    s.waits ≤ (s.step engines event).waits := by
  cases event with
  | call call =>
    rw [step, begin]
    split
    · split
      · simp only [waits_settle, Nat.le_succ]
      · simp only [waits_settle, Nat.le_refl]
    · exact Nat.le_refl _
  | finish =>
    rw [step]
    split
    · exact Nat.le_refl _
    · simp only [waits_settle, Nat.le_refl]
  | arrive bytes stream =>
    rw [step]
    split
    · exact Nat.le_refl _
    · split <;> exact Nat.le_refl _
  | handle replied =>
    rw [step]
    split
    · exact Nat.le_refl _
    · dsimp only
      split
      · exact Nat.le_refl _
      · split <;> exact Nat.le_refl _
  | skip => exact Nat.le_refl _
  | lose requests replies =>
    rw [step]
    split <;> exact Nat.le_refl _
  | renew host => exact Nat.le_refl _

theorem frames_append (first second : List (Reply σ)) :
    frames (first ++ second) = frames first ++ frames second := by
  simp [frames]

theorem Orderly.arrive {timeoutMs : UInt64} {s : Exchange σ} (orderly : s.Orderly engines timeoutMs)
    {c : Channel} (held : s.session.channel = some c) {bytes : Nat} {stream : Stream}
    (written : stream.outbound.accepted = [])
    (more : Inbound.unread stream.inbound.steps =
      Inbound.unread c.stream.inbound.steps ++ s.wire.take bytes) :
    Orderly engines timeoutMs
      { s with session.channel := some { c with stream }, wire := s.wire.drop bytes } where
  mode := orderly.mode
  settled ended := by
    rcases orderly.settled ended with ⟨_, state⟩ | ⟨vacant, _⟩
    · exact .inl ⟨rfl, state⟩
    · cases held.symm.trans vacant
  submitted a waiting := ⟨rfl, (orderly.submitted a waiting).2⟩
  count := orderly.count
  clean d present := by
    cases present
    exact written
  requests := orderly.requests
  replies := orderly.replies
  bytes := by
    have before := orderly.bytes
    simp only [untaken, held, Option.map_some, Option.getD_some, Channel.held, more,
      List.append_assoc, List.take_append_drop] at before ⊢
    exact before

theorem Orderly.host {timeoutMs : UInt64} {s : Exchange σ} (orderly : s.Orderly engines timeoutMs)
    {host : Dispatcher σ} {requests : List Request} {replies : List (Reply σ)} {wire : Bytes}
    (queued : ∀ r ∈ requests, r ∈ s.requests)
    (answered : ∀ r ∈ replies, r.Answers engines ∧ r.request.Tagged s.waits)
    (bytes : ((s.session.channel.map Channel.held).getD []) ++ wire = frames replies) :
    Orderly engines timeoutMs { s with host, requests, replies, wire } where
  mode := orderly.mode
  settled := orderly.settled
  submitted := orderly.submitted
  count := orderly.count
  clean := orderly.clean
  requests r member := orderly.requests r (queued r member)
  replies := answered
  bytes := bytes

theorem Orderly.handle {timeoutMs : UInt64} {s : Exchange σ} (orderly : s.Orderly engines timeoutMs)
    (replied : Bool) : (s.step engines (.handle replied)).Orderly engines timeoutMs := by
  rw [step]
  split
  · exact orderly
  · rename_i request requests queue
    have queued : ∀ r ∈ requests, r ∈ s.requests := by
      intro r member
      rw [queue]
      exact List.mem_cons_of_mem _ member
    dsimp only
    split
    · exact orderly.host queued orderly.replies orderly.bytes
    · rename_i message answer
      split
      · refine orderly.host queued (fun r member => ?_) ?_
        · rcases List.mem_append.1 member with old | new
          · exact orderly.replies r old
          · rw [List.mem_singleton.1 new]
            exact ⟨answer, orderly.requests request (by rw [queue]; exact List.mem_cons_self)⟩
        · have before := orderly.bytes
          rw [untaken] at before
          rw [← List.append_assoc, before, frames_append]
          simp [frames]
      · exact orderly.host queued orderly.replies orderly.bytes

theorem Orderly.step {timeoutMs : UInt64} {s : Exchange σ} (orderly : s.Orderly engines timeoutMs)
    (event : ExchangeEvent σ) (few : (s.step engines event).waits < 2 ^ 64) :
    (s.step engines event).Orderly engines timeoutMs := by
  cases event with
  | call call =>
    rw [Exchange.step] at few ⊢
    cases idle : s.awaited with
    | some a => exact orderly
    | none =>
      rw [idle] at few
      exact orderly.begin idle call few
  | finish =>
    rw [Exchange.step]
    split
    · exact orderly
    · rename_i a waiting
      exact orderly.finish waiting
  | arrive bytes stream =>
    rw [Exchange.step]
    split
    · exact orderly
    · rename_i c held
      split
      · rename_i both
        exact orderly.arrive held both.1 both.2
      · exact orderly
  | handle replied => exact orderly.handle replied
  | skip =>
    exact orderly.host (fun r member => List.mem_of_mem_drop member) orderly.replies orderly.bytes
  | lose requests replies =>
    rw [Exchange.step]
    split
    · exact orderly
    · rename_i vacant
      refine orderly.host (fun r member => List.mem_of_mem_take member)
        (fun r member => orderly.replies r (List.mem_of_mem_take member)) ?_
      rw [vacant]
      rfl
  | renew host => exact orderly.host (fun _ member => member) orderly.replies orderly.bytes

theorem waits_foldl (engines : EngineHost σ) (events : List (ExchangeEvent σ)) (s : Exchange σ) :
    s.waits ≤ (events.foldl (Exchange.step engines) s).waits := by
  induction events generalizing s with
  | nil => exact Nat.le_refl _
  | cons event rest ih => exact Nat.le_trans (waits_step engines s event) (ih _)

theorem Orderly.foldl {timeoutMs : UInt64} {s : Exchange σ} (orderly : s.Orderly engines timeoutMs)
    (events : List (ExchangeEvent σ))
    (few : (events.foldl (Exchange.step engines) s).waits < 2 ^ 64) :
    (events.foldl (Exchange.step engines) s).Orderly engines timeoutMs := by
  induction events generalizing s with
  | nil => exact orderly
  | cons event rest ih =>
    have early := Nat.lt_of_le_of_lt (waits_foldl engines rest _) few
    exact ih (orderly.step event early) few

/-- A reply answers the wait under way exactly if it has that wait's number. -/
theorem Orderly.outcome {timeoutMs : UInt64} {s : Exchange σ}
    (orderly : s.Orderly engines timeoutMs) (few : s.waits < 2 ^ 64) {r : Reply σ}
    (member : r ∈ s.replies) :
    ∃ number, r.request.wait = some number ∧ number ≤ s.waits ∧
      Channel.replyOutcome? (some s.session.waitTag) r.primitive =
        if number = s.waits then some r.message.outcome else none := by
  obtain ⟨answers, tagged⟩ := orderly.replies r member
  obtain ⟨number, label, positive, bounded, tag⟩ := r.tag_of_answers answers tagged
  have word : (UInt64.ofNat number).toNat = number :=
    UInt64.toNat_ofNat_of_lt' (Nat.lt_of_le_of_lt bounded few)
  have proper : UInt64.ofNat number ≠ 0 := by
    intro zero
    rw [zero] at word
    simp only [UInt64.toNat_zero] at word
    omega
  refine ⟨number, label, bounded, ?_⟩
  rw [Reply.primitive, Channel.replyOutcome?_reply tag proper]
  have same : s.session.waitTag = UInt64.ofNat number ↔ number = s.waits := by
    rw [← UInt64.toNat_inj, word, orderly.count]
    exact eq_comm
  simp only [same]

theorem Orderly.answered {timeoutMs : UInt64} {s : Exchange σ}
    (orderly : s.Orderly engines timeoutMs) (few : s.waits < 2 ^ 64) {awaited : Awaited}
    (waiting : s.awaited = some awaited) {output : TaskOutput}
    (returned : (s.session.finishWait awaited none).1 = .ok output)
    (inTime : output.timedOut = false) :
    ∃ stale reply, s.replies = stale ++ reply :: (s.step engines .finish).replies ∧
      reply.request.wait = some s.waits ∧ reply.request.primitive.kind? = some .wait ∧
      reply.Answers engines ∧ output = .ofOutcome reply.message.outcome ∧
      ∀ other ∈ stale, ∃ number, other.request.wait = some number ∧ number < s.waits := by
  obtain ⟨c, held, _, rfl, _, bytes⟩ := orderly.awaiting waiting
  rcases Session.finishWait_frames s.session.waitTag held orderly.mode (short_replies s.replies)
    bytes with ⟨e, failed, _⟩ | ⟨outcome, after, completed, kept, ends⟩
  · cases failed.symm.trans returned
  · cases completed.symm.trans returned
    cases ends with
    | late => cases inTime
    | answered all passed answer left =>
      obtain ⟨stale, back, same, skipped, last⟩ := split_replies all
      cases back with
      | nil => cases last
      | cons reply rest =>
        obtain ⟨rfl, rfl⟩ := List.cons.inj last
        have step : (s.step engines .finish).replies = rest := by
          have all : s.replies = (stale ++ [reply]) ++ rest := by
            rw [same, List.append_assoc]
            rfl
          rw [Exchange.step, waiting]
          exact (settle_held (s := { s with awaited := none }) none kept all left).1
        have member : reply ∈ s.replies := by
          rw [same]
          simp
        obtain ⟨number, label, _, own⟩ := orderly.outcome few member
        rw [answer] at own
        have mine : number = s.waits := by
          by_cases mine : number = s.waits
          · exact mine
          · rw [if_neg mine] at own
            cases own
        rw [if_pos mine] at own
        have answers := (orderly.replies reply member).1
        refine ⟨stale, reply, by rw [step, same], mine ▸ label,
          (Dispatcher.dispatch_reply answers).1, answers, by cases own; rfl,
          fun other earlier => ?_⟩
        have present : other ∈ s.replies := by
          rw [same]
          exact List.mem_append_left _ earlier
        obtain ⟨number, label, bounded, other_outcome⟩ := orderly.outcome few present
        have silent := passed other.primitive (by
          rw [← skipped]
          exact List.mem_map_of_mem earlier)
        refine ⟨number, label, Nat.lt_of_le_of_ne bounded fun mine => ?_⟩
        rw [silent, if_pos mine] at other_outcome
        cases other_outcome

/-- A wait that does not run out of time returns what the dispatcher answered to its own request;
all replies passed over on the way belong to earlier waits. -/
theorem completion_of_own_request (engines : EngineHost σ) (config : SessionConfig)
    {timeoutMs : UInt64} (round : config.completion = .roundTrip timeoutMs) (host : Dispatcher σ)
    (events : List (ExchangeEvent σ)) (few : (run engines config host events).waits < 2 ^ 64)
    {awaited : Awaited} (waiting : (run engines config host events).awaited = some awaited)
    {output : TaskOutput}
    (returned : ((run engines config host events).session.finishWait awaited none).1 = .ok output)
    (inTime : output.timedOut = false) :
    let s := run engines config host events
    ∃ stale reply, s.replies = stale ++ reply :: (s.step engines .finish).replies ∧
      reply.request.wait = some s.waits ∧ reply.request.primitive.kind? = some .wait ∧
      reply.Answers engines ∧ output = .ofOutcome reply.message.outcome ∧
      ∀ other ∈ stale, ∃ number, other.request.wait = some number ∧ number < s.waits := by
  intro s
  have orderly : s.Orderly engines timeoutMs :=
    (orderly_start config round host).foldl events few
  exact orderly.answered few waiting returned inTime

/-- An engine whose results are as long as the number of the task. -/
def counting : EngineHost Unit where
  create _ engine := some engine
  perform _ regions engine := (.ok (), regions, engine)
  wait task regions engine := (.ok (.done task.sequence), regions, engine)

/-- Two tasks. The wait for the first is given up before the host does anything, and both replies
arrive during the second. -/
def overdue : List (ExchangeEvent Unit) :=
  let reply (number : UInt64) : Bytes :=
    Frame.bytes (.of .wait (WaitReply.encode ⟨.heap number, .done, some number⟩))
  [.call (.attach { id := "client" }), .call (.start {}), .call (.wait {} none), .finish,
    .call (.start {}), .call (.wait {} none), .handle true, .handle true, .handle true,
    .handle true, .handle true,
    .arrive 98 { inbound := { steps := [.data (reply 1 ++ reply 2)], ending := .idle } }]

theorem completion_behind_late_reply :
    let round : SessionConfig := { completion := .roundTrip 50 }
    let host : Dispatcher Unit :=
      { engine := (), session := some { config := round, applied := .blank .h264 } }
    let s := run counting round host overdue
    s.waits = 2 ∧ s.awaited = some (.reply 2) ∧
      (s.session.finishWait (.reply 2) none).1 = .ok ⟨2, .done 2, false⟩ ∧
      ∃ stale reply, s.replies = stale ++ reply :: (s.step counting .finish).replies ∧
        reply.request.wait = some 2 ∧ reply.request.primitive.kind? = some .wait ∧
        reply.Answers counting ∧
        (⟨2, .done 2, false⟩ : TaskOutput) = .ofOutcome reply.message.outcome ∧
        ∀ other ∈ stale, ∃ number, other.request.wait = some number ∧ number < 2 := by
  intro round host s
  have waits : s.waits = 2 := by decide +kernel
  have waiting : s.awaited = some (.reply 2) := by decide +kernel
  have found : (s.session.finishWait (.reply 2) none).1.toOption = some ⟨2, .done 2, false⟩ := by
    decide +kernel
  have returned : (s.session.finishWait (.reply 2) none).1 = .ok ⟨2, .done 2, false⟩ := by
    cases outcome : (s.session.finishWait (.reply 2) none).1 with
    | error e =>
      rw [outcome] at found
      cases found
    | ok output =>
      rw [outcome] at found
      cases found
      rfl
  have few : s.waits < 2 ^ 64 := by
    rw [waits]
    decide
  have own := completion_of_own_request counting round rfl host overdue few waiting returned rfl
  exact ⟨waits, waiting, returned, waits ▸ own⟩

end Exchange

end CodecLink
