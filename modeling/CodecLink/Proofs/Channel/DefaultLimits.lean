import CodecLink.Channel.Pair
import CodecLink.Proofs.Channel.Faultless

/-! Two channels of the default limits, joined back to back. The limit on sending is one on whole
frames and the limit on receiving one on payloads; a header is shorter than the allowance made for
it, so a few payloads are sent that are refused at the other end. All shorter ones are received as
they were sent. -/
namespace CodecLink

namespace Frame

theorem length_bytes (p : Primitive) :
    (bytes p).length =
      (Numeral.digits p.code.toNat).length + (Numeral.digits p.payload.length).length + 2 +
        p.payload.length := by
  simp only [bytes, Header.encode, List.length_append, List.length_singleton]
  omega

theorem payload_le_bytes (p : Primitive) : p.payload.length ≤ (bytes p).length := by
  rw [length_bytes]
  omega

end Frame

namespace PrimitiveCode

/-- The longest payload that is sent with this code under the default limits. -/
def longest (kind : PrimitiveCode) : Nat := if kind.wire.toNat < 10 then 514 else 513

theorem length_digits_wire (kind : PrimitiveCode) :
    (Numeral.digits kind.wire.toNat).length = if kind.wire.toNat < 10 then 1 else 2 := by
  have small : kind.wire.toNat < 10 ^ 2 := by cases kind <;> decide
  split
  · rename_i single
    exact Nat.le_antisymm (Numeral.length_digits_le single) (Numeral.length_digits_pos _)
  · rename_i double
    exact Numeral.length_digits_eq (k := 1) (Nat.not_lt.1 double) small

theorem admitted_iff (kind : PrimitiveCode) (payload : Bytes) :
    (Frame.bytes (.of kind payload)).length ≤ Frame.defaultCapacity ↔
      payload.length ≤ kind.longest := by
  have size : (Frame.bytes (.of kind payload)).length =
      (if kind.wire.toNat < 10 then 1 else 2) + (Numeral.digits payload.length).length + 2 +
        payload.length := by
    rw [← length_digits_wire]
    exact Frame.length_bytes _
  have most : Frame.defaultCapacity = 520 := rfl
  rw [size, most, longest]
  constructor
  · intro admitted
    by_contra longer
    -- So long a payload has a length of three digits or more.
    have digits : 2 < (Numeral.digits payload.length).length :=
      Numeral.length_digits_lt (by split at longer <;> omega)
    split at admitted <;> split at longer <;> omega
  · intro short
    have digits : (Numeral.digits payload.length).length ≤ 3 :=
      Numeral.length_digits_le (by split at short <;> omega)
    split at short <;> split <;> omega

end PrimitiveCode

namespace Channel

theorem Faultless.recv_within {c : Channel} (faultless : c.Faultless) {p : Primitive}
    (given : c.recv.1 = .ok p) : p.payload.length ≤ Frame.maxContextSize := by
  have most : c.reader.limits.maxPayload = Frame.maxContextSize := by
    rw [faultless.limits]
  simp only [Channel.recv, Reader.next] at given
  rcases Reader.pull_cases c.reader.limits.maxPayload c.stream.inbound.ending c.reader.buffer
    c.stream.inbound.steps with ⟨q, same, -, bounded⟩ | ⟨_, other, _⟩ | ⟨_, other, _⟩
  · rw [same] at given
    cases given
    exact most ▸ bounded
  · rw [other] at given
    cases given
  · rw [other] at given
    cases given

/-- A frame that arrived whole and holds too long a payload is refused. -/
theorem Faultless.recv_oversized {c : Channel} (faultless : c.Faultless) {p : Primitive}
    {ps : List Primitive} (word : ∀ q ∈ p :: ps, q.payload.length < 2 ^ 32)
    (frames : c.held = (p :: ps).flatMap Frame.bytes)
    (large : Frame.maxContextSize < p.payload.length) :
    c.recv.1 = .error (.frame (.tooLarge p.payload.length Frame.maxContextSize)) := by
  have first : FrameStream.head? { remaining := c.held } = some (.ok p) := by
    rw [frames, List.flatMap_cons, FrameStream.head?,
      FrameStream.next_bytes p (word p (by simp)) _]
    rfl
  rcases faultless.recv_cases.2 with
    ⟨q, given⟩ | ⟨e, front, given, ⟨more, all⟩, failed⟩ | ⟨-, -, unfinished⟩
  · obtain ⟨rest, same, -⟩ :=
      recv_ok word ((List.append_nil _).trans frames) (Prod.ext given rfl)
    cases same
    exact absurd (faultless.recv_within given) (Nat.not_le.2 large)
  · obtain ⟨stands, -⟩ := Frame.failureOf_take failed more
    rw [all, first] at stands
    rw [given, ← stands]
    rfl
  · obtain ⟨stands, -⟩ := Frame.failureOf_unfinished unfinished
    rw [first] at stands
    cases stands

/-- Both directions at rest at this end: nothing written waits to be handed over, and what was
handed over is the frames of these primitives. -/
structure Rests (c : Channel) (ps : List Primitive) : Prop where
  faultless : c.Faultless
  clean : c.written = []
  untimed : c.recvTimeout = none
  frames : c.held = ps.flatMap Frame.bytes

end Channel

def Side.other : Side → Side
  | .left => .right
  | .right => .left

/-- Something done at one end of a pair: a primitive of the protocol is sent, or one received. -/
inductive PairMove
  | send (side : Side) (kind : PrimitiveCode) (payload : Bytes)
  | recv (side : Side)
  deriving DecidableEq

inductive PairAnswer
  | sent (result : Except ChannelError Unit)
  | received (result : Except ChannelError Primitive)

namespace ChannelPair

/-- Two ends of the default limits. -/
def joined : ChannelPair where
  left := some (.ofLimits "left" 2 {})
  right := some (.ofLimits "right" 2 {})

def act : PairMove → ChannelPair → Option PairAnswer × ChannelPair
  | .send side kind payload, pair =>
    let (result, pair) := pair.move side fun c => c.send (.of kind payload)
    (result.map .sent, pair)
  | .recv side, pair =>
    let (result, pair) := pair.move side Channel.recv
    (result.map .received, pair)

def answers : List PairMove → ChannelPair → List (Option PairAnswer)
  | [], _ => []
  | m :: ms, pair => (pair.act m).1 :: answers ms (pair.act m).2

end ChannelPair

/-- The primitives sent to each side and not received there. -/
def Lines : Type := Side → List Primitive

namespace Lines

def empty : Lines := fun _ => []

def put (side : Side) (ps : List Primitive) (lines : Lines) : Lines :=
  fun other => if other = side then ps else lines other

/-- What a pair answers, told by the primitives under way, and these afterwards unless one was
refused that had been sent. -/
def act : PairMove → Lines → PairAnswer × Option Lines
  | .send side kind payload, lines =>
    if payload.length ≤ kind.longest then
      (.sent (.ok ()), some (lines.put side.other (lines side.other ++ [.of kind payload])))
    else
      (.sent (.error (.frame (.tooLarge (Frame.bytes (.of kind payload)).length
        Frame.defaultCapacity))), some lines)
  | .recv side, lines =>
    match lines side with
    | [] => (.received (.error (.timeout 0)), some lines)
    | p :: rest =>
      if p.payload.length ≤ Frame.maxContextSize then
        (.received (.ok p), some (lines.put side rest))
      else
        (.received (.error (.frame (.tooLarge p.payload.length Frame.maxContextSize))), none)

@[simp] theorem put_self (lines : Lines) (side : Side) (ps : List Primitive) :
    lines.put side ps side = ps := if_pos rfl

@[simp] theorem put_other (lines : Lines) (side : Side) (ps : List Primitive) :
    lines.put side ps side.other = lines side.other := by
  cases side <;> rfl

@[simp] theorem put_of_other (lines : Lines) (side : Side) (ps : List Primitive) :
    lines.put side.other ps side = lines side := by
  cases side <;> rfl

theorem forall_put {holds : Primitive → Prop} {lines : Lines} {ps : List Primitive} (side : Side)
    (all : ∀ at_side, ∀ p ∈ lines at_side, holds p) (fresh : ∀ p ∈ ps, holds p) (at_side : Side) :
    ∀ p ∈ lines.put side ps at_side, holds p := by
  rw [put]
  split
  · exact fresh
  · exact all at_side

/-- The answers up to the first refusal of a primitive that had been sent. -/
def answers : List PairMove → Lines → List PairAnswer
  | [], _ => []
  | m :: ms, lines =>
    match act m lines with
    | (answer, none) => [answer]
    | (answer, some lines) => answer :: answers ms lines

end Lines

namespace Channel

variable {c : Channel} {ps : List Primitive} {p : Primitive}

@[simp] theorem arrive_nil (c : Channel) : c.arrive [] = c := by
  simp [arrive, Inbound.push]

theorem emptied_of_clean (clean : c.written = []) : c.emptied = c := by
  obtain ⟨id, tag, timeout, reader, ⟨inbound, ⟨writes, flushes, broken, accepted⟩⟩⟩ := c
  cases clean
  rfl

theorem Rests.sent (rests : c.Rests ps) : (c.grown (Frame.bytes p)).emptied.Rests ps where
  faultless := (rests.faultless.grown _).emptied
  clean := rfl
  untimed := rests.untimed
  frames := rests.frames

theorem Rests.arrived (rests : c.Rests ps) : (c.arrive (Frame.bytes p)).Rests (ps ++ [p]) where
  faultless := rests.faultless.arrive _
  clean := rests.clean
  untimed := rests.untimed
  frames := by
    rw [held_arrive rests.faultless, rests.frames, List.flatMap_append, List.flatMap_singleton]

theorem Rests.received {left : List Primitive} (rests : c.Rests ps) (after : c.recv.2.Faultless)
    (frames : c.recv.2.held = left.flatMap Frame.bytes) : c.recv.2.Rests left where
  faultless := after
  clean := rests.clean
  untimed := rests.untimed
  frames := frames

end Channel

namespace ChannelPair

variable {pair : ChannelPair} {side : Side} {own other : Channel}

theorem other?_eq (pair : ChannelPair) (side : Side) : pair.other? side = pair.get? side.other := by
  cases side <;> rfl

theorem move_ends {α : Type} (action : Channel → α × Channel) (here : pair.get? side = some own)
    (there : pair.get? side.other = some other) (clean : other.written = [])
    (intact : other.stream.outbound.broken = false)
    (kept : (action own).2.stream.outbound.broken = false) :
    pair.move side action =
      (some (action own).1,
        ofEnds (some (action own).2.emptied) (some (other.arrive (action own).2.written))
          side) := by
  have silent : other.stream.outbound.accepted = [] := clean
  have rests : (other.arrive (action own).2.written).emptied =
      other.arrive (action own).2.written := Channel.emptied_of_clean clean
  rw [move, here, other?_eq, there]
  simp only [Channel.exchange, intact, kept, silent, Bool.or_self, Channel.arrive_nil]
  rw [← rests]
  rfl

/-- The ends hold the frames of these primitives, each of which could be sent. -/
structure Carries (pair : ChannelPair) (lines : Lines) : Prop where
  ends : ∀ side, ∃ c, pair.get? side = some c ∧ c.Rests (lines side)
  sent : ∀ side, ∀ p ∈ lines side, (Frame.bytes p).length ≤ Frame.defaultCapacity

theorem ends_ofEnds {lines : Lines} (here : own.Rests (lines side))
    (there : other.Rests (lines side.other)) (at_side : Side) :
    ∃ c, (ofEnds (some own) (some other) side).get? at_side = some c ∧ c.Rests (lines at_side) := by
  cases side <;> cases at_side
  · exact ⟨own, rfl, here⟩
  · exact ⟨other, rfl, there⟩
  · exact ⟨other, rfl, there⟩
  · exact ⟨own, rfl, here⟩

theorem Carries.send {lines : Lines} (carries : pair.Carries lines) (side : Side)
    (kind : PrimitiveCode) (payload : Bytes) :
    (pair.act (.send side kind payload)).1 = some (lines.act (.send side kind payload)).1 ∧
      ∀ next, (lines.act (.send side kind payload)).2 = some next →
        (pair.act (.send side kind payload)).2.Carries next := by
  obtain ⟨own, here, own_rests⟩ := carries.ends side
  obtain ⟨other, there, other_rests⟩ := carries.ends side.other
  have intact := other_rests.faultless.intact
  rw [Lines.act, act]
  by_cases short : payload.length ≤ kind.longest
  · have room := (kind.admitted_iff payload).2 short
    have sent := own_rests.faultless.send_admitted room
    rw [move_ends _ here there other_rests.clean intact
      (by rw [sent]; exact own_rests.faultless.intact), sent, if_pos short]
    refine ⟨rfl, fun next same => ?_⟩
    cases same
    have written : (own.grown (Frame.bytes (.of kind payload))).written =
        Frame.bytes (.of kind payload) := by
      rw [Channel.written_grown, own_rests.clean, List.nil_append]
    refine ⟨ends_ofEnds ?_ ?_, Lines.forall_put _ carries.sent ?_⟩
    · rw [Lines.put_of_other]
      exact own_rests.sent
    · rw [Lines.put_self, written]
      exact other_rests.arrived
    · intro p member
      rcases List.mem_append.1 member with before | last
      · exact carries.sent side.other p before
      · cases List.mem_singleton.1 last
        exact room
  · have refused := own_rests.faultless.send_refused
      (Nat.not_le.1 fun room => short ((kind.admitted_iff payload).1 room))
    rw [move_ends _ here there other_rests.clean intact
      (by rw [refused]; exact own_rests.faultless.intact), refused, if_neg short]
    refine ⟨rfl, fun next same => ?_⟩
    cases same
    have quiet : other.arrive own.written = other := by
      rw [own_rests.clean, Channel.arrive_nil]
    rw [quiet, Channel.emptied_of_clean own_rests.clean]
    exact ⟨ends_ofEnds own_rests other_rests, carries.sent⟩

theorem Carries.recv {lines : Lines} (carries : pair.Carries lines) (side : Side) :
    (pair.act (.recv side)).1 = some (lines.act (.recv side)).1 ∧
      ∀ next, (lines.act (.recv side)).2 = some next →
        (pair.act (.recv side)).2.Carries next := by
  obtain ⟨own, here, rests⟩ := carries.ends side
  obtain ⟨other, there, other_rests⟩ := carries.ends side.other
  have moved := move_ends Channel.recv here there other_rests.clean
    other_rests.faultless.intact rests.faultless.intact
  have quiet : other.arrive own.recv.2.written = other := by
    rw [Channel.written_recv, rests.clean, Channel.arrive_nil]
  have clean : own.recv.2.emptied = own.recv.2 := Channel.emptied_of_clean rests.clean
  rw [quiet, clean] at moved
  rw [Lines.act, act, moved]
  have frames := rests.frames
  cases queue : lines side with
  | nil =>
    rw [queue] at frames
    have nothing : own.held ++ [] = List.flatMap Frame.bytes [] := (List.append_nil _).trans frames
    obtain ⟨after, outcome⟩ := rests.faultless.recv (by simp) nothing
    rcases outcome with ⟨_, _, absent, -⟩ | ⟨late, kept, -⟩
    · cases absent
    · rw [rests.untimed] at late
      refine ⟨congrArg (fun result => some (PairAnswer.received result)) late, fun next same => ?_⟩
      cases same
      refine ⟨ends_ofEnds ?_ other_rests, carries.sent⟩
      rw [queue]
      exact rests.received after (kept.trans frames)
  | cons p rest =>
    rw [queue] at frames
    have sent := carries.sent side
    rw [queue] at sent
    have words : ∀ q ∈ p :: rest, q.payload.length < 2 ^ 32 := fun q member =>
      Nat.lt_of_le_of_lt (Nat.le_trans (Frame.payload_le_bytes q) (sent q member)) (by decide)
    dsimp only
    split
    · rename_i short
      obtain ⟨given, after, left⟩ := rests.faultless.recv_first short words frames
      refine ⟨congrArg (fun result => some (PairAnswer.received result)) (congrArg Prod.fst given),
        fun next same => ?_⟩
      cases same
      refine ⟨ends_ofEnds ?_ ?_, Lines.forall_put _ carries.sent ?_⟩
      · rw [Lines.put_self]
        exact rests.received after left
      · rw [Lines.put_other]
        exact other_rests
      · exact fun q member => sent q (by simp [member])
    · rename_i large
      have refused := rests.faultless.recv_oversized words frames (Nat.not_le.1 large)
      exact ⟨congrArg (fun result => some (PairAnswer.received result)) refused, nofun⟩

theorem act_carries {lines : Lines} (carries : pair.Carries lines) (m : PairMove) :
    (pair.act m).1 = some (lines.act m).1 ∧
      ∀ next, (lines.act m).2 = some next → (pair.act m).2.Carries next := by
  cases m with
  | send side kind payload => exact carries.send side kind payload
  | recv side => exact carries.recv side

theorem joined_carries : joined.Carries .empty where
  ends side := by
    have fresh (id : String) : (Channel.ofLimits id 2 {}).Rests [] :=
      ⟨Channel.faultless_ofLimits id 2 none, rfl, rfl, rfl⟩
    cases side
    · exact ⟨_, rfl, fresh "left"⟩
    · exact ⟨_, rfl, fresh "right"⟩
  sent _ _ member := absurd member List.not_mem_nil

end ChannelPair

/-- A payload is too long to be received and short enough to be sent. -/
def PairMove.oversteps : PairMove → Bool
  | .send _ kind payload => Frame.maxContextSize < payload.length && payload.length ≤ kind.longest
  | .recv _ => false

namespace Lines

/-- All primitives under way can be received. -/
def Receivable (lines : Lines) : Prop :=
  ∀ side, ∀ p ∈ lines side, p.payload.length ≤ Frame.maxContextSize

theorem act_receivable {lines : Lines} (receivable : lines.Receivable) {m : PairMove}
    (within : m.oversteps = false) : ∃ next, (lines.act m).2 = some next ∧ next.Receivable := by
  cases m with
  | send side kind payload =>
    rw [act]
    split
    · rename_i short
      refine ⟨_, rfl, forall_put _ receivable fun p member => ?_⟩
      rcases List.mem_append.1 member with before | last
      · exact receivable side.other p before
      · cases List.mem_singleton.1 last
        have small : payload.length ≤ Frame.maxContextSize := by
          simpa [PairMove.oversteps, short] using within
        exact small
    · exact ⟨lines, rfl, receivable⟩
  | recv side =>
    rw [act]
    have front := receivable side
    cases queue : lines side with
    | nil => exact ⟨lines, rfl, receivable⟩
    | cons p rest =>
      rw [queue] at front
      dsimp only
      rw [if_pos (front p (by simp))]
      exact ⟨_, rfl, forall_put _ receivable fun q member => front q (by simp [member])⟩

end Lines

theorem ChannelPair.answers_carries {pair : ChannelPair} {lines : Lines}
    (carries : pair.Carries lines) (moves : List PairMove) :
    ∃ more, pair.answers moves = (lines.answers moves).map some ++ more ∧
      (lines.Receivable → (∀ m ∈ moves, m.oversteps = false) → more = []) := by
  induction moves generalizing pair lines with
  | nil => exact ⟨[], rfl, fun _ _ => rfl⟩
  | cons m moves ih =>
    obtain ⟨answered, kept⟩ := act_carries carries m
    rw [ChannelPair.answers, Lines.answers, answered]
    rcases acted : lines.act m with ⟨answer, _ | next⟩
    · refine ⟨_, rfl, fun receivable within => ?_⟩
      obtain ⟨next, same, -⟩ := Lines.act_receivable receivable (within m (by simp))
      rw [acted] at same
      cases same
    · rw [acted] at kept
      obtain ⟨more, same, full⟩ := ih (kept next rfl)
      refine ⟨more, by rw [same]; rfl, fun receivable within => ?_⟩
      obtain ⟨other, given, onward⟩ := Lines.act_receivable receivable (within m (by simp))
      rw [acted] at given
      cases given
      exact full onward fun m member => within m (by simp [member])

/-- However sends and receptions at the two ends alternate, they are answered as two queues answer
them: sent is what the limit on frames admits, and received is what was sent first, exactly as it
was sent, up to the first payload beyond the limit on payloads. There is no such payload unless one
was sent that is longer than that limit and within the other. -/
theorem answers_of_default_limits (moves : List PairMove) :
    ∃ more, ChannelPair.joined.answers moves =
        (Lines.empty.answers moves).map some ++ more ∧
      (more = [] ∨ ∃ m ∈ moves, m.oversteps = true) := by
  obtain ⟨more, same, full⟩ := ChannelPair.answers_carries ChannelPair.joined_carries moves
  refine ⟨more, same, ?_⟩
  by_cases within : ∀ m ∈ moves, m.oversteps = false
  · exact .inl (full (fun _ _ member => absurd member List.not_mem_nil) within)
  · right
    simpa using within

/-- A payload of one byte more than is received by default is sent without an error. -/
theorem oversized_payload_sent :
    let payload : Bytes := List.replicate 513 0
    let (sent, pair) := ChannelPair.joined.move .left fun c => c.send (.of .start payload)
    sent = some (.ok ()) ∧
      (pair.move .right Channel.recv).1 = some (.error (.frame (.tooLarge 513 512))) := by
  decide +kernel

end CodecLink
