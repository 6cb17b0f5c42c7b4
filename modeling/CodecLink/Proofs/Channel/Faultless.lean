import CodecLink.Proofs.Channel.Replies

/-! A channel on which nothing goes wrong: every write is taken whole, what arrives stays in order,
and the other end is there. Sending puts one frame on it, and receiving takes the first frame off it
or, as long as none is whole, nothing. -/
namespace CodecLink

namespace Frame

theorem within_default {n : Nat} (small : n ≤ 255) : n ≤ maxContextSize :=
  Nat.le_trans small (by decide)

theorem length_bytes_le {p : Primitive} (short : p.payload.length ≤ 255) :
    (bytes p).length ≤ defaultCapacity := by
  have code := Numeral.length_digits_word p.code.toNat_lt
  have size := Numeral.length_digits_le (n := p.payload.length) (k := 2)
    (Nat.lt_of_le_of_lt short (by decide))
  simp only [Header.maxDigits] at code
  simp only [bytes, Header.encode, List.length_append, List.length_singleton, defaultCapacity,
    maxContextSize]
  omega

theorem take_bytes {p : Primitive} (short : p.payload.length ≤ maxContextSize) (rest : Bytes) :
    take maxContextSize (bytes p ++ rest) = .ok (some (p, rest)) := by
  have word : p.payload.length < 2 ^ 32 := Nat.lt_of_le_of_lt short (by decide)
  have scanned : Header.scan (Header.encode p.code p.payload.length ++ (p.payload ++ rest)) =
      .ok (some ⟨p.code, p.payload.length, (Header.encode p.code p.payload.length).length⟩) :=
    Header.scan_encode p.code word (p.payload ++ rest)
  rw [bytes, List.append_assoc, take, scanned]
  simp only [if_neg (Nat.not_lt.2 short), List.length_append, List.drop_left, List.take_left]
  rw [if_neg (by omega)]

/-- No front of a run of frames within the limit on payloads is refused. -/
theorem take_front {ps : List Primitive} (short : ∀ q ∈ ps, q.payload.length ≤ maxContextSize)
    {front : Bytes} (prefixed : front <+: ps.flatMap bytes) (e : FrameError) :
    take maxContextSize front ≠ .error e := by
  intro failed
  obtain ⟨more, all⟩ := prefixed
  have unfit := (failureOf_take failed more).2.1
  rw [all] at unfit
  cases ps with
  | nil =>
    obtain ⟨rfl, -⟩ := List.append_eq_nil_iff.1 all
    cases failed
  | cons p ps =>
    have small := short p (by simp)
    have next :=
      FrameStream.next_bytes p (Nat.lt_of_le_of_lt small (by decide)) (ps.flatMap bytes)
    have fit := unfit (.ok p) (by rw [List.flatMap_cons, FrameStream.head?, next]; rfl)
    have inside : fits maxContextSize (.ok p) = true := decide_eq_true small
    rw [inside] at fit
    cases fit

end Frame

namespace Inbound

def Filled (steps : List ReadStep) : Prop := ∀ step ∈ steps, ∃ b bs, step = .data (b :: bs)

theorem unread_append (steps more : List ReadStep) :
    unread (steps ++ more) = unread steps ++ unread more := by
  simp [unread]

theorem push_filled {source : Inbound} (filled : Filled source.steps) (bs : Bytes) :
    Filled (source.push bs).steps ∧ (source.push bs).ending = source.ending ∧
      unread (source.push bs).steps = unread source.steps ++ bs := by
  have longer {steps : List ReadStep} (front : Filled steps) (b : UInt8) (bs : Bytes) :
      Filled (steps ++ [.data (b :: bs)]) := by
    intro step member
    rcases List.mem_append.1 member with before | last
    · exact front step before
    · exact ⟨b, bs, List.mem_singleton.1 last⟩
  obtain ⟨steps, ending⟩ := source
  cases bs with
  | nil => exact ⟨filled, rfl, by simp [push]⟩
  | cons b bs =>
    rcases List.eq_nil_or_concat steps with rfl | ⟨front, last, rfl⟩
    · exact ⟨longer filled b bs, rfl, by simp [push]⟩
    · rw [List.concat_eq_append] at filled ⊢
      obtain ⟨q, queued, rfl⟩ := filled last (by simp)
      have joined : push (b :: bs) ⟨front ++ [.data (q :: queued)], ending⟩ =
          ⟨front ++ [.data (q :: queued ++ b :: bs)], ending⟩ := by
        simp [push]
      rw [joined]
      refine ⟨longer (fun step member => filled step (by simp [member])) q _, rfl, ?_⟩
      simp [unread_append]

end Inbound

namespace Reader

open Inbound

/-- On a stream that only brings bytes, reading ends with a frame, with the refusal of a front of
what there is, or with nothing while all of it is no whole frame. -/
theorem pull_quiet (maxPayload : Nat) {ending : Ending} (idle : ending = .idle) (buffer : Bytes)
    {steps : List ReadStep} (filled : Filled steps) :
    let after := pull maxPayload ending buffer steps
    Filled after.steps ∧
      ((∃ p, after.result = .ok p) ∨
        (∃ e front, after.result = .error e ∧ front <+: buffer ++ unread steps ∧
          Frame.take maxPayload front = .error e) ∨
        after.result = .error (.io .wouldBlock) ∧
          after.buffer ++ unread after.steps = buffer ++ unread steps ∧
          Frame.take maxPayload (buffer ++ unread steps) = .ok none) := by
  fun_induction pull maxPayload ending buffer steps with
  | case1 buffer steps p rest taken => exact ⟨filled, .inl ⟨p, rfl⟩⟩
  | case2 buffer steps e failed =>
    exact ⟨filled, .inr (.inl ⟨e, buffer, rfl, List.prefix_append _ _, failed⟩)⟩
  | case3 _ _ finished => cases idle.symm.trans finished
  | case4 buffer unfinished => exact ⟨filled, .inr (.inr ⟨rfl, rfl, by simpa using unfinished⟩)⟩
  | case5 buffer _ fault rest =>
    obtain ⟨b, bs, same⟩ := filled (.fault fault) (by simp)
    cases same
  | case6 buffer _ fault rest =>
    obtain ⟨b, bs, same⟩ := filled (.fault fault) (by simp)
    cases same
  | case7 buffer _ rest =>
    obtain ⟨b, bs, same⟩ := filled (.data []) (by simp)
    cases same
  | case8 buffer _ b bs rest _ ih =>
    have same : buffer ++ unread (.data (b :: bs) :: rest) =
        (buffer ++ b :: bs) ++ unread rest := by
      simp
    rw [same]
    exact ih fun step member => filled step (by simp [member])
  | case9 buffer _ b bs rest long ih =>
    have same : buffer ++ unread (.data (b :: bs) :: rest) =
        (buffer ++ (b :: bs).take chunkSize) ++
          unread (.data ((b :: bs).drop chunkSize) :: rest) := by
      rw [List.append_assoc, unread_cut]
    rw [same]
    refine ih fun step member => ?_
    rcases List.mem_cons.1 member with rfl | later
    · cases cut : (b :: bs).drop chunkSize with
      | nil =>
        have size := congrArg List.length cut
        simp only [List.length_drop, List.length_cons, List.length_nil] at size
        omega
      | cons b bs => exact ⟨b, bs, rfl⟩
    · exact filled step (by simp [later])

end Reader

namespace Channel

/-- A channel of the default limits that takes every write whole and has nothing but bytes to be
read. -/
structure Faultless (c : Channel) : Prop where
  limits : c.reader.limits = {}
  writes : c.stream.outbound.writes = []
  flushes : c.stream.outbound.flushes = []
  intact : c.stream.outbound.broken = false
  filled : Inbound.Filled c.stream.inbound.steps
  idle : c.stream.inbound.ending = .idle

theorem faultless_ofLimits (id : String) (tag : UInt8) (timeout : Option Millis) :
    (ofLimits id tag {} timeout).Faultless := by
  constructor <;> first | rfl | simp [ofLimits, Inbound.Filled]

/-- The channel with more written on it. -/
def grown (bs : Bytes) (c : Channel) : Channel :=
  { c with stream := { c.stream with outbound :=
      { c.stream.outbound with accepted := c.stream.outbound.accepted ++ bs } } }

@[simp] theorem written_grown (bs : Bytes) (c : Channel) :
    (c.grown bs).written = c.written ++ bs := rfl

@[simp] theorem grown_nil (c : Channel) : c.grown [] = c := by simp [grown]

@[simp] theorem grown_grown (bs more : Bytes) (c : Channel) :
    (c.grown bs).grown more = c.grown (bs ++ more) := by simp [grown]

theorem held_arrive {c : Channel} (faultless : c.Faultless) (bs : Bytes) :
    (c.arrive bs).held = c.held ++ bs := by
  rw [held, held, List.append_assoc, ← (Inbound.push_filled faultless.filled bs).2.2]
  rfl

namespace Faultless

variable {c : Channel}

theorem grown (faultless : c.Faultless) (bs : Bytes) : (c.grown bs).Faultless :=
  { faultless with }

theorem emptied (faultless : c.Faultless) : c.emptied.Faultless := { faultless with }

theorem arrive (faultless : c.Faultless) (bs : Bytes) : (c.arrive bs).Faultless := by
  obtain ⟨filled, ending, _⟩ := Inbound.push_filled faultless.filled bs
  exact { faultless with filled, idle := ending.trans faultless.idle }

theorem send_admitted (faultless : c.Faultless) {p : Primitive}
    (room : (Frame.bytes p).length ≤ Frame.defaultCapacity) :
    c.send p = (.ok (), c.grown (Frame.bytes p)) := by
  have admitted : (Frame.bytes p).length ≤ c.limits.maxFrame := by
    rw [Channel.limits, faultless.limits]
    exact room
  have filled : (Frame.bytes p).isEmpty = false := by
    simp [Frame.bytes, Header.encode]
  have written : Writer.writeAll (Frame.bytes p) c.stream.outbound =
      (.ok (), (c.grown (Frame.bytes p)).stream.outbound) := by
    rw [Writer.writeAll, faultless.writes, Writer.writeAll.go, filled, faultless.intact]
    simp [Channel.grown, faultless.writes, faultless.intact]
  have flushed : Writer.flush (c.grown (Frame.bytes p)).stream.outbound =
      (.ok (), (c.grown (Frame.bytes p)).stream.outbound) := by
    have none_left : (c.grown (Frame.bytes p)).stream.outbound.flushes = [] := faultless.flushes
    rw [Writer.flush, none_left, Writer.flush.go]
    simp [Channel.grown, faultless.flushes]
  rw [Channel.send, Writer.send_admitted admitted]
  simp only [written, flushed]
  rfl

theorem send (faultless : c.Faultless) {p : Primitive} (short : p.payload.length ≤ 255) :
    c.send p = (.ok (), c.grown (Frame.bytes p)) :=
  faultless.send_admitted (Frame.length_bytes_le short)

theorem send_refused (faultless : c.Faultless) {p : Primitive}
    (large : Frame.defaultCapacity < (Frame.bytes p).length) :
    c.send p =
      (.error (.frame (.tooLarge (Frame.bytes p).length Frame.defaultCapacity)), c) := by
  have refused : Frame.encode c.limits.maxFrame p =
      .error (.tooLarge (Frame.bytes p).length Frame.defaultCapacity) := by
    rw [Channel.limits, faultless.limits]
    exact if_pos large
  rw [Channel.send, Writer.send, refused]
  rfl

/-- What receiving can give: a primitive, the refusal of a front of what is there, or nothing while
all of it is no whole frame. -/
theorem recv_cases (faultless : c.Faultless) :
    c.recv.2.Faultless ∧
      ((∃ p, c.recv.1 = .ok p) ∨
        (∃ e front, c.recv.1 = .error (c.readError e) ∧ front <+: c.held ∧
          Frame.take Frame.maxContextSize front = .error e) ∨
        c.recv.1 = .error (.timeout (c.recvTimeout.getD 0)) ∧ c.recv.2.held = c.held ∧
          Frame.take Frame.maxContextSize c.held = .ok none) := by
  have most : c.reader.limits.maxPayload = Frame.maxContextSize := by
    rw [faultless.limits]
  obtain ⟨filled, outcome⟩ :=
    Reader.pull_quiet c.reader.limits.maxPayload faultless.idle c.reader.buffer faultless.filled
  refine ⟨{ faultless with filled }, ?_⟩
  rcases outcome with ⟨p, given⟩ | ⟨e, front, given, prefixed, failed⟩ | ⟨quiet, kept, unfinished⟩
  · refine .inl ⟨p, ?_⟩
    simp only [Channel.recv, Reader.next, given, Except.mapError]
  · refine .inr (.inl ⟨e, front, ?_, prefixed, most ▸ failed⟩)
    simp only [Channel.recv, Reader.next, given, Except.mapError]
  · refine .inr (.inr ⟨?_, kept, most ▸ unfinished⟩)
    simp only [Channel.recv, Reader.next, quiet]
    rfl

/-- Of frames within the limit on payloads the first is received once it is there, and nothing is
lost before. -/
theorem recv (faultless : c.Faultless) {ps : List Primitive} {wire : Bytes}
    (short : ∀ p ∈ ps, p.payload.length ≤ Frame.maxContextSize)
    (frames : c.held ++ wire = ps.flatMap Frame.bytes) :
    c.recv.2.Faultless ∧
      ((∃ p rest, ps = p :: rest ∧ c.recv.1 = .ok p ∧
          c.recv.2.held ++ wire = rest.flatMap Frame.bytes) ∨
        c.recv.1 = .error (.timeout (c.recvTimeout.getD 0)) ∧ c.recv.2.held = c.held ∧
          Frame.take Frame.maxContextSize c.held = .ok none) := by
  obtain ⟨after, outcome⟩ := faultless.recv_cases
  refine ⟨after, ?_⟩
  rcases outcome with ⟨p, given⟩ | ⟨e, front, -, prefixed, failed⟩ | late
  · have fits : ∀ q ∈ ps, q.payload.length < 2 ^ 32 := fun q member =>
      Nat.lt_of_le_of_lt (short q member) (by decide)
    obtain ⟨rest, same, left⟩ := recv_ok fits frames (Prod.ext given rfl)
    exact .inl ⟨p, rest, same, given, left⟩
  · have whole := prefixed.trans (frames ▸ List.prefix_append _ _)
    exact absurd failed (Frame.take_front short whole e)
  · exact .inr late

/-- The first of the frames is received if it arrived whole and within the limit on payloads. -/
theorem recv_first (faultless : c.Faultless) {p : Primitive} {ps : List Primitive}
    (short : p.payload.length ≤ Frame.maxContextSize)
    (words : ∀ q ∈ p :: ps, q.payload.length < 2 ^ 32)
    (frames : c.held = (p :: ps).flatMap Frame.bytes) :
    c.recv = (.ok p, c.recv.2) ∧ c.recv.2.Faultless ∧
      c.recv.2.held = ps.flatMap Frame.bytes := by
  obtain ⟨after, outcome⟩ := faultless.recv_cases
  rcases outcome with ⟨q, given⟩ | ⟨e, front, -, ⟨more, all⟩, failed⟩ | ⟨-, -, unfinished⟩
  · obtain ⟨rest, same, left⟩ :=
      recv_ok words ((List.append_nil _).trans frames) (Prod.ext given rfl)
    cases same
    exact ⟨Prod.ext given rfl, after, by rwa [List.append_nil] at left⟩
  · have first : FrameStream.head? { remaining := c.held } = some (.ok p) := by
      rw [frames, List.flatMap_cons, FrameStream.head?,
        FrameStream.next_bytes p (words p (by simp)) _]
      rfl
    have unfit := (Frame.failureOf_take failed more).2.1
    rw [all, first] at unfit
    have fit : Frame.fits Frame.maxContextSize (.ok p) = true := decide_eq_true short
    rw [unfit (.ok p) rfl] at fit
    cases fit
  · rw [frames, List.flatMap_cons, Frame.take_bytes short] at unfinished
    cases unfinished

theorem recv_arrived (faultless : c.Faultless) {p : Primitive} {ps : List Primitive}
    (short : ∀ q ∈ p :: ps, q.payload.length ≤ Frame.maxContextSize)
    (frames : c.held = (p :: ps).flatMap Frame.bytes) :
    c.recv = (.ok p, c.recv.2) ∧ c.recv.2.Faultless ∧
      c.recv.2.held = ps.flatMap Frame.bytes :=
  faultless.recv_first (short p (by simp))
    (fun q member => Nat.lt_of_le_of_lt (short q member) (by decide)) frames

end Faultless

end Channel

end CodecLink
