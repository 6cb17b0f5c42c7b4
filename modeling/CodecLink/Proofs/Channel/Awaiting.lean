import CodecLink.Proofs.Channel.Replies

/-! Waiting for a reply on a channel of which everything that will be read is there already. The
wait passes over what is no answer to it and takes the first primitive that is one; where there is
none, what stands behind the primitives tells how it ends. The deadline that each round of it sets
is gone afterwards. -/
namespace CodecLink

/-- A step that brings bytes, or one that reading passes over. -/
def ReadStep.isQueued : ReadStep → Bool
  | data bs => !bs.isEmpty
  | fault f => f.kind = .interrupted

namespace Reader

open Inbound

/-- What a read finds behind the last byte. -/
def exhausted : Ending → FrameError
  | .finished => .connectionClosed
  | .idle => .io .wouldBlock

/-- Reading a queue takes the one-shot stream's next item if it is a frame within the bound on
payloads. It fails otherwise: as that item says or, for lack of bytes, as the end of the queue does,
and a lack of bytes costs none of them. -/
theorem pull_queued (maxPayload : Nat) (ending : Ending) (buffer : Bytes) {steps : List ReadStep}
    (queued : ∀ step ∈ steps, step.isQueued = true) :
    let after := pull maxPayload ending buffer steps
    let held : FrameStream := { remaining := buffer ++ unread steps }
    (∀ step ∈ after.steps, step.isQueued = true) ∧
      ((∃ p, after.result = .ok p ∧ p.payload.length ≤ maxPayload ∧
          held.next = some (.ok p, { remaining := after.buffer ++ unread after.steps })) ∨
        (∀ item ∈ held.head?, Frame.fits maxPayload item = false) ∧
          (Frame.failureOf maxPayload held.head? ≠ .connectionClosed ∧
              after.result = .error (Frame.failureOf maxPayload held.head?) ∧
              (∀ fault, Frame.failureOf maxPayload held.head? ≠ .io fault) ∨
            Frame.failureOf maxPayload held.head? = .connectionClosed ∧
              after.result = .error (exhausted ending) ∧
              after.buffer ++ unread after.steps = buffer ++ unread steps)) := by
  fun_induction pull maxPayload ending buffer steps with
  | case1 buffer steps p rest taken =>
    obtain ⟨next, bounded⟩ := Frame.next_of_take taken (unread steps)
    exact ⟨queued, .inl ⟨p, rfl, bounded, next⟩⟩
  | case2 buffer steps e failed =>
    obtain ⟨stands, unfit, still_open, given⟩ := Frame.failureOf_take failed (unread steps)
    refine ⟨queued, .inr ⟨unfit, .inl ?_⟩⟩
    rw [stands]
    exact ⟨still_open, rfl, given⟩
  | case3 buffer unfinished | case4 buffer unfinished =>
    obtain ⟨stands, unfit⟩ := Frame.failureOf_unfinished unfinished
    rw [unread_nil, List.append_nil]
    refine ⟨queued, .inr ⟨unfit, .inr ⟨stands, ?_, List.append_nil buffer⟩⟩⟩
    simp [exhausted, *]
  | case5 buffer _ fault rest _ ih => exact ih fun step member => queued step (by simp [member])
  | case6 buffer _ fault rest reported =>
    have passed : decide (fault.kind = .interrupted) = true := queued (.fault fault) (by simp)
    exact absurd (of_decide_eq_true passed) reported
  | case7 buffer _ rest => cases queued (.data []) (by simp)
  | case8 buffer _ b bs rest _ ih =>
    rw [unread_data, ← List.append_assoc]
    exact ih fun step member => queued step (by simp [member])
  | case9 buffer _ b bs rest long ih =>
    rw [List.append_assoc, unread_cut] at ih
    refine ih fun step member => ?_
    -- A piece that is longer than a read leaves a rest, which is queued because it is not empty.
    rcases List.mem_cons.1 member with rfl | later
    · have left : (b :: bs).drop chunkSize ≠ [] := by
        rw [← List.length_pos_iff, List.length_drop, List.length_cons]
        omega
      simpa [ReadStep.isQueued] using left
    · exact queued step (by simp [later])

theorem fitting_frames {maxPayload : Nat} {ps : List Primitive}
    (bounded : ∀ p ∈ ps, p.payload.length ≤ maxPayload) (words : maxPayload < 2 ^ 32) :
    fitting maxPayload (ps.flatMap Frame.bytes) = ps.map .ok := by
  induction ps with
  | nil =>
    have ended : FrameStream.head? { remaining := [] } = none := rfl
    exact (fitting_stopped (by simp [ended])).1
  | cons p ps ih =>
    have short := bounded p (by simp)
    have next := FrameStream.next_bytes p (Nat.lt_of_le_of_lt short words) (ps.flatMap Frame.bytes)
    rw [List.flatMap_cons, (fitting_next next short).1, List.map_cons,
      ih fun q member => bounded q (by simp [member])]

end Reader

namespace Channel

/-- The primitive is a reply to the wait of the given tag. A reply and a wait with a tag belong
together if it is the same. -/
structure Replies (tag : Option UInt64) (p : Primitive) (reply : WaitReply) : Prop where
  kind : p.kind? = some .wait
  decoded : WaitReply.decode p.payload = .ok reply
  meant : ∀ wanted got, tag = some wanted → reply.tag = some got → wanted = got

theorem Replies.outcome {tag : Option UInt64} {p : Primitive} {reply : WaitReply}
    (replies : Replies tag p reply) : replyOutcome? tag p = some reply.outcome := by
  obtain ⟨kind, decoded, meant⟩ := replies
  simp only [replyOutcome?, kind, decoded, ne_eq, not_true_eq_false, if_false, WaitReply.outcome]
  cases tag with
  | none => cases reply.status <;> rfl
  | some wanted =>
    cases tagged : reply.tag with
    | none => cases reply.status <;> rfl
    | some got =>
      simp only [meant wanted got rfl tagged, bne_self_eq_false, Bool.false_eq_true, if_false]
      cases reply.status <;> rfl

theorem exists_replies {tag : Option UInt64} {p : Primitive} {outcome : WaitOutcome}
    (answer : replyOutcome? tag p = some outcome) : ∃ reply, Replies tag p reply := by
  rw [replyOutcome?] at answer
  split at answer
  · cases answer
  · rename_i kind
    split at answer
    · cases answer
    · rename_i reply decoded
      refine ⟨reply, Decidable.not_not.1 kind, decoded, ?_⟩
      rintro wanted got rfl tagged
      by_contra other
      simp [tagged, other] at answer

theorem replyOutcome?_eq_none {tag : Option UInt64} {p : Primitive}
    (silent : ∀ reply, ¬Replies tag p reply) : replyOutcome? tag p = none := by
  by_contra spoken
  obtain ⟨outcome, answer⟩ := Option.ne_none_iff_exists'.1 spoken
  obtain ⟨reply, replies⟩ := exists_replies answer
  exact silent reply replies

/-- Nothing but bytes is to be read, and every byte that will be is there. -/
def Queued (c : Channel) : Prop := ∀ step ∈ c.stream.inbound.steps, step.isQueued = true

instance (c : Channel) : Decidable c.Queued := List.decidableBAll _ c.stream.inbound.steps

/-- The primitives that stand at the front of what is there, up to one that is no frame or is larger
than the channel admits. -/
def arrived (c : Channel) : List Primitive :=
  (Reader.fitting c.limits.maxPayload c.held).filterMap Except.toOption

/-- How a wait ends that finds no reply before this failure. A lack of bytes is what the end of the
queue makes of it. -/
def unansweredBy (ending : Ending) : FrameError → Except ChannelError WaitOutcome
  | .connectionClosed =>
    match ending with
    | .idle => .ok .timeout
    | .finished => .error (.disconnected .closedByPeer)
  | e => .error (.frame e)

/-- What reading comes to behind the primitives that arrived. -/
def failure (c : Channel) : FrameError := Reader.failure c.limits.maxPayload c.held

def unanswered (c : Channel) : Except ChannelError WaitOutcome :=
  unansweredBy c.stream.inbound.ending c.failure

/-- The channel with other bytes to be read on it. -/
def holding (buffer : Bytes) (steps : List ReadStep) (c : Channel) : Channel :=
  { c with
    reader := { c.reader with buffer }
    stream := { c.stream with inbound := { c.stream.inbound with steps } } }

/-- The channel with another deadline. -/
def timed (deadline : Option Millis) (c : Channel) : Channel := { c with recvTimeout := deadline }

/-- A read that timed out is no error to the wait that made it. -/
def lapsed (e : ChannelError) : Except ChannelError WaitOutcome :=
  if e.isTimeout then .ok .timeout else .error e

/-- What a wait makes of the outcome of a read; nothing if it reads on. -/
def settled? (tag : Option UInt64) :
    Except ChannelError Primitive → Option (Except ChannelError WaitOutcome)
  | .error e => some (lapsed e)
  | .ok p => (replyOutcome? tag p).map .ok

/-- Frames within the limit on payloads arrive as the primitives that they were made of. -/
theorem arrived_of_frames {c : Channel} {ps : List Primitive}
    (frames : c.held = ps.flatMap Frame.bytes)
    (bounded : ∀ p ∈ ps, p.payload.length ≤ c.limits.maxPayload)
    (words : c.limits.maxPayload < 2 ^ 32) : c.arrived = ps := by
  rw [arrived, frames, Reader.fitting_frames bounded words, List.filterMap_map]
  exact List.filterMap_some

theorem firstReply_eq (tag : Option UInt64) (c : Channel) :
    firstReply tag c =
      match settled? tag c.recv.1 with
      | some result => (result, c.recv.2)
      | none => firstReply tag c.recv.2 := by
  rw [firstReply]
  split
  · rename_i e after received
    simp only [received, settled?, lapsed]
    split <;> rfl
  · rename_i p after received
    simp only [received, settled?]
    split <;> simp_all

theorem settled?_timed (tag : Option UInt64) (deadline : Option Millis) (c : Channel) :
    settled? tag (c.timed deadline).recv.1 = settled? tag c.recv.1 := by
  simp only [timed, recv]
  cases (c.reader.next c.stream.inbound).1 with
  | ok p => rfl
  | error e =>
    by_cases late : e.isTimeout = true <;>
      simp [Except.mapError, readError, late, settled?, lapsed, ChannelError.isTimeout]

/-- The deadline of a search has no part in its outcome. -/
theorem firstReply_timed (tag : Option UInt64) (deadline : Option Millis) (c : Channel) :
    firstReply tag (c.timed deadline) =
      ((firstReply tag c).1, (firstReply tag c).2.timed deadline) := by
  have moved (c : Channel) : (c.timed deadline).recv.2 = c.recv.2.timed deadline := rfl
  fun_induction firstReply tag c with
  | case1 c e after received late =>
    rw [firstReply_eq, settled?_timed, moved, received]
    simp [settled?, lapsed, late]
  | case2 c e after received fatal =>
    rw [firstReply_eq, settled?_timed, moved, received]
    simp [settled?, lapsed, fatal]
  | case3 c p after received outcome answer =>
    rw [firstReply_eq, settled?_timed, moved, received]
    simp [settled?, answer]
  | case4 c p after received silent ih =>
    rw [firstReply_eq, settled?_timed, moved, received]
    simpa [settled?, silent] using ih

/-- Searching takes bytes off the channel and changes nothing else of it. -/
theorem firstReply_holding (tag : Option UInt64) (c : Channel) :
    ∃ buffer steps, (firstReply tag c).2 = c.holding buffer steps := by
  have moved {c after : Channel} {result : Except ChannelError Primitive}
      (received : c.recv = (result, after)) : ∃ buffer steps, after = c.holding buffer steps :=
    ⟨_, _, (congrArg Prod.snd received).symm⟩
  fun_induction firstReply tag c with
  | case1 c e after received => exact moved received
  | case2 c e after received => exact moved received
  | case3 c p after received => exact moved received
  | case4 c p after received silent ih =>
    obtain ⟨_, _, rfl⟩ := moved received
    exact ih

theorem lapsed_refused (c : Channel) (ending : Ending) {e : FrameError}
    (still_open : e ≠ .connectionClosed) (given : ∀ fault, e ≠ .io fault) :
    lapsed (c.readError e) = unansweredBy ending e := by
  cases e with
  | malformedHeader | truncated | tooLarge => rfl
  | io fault => exact absurd rfl (given fault)
  | connectionClosed => exact absurd rfl still_open

theorem lapsed_exhausted (c : Channel) (ending : Ending) :
    lapsed (c.readError (Reader.exhausted ending)) = unansweredBy ending .connectionClosed := by
  cases ending <;> rfl

variable {c : Channel}

/-- Receiving from a queue gives the first of its primitives. Where there is none a wait is over,
and a lack of bytes costs none of them. -/
theorem Queued.recv (queued : c.Queued) :
    c.recv.2.Queued ∧
      ((∃ p, c.recv.1 = .ok p ∧ c.arrived = p :: c.recv.2.arrived ∧
          c.recv.2.failure = c.failure ∧
          FrameStream.next { remaining := c.held } =
            some (.ok p, { remaining := c.recv.2.held })) ∨
        c.arrived = [] ∧ (∃ e, c.recv.1 = .error e ∧ lapsed e = c.unanswered) ∧
          (c.failure = .connectionClosed → c.recv.2.held = c.held)) := by
  obtain ⟨kept, ⟨p, given, bounded, next⟩ | ⟨unfit, outcome⟩⟩ :=
    Reader.pull_queued c.limits.maxPayload c.stream.inbound.ending c.reader.buffer queued
  · obtain ⟨front, behind⟩ := Reader.fitting_next next bounded
    refine ⟨kept, .inl ⟨p, ?_, ?_, ?_, next⟩⟩
    · exact congrArg (Except.mapError c.readError) given
    · exact congrArg (List.filterMap Except.toOption) front
    · exact behind.symm
  · obtain ⟨front, behind⟩ := Reader.fitting_stopped unfit
    have failed : c.failure = _ := behind
    rw [← failed] at outcome
    refine ⟨kept, .inr ⟨congrArg (List.filterMap Except.toOption) front, ?_, fun closed => ?_⟩⟩
    · rcases outcome with ⟨still_open, refused, given⟩ | ⟨closed, ended, -⟩
      · exact ⟨_, congrArg (Except.mapError c.readError) refused,
          lapsed_refused c _ still_open given⟩
      · refine ⟨_, congrArg (Except.mapError c.readError) ended, ?_⟩
        rw [lapsed_exhausted, unanswered, closed]
    · rcases outcome with ⟨still_open, -⟩ | ⟨-, -, left⟩
      · exact absurd closed still_open
      · exact left

/-- Receiving a queue to its end gives the primitives that arrived. -/
theorem Queued.recvAll (queued : c.Queued) : c.recvAll.1 = c.arrived := by
  fun_induction Channel.recvAll c with
  | case1 c e after received =>
    obtain ⟨-, ⟨p, given, -⟩ | ⟨none_left, -⟩⟩ := queued.recv
    · rw [received] at given
      cases given
    · exact none_left.symm
  | case2 c p after received ps e last rest ih =>
    obtain ⟨kept, ⟨q, given, all, -⟩ | ⟨-, ⟨e, failed, -⟩, -⟩⟩ := queued.recv
    · rw [received] at kept given all
      cases given
      rw [all, ← ih kept, rest]
    · rw [received] at failed
      cases failed

/-- Of the primitives in a queue the first reply is taken, with all that stand before it. -/
theorem Queued.firstReply_answered {tag : Option UInt64} {skipped later : List Primitive}
    {p : Primitive} {reply : WaitReply} (queued : c.Queued)
    (all : c.arrived = skipped ++ p :: later)
    (passed : ∀ q ∈ skipped, ∀ other, ¬Replies tag q other) (replies : Replies tag p reply) :
    (firstReply tag c).1 = .ok reply.outcome ∧ (firstReply tag c).2.Queued ∧
      (firstReply tag c).2.arrived = later ∧
      FrameStream.Yields { remaining := c.held } ((skipped ++ [p]).map .ok)
        { remaining := (firstReply tag c).2.held } := by
  induction skipped generalizing c with
  | nil =>
    obtain ⟨kept, ⟨q, given, front, -, next⟩ | ⟨none_left, -⟩⟩ := queued.recv
    · rw [all] at front
      obtain ⟨rfl, rfl⟩ := List.cons.inj front
      rw [firstReply_eq, given, settled?, replies.outcome]
      exact ⟨rfl, kept, rfl, .cons next (.nil _)⟩
    · cases all.symm.trans none_left
  | cons q skipped ih =>
    obtain ⟨kept, ⟨r, given, front, -, next⟩ | ⟨none_left, -⟩⟩ := queued.recv
    · rw [all] at front
      obtain ⟨rfl, behind⟩ := List.cons.inj front
      rw [firstReply_eq, given, settled?, replyOutcome?_eq_none (passed q (by simp))]
      obtain ⟨answered, left, rest, yields⟩ :=
        ih kept behind.symm fun other member => passed other (by simp [member])
      exact ⟨answered, left, rest, .cons next yields⟩
    · cases all.symm.trans none_left

/-- A queue without a reply is taken to its end, or to what cannot be read. -/
theorem Queued.firstReply_unanswered {tag : Option UInt64} {passed : List Primitive}
    (queued : c.Queued) (all : c.arrived = passed)
    (silent : ∀ q ∈ passed, ∀ reply, ¬Replies tag q reply) :
    (firstReply tag c).1 = c.unanswered ∧
      (c.failure = .connectionClosed →
        FrameStream.Yields { remaining := c.held } (passed.map .ok)
          { remaining := (firstReply tag c).2.held }) := by
  induction passed generalizing c with
  | nil =>
    obtain ⟨-, ⟨p, -, front, -⟩ | ⟨-, ⟨e, failed, ended⟩, left⟩⟩ := queued.recv
    · cases all.symm.trans front
    · rw [firstReply_eq, failed, settled?]
      refine ⟨ended, fun closed => ?_⟩
      dsimp only
      rw [left closed]
      exact .nil _
  | cons p passed ih =>
    obtain ⟨kept, ⟨q, given, front, ended, next⟩ | ⟨none_left, -⟩⟩ := queued.recv
    · rw [all] at front
      obtain ⟨rfl, behind⟩ := List.cons.inj front
      rw [firstReply_eq, given, settled?, replyOutcome?_eq_none (silent p (by simp)), ← ended]
      obtain ⟨outcome, yields⟩ :=
        ih kept behind.symm fun other member => silent other (by simp [member])
      refine ⟨?_, fun closed => .cons next (yields closed)⟩
      rw [unanswered, ← ended]
      exact outcome
    · cases all.symm.trans none_left

theorem awaitReply_positive {timeout : Millis} (positive : timeout ≠ 0) (tag : Option UInt64)
    (c : Channel) :
    c.awaitReply timeout tag =
      ((firstReply tag c).1, (firstReply tag c).2.timed c.recvTimeout) := by
  have searched := firstReply_timed tag (some timeout) c
  rw [timed] at searched
  rw [awaitReply, if_neg positive, searched]
  rfl

theorem setRecvTimeout_timed {deadline : Option Millis} (proper : deadline ≠ some 0) (c : Channel) :
    c.setRecvTimeout deadline = (.ok (), c.timed deadline) := if_neg proper

/-- A search against a clock, which is read anew in each round for the deadline of that round. The
time is over when nothing is left of it, or with the last reading. -/
def seek (tag : Option UInt64) : List Millis → Channel → Except ChannelError WaitOutcome × Channel
  | [], c => (.ok .timeout, c)
  | left :: clock, c =>
    if left = 0 then (.ok .timeout, c)
    else
      match c.setRecvTimeout (some left) with
      | (.error e, c) => (.error e, c)
      | (.ok (), c) =>
        match settled? tag c.recv.1 with
        | some result => (result, c.recv.2)
        | none => seek tag clock c.recv.2

/-- A wait against a clock. Its last deadline is still set when the search ends, and the one from
before is set again. -/
def awaitTimed (clock : List Millis) (tag : Option UInt64) (c : Channel) :
    Except ChannelError WaitOutcome × Channel :=
  let (result, after) := seek tag clock c
  match after.setRecvTimeout c.recvTimeout with
  | (.error e, after) => (.error e, after)
  | (.ok (), after) => (result, after)

/-- The deadline from before is set again on every exit, also once the time is over. -/
theorem awaitTimed_recvTimeout (clock : List Millis) (tag : Option UInt64)
    (proper : c.recvTimeout ≠ some 0) :
    awaitTimed clock tag c = ((seek tag clock c).1, (seek tag clock c).2.timed c.recvTimeout) := by
  simp only [awaitTimed, setRecvTimeout_timed proper]

/-- As long as the clock shows some time left, a queue is searched as if there were no clock. -/
theorem Queued.seek {clock : List Millis} (queued : c.Queued) (tag : Option UInt64)
    (running : ∀ left ∈ clock, left ≠ 0) (long : c.arrived.length < clock.length) :
    ∃ deadline,
      seek tag clock c = ((firstReply tag c).1, (firstReply tag c).2.timed deadline) := by
  induction clock generalizing c with
  | nil => cases long
  | cons left clock ih =>
    have some_left : left ≠ 0 := running left (by simp)
    have moved : (c.timed (some left)).recv.2 = c.recv.2.timed (some left) := rfl
    rw [Channel.seek, if_neg some_left, setRecvTimeout_timed (by simpa using some_left)]
    simp only [settled?_timed, moved]
    rw [firstReply_eq tag c]
    cases settled : settled? tag c.recv.1 with
    | some result => exact ⟨some left, rfl⟩
    | none =>
      obtain ⟨kept, ⟨p, -, all, -⟩ | ⟨-, ⟨e, failed, -⟩, -⟩⟩ := queued.recv
      · rw [all, List.length_cons, List.length_cons] at long
        -- The deadline of this round stays set in the next one, and has no part in what that finds.
        have later : (c.recv.2.timed (some left)).Queued := kept
        obtain ⟨deadline, searched⟩ :=
          ih later (fun other member => running other (by simp [member]))
            (Nat.lt_of_succ_lt_succ long)
        refine ⟨deadline, ?_⟩
        rw [searched, firstReply_timed]
        rfl
      · rw [failed] at settled
        cases settled

/-- What waiting does with a queue. It passes over what is no reply to it and takes the first
primitive that is one, with all that stand before it and none of those behind; where no reply
arrived, what cannot be read or the end of the queue tells its outcome. A clock that does not run
out changes nothing of this. The channel's deadline is the one from before on each of these exits,
and without any time nothing is taken. -/
theorem awaitReply_of_queued {c : Channel} (queued : c.Queued) (tag : Option UInt64) :
    c.awaitReply 0 tag = (.ok .timeout, c) ∧
    ∀ timeout result after, timeout ≠ 0 → c.awaitReply timeout tag = (result, after) →
      after.recvTimeout = c.recvTimeout ∧ (∃ buffer steps, after = c.holding buffer steps) ∧
      (∀ skipped p later reply, c.arrived = skipped ++ p :: later →
        (∀ q ∈ skipped, ∀ other, ¬Replies tag q other) → Replies tag p reply →
        result = .ok reply.outcome ∧ after.arrived = later ∧ after.recvAll.1 = later ∧
        FrameStream.Yields { remaining := c.held } ((skipped ++ [p]).map .ok)
          { remaining := after.held }) ∧
      ((∀ q ∈ c.arrived, ∀ reply, ¬Replies tag q reply) →
        result = c.unanswered ∧
        (c.failure = .connectionClosed →
          FrameStream.Yields { remaining := c.held } (c.arrived.map .ok)
            { remaining := after.held })) ∧
      ∀ clock, (∀ left ∈ clock, left ≠ 0) → c.arrived.length < clock.length →
        c.recvTimeout ≠ some 0 → c.awaitTimed clock tag = (result, after) := by
  refine ⟨if_pos rfl, fun timeout result after positive waited => ?_⟩
  rw [awaitReply_positive positive] at waited
  obtain ⟨rfl, rfl⟩ := Prod.mk.inj waited
  refine ⟨rfl, ?_, ?_, fun silent => queued.firstReply_unanswered rfl silent, ?_⟩
  · obtain ⟨buffer, steps, searched⟩ := firstReply_holding tag c
    exact ⟨buffer, steps, by rw [searched]; rfl⟩
  · intro skipped p later reply all passed replies
    obtain ⟨answered, kept, left, yields⟩ := queued.firstReply_answered all passed replies
    have still : ((firstReply tag c).2.timed c.recvTimeout).Queued := kept
    exact ⟨answered, left, still.recvAll.trans left, yields⟩
  · intro clock running long proper
    obtain ⟨deadline, searched⟩ := queued.seek tag running long
    rw [awaitTimed_recvTimeout clock tag proper, searched]
    rfl

/-- A reply that comes in two pieces behind a primitive of another kind, a payload that cannot be
read and the reply to an earlier wait. The primitive behind it is there for the next read. -/
theorem awaitReply_past_stale_reply :
    let skipped : List Primitive :=
      [.of .flush [], .of .wait [1, 2], .of .wait (WaitReply.failed (some 6)).encode]
    let reply : WaitReply := ⟨.heap 4096, .done, some 7⟩
    let all : List Primitive := skipped ++ .of .wait reply.encode :: [.of .reset []]
    let bytes := all.flatMap Frame.bytes
    let c : Channel :=
      { id := "", recvTimeout := some 250
        stream := { inbound := { steps := [.data (bytes.take 64), .fault ⟨.interrupted, ""⟩,
          .data (bytes.drop 64)], ending := .idle } } }
    c.Queued ∧ (c.awaitReply 40 (some 7)).1 = .ok (.ready 4096) ∧
      (c.awaitReply 40 (some 7)).2.recvAll.1 = [.of .reset []] ∧
      (c.awaitReply 40 (some 7)).2.recvTimeout = some 250 := by
  intro skipped reply all bytes c
  have queued : c.Queued := by decide +kernel
  have arrived : c.arrived = all := by
    refine arrived_of_frames ?_ (by decide) (by decide)
    exact (congrArg _ (List.append_nil _)).trans (List.take_append_drop 64 bytes)
  have silent : ∀ q ∈ skipped, replyOutcome? (some 7) q = none := by decide
  have replies : Replies (some 7) (.of .wait reply.encode) reply := by
    refine ⟨by decide, by decide, ?_⟩
    rintro _ _ ⟨⟩ ⟨⟩
    rfl
  obtain ⟨-, waited⟩ := awaitReply_of_queued queued (some 7)
  obtain ⟨restored, -, answered, -⟩ := waited 40 _ _ (by decide) rfl
  have passed : ∀ q ∈ skipped, ∀ other, ¬Replies (some 7) q other := fun q member other answer =>
    Option.some_ne_none _ (answer.outcome.symm.trans (silent q member))
  obtain ⟨outcome, -, left, -⟩ := answered skipped _ _ reply arrived passed replies
  exact ⟨queued, outcome, left, restored⟩

end Channel

end CodecLink
