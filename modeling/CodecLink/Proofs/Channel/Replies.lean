import CodecLink.Proofs.Channel.Transfer
import CodecLink.Proofs.Frame.Whole
import CodecLink.Proofs.Message.Payloads
import CodecLink.Session.Calls

/-! What waiting for a reply takes from a channel. As long as whole frames come in, in whatever
pieces, the wait passes over those that are no answer to it and takes the first that is one. -/
namespace CodecLink

def WaitReply.outcome (r : WaitReply) : WaitOutcome :=
  match r.status with
  | .done => .ready r.output.size
  | .failed => .failed

namespace Channel

/-- A reply with a tag answers the wait of that tag and no other. -/
theorem replyOutcome?_reply {m : WaitReply} {got : UInt64} (tagged : m.tag = some got)
    (proper : got ≠ 0) (wanted : UInt64) :
    replyOutcome? (some wanted) (.of .wait m.encode) =
      if wanted = got then some m.outcome else none := by
  have code : (Primitive.of .wait m.encode).kind? = some .wait := PrimitiveCode.ofWire?_wire .wait
  have kept : m.tag.filter (· ≠ 0) = some got := by simp [tagged, proper, Option.filter]
  have payload : (Primitive.of .wait m.encode).payload = m.encode := rfl
  rw [replyOutcome?, if_neg (by simp [code]), payload, WaitReply.decode_encode, kept]
  by_cases same : wanted = got
  · simp only [same, bne_self_eq_false, Bool.false_eq_true, if_false, if_true, WaitReply.outcome]
    cases m.status <;> rfl
  · simp [same]

theorem recv_ok {c after : Channel} {p : Primitive} {ps : List Primitive} {wire : Bytes}
    (short : ∀ q ∈ ps, q.payload.length < 2 ^ 32)
    (frames : c.held ++ wire = ps.flatMap Frame.bytes) (received : c.recv = (.ok p, after)) :
    ∃ rest, ps = p :: rest ∧ after.held ++ wire = rest.flatMap Frame.bytes := by
  simp only [recv, Reader.next, Prod.mk.injEq] at received
  obtain ⟨outcome, rfl⟩ := received
  rcases Reader.pull_cases c.reader.limits.maxPayload c.stream.inbound.ending c.reader.buffer
    c.stream.inbound.steps with ⟨q, same, next, _⟩ | ⟨_, other, _⟩ | ⟨_, other, _⟩
  · rw [same] at outcome
    cases outcome
    have longer := FrameStream.next_ok_append next wire
    rw [held] at frames
    rw [frames] at longer
    cases ps with
    | nil => cases longer
    | cons head rest =>
      rw [List.flatMap_cons, FrameStream.next_bytes head (short head (by simp))] at longer
      simp only [Option.some.injEq, Prod.mk.injEq, Except.ok.injEq, FrameStream.mk.injEq,
        and_true] at longer
      exact ⟨rest, by rw [longer.1], longer.2.symm⟩
  · rw [other] at outcome
    cases outcome
  · rw [other] at outcome
    cases outcome

theorem held_of_timeout {c after : Channel} {e : ChannelError}
    (received : c.recv = (.error e, after)) (late : e.isTimeout = true) : after.held = c.held := by
  simp only [recv, Reader.next, Prod.mk.injEq] at received
  obtain ⟨outcome, rfl⟩ := received
  rcases Reader.pull_cases c.reader.limits.maxPayload c.stream.inbound.ending c.reader.buffer
    c.stream.inbound.steps with ⟨_, other, _⟩ | ⟨_, _, kept⟩ | ⟨e, same, given, _⟩
  · rw [other] at outcome
    cases outcome
  · exact kept
  · -- Only a fault of the stream can be a timeout.
    rw [same] at outcome
    cases outcome
    cases e with
    | io fault => exact absurd rfl (given fault)
    | _ => cases late

/-- How a wait ends over a channel on which whole frames come in: it passed over those that are no
answer to it, and stopped at the first that is one or for lack of time. -/
inductive WaitEnds (tag : Option UInt64) (wire : Bytes) (ps : List Primitive) :
    Except ChannelError WaitOutcome → Channel → Prop
  | failed (e : ChannelError) (after : Channel) : WaitEnds tag wire ps (.error e) after
  | late {skipped rest : List Primitive} {after : Channel} (all : ps = skipped ++ rest)
      (passed : ∀ p ∈ skipped, replyOutcome? tag p = none)
      (left : after.held ++ wire = rest.flatMap Frame.bytes) :
      WaitEnds tag wire ps (.ok .timeout) after
  | answered {skipped rest : List Primitive} {p : Primitive} {outcome : WaitOutcome}
      {after : Channel} (all : ps = skipped ++ p :: rest)
      (passed : ∀ p ∈ skipped, replyOutcome? tag p = none)
      (answer : replyOutcome? tag p = some outcome)
      (left : after.held ++ wire = rest.flatMap Frame.bytes) :
      WaitEnds tag wire ps (.ok outcome) after

theorem WaitEnds.skip {tag : Option UInt64} {wire : Bytes} {p : Primitive} {ps : List Primitive}
    {result : Except ChannelError WaitOutcome} {after : Channel}
    (silent : replyOutcome? tag p = none) (ends : WaitEnds tag wire ps result after) :
    WaitEnds tag wire (p :: ps) result after := by
  have passed {skipped : List Primitive} (later : ∀ q ∈ skipped, replyOutcome? tag q = none) :
      ∀ q ∈ p :: skipped, replyOutcome? tag q = none := by
    intro q member
    rcases List.mem_cons.1 member with rfl | member
    · exact silent
    · exact later q member
  cases ends with
  | failed e after => exact .failed e after
  | late all later left => exact .late (by rw [all, List.cons_append]) (passed later) left
  | answered all later answer left =>
    exact .answered (by rw [all, List.cons_append]) (passed later) answer left

theorem WaitEnds.rest {tag : Option UInt64} {wire : Bytes} {ps : List Primitive}
    {outcome : WaitOutcome} {after : Channel} (ends : WaitEnds tag wire ps (.ok outcome) after) :
    ∃ taken rest, ps = taken ++ rest ∧ after.held ++ wire = rest.flatMap Frame.bytes := by
  cases ends with
  | late all passed left => exact ⟨_, _, all, left⟩
  | answered all passed answer left => exact ⟨_, _, by rw [all, List.append_cons], left⟩

theorem firstReply_frames (tag : Option UInt64) {c : Channel} {ps : List Primitive} {wire : Bytes}
    (short : ∀ q ∈ ps, q.payload.length < 2 ^ 32)
    (frames : c.held ++ wire = ps.flatMap Frame.bytes) :
    WaitEnds tag wire ps (firstReply tag c).1 (firstReply tag c).2 := by
  fun_induction firstReply tag c generalizing ps with
  | case1 c e after received late =>
    rw [← held_of_timeout received late] at frames
    exact .late (List.nil_append ps).symm (by simp) frames
  | case2 c e after received fatal => exact .failed e after
  | case3 c p after received outcome answer =>
    obtain ⟨rest, rfl, left⟩ := recv_ok short frames received
    exact .answered (List.nil_append _).symm (by simp) answer left
  | case4 c p after received silent ih =>
    obtain ⟨rest, rfl, left⟩ := recv_ok short frames received
    exact (ih (fun q member => short q (by simp [member])) left).skip silent

theorem awaitReply_frames (timeout : Millis) (tag : Option UInt64) {c : Channel}
    {ps : List Primitive} {wire : Bytes} (short : ∀ q ∈ ps, q.payload.length < 2 ^ 32)
    (frames : c.held ++ wire = ps.flatMap Frame.bytes) :
    WaitEnds tag wire ps (c.awaitReply timeout tag).1 (c.awaitReply timeout tag).2 := by
  rw [awaitReply]
  split
  · exact .late (List.nil_append ps).symm (by simp) frames
  · have begun : ({ c with recvTimeout := some timeout } : Channel).held ++ wire =
        ps.flatMap Frame.bytes := frames
    have ends := firstReply_frames tag short begun
    dsimp only
    generalize (firstReply tag { c with recvTimeout := some timeout }).1 = result at ends ⊢
    generalize (firstReply tag { c with recvTimeout := some timeout }).2 = after at ends ⊢
    cases ends with
    | failed e after => exact .failed e _
    | late all passed left => exact .late all passed left
    | answered all passed answer left => exact .answered all passed answer left

end Channel

end CodecLink
