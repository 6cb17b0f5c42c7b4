import CodecLink.Proofs.Channel.Transfer

/-! A channel whose peer writes whole frames and is gone then. The bytes come in any pieces, with
any pauses between them; receiving gives the primitives in order, reports a pause as a timeout that
takes nothing away, and finds the loss of the peer behind the last of them. -/
namespace CodecLink

namespace Frame

/-- The bytes are read as these primitives, to their end and within the bound on payloads. -/
structure Reads (maxPayload : Nat) (bs : Bytes) (ps : List Primitive) : Prop where
  decoded : decodeStream bs = (ps.map .ok, [])
  bounded : ∀ p ∈ ps, p.payload.length ≤ maxPayload

section

variable {maxPayload : Nat} {bs rest : Bytes} {p : Primitive} {ps : List Primitive}

theorem Reads.cons
    (next : FrameStream.next { remaining := bs } = some (.ok p, { remaining := rest }))
    (short : p.payload.length ≤ maxPayload) (reads : Reads maxPayload rest ps) :
    Reads maxPayload bs (p :: ps) where
  decoded := by
    have behind := reads.decoded
    simp only [decodeStream, Prod.mk.injEq] at behind
    simp only [decodeStream, FrameStream.drain_next next, behind.1, behind.2, List.map_cons]
  bounded := List.forall_mem_cons.2 ⟨short, reads.bounded⟩

theorem Reads.next (reads : Reads maxPayload bs ps)
    (next : FrameStream.next { remaining := bs } = some (.ok p, { remaining := rest })) :
    ∃ qs, ps = p :: qs ∧ Reads maxPayload rest qs := by
  have decoded := reads.decoded
  simp only [decodeStream, FrameStream.drain_next next, Prod.mk.injEq] at decoded
  obtain ⟨items, left⟩ := decoded
  cases ps with
  | nil => cases items
  | cons q qs =>
    simp only [List.map_cons, List.cons.injEq, Except.ok.injEq] at items
    obtain ⟨rfl, later⟩ := items
    exact ⟨qs, rfl, Prod.ext later left, fun q member => reads.bounded q (by simp [member])⟩

theorem Reads.head? (reads : Reads maxPayload bs ps) :
    FrameStream.head? { remaining := bs } = ps.head?.map .ok := by
  have decoded := congrArg Prod.fst reads.decoded
  rw [← FrameStream.head?_drain, ← List.head?_map]
  exact congrArg List.head? decoded

theorem Reads.fits (reads : Reads maxPayload bs ps) :
    ∀ item ∈ FrameStream.head? { remaining := bs }, Frame.fits maxPayload item = true := by
  rw [reads.head?]
  intro item member
  obtain ⟨p, first, rfl⟩ := Option.map_eq_some_iff.1 (Option.mem_def.1 member)
  exact decide_eq_true (reads.bounded p (List.mem_of_mem_head? first))

variable {buffer more : Bytes}

theorem Reads.take_some (reads : Reads maxPayload (buffer ++ more) ps)
    (taken : take maxPayload buffer = .ok (some (p, rest))) :
    ∃ qs, ps = p :: qs ∧ Reads maxPayload (rest ++ more) qs :=
  reads.next (next_of_take taken more).1

theorem Reads.take_error (reads : Reads maxPayload (buffer ++ more) ps) {e : FrameError} :
    take maxPayload buffer ≠ .error e := by
  intro failed
  obtain ⟨stands, unfit, -, -⟩ := failureOf_take failed more
  cases head : FrameStream.head? { remaining := buffer ++ more } with
  | none =>
    -- The end of the bytes would stand for a closed connection.
    rw [head] at stands
    exact (failureOf_take failed more).2.2.1 stands.symm
  | some item =>
    have fit := reads.fits item head
    rw [unfit item head] at fit
    cases fit

theorem Reads.take_none (reads : Reads maxPayload buffer ps)
    (unfinished : take maxPayload buffer = .ok none) : ps = [] := by
  have unfit := (failureOf_unfinished unfinished).2
  cases ps with
  | nil => rfl
  | cons p ps =>
    have fit := reads.fits (.ok p) reads.head?
    rw [unfit (.ok p) reads.head?] at fit
    cases fit

end

end Frame

/-- A fault by which the peer is known to be gone. -/
def Fault.isLoss (fault : Fault) : Bool :=
  fault.kind = .brokenPipe || fault.kind = .connectionReset

namespace Inbound

/-- These bytes come in, in pieces and with pauses, and then the peer is gone. -/
inductive Closing (ending : Ending) : List ReadStep → Bytes → Prop
  | finished (ended : ending = .finished) : Closing ending [] []
  | closed (rest : List ReadStep) : Closing ending (.data [] :: rest) []
  | lost {fault : Fault} (gone : fault.isLoss = true) (rest : List ReadStep) :
      Closing ending (.fault fault :: rest) []
  | pause {fault : Fault} {rest : List ReadStep} {bs : Bytes}
      (quiet : fault.kind = .interrupted ∨ fault.isTimeout = true)
      (tail : Closing ending rest bs) : Closing ending (.fault fault :: rest) bs
  | data (b : UInt8) (bs : Bytes) {rest : List ReadStep} {more : Bytes}
      (tail : Closing ending rest more) :
      Closing ending (.data (b :: bs) :: rest) (b :: bs ++ more)

end Inbound

namespace Reader

open Inbound

theorem pull_closing {maxPayload : Nat} {ending : Ending} {buffer pending : Bytes}
    {steps : List ReadStep} {ps : List Primitive} (closing : Closing ending steps pending)
    (reads : Frame.Reads maxPayload (buffer ++ pending) ps) :
    let after := pull maxPayload ending buffer steps
    (∃ p rest left, after.result = .ok p ∧ ps = p :: rest ∧ Closing ending after.steps left ∧
        Frame.Reads maxPayload (after.buffer ++ left) rest) ∨
      (∃ fault left, after.result = .error (.io fault) ∧ fault.isTimeout = true ∧
        Closing ending after.steps left ∧ Frame.Reads maxPayload (after.buffer ++ left) ps) ∨
      ps = [] ∧ (after.result = .error .connectionClosed ∨
        ∃ fault, after.result = .error (.io fault) ∧ fault.isLoss = true) := by
  fun_induction pull maxPayload ending buffer steps generalizing pending with
  | case1 buffer steps p rest taken =>
    obtain ⟨qs, same, behind⟩ := reads.take_some taken
    exact .inl ⟨p, qs, pending, rfl, same, closing, behind⟩
  | case2 buffer steps e failed => exact absurd failed reads.take_error
  | case3 buffer unfinished =>
    cases closing
    rw [List.append_nil] at reads
    exact .inr (.inr ⟨reads.take_none unfinished, .inl rfl⟩)
  | case4 buffer unfinished idle =>
    cases closing with
    | finished ended => exact Ending.noConfusion (idle.symm.trans ended)
  | case5 buffer unfinished fault rest interrupted ih =>
    cases closing with
    | lost gone =>
      simp only [Fault.isLoss, interrupted] at gone
      cases gone
    | pause quiet tail => exact ih tail reads
  | case6 buffer unfinished fault rest reported =>
    cases closing with
    | lost gone =>
      rw [List.append_nil] at reads
      exact .inr (.inr ⟨reads.take_none unfinished, .inr ⟨fault, rfl, gone⟩⟩)
    | pause quiet tail =>
      exact .inr (.inl ⟨fault, pending, rfl, quiet.resolve_left reported, tail, reads⟩)
  | case7 buffer unfinished rest =>
    cases closing
    rw [List.append_nil] at reads
    exact .inr (.inr ⟨reads.take_none unfinished, .inl rfl⟩)
  | case8 buffer unfinished b bs rest short ih =>
    cases closing with
    | data _ _ tail =>
      rw [← List.append_assoc] at reads
      exact ih tail reads
  | case9 buffer unfinished b bs rest long ih =>
    cases closing with
    | @data _ _ _ more tail =>
      obtain ⟨c, cs, left⟩ : ∃ c cs, (b :: bs).drop chunkSize = c :: cs := by
        refine List.exists_cons_of_length_pos ?_
        rw [List.length_drop, List.length_cons]
        omega
      have cut : (b :: bs).take chunkSize ++ (c :: cs ++ more) = b :: bs ++ more := by
        rw [← left, ← List.append_assoc, List.take_append_drop]
      rw [← cut, ← List.append_assoc] at reads
      rw [left] at ih ⊢
      exact ih (.data c cs tail) reads

end Reader

namespace Writer

end Writer

namespace Channel

/-- These primitives are still to be received, and behind them the loss of the peer. -/
def Brings (c : Channel) (ps : List Primitive) : Prop :=
  ∃ pending, Inbound.Closing c.stream.inbound.ending c.stream.inbound.steps pending ∧
    Frame.Reads c.limits.maxPayload (c.reader.buffer ++ pending) ps

variable {c after : Channel} {ps : List Primitive}

theorem Brings.recv (brings : c.Brings ps) :
    (∃ p rest, c.recv.1 = .ok p ∧ ps = p :: rest ∧ c.recv.2.Brings rest) ∨
      (∃ ms, c.recv.1 = .error (.timeout ms) ∧ c.recv.2.Brings ps) ∨
      ps = [] ∧ ∃ reason, c.recv.1 = .error (.disconnected reason) := by
  obtain ⟨pending, closing, reads⟩ := brings
  rcases Reader.pull_closing closing reads with
    ⟨p, rest, left, given, same, behind, kept⟩ | ⟨fault, left, late, quiet, behind, kept⟩ |
      ⟨none_left, closed | ⟨fault, lost, gone⟩⟩
  · refine .inl ⟨p, rest, ?_, same, left, behind, kept⟩
    simp only [Channel.recv, Reader.next, limits] at given ⊢
    rw [given]
    rfl
  · refine .inr (.inl ⟨c.recvTimeout.getD 0, ?_, left, behind, kept⟩)
    simp only [Channel.recv, Reader.next, limits] at late ⊢
    simp only [late, Except.mapError, readError, FrameError.isTimeout, quiet, if_true]
  · refine .inr (.inr ⟨none_left, .closedByPeer, ?_⟩)
    simp only [Channel.recv, Reader.next, limits] at closed ⊢
    rw [closed]
    rfl
  · refine .inr (.inr ⟨none_left, .broken fault, ?_⟩)
    have awake : fault.isTimeout = false := by
      simp only [Fault.isLoss, Bool.or_eq_true, decide_eq_true_eq] at gone
      rcases gone with kind | kind <;> simp [Fault.isTimeout, kind]
    have given : ChannelError.ofFrame (.io fault) = .disconnected (.broken fault) := if_pos gone
    simp only [Channel.recv, Reader.next, limits] at lost ⊢
    simp only [lost, Except.mapError, readError, FrameError.isTimeout, awake, given]
    rfl

theorem Brings.recv_ok {p : Primitive} (brings : c.Brings ps) (received : c.recv = (.ok p, after)) :
    ∃ rest, ps = p :: rest ∧ after.Brings rest := by
  rcases brings.recv with ⟨q, rest, given, same, behind⟩ | ⟨_, late, _⟩ | ⟨_, _, gone⟩
  · rw [received] at given behind
    cases given
    exact ⟨rest, same, behind⟩
  · rw [received] at late
    cases late
  · rw [received] at gone
    cases gone

end Channel

end CodecLink
