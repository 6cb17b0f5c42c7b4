import CodecLink.Frame.Codec
import CodecLink.Stream

/-! Receiving frames: bytes gather in a buffer until a whole frame stands at its front. A header
that cannot be read and a frame that is too large cost the whole buffer; every other failure
leaves it as it is, so that reading can go on in the middle of a frame. -/
namespace CodecLink

structure Reader where
  limits : Frame.Limits := {}
  buffer : Bytes := []
  deriving DecidableEq, Repr

namespace Reader

def chunkSize : Nat := 4096

structure Pulled where
  result : Except FrameError Primitive
  buffer : Bytes
  steps : List ReadStep

/-- Reads until a frame is whole or something fails; interrupted reads are repeated. -/
def pull (maxPayload : Nat) (ending : Ending) (buffer : Bytes) (steps : List ReadStep) : Pulled :=
  match Frame.take maxPayload buffer with
  | .ok (some (p, rest)) => ⟨.ok p, rest, steps⟩
  | .error e => ⟨.error e, [], steps⟩
  | .ok none =>
    match steps with
    | [] =>
      match ending with
      | .finished => ⟨.error .connectionClosed, buffer, []⟩
      | .idle => ⟨.error (.io .wouldBlock), buffer, []⟩
    | .fault fault :: rest =>
      if fault.kind = .interrupted then pull maxPayload ending buffer rest
      else ⟨.error (.io fault), buffer, rest⟩
    | .data [] :: rest => ⟨.error .connectionClosed, buffer, rest⟩
    | .data (b :: bs) :: rest =>
      if bs.length < chunkSize then pull maxPayload ending (buffer ++ b :: bs) rest
      else
        pull maxPayload ending (buffer ++ (b :: bs).take chunkSize)
          (.data ((b :: bs).drop chunkSize) :: rest)
termination_by Inbound.weight steps
decreasing_by
  all_goals
    simp only [Inbound.weight, ReadStep.weight, List.length_cons, List.length_drop, chunkSize]
    omega

def next (r : Reader) (source : Inbound) : Except FrameError Primitive × Reader × Inbound :=
  let pulled := pull r.limits.maxPayload source.ending r.buffer source.steps
  (pulled.result, { r with buffer := pulled.buffer }, { source with steps := pulled.steps })

/-- Buffered and unread bytes together; no read adds to them. -/
def backlog (buffer : Bytes) (steps : List ReadStep) : Nat :=
  buffer.length + Inbound.weight steps

theorem pull_progress (maxPayload : Nat) (ending : Ending) (buffer : Bytes)
    (steps : List ReadStep) :
    let pulled := pull maxPayload ending buffer steps
    backlog pulled.buffer pulled.steps < backlog buffer steps ∨
      pulled.result = .error .connectionClosed ∨
        pulled.result = .error (.io .wouldBlock) ∧ pulled.steps = [] ∧ ending = .idle := by
  fun_induction pull maxPayload ending buffer steps with
  | case1 buffer steps p rest taken =>
    have := Frame.take_length taken
    exact .inl (by simp only [backlog]; omega)
  | case2 buffer steps e failed =>
    have := Frame.take_error_nonempty failed
    exact .inl (by simp only [backlog, List.length_nil]; omega)
  | case3 => exact .inr (.inl rfl)
  | case4 buffer _ idle => exact .inr (.inr ⟨rfl, rfl, idle⟩)
  | case5 buffer _ fault rest _ ih =>
    refine ih.imp_left fun less => Nat.lt_trans less ?_
    simp only [backlog, Inbound.weight, ReadStep.weight]
    omega
  | case6 =>
    refine .inl ?_
    simp only [backlog, Inbound.weight, ReadStep.weight]
    omega
  | case8 buffer _ b bs rest _ ih =>
    refine ih.imp_left fun less => Nat.lt_trans less ?_
    simp only [backlog, Inbound.weight, ReadStep.weight, List.length_append, List.length_cons]
    omega
  | case9 buffer _ b bs rest _ ih =>
    refine ih.imp_left fun less => Nat.lt_of_lt_of_le less ?_
    simp only [backlog, Inbound.weight, ReadStep.weight, List.length_append, List.length_cons,
      List.length_drop, List.length_take]
    omega
  | case7 => exact .inr (.inl rfl)

end Reader

end CodecLink
