import Mathlib.Logic.Function.Iterate
import CodecLink.Engine.Scripted
import CodecLink.Proofs.Dispatcher.Serving
import CodecLink.Proofs.Frame.Whole

/-! What a refused frame leaves to be read. The refusal costs every byte that had been received and
none that had not: reading goes on with the next bytes that come in, and so right inside the refused
payload if it was still coming in. -/
namespace CodecLink

namespace Reader

open Inbound

/-- No call gives bytes back: what is left is a tail of what there was. -/
theorem pull_suffix (maxPayload : Nat) (ending : Ending) (buffer : Bytes) (steps : List ReadStep) :
    let after := pull maxPayload ending buffer steps
    after.buffer ++ unread after.steps <:+ buffer ++ unread steps := by
  fun_induction pull maxPayload ending buffer steps with
  | case1 buffer steps p rest taken =>
    obtain ⟨next, -⟩ := Frame.next_of_take taken (unread steps)
    obtain ⟨header, -, -, -, same⟩ := FrameStream.next_ok next
    have behind : rest ++ unread steps = _ := congrArg FrameStream.remaining same
    show rest ++ unread steps <:+ _
    rw [behind, List.drop_drop]
    exact List.drop_suffix _ _
  | case2 buffer steps e failed => exact List.suffix_append _ _
  | case3 | case4 => exact List.suffix_rfl
  | case5 buffer _ fault rest _ ih => exact ih
  | case6 | case7 => exact List.suffix_rfl
  | case8 buffer _ b bs rest _ ih =>
    rw [unread_data, ← List.append_assoc]
    exact ih
  | case9 buffer _ b bs rest long ih =>
    rw [List.append_assoc, unread_cut] at ih
    exact ih

/-- A frame is refused when its header was received, and the whole buffer goes with it. -/
theorem pull_refused {maxPayload : Nat} {ending : Ending} {buffer : Bytes} {steps : List ReadStep}
    {length most : Nat}
    (refused : (pull maxPayload ending buffer steps).result = .error (.tooLarge length most)) :
    let after := pull maxPayload ending buffer steps
    ∃ received header, buffer ++ unread steps = received ++ unread after.steps ∧
      Header.scan received = .ok (some header) ∧ header.length = length ∧
      maxPayload < length ∧ most = maxPayload ∧ after.buffer = [] := by
  fun_induction pull maxPayload ending buffer steps with
  | case1 | case3 | case4 | case6 | case7 => cases refused
  | case2 buffer steps e failed =>
    cases refused
    rw [Frame.take] at failed
    split at failed
    · cases failed
    · cases failed
    · rename_i header scanned
      split at failed
      · rename_i large
        cases failed
        exact ⟨buffer, header, rfl, scanned, rfl, large, rfl, rfl⟩
      · split at failed <;> cases failed
  | case5 buffer _ fault rest _ ih => exact ih refused
  | case8 buffer _ b bs rest _ ih =>
    rw [unread_data, ← List.append_assoc]
    exact ih refused
  | case9 buffer _ b bs rest long ih =>
    obtain ⟨received, header, all, found⟩ := ih refused
    rw [List.append_assoc, unread_cut] at all
    exact ⟨received, header, all, found⟩

/-- The reader and its stream after so many calls. -/
def called (calls : Nat) (state : Reader × Inbound) : Reader × Inbound :=
  (fun state => (state.1.next state.2).2)^[calls] state

/-- All bytes that are still to be handed out. -/
def pending (state : Reader × Inbound) : Bytes := state.1.buffer ++ unread state.2.steps

theorem pending_called (calls : Nat) (state : Reader × Inbound) :
    pending (called calls state) <:+ pending state := by
  induction calls generalizing state with
  | zero => exact List.suffix_rfl
  | succ calls ih =>
    rw [called, Function.iterate_succ_apply]
    exact (ih _).trans (pull_suffix _ _ _ _)

/-- The frame of the primitive stands in these bytes behind so many of them. -/
def StandsAt (bs : Bytes) (start : Nat) (p : Primitive) : Prop :=
  ∃ rest, FrameStream.next { remaining := bs.drop start } = some (.ok p, { remaining := rest })

theorem standsAt_of_next {bs : Bytes} {front : Nat} {state : Reader × Inbound} {p : Primitive}
    (left : pending state <:+ bs.drop front) (given : (state.1.next state.2).1 = .ok p) :
    ∃ start, front ≤ start ∧ StandsAt bs start p := by
  obtain ⟨skipped, same⟩ := left
  have place : bs.drop (front + skipped.length) = pending state := by
    rw [← List.drop_drop, ← same, List.drop_left]
  refine ⟨front + skipped.length, Nat.le_add_right _ _, ?_⟩
  rcases pull_cases state.1.limits.maxPayload state.2.ending state.1.buffer state.2.steps with
    ⟨q, result, next, -⟩ | ⟨fault, result, -⟩ | ⟨e, result, -⟩
  · obtain rfl : q = p := Except.ok.inj (result.symm.trans given)
    rw [StandsAt, place]
    exact ⟨_, next⟩
  · cases result.symm.trans given
  · cases result.symm.trans given

/-- Behind a refused frame the bytes received so far are gone and the others are not: each later
primitive is read from bytes that had not been received, among which the rest of the refused payload
comes first, and a dispatcher that serves the channel goes on as if nothing had stood before them.
None of the payload is read again if all of it had been received. -/
theorem read_behind_refusal {r after : Reader} {source left : Inbound} {length most : Nat}
    (refused : r.next source = (.error (.tooLarge length most), after, left)) :
    ∃ received header, pending (r, source) = received ++ unread left.steps ∧
      Header.scan received = .ok (some header) ∧ header.length = length ∧
      r.limits.maxPayload < length ∧ after = { r with buffer := [] } ∧
      ((pending (r, source)).drop header.consumed).take length =
        (received.drop header.consumed).take length ++
          (unread left.steps).take (length - (received.length - header.consumed)) ∧
      (∀ calls p,
        ((called calls (after, left)).1.next (called calls (after, left)).2).1 = .ok p →
        ∃ start, received.length ≤ start ∧ StandsAt (pending (r, source)) start p) ∧
      ∀ {σ : Type} (host : EngineHost σ) (d : Dispatcher σ) (c : Channel),
        c.reader = r → c.stream.inbound = source →
        d.serve host [] c = d.countDropped.serve host []
          { c with reader := after, stream := { c.stream with inbound := left } } := by
  have result : (pull r.limits.maxPayload source.ending r.buffer source.steps).result =
      .error (.tooLarge length most) := congrArg Prod.fst refused
  obtain ⟨received, header, all, scanned, size, large, -, emptied⟩ := pull_refused result
  have left_steps : (pull r.limits.maxPayload source.ending r.buffer source.steps).steps =
      left.steps := congrArg (fun outcome => outcome.2.2.steps) refused
  have gone : after = { r with buffer := [] } := by
    rw [← emptied]
    exact (congrArg (fun outcome => outcome.2.1) refused).symm
  rw [left_steps] at all
  have whole : pending (r, source) = received ++ unread left.steps := all
  refine ⟨received, header, whole, scanned, size, large, gone, ?_, fun calls p given => ?_, ?_⟩
  · rw [whole, List.drop_append_of_le_length (Header.scan_consumed scanned).2, List.take_append,
      List.length_drop]
  · have tail : pending (called calls (after, left)) <:+
        (pending (r, source)).drop received.length := by
      rw [whole, List.drop_left]
      refine (pending_called calls (after, left)).trans ?_
      rw [pending, gone]
      exact List.suffix_rfl
    exact standsAt_of_next tail given
  · intro σ host d c reader inbound
    have received : c.recv = (.error (.frame (.tooLarge length most)),
        { c with reader := after, stream := { c.stream with inbound := left } }) := by
      rw [Channel.recv, reader, inbound, refused]
      rfl
    rw [Dispatcher.serve_eq, if_neg (by simp), received]
    rfl

/-- A farewell inside of a refused payload, of which nothing had been received with the header. -/
theorem read_behind_refusal_farewell :
    let source : Inbound :=
      { steps := [.data [57, 58, 57, 57, 57, 57, 58], .data [50, 58, 48, 58]] }
    let left : Inbound := { steps := [.data [50, 58, 48, 58]] }
    ({} : Reader).next source = (.error (.tooLarge 9999 512), {}, left) ∧
      ∃ received header, pending ({}, source) = received ++ unread left.steps ∧
        Header.scan received = .ok (some header) ∧ header.length = 9999 ∧
        ∀ calls p, ((called calls ({}, left)).1.next (called calls ({}, left)).2).1 = .ok p →
          ∃ start, received.length ≤ start ∧ StandsAt (pending ({}, source)) start p := by
  intro source left
  have refused : ({} : Reader).next source = (.error (.tooLarge 9999 512), {}, left) := by
    decide +kernel
  obtain ⟨received, header, whole, scanned, size, -, -, -, later, -⟩ := read_behind_refusal refused
  exact ⟨refused, received, header, whole, scanned, size, later⟩

/-- Bytes of a refused payload are read as a primitive, and a farewell among them ends the session
of the dispatcher that serves the channel. -/
theorem refused_payload_obeyed :
    let header : Bytes := [57, 58, 57, 57, 57, 57, 58]
    let first := ({} : Reader).next { steps := [.data header, .data [52, 58, 49, 58, 65]] }
    let c : Channel := { id := "", stream := { inbound :=
      { steps := [.data (49 :: 58 :: 48 :: 58 :: header), .data [50, 58, 48, 58]] } } }
    let served := Dispatcher.serve (ScriptedEngine.host .full) [] { engine := {} } c
    first.1 = .error (.tooLarge 9999 512) ∧ (first.2.1.next first.2.2).1 = .ok ⟨4, [65]⟩ ∧
      served.status = .ended ∧ served.dispatcher.summary.dropped = 1 ∧
      served.dispatcher.summary.deinit = true := by
  decide +kernel

end Reader

end CodecLink
