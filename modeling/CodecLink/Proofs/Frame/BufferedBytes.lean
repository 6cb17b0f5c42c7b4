import CodecLink.Proofs.Dispatcher.RefusedFrames
import CodecLink.Proofs.Frame.HeaderGrammar
import CodecLink.Proofs.Frame.Recovery

/-! How much a reader can come to hold. It reads on only while the bytes it has may be the front of a
frame within the bound on payloads, and such a front is as long as a payload and the longest header
less one byte at most. One read adds a chunk to that. -/
namespace CodecLink

namespace Header

/-- The most bytes that a header takes: two tokens of ten digits, each with its mark. -/
def maxSize : Nat := 2 * (maxDigits + 1)

theorem Unfinished.length_lt {bs digits : Bytes} (unfinished : Unfinished bs digits) :
    bs.length < maxSize := by
  cases unfinished with
  | code numeric short =>
    rw [maxSize, maxDigits]
    omega
  | @length code digits _ _ token marked numeric short =>
    have first := token.short
    rw [List.length_append, List.length_cons, maxSize, maxDigits]
    omega

theorem Spells.consumed_le {header : Header} {text : Bytes} (spells : header.Spells text) :
    header.consumed ≤ maxSize := by
  obtain ⟨codeToken, -, lengthToken, -, size⟩ := spells
  have first := codeToken.short
  have second := lengthToken.short
  rw [size, maxSize, maxDigits]
  omega

end Header

namespace Frame

variable {maxPayload : Nat} {buffer : Bytes}

/-- The most bytes that can be waited on: a header and a payload, of which one byte is missing. -/
def maxWaiting (maxPayload : Nat) : Nat := maxPayload + (Header.maxSize - 1)

/-- More bytes are waited for inside a header, or inside a payload within the bound. -/
theorem take_waiting (waiting : take maxPayload buffer = .ok none) :
    Header.scan buffer = .ok none ∨
      ∃ header, Header.scan buffer = .ok (some header) ∧ header.length ≤ maxPayload ∧
        buffer.length < header.consumed + header.length := by
  unfold take at waiting
  split at waiting
  · cases waiting
  · rename_i scanned
    exact .inl scanned
  · rename_i header scanned
    split at waiting
    · cases waiting
    · rename_i bounded
      split at waiting
      · rename_i short
        exact .inr ⟨header, scanned, Nat.not_lt.1 bounded, short⟩
      · cases waiting

theorem length_le_of_waiting (waiting : take maxPayload buffer = .ok none) :
    buffer.length ≤ maxWaiting maxPayload := by
  rw [maxWaiting]
  rcases take_waiting waiting with scanned | ⟨header, scanned, bounded, short⟩
  · obtain ⟨digits, unfinished⟩ := Header.scan_eq_none_iff.1 scanned
    have inside := unfinished.length_lt
    omega
  · obtain ⟨text, rest, spells, -⟩ := Header.scan_eq_some_iff.1 scanned
    have size := spells.consumed_le
    omega

end Frame

namespace Reader

open Inbound

/-- The failures that cost the buffer. -/
inductive Refuses : FrameError → Prop
  | malformed (fault : HeaderFault) : Refuses (.malformedHeader fault)
  | oversized (size most : Nat) : Refuses (.tooLarge size most)

theorem refuses_of_take {maxPayload : Nat} {buffer : Bytes} {e : FrameError}
    (failed : Frame.take maxPayload buffer = .error e) : Refuses e := by
  obtain ⟨fault, rfl⟩ | ⟨size, rfl⟩ := Frame.take_error_cases failed
  · exact .malformed fault
  · exact .oversized size maxPayload

/-- Behind a failure nothing is held, or what is held is waited on. -/
theorem pull_failed (maxPayload : Nat) (ending : Ending) (buffer : Bytes) (steps : List ReadStep)
    {e : FrameError} (failed : (pull maxPayload ending buffer steps).result = .error e) :
    let after := pull maxPayload ending buffer steps
    (Refuses e ∧ after.buffer = []) ∨
      (¬ Refuses e ∧ Frame.take maxPayload after.buffer = .ok none) := by
  have closed : ¬ Refuses .connectionClosed := by
    intro refuses
    cases refuses
  have reported (fault : Fault) : ¬ Refuses (.io fault) := by
    intro refuses
    cases refuses
  fun_induction pull maxPayload ending buffer steps with
  | case1 => cases failed
  | case2 buffer steps own refused =>
    cases failed
    exact .inl ⟨refuses_of_take refused, rfl⟩
  | case3 buffer waiting =>
    cases failed
    exact .inr ⟨closed, waiting⟩
  | case4 buffer waiting =>
    cases failed
    exact .inr ⟨reported _, waiting⟩
  | case5 buffer waiting fault rest _ ih => exact ih failed
  | case6 buffer waiting fault rest _ =>
    cases failed
    exact .inr ⟨reported _, waiting⟩
  | case7 buffer waiting rest =>
    cases failed
    exact .inr ⟨closed, waiting⟩
  | case8 buffer _ b bs rest _ ih => exact ih failed
  | case9 buffer _ b bs rest _ ih => exact ih failed

/-- A call leaves no more than it found, or than a read can add to what was waited on. -/
theorem length_pull_le (maxPayload : Nat) (ending : Ending) (buffer : Bytes)
    (steps : List ReadStep) :
    (pull maxPayload ending buffer steps).buffer.length ≤
      max buffer.length (Frame.maxWaiting maxPayload + chunkSize) := by
  fun_induction pull maxPayload ending buffer steps with
  | case1 buffer steps p rest taken =>
    have shorter := Frame.take_length taken
    exact Nat.le_trans (Nat.le_of_lt shorter) (Nat.le_max_left _ _)
  | case2 => exact Nat.zero_le _
  | case3 | case4 | case6 | case7 => exact Nat.le_max_left _ _
  | case5 buffer _ fault rest _ ih => exact ih
  | case8 buffer waiting b bs rest short ih =>
    have front := Frame.length_le_of_waiting waiting
    rw [List.length_append, List.length_cons] at ih
    omega
  | case9 buffer waiting b bs rest _ ih =>
    have front := Frame.length_le_of_waiting waiting
    have chunk := List.length_take_le chunkSize (b :: bs)
    rw [List.length_append] at ih
    omega

/-- The bound that the limits of a reader set to what it holds. -/
def capacity (limits : Frame.Limits) : Nat := Frame.maxWaiting limits.maxPayload + chunkSize

/-- A reader with these limits that holds no more than they allow. -/
structure Bounded (limits : Frame.Limits) (r : Reader) : Prop where
  own : r.limits = limits
  held : r.buffer.length ≤ capacity limits

theorem Bounded.next {limits : Frame.Limits} {r : Reader} (bounded : r.Bounded limits)
    (source : Inbound) : (r.next source).2.1.Bounded limits := by
  obtain ⟨rfl, held⟩ := bounded
  refine ⟨rfl, ?_⟩
  have grown := length_pull_le r.limits.maxPayload source.ending r.buffer source.steps
  exact Nat.le_trans grown (Nat.max_le.2 ⟨held, Nat.le_refl _⟩)

theorem Bounded.called {limits : Frame.Limits} {r : Reader} (bounded : r.Bounded limits)
    (source : Inbound) (calls : Nat) : (called calls (r, source)).1.Bounded limits := by
  induction calls generalizing r source with
  | zero => exact bounded
  | succ calls ih =>
    rw [Reader.called, Function.iterate_succ_apply]
    exact ih (bounded.next source) _

/-- Whatever is read and whatever fails, after each call a reader holds at most a payload of the
largest size allowed, 21 bytes of a header and one chunk. It waits only on a payload and those 21
bytes, and so holds no more than that behind a failure; behind a header that it cannot read and a
frame that is too large it holds nothing. -/
theorem buffered_within_limits (limits : Frame.Limits) (source : Inbound) :
    (∀ calls, (called calls ({ limits }, source)).1.buffer.length ≤
        limits.maxPayload + 4096 + 21) ∧
      (∀ buffer, Frame.take limits.maxPayload buffer = .ok none →
        buffer.length ≤ limits.maxPayload + 21) ∧
      ∀ calls e,
        let state := called calls ({ limits }, source)
        let after := state.1.next state.2
        after.1 = .error e →
          after.2.1.buffer.length ≤ limits.maxPayload + 21 ∧
            ((∃ fault, e = .malformedHeader fault) ∨ (∃ size most, e = .tooLarge size most) →
              after.2.1.buffer = []) := by
  have fresh : ({ limits } : Reader).Bounded limits := ⟨rfl, Nat.zero_le _⟩
  have total : capacity limits = limits.maxPayload + 4096 + 21 :=
    Nat.add_right_comm limits.maxPayload 21 4096
  refine ⟨fun calls => ?_, fun buffer => Frame.length_le_of_waiting, fun calls e => ?_⟩
  · rw [← total]
    exact (fresh.called source calls).held
  · intro state after failed
    have own : state.1.limits = limits := (fresh.called source calls).own
    rcases pull_failed _ _ _ _ failed with ⟨-, emptied⟩ | ⟨given, waiting⟩
    · have emptied : after.2.1.buffer = [] := emptied
      exact ⟨by rw [emptied]; exact Nat.zero_le _, fun _ => emptied⟩
    · have bounded : after.2.1.buffer.length ≤ Frame.maxWaiting state.1.limits.maxPayload :=
        Frame.length_le_of_waiting waiting
      rw [own] at bounded
      refine ⟨bounded, fun refused => absurd ?_ given⟩
      rcases refused with ⟨fault, rfl⟩ | ⟨size, most, rfl⟩
      · exact .malformed fault
      · exact .oversized size most

/-- Leading zeros fill both tokens of a header, and 21 bytes beside a payload are waited on. -/
example : Frame.take 1 [48, 48, 48, 48, 48, 48, 48, 48, 48, 52, 58,
    48, 48, 48, 48, 48, 48, 48, 48, 48, 49, 58] = .ok none := by
  decide +kernel

end Reader

end CodecLink
