import CodecLink.Frame.Reader
import CodecLink.Proofs.Frame.RoundTrip

/-! Receiving in pieces agrees with reading a captured byte string at once. What a header says does
not depend on the bytes behind it, so the buffer together with the bytes still to be read always is
what the one-shot stream has left. -/
namespace CodecLink

namespace Header

theorem scanToken_append {count acc : Nat} {bs : Bytes}
    {outcome : Except HeaderFault (Option (Nat × Nat))} (scanned : scanToken count acc bs = outcome)
    (settled : outcome ≠ .ok none) (more : Bytes) : scanToken count acc (bs ++ more) = outcome := by
  induction bs generalizing count acc with
  | nil =>
    simp only [scanToken] at scanned
    exact absurd scanned.symm settled
  | cons b rest ih =>
    simp only [scanToken, List.cons_append] at scanned ⊢
    split
    · rename_i delimiter
      rwa [if_pos delimiter] at scanned
    · rename_i inner
      rw [if_neg inner] at scanned
      split
      · rename_i long
        rwa [if_pos long] at scanned
      · rename_i room
        rw [if_neg room] at scanned
        split
        · rename_i strange
          rwa [if_pos strange] at scanned
        · rename_i digit
          rw [if_neg digit] at scanned
          exact ih scanned

theorem scan_append {bs : Bytes} {outcome : Except HeaderFault (Option Header)}
    (scanned : scan bs = outcome) (settled : outcome ≠ .ok none) (more : Bytes) :
    scan (bs ++ more) = outcome := by
  simp only [scan, bind, Except.bind, pure, Except.pure] at scanned ⊢
  cases first : scanToken 0 0 bs with
  | error fault =>
    rw [scanToken_append first (by simp) more]
    rwa [first] at scanned
  | ok found =>
    rw [first] at scanned
    cases found with
    | none => exact absurd scanned.symm settled
    | some token =>
      have inside := (scanToken_consumed first).2
      rw [scanToken_append first (by simp) more]
      dsimp only at scanned ⊢
      rw [List.drop_append_of_le_length (by omega)]
      cases second : scanToken 0 0 (bs.drop token.2) with
      | error fault =>
        rw [scanToken_append second (by simp) more]
        rwa [second] at scanned
      | ok found =>
        rw [second] at scanned
        cases found with
        | none => exact absurd scanned.symm settled
        | some length =>
          rw [scanToken_append second (by simp) more]
          exact scanned

theorem scanToken_fault {count acc : Nat} {bs : Bytes} {fault : HeaderFault}
    (scanned : scanToken count acc bs = .error fault) : fault ≠ .missingDelimiter := by
  induction bs generalizing count acc with
  | nil => simp [scanToken] at scanned
  | cons b rest ih =>
    simp only [scanToken] at scanned
    split at scanned
    · split at scanned
      · cases scanned
        simp
      · split at scanned <;> cases scanned
        simp
    · split at scanned
      · cases scanned
        simp
      · split at scanned
        · cases scanned
          simp
        · exact ih scanned

/-- A lack of bytes is never a fault of the scan. -/
theorem scan_fault {bs : Bytes} {fault : HeaderFault} (scanned : scan bs = .error fault) :
    fault ≠ .missingDelimiter := by
  simp only [scan, bind, Except.bind, pure, Except.pure] at scanned
  split at scanned
  · rename_i first
    cases scanned
    exact scanToken_fault first
  · split at scanned
    · cases scanned
    · split at scanned
      · rename_i second
        cases scanned
        exact scanToken_fault second
      · split at scanned <;> cases scanned

end Header

namespace FrameStream

def head? (s : FrameStream) : Option (Except FrameError Primitive) := s.next.map (·.1)

theorem head?_drain (s : FrameStream) : s.drain.1.head? = s.head? := by
  cases advanced : s.next with
  | none => simp [drain_ended advanced, head?, advanced]
  | some step =>
    obtain ⟨item, t⟩ := step
    simp [drain_next advanced, head?, advanced]

end FrameStream

namespace Frame

/-- Whether an item is a whole frame within the bound on payloads. -/
def fits (maxPayload : Nat) : Except FrameError Primitive → Bool
  | .ok p => p.payload.length ≤ maxPayload
  | .error _ => false

/-- How receiving in pieces ends when the one-shot stream has this item left, or none: a frame over
the bound is too large even if the bytes end inside it, and any other lack of bytes is the end. -/
def failureOf (maxPayload : Nat) : Option (Except FrameError Primitive) → FrameError
  | none => .connectionClosed
  | some (.ok p) => .tooLarge p.payload.length maxPayload
  | some (.error (.truncated declared _)) =>
    if maxPayload < declared then .tooLarge declared maxPayload else .connectionClosed
  | some (.error (.malformedHeader .missingDelimiter)) => .connectionClosed
  | some (.error e) => e

theorem next_of_scan {bs : Bytes} {header : Header} (scanned : Header.scan bs = .ok (some header)) :
    FrameStream.next { remaining := bs } =
      if (bs.drop header.consumed).length < header.length then
        some (.error (.truncated header.length (bs.drop header.consumed).length),
          { remaining := bs, failed := true })
      else
        some (.ok ⟨header.code, (bs.drop header.consumed).take header.length⟩,
          { remaining := (bs.drop header.consumed).drop header.length }) := by
  have inside := Header.scan_consumed scanned
  have filled : bs.isEmpty = false := by
    cases bs with
    | nil =>
      simp only [List.length_nil] at inside
      omega
    | cons b rest => rfl
  simp [FrameStream.next, filled, Header.read, scanned, bind, Except.bind, pure, Except.pure]

theorem next_of_fault {bs : Bytes} {fault : HeaderFault} (scanned : Header.scan bs = .error fault) :
    FrameStream.next { remaining := bs } =
      some (.error (.malformedHeader fault), { remaining := bs, failed := true }) := by
  have filled : bs.isEmpty = false := by
    cases bs with
    | nil => simp [Header.scan, Header.scanToken, bind, Except.bind, pure, Except.pure] at scanned
    | cons b rest => rfl
  simp [FrameStream.next, filled, Header.read, scanned, bind, Except.bind]

theorem next_of_take {maxPayload : Nat} {buffer rest : Bytes} {p : Primitive}
    (taken : take maxPayload buffer = .ok (some (p, rest))) (more : Bytes) :
    FrameStream.next { remaining := buffer ++ more } = some (.ok p, { remaining := rest ++ more }) ∧
      p.payload.length ≤ maxPayload := by
  unfold take at taken
  split at taken
  · cases taken
  · cases taken
  · rename_i header scanned
    split at taken
    · cases taken
    · rename_i bounded
      split at taken
      · cases taken
      · rename_i whole
        have inside := (Header.scan_consumed scanned).2
        simp only [Except.ok.injEq, Option.some.injEq, Prod.mk.injEq] at taken
        obtain ⟨rfl, rfl⟩ := taken
        have room : header.length ≤ (buffer.drop header.consumed).length := by
          rw [List.length_drop]
          omega
        rw [next_of_scan (Header.scan_append scanned (by simp) more),
          List.drop_append_of_le_length inside, List.take_append_of_le_length room,
          List.drop_append_of_le_length room, List.length_append, if_neg (by omega)]
        refine ⟨rfl, ?_⟩
        simp only [List.length_take]
        omega

theorem failureOf_take {maxPayload : Nat} {buffer : Bytes} {e : FrameError}
    (failed : take maxPayload buffer = .error e) (more : Bytes) :
    let next := FrameStream.head? { remaining := buffer ++ more }
    failureOf maxPayload next = e ∧ (∀ item ∈ next, fits maxPayload item = false) ∧
      e ≠ .connectionClosed ∧ ∀ fault, e ≠ .io fault := by
  unfold take at failed
  split at failed
  · rename_i fault scanned
    cases failed
    have given := Header.scan_fault scanned
    have next := next_of_fault (Header.scan_append scanned (by simp) more)
    simp only [FrameStream.head?, next, Option.map_some]
    refine ⟨?_, by simp [fits], by simp, by simp⟩
    cases fault <;> first | rfl | exact absurd rfl given
  · cases failed
  · rename_i header scanned
    split at failed
    · rename_i large
      cases failed
      have next := next_of_scan (Header.scan_append scanned (by simp) more)
      simp only [FrameStream.head?, next]
      -- The frame may be whole behind the buffer or not; it is too large either way.
      split
      · simp [failureOf, fits, large]
      · rename_i whole
        have size : (((buffer ++ more).drop header.consumed).take header.length).length =
            header.length := by
          rw [List.length_take]
          omega
        simp [failureOf, fits, size, large]
    · split at failed <;> cases failed

theorem failureOf_unfinished {maxPayload : Nat} {buffer : Bytes}
    (unfinished : take maxPayload buffer = .ok none) :
    let next := FrameStream.head? { remaining := buffer }
    failureOf maxPayload next = .connectionClosed ∧
      ∀ item ∈ next, fits maxPayload item = false := by
  unfold take at unfinished
  split at unfinished
  · cases unfinished
  · rename_i scanned
    cases empty : buffer.isEmpty with
    | true => simp [FrameStream.head?, FrameStream.next, empty, failureOf]
    | false =>
      simp [FrameStream.head?, FrameStream.next, empty, Header.read, scanned, bind, Except.bind,
        throw, throwThe, MonadExceptOf.throw, failureOf, fits]
  · rename_i header scanned
    split at unfinished
    · cases unfinished
    · rename_i bounded
      split at unfinished
      · rename_i short
        have inside := (Header.scan_consumed scanned).2
        have missing : (buffer.drop header.consumed).length < header.length := by
          rw [List.length_drop]
          omega
        rw [FrameStream.head?, next_of_scan scanned, if_pos missing]
        simp [failureOf, fits, bounded]
      · cases unfinished

end Frame

namespace Inbound

def unread (steps : List ReadStep) : Bytes := steps.flatMap ReadStep.bytes

@[simp] theorem unread_nil : unread [] = [] := rfl

@[simp] theorem unread_data (bs : Bytes) (rest : List ReadStep) :
    unread (.data bs :: rest) = bs ++ unread rest := rfl

@[simp] theorem unread_fault (fault : Fault) (rest : List ReadStep) :
    unread (.fault fault :: rest) = unread rest := rfl

theorem unread_cut (n : Nat) (bs : Bytes) (rest : List ReadStep) :
    bs.take n ++ unread (.data (bs.drop n) :: rest) = unread (.data bs :: rest) := by
  rw [unread_data, unread_data, ← List.append_assoc, List.take_append_drop]

end Inbound

namespace Reader

open Inbound

/-- All that one call can do to the bytes. A primitive it hands out is the next item of the one-shot
stream over the buffered and unread bytes; a fault it reports leaves these bytes as they were; and
any other failure is the one that the stream's next item stands for, unless a read was empty. -/
theorem pull_cases (maxPayload : Nat) (ending : Ending) (buffer : Bytes) (steps : List ReadStep) :
    let after := pull maxPayload ending buffer steps
    let held : FrameStream := { remaining := buffer ++ unread steps }
    (∃ p, after.result = .ok p ∧
        held.next = some (.ok p, { remaining := after.buffer ++ unread after.steps }) ∧
        p.payload.length ≤ maxPayload) ∨
      (∃ fault, after.result = .error (.io fault) ∧
        after.buffer ++ unread after.steps = buffer ++ unread steps) ∨
      (∃ e, after.result = .error e ∧ (∀ fault, e ≠ .io fault) ∧
        (.data [] ∉ steps → Frame.failureOf maxPayload held.head? = e ∧
          ∀ item ∈ held.head?, Frame.fits maxPayload item = false)) := by
  fun_induction pull maxPayload ending buffer steps with
  | case1 buffer steps p rest taken =>
    obtain ⟨next, bounded⟩ := Frame.next_of_take taken (unread steps)
    exact .inl ⟨p, rfl, next, bounded⟩
  | case2 buffer steps e failed =>
    obtain ⟨stands, unfit, -, given⟩ := Frame.failureOf_take failed (unread steps)
    exact .inr (.inr ⟨e, rfl, given, fun _ => ⟨stands, unfit⟩⟩)
  | case3 buffer unfinished =>
    refine .inr (.inr ⟨_, rfl, by simp, fun _ => ?_⟩)
    rw [unread_nil, List.append_nil]
    exact Frame.failureOf_unfinished unfinished
  | case4 buffer _ idle => exact .inr (.inl ⟨_, rfl, rfl⟩)
  | case5 buffer _ fault rest interrupted ih =>
    rw [unread_fault]
    simpa using ih
  | case6 buffer _ fault rest reported => exact .inr (.inl ⟨fault, rfl, rfl⟩)
  | case7 buffer _ rest =>
    exact .inr (.inr ⟨_, rfl, by simp, fun filled => absurd (by simp) filled⟩)
  | case8 buffer _ b bs rest _ ih =>
    rw [unread_data, ← List.append_assoc]
    simpa using ih
  | case9 buffer _ b bs rest long ih =>
    have left : (b :: bs).drop chunkSize ≠ [] := by
      intro empty
      have := congrArg List.length empty
      simp only [List.length_drop, List.length_cons, List.length_nil] at this
      omega
    rw [List.append_assoc, unread_cut] at ih
    simpa [left.symm] using ih

/-- The whole frames at the front of the bytes that are within the bound on payloads. -/
def fitting (maxPayload : Nat) (bs : Bytes) : List (Except FrameError Primitive) :=
  (Frame.decodeStream bs).1.takeWhile (Frame.fits maxPayload)

def failure (maxPayload : Nat) (bs : Bytes) : FrameError :=
  Frame.failureOf maxPayload (Frame.decodeStream bs).1[(fitting maxPayload bs).length]?

theorem fitting_next {maxPayload : Nat} {bs rest : Bytes} {p : Primitive}
    (next : FrameStream.next { remaining := bs } = some (.ok p, { remaining := rest }))
    (bounded : p.payload.length ≤ maxPayload) :
    fitting maxPayload bs = .ok p :: fitting maxPayload rest ∧
      failure maxPayload bs = failure maxPayload rest := by
  have items : (Frame.decodeStream bs).1 = .ok p :: (Frame.decodeStream rest).1 := by
    simp only [Frame.decodeStream, FrameStream.drain_next next]
  have whole : Frame.fits maxPayload (.ok p) = true := by simpa [Frame.fits] using bounded
  have front : fitting maxPayload bs = .ok p :: fitting maxPayload rest := by
    simp only [fitting, items, List.takeWhile_cons, whole, if_true]
  refine ⟨front, ?_⟩
  rw [failure, failure, front, items, List.length_cons, List.getElem?_cons_succ]

theorem fitting_stopped {maxPayload : Nat} {bs : Bytes}
    (unfit : ∀ item ∈ FrameStream.head? { remaining := bs }, Frame.fits maxPayload item = false) :
    fitting maxPayload bs = [] ∧
      failure maxPayload bs =
      Frame.failureOf maxPayload (FrameStream.head? { remaining := bs }) := by
  have head := FrameStream.head?_drain { remaining := bs }
  have front : fitting maxPayload bs = [] := by
    rw [fitting, Frame.decodeStream]
    cases items : (FrameStream.drain { remaining := bs }).1 with
    | nil => rfl
    | cons item rest =>
      rw [items] at head
      simp [unfit item (by simp [← head])]
  refine ⟨front, ?_⟩
  rw [failure, front, List.length_nil, ← List.head?_eq_getElem?, Frame.decodeStream, head]

end Reader

end CodecLink
