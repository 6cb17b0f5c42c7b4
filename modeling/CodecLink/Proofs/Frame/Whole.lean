import CodecLink.Proofs.Frame.Buffering

/-! The whole frames of a byte string. A part of a frame yields none, and what a front of the bytes
yields does not depend on what follows it. -/
namespace CodecLink

namespace FrameStream

theorem next_ok {bs : Bytes} {p : Primitive} {t : FrameStream}
    (given : next { remaining := bs } = some (.ok p, t)) :
    ∃ header, Header.scan bs = .ok (some header) ∧
      header.length ≤ (bs.drop header.consumed).length ∧
      p = ⟨header.code, (bs.drop header.consumed).take header.length⟩ ∧
      t = { remaining := (bs.drop header.consumed).drop header.length } := by
  cases scanned : Header.scan bs with
  | error fault =>
    rw [Frame.next_of_fault scanned] at given
    cases given
  | ok found =>
    cases found with
    | none =>
      cases bs with
      | nil => cases given
      | cons b rest =>
        simp [next, Header.read, scanned, bind, Except.bind, throw, throwThe,
          MonadExceptOf.throw] at given
    | some header =>
      rw [Frame.next_of_scan scanned] at given
      split at given
      · cases given
      · cases given
        exact ⟨header, rfl, by omega, rfl, rfl⟩

theorem next_ok_append {bs : Bytes} {p : Primitive} {t : FrameStream}
    (given : next { remaining := bs } = some (.ok p, t)) (more : Bytes) :
    next { remaining := bs ++ more } = some (.ok p, { remaining := t.remaining ++ more }) := by
  obtain ⟨header, scanned, room, rfl, rfl⟩ := next_ok given
  have inside := (Header.scan_consumed scanned).2
  rw [Frame.next_of_scan (Header.scan_append scanned (by simp) more),
    List.drop_append_of_le_length inside, List.take_append_of_le_length room,
    List.drop_append_of_le_length room, List.length_append, if_neg (by omega)]

theorem next_error {s t : FrameStream} {e : FrameError} (given : s.next = some (.error e, t)) :
    t.next = none := by
  have failed : t.failed = true := by
    unfold next at given
    split at given
    · cases given
    · split at given
      · cases given
        rfl
      · dsimp only at given
        split at given
        · cases given
          rfl
        · cases given
  simp [next, failed]

end FrameStream

namespace Frame

/-- The whole frames at the front, up to whatever cannot be read. -/
def whole (bs : Bytes) : List Primitive := (decodeStream bs).1.filterMap Except.toOption

theorem whole_next {bs rest : Bytes} {p : Primitive}
    (given : FrameStream.next { remaining := bs } = some (.ok p, { remaining := rest })) :
    whole bs = p :: whole rest := by
  simp [whole, decodeStream, FrameStream.drain_next given, Except.toOption]

theorem whole_bytes_append {p : Primitive} (short : p.payload.length < 2 ^ 32) (rest : Bytes) :
    whole (bytes p ++ rest) = p :: whole rest :=
  whole_next (FrameStream.next_bytes p short rest)

@[simp] theorem whole_nil : whole [] = [] := by
  rw [whole, decodeStream, FrameStream.drain_ended rfl]
  rfl

theorem whole_frames {ps : List Primitive} (short : ∀ p ∈ ps, p.payload.length < 2 ^ 32) :
    whole (ps.flatMap bytes) = ps := by
  induction ps with
  | nil => exact whole_nil
  | cons p ps ih =>
    rw [List.flatMap_cons, whole_bytes_append (short p (by simp)),
      ih fun q member => short q (by simp [member])]

theorem whole_part {p : Primitive} {part : Bytes} (short : p.payload.length < 2 ^ 32)
    (front : part <+: bytes p) : whole part = [] ∨ part = bytes p := by
  obtain ⟨more, all⟩ := front
  cases given : FrameStream.next { remaining := part } with
  | none => exact .inl (by rw [whole, decodeStream, FrameStream.drain_ended given]; rfl)
  | some step =>
    obtain ⟨item, t⟩ := step
    cases item with
    | error e =>
      refine .inl ?_
      rw [whole, decodeStream, FrameStream.drain_next given,
        FrameStream.drain_ended (FrameStream.next_error given)]
      rfl
    | ok q =>
      have longer := FrameStream.next_ok_append given more
      have exact_frame := FrameStream.next_bytes p short []
      rw [all] at longer
      rw [List.append_nil, longer] at exact_frame
      obtain ⟨_, _, rfl⟩ : q = p ∧ t.remaining = [] ∧ more = [] := by simpa using exact_frame
      exact .inr (by rw [← all, List.append_nil])

end Frame

end CodecLink
