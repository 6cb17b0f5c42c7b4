import CodecLink.Proofs.Frame.HeaderGrammar
import CodecLink.Proofs.Frame.Whole

/-! The grammar of captured byte strings: frames one after another, each a header in any of its
spellings and as many bytes as it announces. No string is made of frames in two ways, reading gives
the frames that it begins with, and what it stops at is an error unless it is the end. -/
namespace CodecLink

/-- A frame as it may have been written, and not only as it is written here: a header has several
spellings. -/
@[ext] structure WrittenFrame where
  header : Header
  spelling : Bytes
  payload : Bytes
  spells : header.Spells spelling
  filled : payload.length = header.length

namespace WrittenFrame

def bytes (f : WrittenFrame) : Bytes := f.spelling ++ f.payload

def primitive (f : WrittenFrame) : Primitive := ⟨f.header.code, f.payload⟩

def joined (fs : List WrittenFrame) : Bytes := fs.flatMap bytes

def items (fs : List WrittenFrame) : List (Except FrameError Primitive) :=
  fs.map fun f => .ok f.primitive

theorem joined_cons (f : WrittenFrame) (fs : List WrittenFrame) :
    joined (f :: fs) = f.bytes ++ joined fs := List.flatMap_cons

theorem scan_bytes (f : WrittenFrame) (more : Bytes) :
    Header.scan (f.bytes ++ more) = .ok (some f.header) := by
  rw [bytes, List.append_assoc]
  exact f.spells.scan _

/-- What stands behind a header are its payload and the bytes after the frame. -/
theorem drop_header (f : WrittenFrame) (more : Bytes) :
    (f.bytes ++ more).drop f.header.consumed = f.payload ++ more := by
  rw [bytes, List.append_assoc, ← f.spells.length, List.drop_left]

theorem next_bytes (f : WrittenFrame) (rest : Bytes) :
    FrameStream.next { remaining := f.bytes ++ rest } =
      some (.ok f.primitive, { remaining := rest }) := by
  have room : ¬(f.payload ++ rest).length < f.header.length := by
    rw [List.length_append, f.filled]
    omega
  rw [Frame.next_of_scan (f.scan_bytes rest), f.drop_header, if_neg room, ← f.filled,
    List.take_left, List.drop_left]
  rfl

/-- Only a written frame is read as one. -/
theorem of_next {bs : Bytes} {p : Primitive} {t : FrameStream}
    (given : FrameStream.next { remaining := bs } = some (.ok p, t)) :
    ∃ (f : WrittenFrame) (rest : Bytes), bs = f.bytes ++ rest ∧ p = f.primitive ∧
      t = { remaining := rest } := by
  obtain ⟨header, scanned, room, rfl, rfl⟩ := FrameStream.next_ok given
  obtain ⟨text, behind, spells, rfl⟩ := Header.scan_eq_some_iff.1 scanned
  rw [← spells.length, List.drop_left] at room ⊢
  refine ⟨⟨header, text, behind.take header.length, spells, List.length_take_of_le room⟩,
    behind.drop header.length, ?_, rfl, rfl⟩
  rw [bytes, List.append_assoc, List.take_append_drop]

theorem yields_joined (fs : List WrittenFrame) (rest : Bytes) :
    FrameStream.Yields { remaining := joined fs ++ rest } (items fs) { remaining := rest } := by
  induction fs with
  | nil => exact .nil _
  | cons f fs ih =>
    rw [joined_cons, List.append_assoc]
    exact .cons (f.next_bytes _) ih

/-- The first frame of a string is determined by it. -/
theorem eq_of_append {f g : WrittenFrame} {r s : Bytes} (same : f.bytes ++ r = g.bytes ++ s) :
    f = g ∧ r = s := by
  have header : f.header = g.header := by
    have scanned := f.scan_bytes r
    rw [same, g.scan_bytes s] at scanned
    exact (Option.some.inj (Except.ok.inj scanned)).symm
  rw [bytes, bytes, List.append_assoc, List.append_assoc] at same
  have width : f.spelling.length = g.spelling.length := by
    rw [f.spells.length, g.spells.length, header]
  obtain ⟨spelling, behind⟩ := List.append_inj same width
  have size : f.payload.length = g.payload.length := by
    rw [f.filled, g.filled, header]
  obtain ⟨payload, rest⟩ := List.append_inj behind size
  exact ⟨WrittenFrame.ext header spelling payload, rest⟩

/-- Of two runs of frames that a string begins with, one goes on where the other stops. -/
theorem prefix_of_joined {fs gs : List WrittenFrame} {r : Bytes}
    (same : joined fs ++ r = joined gs) : fs <+: gs := by
  induction fs generalizing gs with
  | nil => exact List.nil_prefix
  | cons f fs ih =>
    rw [joined_cons, List.append_assoc] at same
    cases gs with
    | nil =>
      have next := f.next_bytes (joined fs ++ r)
      rw [same] at next
      cases next
    | cons g gs =>
      rw [joined_cons] at same
      obtain ⟨rfl, behind⟩ := eq_of_append same
      exact (List.prefix_cons_inj f).2 (ih behind)

theorem joined_injective {fs gs : List WrittenFrame} (same : joined fs = joined gs) : fs = gs := by
  have front : fs <+: gs := prefix_of_joined ((List.append_nil _).trans same)
  have back : gs <+: fs := prefix_of_joined ((List.append_nil _).trans same.symm)
  exact front.eq_of_length (Nat.le_antisymm front.length_le back.length_le)

/-- What stands where the frames stop: a header that cannot be read, or one that announces more
bytes than there are. -/
inductive Offense : Bytes → FrameError → Prop
  | header {rest : Bytes} {fault : HeaderFault} (filled : rest ≠ [])
      (unread : Header.read rest = .error fault) : Offense rest (.malformedHeader fault)
  | payload {header : Header} {text part : Bytes} (spells : header.Spells text)
      (short : part.length < header.length) :
      Offense (text ++ part) (.truncated header.length part.length)

variable {rest : Bytes} {e : FrameError}

theorem Offense.next (offense : Offense rest e) :
    FrameStream.next { remaining := rest } =
      some (.error e, { remaining := rest, failed := true }) := by
  cases offense with
  | header filled unread =>
    have some_byte : rest.isEmpty = false := by
      simpa [List.isEmpty_iff] using filled
    simp [FrameStream.next, some_byte, unread]
  | @payload header text part spells short =>
    have behind : (text ++ part).drop header.consumed = part := by
      rw [← spells.length, List.drop_left]
    rw [Frame.next_of_scan (spells.scan part), behind, if_pos short]

theorem Offense.not_frame (offense : Offense rest e) (f : WrittenFrame) (more : Bytes) :
    rest ≠ f.bytes ++ more := by
  intro same
  have next := offense.next
  rw [same, f.next_bytes] at next
  cases next

theorem offense_of_next {bs : Bytes} {t : FrameStream}
    (given : FrameStream.next { remaining := bs } = some (.error e, t)) : Offense bs e := by
  cases scanned : Header.scan bs with
  | error fault =>
    rw [Frame.next_of_fault scanned] at given
    cases given
    refine .header ?_ ?_
    · rintro rfl
      cases scanned
    · rw [Header.read, scanned]
      rfl
  | ok found =>
    cases found with
    | none =>
      have unread : Header.read bs = .error .missingDelimiter := by
        rw [Header.read, scanned]
        rfl
      cases empty : bs.isEmpty with
      | true =>
        rw [FrameStream.next, empty] at given
        cases given
      | false =>
        simp only [FrameStream.next, empty, unread, Bool.or_self, Bool.false_eq_true, if_false,
          Option.some.injEq, Prod.mk.injEq, Except.error.injEq] at given
        rw [← given.1]
        exact .header (by simpa [List.isEmpty_iff] using empty) unread
    | some header =>
      obtain ⟨text, part, spells, rfl⟩ := Header.scan_eq_some_iff.1 scanned
      rw [Frame.next_of_scan scanned, ← spells.length, List.drop_left] at given
      split at given
      · rename_i short
        cases given
        exact .payload spells short
      · cases given

/-- Every string is a run of frames, with an offense behind it unless it is at its end. -/
theorem exists_joined (bs : Bytes) :
    ∃ fs rest, bs = joined fs ++ rest ∧ (rest = [] ∨ ∃ e, Offense rest e) := by
  cases next : FrameStream.next { remaining := bs } with
  | none =>
    refine ⟨[], bs, rfl, .inl ?_⟩
    cases bs with
    | nil => rfl
    | cons b bs =>
      rw [FrameStream.next] at next
      simp only [Bool.false_or, List.isEmpty_cons, Bool.false_eq_true, if_false] at next
      split at next
      · cases next
      · split at next <;> cases next
  | some step =>
    obtain ⟨item, t⟩ := step
    cases item with
    | error e => exact ⟨[], bs, rfl, .inr ⟨e, offense_of_next next⟩⟩
    | ok p =>
      obtain ⟨f, behind, rfl, -, -⟩ := of_next next
      have shorter : behind.length < (f.bytes ++ behind).length := by
        have size := FrameStream.next_weight (f.next_bytes behind)
        simpa [FrameStream.weight] using size
      obtain ⟨fs, rest, rfl, ends⟩ := exists_joined behind
      exact ⟨f :: fs, rest, by rw [joined_cons, List.append_assoc], ends⟩
termination_by bs.length

/-- A run of frames that an offense follows holds every other that the string begins with. -/
theorem Offense.longest (offense : Offense rest e) {fs gs : List WrittenFrame} {more : Bytes}
    (same : joined gs ++ more = joined fs ++ rest) : gs <+: fs := by
  induction fs generalizing gs with
  | nil =>
    cases gs with
    | nil => exact List.nil_prefix
    | cons g gs =>
      rw [joined_cons, List.append_assoc] at same
      exact absurd same.symm (offense.not_frame g _)
  | cons f fs ih =>
    cases gs with
    | nil => exact List.nil_prefix
    | cons g gs =>
      rw [joined_cons, joined_cons, List.append_assoc, List.append_assoc] at same
      obtain ⟨rfl, behind⟩ := eq_of_append same
      exact (List.prefix_cons_inj g).2 (ih behind)

theorem decodeStream_joined (fs : List WrittenFrame) :
    Frame.decodeStream (joined fs) = (items fs, []) := by
  have ended : ({ remaining := [] } : FrameStream).next = none := rfl
  have drained := (yields_joined fs []).drain
  rw [FrameStream.drain_ended ended, List.append_nil, List.append_nil] at drained
  rw [Frame.decodeStream, drained]

theorem Offense.yields (offense : Offense rest e) (fs : List WrittenFrame) :
    FrameStream.Yields { remaining := joined fs ++ rest } (items fs ++ [.error e])
      { remaining := rest, failed := true } := by
  induction fs with
  | nil => exact .cons offense.next (.nil _)
  | cons f fs ih =>
    rw [joined_cons, List.append_assoc]
    exact .cons (f.next_bytes _) ih

theorem Offense.decodeStream (offense : Offense rest e) (fs : List WrittenFrame) :
    Frame.decodeStream (joined fs ++ rest) = (items fs ++ [.error e], rest) := by
  have ended : ({ remaining := rest, failed := true } : FrameStream).next = none := rfl
  have drained := (offense.yields fs).drain
  rw [FrameStream.drain_ended ended, List.append_nil] at drained
  rw [Frame.decodeStream, drained]

/-- A header is read where one is spelled, and no more bytes change what the scan said once it said
something. A string is read without an error exactly if it is made of frames, which it is in one way
at most; any other gives the longest run of frames that it begins with, one error for what stands
behind them, and nothing more. -/
theorem decodeStream_grammar (bs : Bytes) :
    (∀ header, Header.scan bs = .ok (some header) ↔
      ∃ text rest, header.Spells text ∧ bs = text ++ rest) ∧
    (∀ more, Header.scan bs ≠ .ok none → Header.scan (bs ++ more) = Header.scan bs) ∧
    ((∀ item ∈ (Frame.decodeStream bs).1, item.isOk = true) ↔ ∃ fs, bs = joined fs) ∧
    (∀ fs, bs = joined fs →
      Frame.decodeStream bs = (items fs, []) ∧ ∀ others, bs = joined others → others = fs) ∧
    ((¬∃ fs, bs = joined fs) → ∃ fs rest e,
      bs = joined fs ++ rest ∧ (∀ others, joined others <+: bs → others <+: fs) ∧
      Offense rest e ∧ Frame.decodeStream bs = (items fs ++ [.error e], rest) ∧
      ∃ last : FrameStream, FrameStream.Yields { remaining := bs } (items fs ++ [.error e]) last ∧
        last.remaining = rest ∧ last.next = none) := by
  refine ⟨fun _ => Header.scan_eq_some_iff, fun more settled => Header.scan_append rfl settled more,
    ⟨fun clean => ?_, ?_⟩, ?_, fun other => ?_⟩
  · obtain ⟨fs, rest, rfl, rfl | ⟨e, offense⟩⟩ := exists_joined bs
    · exact ⟨fs, List.append_nil _⟩
    · rw [offense.decodeStream fs] at clean
      cases clean (.error e) (by simp)
  · rintro ⟨fs, rfl⟩ item member
    rw [decodeStream_joined] at member
    obtain ⟨f, -, rfl⟩ := List.mem_map.1 member
    rfl
  · rintro fs rfl
    exact ⟨decodeStream_joined fs, fun others same => joined_injective same.symm⟩
  · obtain ⟨fs, rest, rfl, rfl | ⟨e, offense⟩⟩ := exists_joined bs
    · exact absurd ⟨fs, List.append_nil _⟩ other
    · exact ⟨fs, rest, e, rfl, fun others ⟨more, same⟩ => offense.longest same, offense,
        offense.decodeStream fs, _, offense.yields fs, rfl, rfl⟩

end WrittenFrame

end CodecLink
