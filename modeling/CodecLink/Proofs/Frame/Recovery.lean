import CodecLink.Frame.Incremental
import CodecLink.Proofs.Frame.Buffering

/-! What is left buffered behind a failure. Decoding a buffer that its owner fills and receiving from
a stream answer alike, chunk by chunk, up to the first frame that is too large: the receiver drops
what it has buffered then and goes on, the buffer of the owner keeps it and never gets past it. -/
namespace CodecLink

namespace Frame

/-- What call after call came to, until one had nothing to give or failed: the primitives, each with
the bytes left buffered behind it, the failure if there was one, and the bytes left in the end. -/
structure Calls where
  frames : List (Primitive × Bytes) := []
  failure : Option FrameError := none
  left : Bytes
  deriving DecidableEq, Repr

namespace Calls

def before (p : Primitive) (rest : Bytes) (later : Calls) : Calls :=
  { later with frames := (p, rest) :: later.frames }

/-- Whether the calls ended at a frame that is too large. -/
def Refused (calls : Calls) : Prop := ∃ size most, calls.failure = some (.tooLarge size most)

/-- The same calls, made by one who drops the buffer at every failure. -/
def dropped (calls : Calls) : Calls :=
  if calls.failure.isSome then { calls with left := [] } else calls

theorem dropped_before (p : Primitive) (rest : Bytes) (later : Calls) :
    (later.before p rest).dropped = later.dropped.before p rest := by
  obtain ⟨frames, failure, left⟩ := later
  cases failure with
  | none => rfl
  | some e => rfl

theorem dropped_eq_self {calls : Calls} (kept : calls.failure = none ∨ calls.left = []) :
    calls.dropped = calls := by
  obtain ⟨frames, failure, left⟩ := calls
  rcases kept with whole | empty
  · cases whole
    rfl
  · cases empty
    cases failure with
    | none => rfl
    | some e => rfl

end Calls

theorem decodeNext_frame {limits : Limits} {source rest : Bytes} {p : Primitive}
    (decoded : decodeNext limits source = (.ok (some p), rest)) :
    take limits.maxPayload source = .ok (some (p, rest)) := by
  unfold decodeNext at decoded
  split at decoded
  · cases decoded
  · rename_i taken
    cases decoded
    exact taken
  · cases decoded
  · cases decoded

theorem decodeNext_length {limits : Limits} {source rest : Bytes} {p : Primitive}
    (decoded : decodeNext limits source = (.ok (some p), rest)) : rest.length < source.length :=
  take_length (decodeNext_frame decoded)

/-- Decoding until there is nothing more or a failure. -/
def decodeUntil (limits : Limits) (source : Bytes) : Calls :=
  match _decoded : decodeNext limits source with
  | (.ok (some p), rest) => (decodeUntil limits rest).before p rest
  | (.ok none, left) => { left }
  | (.error e, left) => { failure := some e, left }
termination_by source.length
decreasing_by exact decodeNext_length _decoded

/-- Chunks appended to the buffer one after another, with decoding behind each. -/
def decodeChunks (limits : Limits) : Bytes → List Bytes → List Calls
  | _, [] => []
  | source, chunk :: chunks =>
    let calls := decodeUntil limits (source ++ chunk)
    calls :: decodeChunks limits calls.left chunks

end Frame

namespace Reader

theorem next_length {r after : Reader} {source rest : Inbound} {p : Primitive}
    (received : r.next source = (.ok p, after, rest)) :
    backlog after.buffer rest.steps < backlog r.buffer source.steps := by
  have progress := pull_progress r.limits.maxPayload source.ending r.buffer source.steps
  unfold next at received
  obtain ⟨result, rfl, rfl⟩ := Prod.mk.inj received |>.imp_right Prod.mk.inj
  rcases progress with less | closed | ⟨blocked, _⟩
  · exact less
  · cases result.symm.trans closed
  · cases result.symm.trans blocked

/-- Receiving until there is nothing more or a failure. -/
def receiveUntil (r : Reader) (source : Inbound) : Frame.Calls × Reader × Inbound :=
  match _received : r.next source with
  | (.ok p, after, rest) =>
    let (later, final, rest) := after.receiveUntil rest
    (later.before p after.buffer, final, rest)
  | (.error e, after, rest) =>
    ({ failure := if e = .io .wouldBlock then none else some e, left := after.buffer }, after, rest)
termination_by backlog r.buffer source.steps
decreasing_by exact next_length _received

/-- Chunks arriving one after another, with receiving behind each. -/
def receiveChunks : Reader → Inbound → List Bytes → List Frame.Calls
  | _, _, [] => []
  | r, source, chunk :: chunks =>
    let (calls, after, rest) := r.receiveUntil (source.push chunk)
    calls :: receiveChunks after rest chunks

end Reader

namespace Frame

theorem take_error_cases {maxPayload : Nat} {buffer : Bytes} {e : FrameError}
    (failed : take maxPayload buffer = .error e) :
    (∃ fault, e = .malformedHeader fault) ∨ ∃ size, e = .tooLarge size maxPayload := by
  unfold take at failed
  split at failed
  · cases failed
    exact .inl ⟨_, rfl⟩
  · cases failed
  · split at failed
    · cases failed
      exact .inr ⟨_, rfl⟩
    · split at failed <;> cases failed

/-- No bytes behind it mend a front that is refused. -/
theorem take_error_append {maxPayload : Nat} {buffer : Bytes} {e : FrameError}
    (failed : take maxPayload buffer = .error e) (more : Bytes) :
    take maxPayload (buffer ++ more) = .error e := by
  unfold take at failed ⊢
  cases scanned : Header.scan buffer with
  | error fault =>
    rw [scanned] at failed
    rw [Header.scan_append scanned (by simp) more]
    exact failed
  | ok found =>
    rw [scanned] at failed
    cases found with
    | none => cases failed
    | some header =>
      rw [Header.scan_append scanned (by simp) more]
      dsimp only at failed ⊢
      split at failed
      · rename_i large
        rw [if_pos large]
        exact failed
      · split at failed <;> cases failed

theorem decodeNext_waiting {limits : Limits} {source left : Bytes}
    (decoded : decodeNext limits source = (.ok none, left)) :
    take limits.maxPayload source = .ok none ∧ left = source := by
  unfold decodeNext at decoded
  split at decoded
  · rename_i taken
    cases decoded
    exact ⟨taken, rfl⟩
  · cases decoded
  · cases decoded
  · cases decoded

/-- A header that cannot be read costs all that is buffered, a frame that is too large nothing. -/
theorem decodeNext_failed {limits : Limits} {source left : Bytes} {e : FrameError}
    (decoded : decodeNext limits source = (.error e, left)) :
    take limits.maxPayload source = .error e ∧
      ((∃ fault, e = .malformedHeader fault) ∧ left = [] ∨
        (∃ size, e = .tooLarge size limits.maxPayload) ∧ left = source) := by
  unfold decodeNext at decoded
  split at decoded
  · cases decoded
  · cases decoded
  · rename_i fault taken
    cases decoded
    exact ⟨taken, .inl ⟨⟨fault, rfl⟩, rfl⟩⟩
  · rename_i other readable taken
    cases decoded
    rcases take_error_cases taken with ⟨fault, rfl⟩ | large
    · exact absurd rfl (readable fault)
    · exact ⟨taken, .inr ⟨large, rfl⟩⟩

theorem decodeUntil_next (limits : Limits) (source : Bytes) :
    decodeUntil limits source =
      match decodeNext limits source with
      | (.ok (some p), rest) => (decodeUntil limits rest).before p rest
      | (.ok none, left) => { left }
      | (.error e, left) => { failure := some e, left } := by
  rw [decodeUntil]
  split <;> rename_i found <;> rw [found]

/-- How decoding ends: with an unfinished front, with nothing behind a header that cannot be read, or
before a frame that is too large. -/
theorem decodeUntil_ends (limits : Limits) (source : Bytes) :
    ((decodeUntil limits source).failure = none ∧
      take limits.maxPayload (decodeUntil limits source).left = .ok none) ∨
    (∃ fault, (decodeUntil limits source).failure = some (.malformedHeader fault) ∧
      (decodeUntil limits source).left = []) ∨
    ∃ size, (decodeUntil limits source).failure = some (.tooLarge size limits.maxPayload) ∧
      take limits.maxPayload (decodeUntil limits source).left =
        .error (.tooLarge size limits.maxPayload) := by
  fun_induction decodeUntil limits source with
  | case1 source p rest decoded ih => exact ih
  | case2 source left decoded =>
    obtain ⟨taken, rfl⟩ := decodeNext_waiting decoded
    exact .inl ⟨rfl, taken⟩
  | case3 source e left decoded =>
    obtain ⟨taken, ⟨⟨fault, rfl⟩, rfl⟩ | ⟨⟨size, rfl⟩, rfl⟩⟩ := decodeNext_failed decoded
    · exact .inr (.inl ⟨fault, rfl, rfl⟩)
    · exact .inr (.inr ⟨size, rfl, taken⟩)

/-- Nothing is to be had from these bytes before more arrive. -/
def Settled (limits : Limits) (buffer : Bytes) : Prop := take limits.maxPayload buffer = .ok none

theorem settled_nil (limits : Limits) : Settled limits [] := rfl

theorem settled_dropped (limits : Limits) (source : Bytes) :
    Settled limits (decodeUntil limits source).dropped.left := by
  unfold Calls.dropped
  rcases decodeUntil_ends limits source with ⟨whole, taken⟩ | ⟨_, failed, _⟩ | ⟨_, failed, _⟩
  · rw [whole]
    exact taken
  · rw [failed]
    exact settled_nil limits
  · rw [failed]
    exact settled_nil limits

/-- Only a frame that is too large is left in the buffer. -/
theorem dropped_of_not_refused {limits : Limits} {source : Bytes}
    (read : ¬(decodeUntil limits source).Refused) :
    (decodeUntil limits source).dropped = decodeUntil limits source := by
  apply Calls.dropped_eq_self
  rcases decodeUntil_ends limits source with ⟨whole, _⟩ | ⟨_, _, empty⟩ | ⟨size, failed, _⟩
  · exact .inl whole
  · exact .inr empty
  · exact absurd ⟨size, limits.maxPayload, failed⟩ read

/-- A buffer with a frame that is too large in front never gets past it, whatever is appended. -/
theorem decodeUntil_refused {limits : Limits} {source : Bytes}
    (refused : (decodeUntil limits source).Refused) :
    (decodeUntil limits source).left ≠ [] ∧
      (∃ size, (decodeUntil limits source).failure = some (.tooLarge size limits.maxPayload)) ∧
      ∀ more,
        decodeUntil limits ((decodeUntil limits source).left ++ more) =
          { failure := (decodeUntil limits source).failure
            left := (decodeUntil limits source).left ++ more } := by
  obtain ⟨_, _, large⟩ := refused
  rcases decodeUntil_ends limits source with ⟨whole, _⟩ | ⟨_, failed, _⟩ | ⟨size, failed, taken⟩
  · cases whole.symm.trans large
  · cases failed.symm.trans large
  · refine ⟨List.length_pos_iff.1 (take_error_nonempty taken), ⟨size, failed⟩, ?_⟩
    intro more
    have stuck := take_error_append taken more
    rw [decodeUntil_next, decodeNext, stuck, failed]

end Frame

namespace Reader

theorem receiveUntil_next (r : Reader) (source : Inbound) :
    r.receiveUntil source =
      match r.next source with
      | (.ok p, after, rest) =>
        ((after.receiveUntil rest).1.before p after.buffer, (after.receiveUntil rest).2)
      | (.error e, after, rest) =>
        ({ failure := if e = .io .wouldBlock then none else some e, left := after.buffer },
          after, rest) := by
  rw [receiveUntil]
  split <;> rename_i found <;> rw [found]

/-- The stream while nothing has arrived. -/
def quiet : Inbound := { ending := .idle }

theorem next_quiet (r : Reader) :
    r.next quiet =
      match Frame.take r.limits.maxPayload r.buffer with
      | .ok (some (p, rest)) => (.ok p, { r with buffer := rest }, quiet)
      | .ok none => (.error (.io .wouldBlock), r, quiet)
      | .error e => (.error e, { r with buffer := [] }, quiet) := by
  unfold next quiet
  rw [pull]
  cases Frame.take r.limits.maxPayload r.buffer with
  | error e => rfl
  | ok found =>
    cases found with
    | none => rfl
    | some frame => rfl

/-- On what is buffered, receiving is decoding, but that a failure costs the buffer. -/
theorem receiveUntil_quiet (limits : Frame.Limits) (buffer : Bytes) :
    receiveUntil { limits, buffer } quiet =
      ((Frame.decodeUntil limits buffer).dropped,
        { limits, buffer := (Frame.decodeUntil limits buffer).dropped.left }, quiet) := by
  fun_induction Frame.decodeUntil limits buffer with
  | case1 source p rest decoded ih =>
    rw [receiveUntil_next, next_quiet, Frame.decodeNext_frame decoded]
    dsimp only
    rw [ih, Frame.Calls.dropped_before]
    rfl
  | case2 source left decoded =>
    obtain ⟨taken, rfl⟩ := Frame.decodeNext_waiting decoded
    rw [receiveUntil_next, next_quiet, taken]
    rfl
  | case3 source e left decoded =>
    obtain ⟨taken, ⟨⟨fault, rfl⟩, _⟩ | ⟨⟨size, rfl⟩, _⟩⟩ := Frame.decodeNext_failed decoded
    · rw [receiveUntil_next, next_quiet, taken]
      rfl
    · rw [receiveUntil_next, next_quiet, taken]
      rfl

/-- What arrives behind an unfinished front is buffered before anything else is done. -/
theorem receiveUntil_push {r : Reader} (settled : Frame.Settled r.limits r.buffer) {chunk : Bytes}
    (fits : chunk.length ≤ chunkSize) :
    r.receiveUntil (quiet.push chunk) =
      receiveUntil { r with buffer := r.buffer ++ chunk } quiet := by
  cases chunk with
  | nil =>
    rw [List.append_nil]
    rfl
  | cons b bs =>
    have pulled : pull r.limits.maxPayload .idle r.buffer [.data (b :: bs)] =
        pull r.limits.maxPayload .idle (r.buffer ++ b :: bs) [] := by
      unfold Frame.Settled at settled
      conv =>
        lhs
        rw [pull, settled]
      exact if_pos fits
    have read : r.next (quiet.push (b :: bs)) =
        next { r with buffer := r.buffer ++ b :: bs } quiet := by
      unfold next
      exact congrArg (fun after : Pulled =>
        (after.result, { r with buffer := after.buffer }, { quiet with steps := after.steps })) pulled
    rw [receiveUntil_next, receiveUntil_next, read]

/-- Chunk after chunk, receiving is decoding by one who drops the buffer at every failure. -/
theorem receiveChunks_cons {limits : Frame.Limits} {buffer : Bytes}
    (settled : Frame.Settled limits buffer) {chunk : Bytes} (fits : chunk.length ≤ chunkSize)
    (chunks : List Bytes) :
    receiveChunks { limits, buffer } quiet (chunk :: chunks) =
      (Frame.decodeUntil limits (buffer ++ chunk)).dropped ::
        receiveChunks { limits, buffer := (Frame.decodeUntil limits (buffer ++ chunk)).dropped.left }
          quiet chunks := by
  rw [receiveChunks, receiveUntil_push settled fits, receiveUntil_quiet]

/-- Where decoding and receiving part: at a frame that is too large, behind which the receiver goes on
as over a stream that begins there, while every further call of the decoder ends the same way. -/
structure Part (limits : Frame.Limits) (buffer : Bytes) (chunks : List Bytes)
    (shared : List Frame.Calls) (refused : Frame.Calls) (after : List Bytes) : Prop where
  cut : ∃ before chunk, before.length = shared.length ∧ chunks = before ++ chunk :: after
  read : ∀ calls ∈ shared, ¬calls.Refused
  large : ∃ size, refused.failure = some (.tooLarge size limits.maxPayload)
  held : refused.left ≠ []
  decoded : Frame.decodeChunks limits buffer chunks =
    shared ++ refused :: Frame.decodeChunks limits refused.left after
  received : receiveChunks { limits, buffer } quiet chunks =
    shared ++ { refused with left := [] } :: receiveChunks { limits } quiet after
  stuck : ∀ more, Frame.decodeUntil limits (refused.left ++ more) =
    { failure := refused.failure, left := refused.left ++ more }

theorem part_now {limits : Frame.Limits} {buffer : Bytes} (settled : Frame.Settled limits buffer)
    {chunk : Bytes} (fits : chunk.length ≤ chunkSize) (chunks : List Bytes)
    (refused : (Frame.decodeUntil limits (buffer ++ chunk)).Refused) :
    Part limits buffer (chunk :: chunks) [] (Frame.decodeUntil limits (buffer ++ chunk)) chunks := by
  obtain ⟨held, ⟨size, large⟩, stuck⟩ := Frame.decodeUntil_refused refused
  have dropped : (Frame.decodeUntil limits (buffer ++ chunk)).dropped =
      { Frame.decodeUntil limits (buffer ++ chunk) with left := [] } := by
    unfold Frame.Calls.dropped
    rw [if_pos (by rw [large]; rfl)]
  have received := receiveChunks_cons settled fits chunks
  rw [dropped] at received
  exact ⟨⟨[], chunk, rfl, rfl⟩, by simp, ⟨size, large⟩, held, rfl, received, stuck⟩

theorem Part.later {limits : Frame.Limits} {buffer chunk : Bytes} {chunks after : List Bytes}
    {shared : List Frame.Calls} {refused : Frame.Calls}
    (read : ¬(Frame.decodeUntil limits (buffer ++ chunk)).Refused)
    (received : receiveChunks { limits, buffer } quiet (chunk :: chunks) =
      Frame.decodeUntil limits (buffer ++ chunk) ::
        receiveChunks { limits, buffer := (Frame.decodeUntil limits (buffer ++ chunk)).left } quiet
          chunks)
    (part : Part limits (Frame.decodeUntil limits (buffer ++ chunk)).left chunks shared refused
      after) :
    Part limits buffer (chunk :: chunks)
      (Frame.decodeUntil limits (buffer ++ chunk) :: shared) refused after := by
  obtain ⟨before, last, size, cut⟩ := part.cut
  refine ⟨⟨chunk :: before, last, ?_, by rw [cut]; rfl⟩, ?_, part.large, part.held, ?_, ?_,
    part.stuck⟩
  · rw [List.length_cons, List.length_cons, size]
  · intro calls member
    rcases List.mem_cons.1 member with rfl | member
    · exact read
    · exact part.read calls member
  · rw [Frame.decodeChunks, part.decoded]
    rfl
  · rw [received, part.received]
    rfl

theorem agree_from {limits : Frame.Limits} {buffer : Bytes} (settled : Frame.Settled limits buffer)
    {chunks : List Bytes} (sized : ∀ chunk ∈ chunks, chunk.length ≤ chunkSize) :
    ((∀ calls ∈ Frame.decodeChunks limits buffer chunks, ¬calls.Refused) ∧
      receiveChunks { limits, buffer } quiet chunks = Frame.decodeChunks limits buffer chunks) ∨
    ∃ shared refused after, Part limits buffer chunks shared refused after := by
  induction chunks generalizing buffer with
  | nil => exact .inl ⟨by simp [Frame.decodeChunks], rfl⟩
  | cons chunk chunks ih =>
    have fits := sized chunk List.mem_cons_self
    have later : ∀ other ∈ chunks, other.length ≤ chunkSize := by
      intro other member
      exact sized other (List.mem_cons_of_mem _ member)
    by_cases refused : (Frame.decodeUntil limits (buffer ++ chunk)).Refused
    · exact .inr ⟨_, _, _, part_now settled fits chunks refused⟩
    · have received := receiveChunks_cons settled fits chunks
      have next := Frame.settled_dropped limits (buffer ++ chunk)
      rw [Frame.dropped_of_not_refused refused] at received next
      rcases ih next later with ⟨read, same⟩ | ⟨shared, stop, after, part⟩
      · refine .inl ⟨?_, by rw [received, same, Frame.decodeChunks]⟩
        intro calls member
        rw [Frame.decodeChunks] at member
        rcases List.mem_cons.1 member with rfl | member
        · exact refused
        · exact read calls member
      · exact .inr ⟨_, stop, after, part.later refused received⟩

/-- Decoding the chunks out of a buffer and receiving them from a stream give the same primitives and
failures and leave the same bytes buffered behind each of them, all along or up to the first frame
that is too large. That is the one failure of decoding that takes nothing: every other one takes all
that is buffered. -/
theorem received_as_decoded_unless_refused (limits : Frame.Limits) (chunks : List Bytes)
    (sized : ∀ chunk ∈ chunks, chunk.length ≤ chunkSize) :
    (((∀ calls ∈ Frame.decodeChunks limits [] chunks, ¬calls.Refused) ∧
      receiveChunks { limits } quiet chunks = Frame.decodeChunks limits [] chunks) ∨
    ∃ shared refused after, Part limits [] chunks shared refused after) ∧
    ∀ source e left, Frame.decodeNext limits source = (.error e, left) →
      (∃ fault, e = .malformedHeader fault) ∧ source ≠ [] ∧ left = [] ∨
        (∃ size, e = .tooLarge size limits.maxPayload) ∧ left = source := by
  refine ⟨agree_from (Frame.settled_nil limits) sized, ?_⟩
  intro source e left failed
  obtain ⟨taken, ⟨unread, empty⟩ | large⟩ := Frame.decodeNext_failed failed
  · exact .inl ⟨unread, List.length_pos_iff.1 (Frame.take_error_nonempty taken), empty⟩
  · exact .inr large

/-- A frame with a header that cannot be read behind it, and then a front that is unfinished. -/
theorem received_as_decoded_past_bad_header :
    let chunks : List Bytes := [[49, 58, 48, 58, 120, 58], [50, 58]]
    let calls : List Frame.Calls :=
      [{ frames := [(⟨1, []⟩, [120, 58])], failure := some (.malformedHeader .nonNumeric), left := [] },
        { left := [50, 58] }]
    (∀ chunk ∈ chunks, chunk.length ≤ chunkSize) ∧
      receiveChunks {} quiet chunks = calls ∧ Frame.decodeChunks {} [] chunks = calls := by
  intro chunks calls
  have sized : ∀ chunk ∈ chunks, chunk.length ≤ chunkSize := by simp [chunks, chunkSize]
  have decoded : Frame.decodeChunks {} [] chunks = calls := by cbv
  rcases (received_as_decoded_unless_refused {} chunks sized).1 with
    ⟨_, same⟩ | ⟨shared, refused, after, part⟩
  · exact ⟨sized, same.trans decoded, decoded⟩
  · obtain ⟨size, large⟩ := part.large
    have member : refused ∈ calls := by
      rw [← decoded, part.decoded]
      simp
    simp only [calls, List.mem_cons, List.not_mem_nil, or_false] at member
    rcases member with rfl | rfl <;> cases large

/-- Behind a frame that is too large the next frame is received, but it is never decoded. -/
theorem refused_frame_kept :
    let chunks : List Bytes := [[57, 58, 57, 57, 57, 57, 58], [49, 58, 48, 58]]
    receiveChunks {} quiet chunks =
        [{ failure := some (.tooLarge 9999 512), left := [] },
          { frames := [(⟨1, []⟩, [])], left := [] }] ∧
      Frame.decodeChunks {} [] chunks =
        [{ failure := some (.tooLarge 9999 512), left := [57, 58, 57, 57, 57, 57, 58] },
          { failure := some (.tooLarge 9999 512),
            left := [57, 58, 57, 57, 57, 57, 58, 49, 58, 48, 58] }] := by
  intro chunks
  have first : Frame.decodeUntil {} [57, 58, 57, 57, 57, 57, 58] =
      { failure := some (.tooLarge 9999 512), left := [57, 58, 57, 57, 57, 57, 58] } := by cbv
  have second : Frame.decodeUntil {} [49, 58, 48, 58] =
      { frames := [(⟨1, []⟩, [])], left := [] } := by cbv
  have large : ([57, 58, 57, 57, 57, 57, 58] : Bytes).length ≤ chunkSize := by decide
  have small : ([49, 58, 48, 58] : Bytes).length ≤ chunkSize := by decide
  have refused := receiveChunks_cons (Frame.settled_nil {}) large [[49, 58, 48, 58]]
  have next := receiveChunks_cons (Frame.settled_nil {}) small []
  rw [List.nil_append, first] at refused
  rw [List.nil_append, second] at next
  exact ⟨refused.trans (congrArg _ next), by cbv⟩

end Reader

end CodecLink
