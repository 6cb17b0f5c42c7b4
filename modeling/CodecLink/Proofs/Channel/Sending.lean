import CodecLink.Proofs.Channel.Transfer

/-! What a stream takes of one frame after another, whatever it does: it writes a part of what it is
given or nothing, is interrupted or fails, and fails to flush. Each call leaves its own piece behind,
the whole frame unless it was refused or cut off in the middle of writing, and starts from nothing
that a call before it left. -/
namespace CodecLink

namespace Outbound

variable {sink after : Outbound} {bs : Bytes}

theorem write_ok {count : Nat} (wrote : sink.write bs = (.ok count, after)) :
    count ≤ bs.length ∧ after.accepted = sink.accepted ++ bs.take count := by
  unfold write at wrote
  split at wrote
  · split at wrote
    · cases wrote
    · cases wrote
      exact ⟨Nat.le_refl _, by rw [List.take_length]⟩
  · cases wrote
    refine ⟨Nat.min_le_right _ _, ?_⟩
    rw [← List.take_take, List.take_length]
  · cases wrote

theorem write_error {fault : Fault} (failed : sink.write bs = (.error fault, after)) :
    after.accepted = sink.accepted := by
  unfold write at failed
  split at failed
  · split at failed <;> cases failed
    rfl
  · cases failed
  · cases failed
    rfl

theorem writes_of_write {outcome : Except Fault Nat} (done : sink.write bs = (outcome, after)) :
    after.writes.length ≤ sink.writes.length := by
  unfold write at done
  split at done
  · split at done <;> cases done <;> exact Nat.le_refl _
  · rename_i laid
    cases done
    rw [laid]
    exact Nat.le_succ _
  · rename_i laid
    cases done
    rw [laid]
    exact Nat.le_succ _

theorem accepted_flush {outcome : Except Fault Unit} (flushed : sink.flush = (outcome, after)) :
    after.accepted = sink.accepted := by
  unfold flush at flushed
  split at flushed <;> cases flushed <;> rfl

/-- Whether a write takes something or fails for good. -/
def settlesWrite : WriteStep → Bool
  | .accept _ => true
  | .fault fault => fault.kind ≠ .interrupted

def settlesFlush : Option Fault → Bool
  | none => true
  | some fault => fault.kind ≠ .interrupted

/-- The stream without its interruptions. -/
def uninterrupted (sink : Outbound) : Outbound :=
  { sink with
    writes := sink.writes.filter settlesWrite
    flushes := sink.flushes.filter settlesFlush }

theorem write_interrupted {fault : Fault} (failed : sink.write bs = (.error fault, after))
    (again : fault.kind = .interrupted) :
    after.writes.length < sink.writes.length ∧ after.uninterrupted = sink.uninterrupted := by
  unfold write at failed
  split at failed
  · split at failed <;> cases failed
    cases again
  · cases failed
  · rename_i laid
    cases failed
    have passed : settlesWrite (.fault fault) = false := by simp [settlesWrite, again]
    unfold uninterrupted
    rw [laid, List.filter_cons_of_neg (by simp [passed])]
    exact ⟨Nat.lt_succ_self _, rfl⟩

theorem write_settled {outcome : Except Fault Nat} (done : sink.write bs = (outcome, after))
    (settled : ∀ fault, outcome = .error fault → fault.kind ≠ .interrupted) :
    sink.uninterrupted.write bs = (outcome, after.uninterrupted) := by
  obtain ⟨writes, flushes, broken, accepted⟩ := sink
  cases writes with
  | nil =>
    cases broken with
    | false =>
      cases done
      rfl
    | true =>
      cases done
      rfl
  | cons step rest =>
    cases step with
    | accept most =>
      cases done
      rfl
    | fault fault =>
      cases done
      have settles : settlesWrite (.fault fault) = true := by
        simp [settlesWrite, settled fault rfl]
      simp only [uninterrupted, List.filter_cons_of_pos settles, write]

theorem flush_interrupted {fault : Fault} (failed : sink.flush = (.error fault, after))
    (again : fault.kind = .interrupted) : after.uninterrupted = sink.uninterrupted := by
  unfold flush at failed
  split at failed
  · cases failed
  · cases failed
  · rename_i laid
    cases failed
    have passed : settlesFlush (some fault) = false := by simp [settlesFlush, again]
    unfold uninterrupted
    rw [laid, List.filter_cons_of_neg (by simp [passed])]

theorem flush_settled {outcome : Except Fault Unit} (done : sink.flush = (outcome, after))
    (settled : ∀ fault, outcome = .error fault → fault.kind ≠ .interrupted) :
    sink.uninterrupted.flush = (outcome, after.uninterrupted) := by
  obtain ⟨writes, flushes, broken, accepted⟩ := sink
  cases flushes with
  | nil =>
    cases done
    rfl
  | cons first rest =>
    cases first with
    | none =>
      cases done
      rfl
    | some fault =>
      cases done
      have settles : settlesFlush (some fault) = true := by
        simp [settlesFlush, settled fault rfl]
      simp only [uninterrupted, List.filter_cons_of_pos settles, flush]

end Outbound

namespace Writer

variable {limits : Frame.Limits} {p : Primitive} {sink between after : Outbound} {bs part : Bytes}
  {result : Except FrameError Unit}

/-- Writing, one write of the stream after another: the answer, and what was taken in all. -/
inductive Written : Bytes → Outbound → Except FrameError Unit → Bytes → Outbound → Prop
  | done (sink : Outbound) : Written [] sink (.ok ()) [] sink
  | took {bs part : Bytes} {sink between after : Outbound} {result : Except FrameError Unit}
      {count : Nat} (more : bs ≠ []) (wrote : sink.write bs = (.ok count, between))
      (some : 0 < count)
      (rest : Written (bs.drop count) between result part after) :
      Written bs sink result (bs.take count ++ part) after
  | interrupted {bs part : Bytes} {sink between after : Outbound}
      {result : Except FrameError Unit} {fault : Fault} (more : bs ≠ [])
      (failed : sink.write bs = (.error fault, between)) (again : fault.kind = .interrupted)
      (rest : Written bs between result part after) : Written bs sink result part after
  | closed {bs : Bytes} {sink after : Outbound} (more : bs ≠ [])
      (wrote : sink.write bs = (.ok 0, after)) :
      Written bs sink (.error .connectionClosed) [] after
  | failed {bs : Bytes} {sink after : Outbound} {fault : Fault} (more : bs ≠ [])
      (failed : sink.write bs = (.error fault, after)) (fatal : fault.kind ≠ .interrupted) :
      Written bs sink (.error (.io fault)) [] after

/-- Flushing, one flush of the stream after another. -/
inductive Flushed : Outbound → Except Fault Unit → Outbound → Prop
  | done {sink after : Outbound} (flushed : sink.flush = (.ok (), after)) :
      Flushed sink (.ok ()) after
  | interrupted {sink between after : Outbound} {outcome : Except Fault Unit} {fault : Fault}
      (failed : sink.flush = (.error fault, between)) (again : fault.kind = .interrupted)
      (rest : Flushed between outcome after) : Flushed sink outcome after
  | failed {sink after : Outbound} {fault : Fault}
      (failed : sink.flush = (.error fault, after)) (fatal : fault.kind ≠ .interrupted) :
      Flushed sink (.error fault) after

/-- What one call comes to: its answer, the piece that the stream took, and the stream after it. -/
inductive Sent (limits : Frame.Limits) (p : Primitive) (sink : Outbound) :
    Except FrameError Unit → Bytes → Outbound → Prop
  | whole {between after : Outbound} (fits : (Frame.bytes p).length ≤ limits.maxFrame)
      (written : Written (Frame.bytes p) sink (.ok ()) (Frame.bytes p) between)
      (flushed : Flushed between (.ok ()) after) :
      Sent limits p sink (.ok ()) (Frame.bytes p) after
  | refused (large : limits.maxFrame < (Frame.bytes p).length) :
      Sent limits p sink (.error (.tooLarge (Frame.bytes p).length limits.maxFrame)) [] sink
  | unflushed {between after : Outbound} {fault : Fault}
      (fits : (Frame.bytes p).length ≤ limits.maxFrame)
      (written : Written (Frame.bytes p) sink (.ok ()) (Frame.bytes p) between)
      (failed : Flushed between (.error fault) after) :
      Sent limits p sink (.error (.io fault)) (Frame.bytes p) after
  | cut {after : Outbound} {part : Bytes} {e : FrameError}
      (fits : (Frame.bytes p).length ≤ limits.maxFrame)
      (reason : e = .connectionClosed ∨ ∃ fault, e = .io fault)
      (front : part <+: Frame.bytes p) (proper : part ≠ Frame.bytes p)
      (unwritten : Written (Frame.bytes p) sink (.error e) part after) :
      Sent limits p sink (.error e) part after

/-- Calls on the same stream, each on what the one before it left. -/
inductive SentAll (limits : Frame.Limits) :
    List Primitive → Outbound → List (Except FrameError Unit) → List Bytes → Outbound → Prop
  | nil (sink : Outbound) : SentAll limits [] sink [] [] sink
  | cons {p : Primitive} {ps : List Primitive} {sink between after : Outbound}
      {result : Except FrameError Unit} {results : List (Except FrameError Unit)}
      {piece : Bytes} {pieces : List Bytes} (head : Sent limits p sink result piece between)
      (tail : SentAll limits ps between results pieces after) :
      SentAll limits (p :: ps) sink (result :: results) (piece :: pieces) after

/-- One call after another, also after those that fail. -/
def sendAll (limits : Frame.Limits) : List Primitive → Outbound →
    List (Except FrameError Unit) × Outbound
  | [], sink => ([], sink)
  | p :: ps, sink =>
    let (result, sink) := send limits p sink
    let (results, sink) := sendAll limits ps sink
    (result :: results, sink)

theorem Written.accepted (written : Written bs sink result part after) :
    after.accepted = sink.accepted ++ part := by
  induction written with
  | done sink => rw [List.append_nil]
  | took _ wrote _ _ ih => rw [ih, (Outbound.write_ok wrote).2, List.append_assoc]
  | interrupted _ failed _ _ ih => rw [ih, Outbound.write_error failed]
  | closed _ wrote => exact (Outbound.write_ok wrote).2
  | failed _ failed _ => rw [Outbound.write_error failed, List.append_nil]

/-- What was taken is a front of what was to be written, and the whole of it only at success. -/
theorem Written.front (written : Written bs sink result part after) :
    part <+: bs ∧ (result = .ok () ↔ part = bs) := by
  induction written with
  | done sink => exact ⟨List.prefix_rfl, by simp⟩
  | @took bs part _ _ _ result count _ _ _ _ ih =>
    obtain ⟨front, whole⟩ := ih
    have joined := List.take_append_drop count bs
    constructor
    · have grown := (List.prefix_append_right_inj (bs.take count)).2 front
      rwa [joined] at grown
    · rw [whole]
      constructor
      · rintro rfl
        exact joined
      · intro same
        exact List.append_cancel_left (same.trans joined.symm)
  | interrupted _ _ _ _ ih => exact ih
  | closed more _ => exact ⟨List.nil_prefix, by simp [more.symm]⟩
  | failed more _ _ => exact ⟨List.nil_prefix, by simp [more.symm]⟩

theorem Written.reason {e : FrameError} (written : Written bs sink (.error e) part after) :
    e = .connectionClosed ∨ ∃ fault, e = .io fault := by
  generalize outcome : (Except.error e : Except FrameError Unit) = answer at written
  induction written with
  | done sink => cases outcome
  | took _ _ _ _ ih => exact ih outcome
  | interrupted _ _ _ _ ih => exact ih outcome
  | closed _ _ =>
    cases outcome
    exact .inl rfl
  | failed _ _ _ =>
    cases outcome
    exact .inr ⟨_, rfl⟩

theorem Flushed.accepted {outcome : Except Fault Unit} (flushed : Flushed sink outcome after) :
    after.accepted = sink.accepted := by
  induction flushed with
  | done flushed => exact Outbound.accepted_flush flushed
  | interrupted failed _ _ ih => rw [ih, Outbound.accepted_flush failed]
  | failed failed _ => exact Outbound.accepted_flush failed

theorem written_go (sink : Outbound) (bs : Bytes) (writes : List WriteStep) (accepted : Bytes) :
    ∃ part, Written bs { sink with writes, accepted } (writeAll.go sink bs writes accepted).1 part
      (writeAll.go sink bs writes accepted).2 := by
  fun_induction writeAll.go sink bs writes accepted with
  | case1 bs writes accepted empty =>
    rw [List.isEmpty_iff.1 empty]
    exact ⟨[], .done _⟩
  | case2 bs accepted filled broken =>
    have more : bs ≠ [] := by simpa using filled
    refine ⟨[], .failed more ?_ (by decide)⟩
    exact if_pos broken
  | case3 bs accepted filled intact =>
    have more : bs ≠ [] := by simpa using filled
    have wrote : Outbound.write bs { sink with writes := [], accepted } =
        (.ok bs.length, { sink with writes := [], accepted := accepted ++ bs }) := if_neg intact
    have rest := Written.done { sink with writes := [], accepted := accepted ++ bs }
    rw [← List.drop_length (l := bs)] at rest
    exact ⟨_, .took more wrote (List.length_pos_iff.2 more) rest⟩
  | case4 bs accepted filled rest =>
    have more : bs ≠ [] := by simpa using filled
    refine ⟨[], .closed more ?_⟩
    simp [Outbound.write]
  | case5 bs accepted filled most rest given ih =>
    have more : bs ≠ [] := by simpa using filled
    have some : 0 < min most bs.length := by
      have some_offered := List.length_pos_iff.2 more
      have some_taken : 0 < most := Nat.pos_of_ne_zero given
      omega
    obtain ⟨part, written⟩ := ih
    refine ⟨bs.take (min most bs.length) ++ part, .took more rfl some ?_⟩
    rw [← List.drop_eq_drop_min]
    exact written
  | case6 bs accepted filled fault rest again ih =>
    obtain ⟨part, written⟩ := ih
    exact ⟨part, .interrupted (by simpa using filled) rfl again written⟩
  | case7 bs accepted filled fault rest fatal =>
    exact ⟨[], .failed (by simpa using filled) rfl fatal⟩

theorem flushed_go (sink : Outbound) (flushes : List (Option Fault)) :
    ∃ outcome, Flushed { sink with flushes } outcome (flush.go sink flushes).2 ∧
      (flush.go sink flushes).1 = outcome.mapError .io := by
  fun_induction flush.go sink flushes with
  | case1 => exact ⟨.ok (), .done rfl, rfl⟩
  | case2 rest => exact ⟨.ok (), .done rfl, rfl⟩
  | case3 fault rest again ih =>
    obtain ⟨outcome, flushed, answer⟩ := ih
    exact ⟨outcome, .interrupted rfl again flushed, answer⟩
  | case4 fault rest fatal => exact ⟨.error fault, .failed rfl fatal, rfl⟩

theorem sent_send (limits : Frame.Limits) (p : Primitive) (sink : Outbound) :
    ∃ piece, Sent limits p sink (send limits p sink).1 piece (send limits p sink).2 := by
  by_cases fits : (Frame.bytes p).length ≤ limits.maxFrame
  · rw [send_admitted fits]
    obtain ⟨part, written⟩ := written_go sink (Frame.bytes p) sink.writes sink.accepted
    have out : Written (Frame.bytes p) sink (writeAll (Frame.bytes p) sink).1 part
      (writeAll (Frame.bytes p) sink).2 := written
    obtain ⟨front, whole⟩ := out.front
    split
    · rename_i e between stopped
      rw [stopped] at out whole
      have proper : part ≠ Frame.bytes p := by
        intro same
        cases whole.2 same
      exact ⟨part, .cut fits out.reason front proper out⟩
    · rename_i between finished
      rw [finished] at out whole
      have all : part = Frame.bytes p := whole.1 rfl
      subst all
      obtain ⟨outcome, flushed, answer⟩ := flushed_go between between.flushes
      have result : (flush between).1 = outcome.mapError .io := answer
      rw [result]
      cases outcome with
      | ok => exact ⟨_, .whole fits out flushed⟩
      | error fault => exact ⟨_, .unflushed fits out flushed⟩
  · have large := Nat.lt_of_not_le fits
    rw [send_refused large]
    exact ⟨[], .refused large⟩

theorem Sent.accepted {piece : Bytes} (sent : Sent limits p sink result piece after) :
    after.accepted = sink.accepted ++ piece := by
  cases sent with
  | whole _ written flushed => rw [flushed.accepted, written.accepted]
  | refused _ => rw [List.append_nil]
  | unflushed _ written failed => rw [failed.accepted, written.accepted]
  | cut _ _ _ _ unwritten => exact unwritten.accepted

theorem SentAll.accepted {ps : List Primitive} {results : List (Except FrameError Unit)}
    {pieces : List Bytes} (sent : SentAll limits ps sink results pieces after) :
    after.accepted = sink.accepted ++ pieces.flatten := by
  induction sent with
  | nil sink => rw [List.flatten_nil, List.append_nil]
  | cons head _ ih => rw [ih, head.accepted, List.flatten_cons, List.append_assoc]

theorem sentAll_sendAll (limits : Frame.Limits) (ps : List Primitive) (sink : Outbound) :
    ∃ pieces, SentAll limits ps sink (sendAll limits ps sink).1 pieces
      (sendAll limits ps sink).2 := by
  induction ps generalizing sink with
  | nil => exact ⟨[], .nil sink⟩
  | cons p ps ih =>
    obtain ⟨piece, head⟩ := sent_send limits p sink
    obtain ⟨pieces, tail⟩ := ih (send limits p sink).2
    exact ⟨piece :: pieces, .cons head tail⟩

/-- A stream does one thing with the bytes that it is given. -/
theorem Written.unique {result' : Except FrameError Unit} {part' : Bytes} {after' : Outbound}
    (first : Written bs sink result part after) (second : Written bs sink result' part' after') :
    result = result' ∧ part = part' ∧ after = after' := by
  induction first generalizing result' part' after' with
  | done sink =>
    cases second with
    | done => exact ⟨rfl, rfl, rfl⟩
    | took more => exact absurd rfl more
    | interrupted more => exact absurd rfl more
    | closed more => exact absurd rfl more
    | failed more => exact absurd rfl more
  | took more wrote some _ ih =>
    cases second with
    | done => exact absurd rfl more
    | took _ same _ rest =>
      cases wrote.symm.trans same
      obtain ⟨rfl, rfl, rfl⟩ := ih rest
      exact ⟨rfl, rfl, rfl⟩
    | interrupted _ other => cases wrote.symm.trans other
    | closed _ other =>
      cases wrote.symm.trans other
      exact absurd some (Nat.lt_irrefl 0)
    | failed _ other => cases wrote.symm.trans other
  | interrupted more failed again _ ih =>
    cases second with
    | done => exact absurd rfl more
    | took _ other => cases failed.symm.trans other
    | interrupted _ same _ rest =>
      cases failed.symm.trans same
      exact ih rest
    | closed _ other => cases failed.symm.trans other
    | failed _ other fatal =>
      cases failed.symm.trans other
      exact absurd again fatal
  | closed more wrote =>
    cases second with
    | done => exact absurd rfl more
    | took _ other some =>
      cases wrote.symm.trans other
      exact absurd some (Nat.lt_irrefl 0)
    | interrupted _ other => cases wrote.symm.trans other
    | closed _ same =>
      cases wrote.symm.trans same
      exact ⟨rfl, rfl, rfl⟩
    | failed _ other => cases wrote.symm.trans other
  | failed more failed fatal =>
    cases second with
    | done => exact absurd rfl more
    | took _ other => cases failed.symm.trans other
    | interrupted _ other again =>
      cases failed.symm.trans other
      exact absurd again fatal
    | closed _ other => cases failed.symm.trans other
    | failed _ same =>
      cases failed.symm.trans same
      exact ⟨rfl, rfl, rfl⟩

theorem Flushed.unique {outcome outcome' : Except Fault Unit} {after' : Outbound}
    (first : Flushed sink outcome after) (second : Flushed sink outcome' after') :
    outcome = outcome' ∧ after = after' := by
  induction first generalizing outcome' after' with
  | done flushed =>
    cases second with
    | done same =>
      cases flushed.symm.trans same
      exact ⟨rfl, rfl⟩
    | interrupted other => cases flushed.symm.trans other
    | failed other => cases flushed.symm.trans other
  | interrupted failed again _ ih =>
    cases second with
    | done other => cases failed.symm.trans other
    | interrupted same _ rest =>
      cases failed.symm.trans same
      exact ih rest
    | failed other fatal =>
      cases failed.symm.trans other
      exact absurd again fatal
  | failed failed fatal =>
    cases second with
    | done other => cases failed.symm.trans other
    | interrupted other again =>
      cases failed.symm.trans other
      exact absurd again fatal
    | failed same =>
      cases failed.symm.trans same
      exact ⟨rfl, rfl⟩

theorem Written.writeAll (written : Written bs sink result part after) :
    Writer.writeAll bs sink = (result, after) := by
  obtain ⟨_, own⟩ := written_go sink bs sink.writes sink.accepted
  obtain ⟨answer, _, left⟩ := own.unique written
  exact Prod.ext answer left

theorem Flushed.flush {outcome : Except Fault Unit} (flushed : Flushed sink outcome after) :
    Writer.flush sink = (outcome.mapError .io, after) := by
  obtain ⟨_, own, answer⟩ := flushed_go sink sink.flushes
  obtain ⟨rfl, left⟩ := own.unique flushed
  exact Prod.ext answer left

/-! Interruptions are passed over: without them the same is answered and taken. -/

theorem Written.uninterrupted (written : Written bs sink result part after) :
    Written bs sink.uninterrupted result part after.uninterrupted := by
  induction written with
  | done sink => exact .done _
  | took more wrote some _ ih =>
    refine .took more (Outbound.write_settled wrote ?_) some ih
    intro fault other
    cases other
  | interrupted more failed again _ ih =>
    rwa [← (Outbound.write_interrupted failed again).2]
  | closed more wrote =>
    refine .closed more (Outbound.write_settled wrote ?_)
    intro fault other
    cases other
  | failed more failed fatal =>
    refine .failed more (Outbound.write_settled failed ?_) fatal
    intro fault same
    cases same
    exact fatal

theorem Flushed.uninterrupted {outcome : Except Fault Unit} (flushed : Flushed sink outcome after) :
    Flushed sink.uninterrupted outcome after.uninterrupted := by
  induction flushed with
  | done flushed =>
    refine .done (Outbound.flush_settled flushed ?_)
    intro fault other
    cases other
  | interrupted failed again _ ih => rwa [← Outbound.flush_interrupted failed again]
  | failed failed fatal =>
    refine .failed (Outbound.flush_settled failed ?_) fatal
    intro fault same
    cases same
    exact fatal

/-- What a call comes to is settled by the stream. -/
theorem Sent.send {piece : Bytes} (sent : Sent limits p sink result piece after) :
    Writer.send limits p sink = (result, after) := by
  cases sent with
  | whole fits written flushed =>
    rw [send_admitted fits, written.writeAll]
    exact flushed.flush
  | refused large => exact send_refused large sink
  | unflushed fits written failed =>
    rw [send_admitted fits, written.writeAll]
    exact failed.flush
  | cut fits _ _ _ unwritten => rw [send_admitted fits, unwritten.writeAll]

theorem Sent.uninterrupted {piece : Bytes} (sent : Sent limits p sink result piece after) :
    Sent limits p sink.uninterrupted result piece after.uninterrupted := by
  cases sent with
  | whole fits written flushed => exact .whole fits written.uninterrupted flushed.uninterrupted
  | refused large => exact .refused large
  | unflushed fits written failed => exact .unflushed fits written.uninterrupted failed.uninterrupted
  | cut fits reason front proper unwritten =>
    exact .cut fits reason front proper unwritten.uninterrupted

theorem sendAll_uninterrupted (limits : Frame.Limits) (ps : List Primitive) (sink : Outbound) :
    sendAll limits ps sink.uninterrupted =
      ((sendAll limits ps sink).1, (sendAll limits ps sink).2.uninterrupted) := by
  induction ps generalizing sink with
  | nil => rfl
  | cons p ps ih =>
    obtain ⟨_, sent⟩ := sent_send limits p sink
    simp only [sendAll, sent.uninterrupted.send, ih]

end Writer

/-- A sender that keeps the buffer of its last frame. -/
structure Transmitter where
  limits : Frame.Limits := {}
  buffer : Bytes := []
  sink : Outbound := {}

namespace Transmitter

/-- Writes what stands in the buffer from a place on. -/
def writeFrom (buffer : Bytes) (offset : Nat) (sink : Outbound) :
    Except FrameError Unit × Outbound :=
  if offset < buffer.length then
    match _done : sink.write (buffer.drop offset) with
    | (.ok 0, after) => (.error .connectionClosed, after)
    | (.ok (count + 1), after) => writeFrom buffer (offset + (count + 1)) after
    | (.error fault, after) =>
      if _again : fault.kind = .interrupted then writeFrom buffer offset after
      else (.error (.io fault), after)
  else (.ok (), sink)
termination_by sink.writes.length + (buffer.length - offset)
decreasing_by
  · have kept := Outbound.writes_of_write _done
    omega
  · have used := (Outbound.write_interrupted _done _again).1
    omega

/-- The buffer is emptied before anything else, whatever the last call left in it. -/
def transmit (p : Primitive) (t : Transmitter) : Except FrameError Unit × Transmitter :=
  match Frame.encodeOnto t.limits.maxFrame p [] with
  | (.error e, buffer) => (.error e, { t with buffer })
  | (.ok (), buffer) =>
    match writeFrom buffer 0 t.sink with
    | (.error e, sink) => (.error e, { t with buffer, sink })
    | (.ok (), sink) =>
      let (result, sink) := Writer.flush sink
      (result, { t with buffer, sink })

def transmitAll : List Primitive → Transmitter → List (Except FrameError Unit) × Transmitter
  | [], t => ([], t)
  | p :: ps, t =>
    let (result, t) := t.transmit p
    let (results, t) := transmitAll ps t
    (result :: results, t)

theorem more_behind {buffer : Bytes} {offset : Nat} (inside : offset < buffer.length) :
    buffer.drop offset ≠ [] := by
  intro empty
  have none_left := List.drop_eq_nil_iff.1 empty
  omega

theorem written_writeFrom (buffer : Bytes) (offset : Nat) (sink : Outbound) :
    ∃ part, Writer.Written (buffer.drop offset) sink (writeFrom buffer offset sink).1 part
      (writeFrom buffer offset sink).2 := by
  fun_induction writeFrom buffer offset sink with
  | case1 offset sink inside after wrote =>
    exact ⟨[], .closed (more_behind inside) wrote⟩
  | case2 offset sink inside count after wrote ih =>
    obtain ⟨part, written⟩ := ih
    rw [← List.drop_drop] at written
    exact ⟨_, .took (more_behind inside) wrote (Nat.succ_pos count) written⟩
  | case3 offset sink inside fault after failed again ih =>
    obtain ⟨part, written⟩ := ih
    exact ⟨part, .interrupted (more_behind inside) failed again written⟩
  | case4 offset sink inside fault after failed fatal =>
    exact ⟨[], .failed (more_behind inside) failed fatal⟩
  | case5 offset sink outside =>
    rw [List.drop_of_length_le (Nat.le_of_not_lt outside)]
    exact ⟨[], .done sink⟩

theorem writeFrom_eq (buffer : Bytes) (offset : Nat) (sink : Outbound) :
    writeFrom buffer offset sink = Writer.writeAll (buffer.drop offset) sink := by
  obtain ⟨_, written⟩ := written_writeFrom buffer offset sink
  exact written.writeAll.symm

theorem transmit_eq (p : Primitive) (t : Transmitter) :
    (t.transmit p).1 = (Writer.send t.limits p t.sink).1 ∧
      (t.transmit p).2.sink = (Writer.send t.limits p t.sink).2 ∧
        (t.transmit p).2.limits = t.limits := by
  unfold transmit Frame.encodeOnto Writer.send
  cases Frame.encode t.limits.maxFrame p with
  | error e => exact ⟨rfl, rfl, rfl⟩
  | ok frame =>
    dsimp only
    rw [List.nil_append, writeFrom_eq, List.drop_zero]
    cases Writer.writeAll frame t.sink with
    | mk result sink =>
      cases result with
      | error e => exact ⟨rfl, rfl, rfl⟩
      | ok => exact ⟨rfl, rfl, rfl⟩

theorem transmitAll_eq (ps : List Primitive) (t : Transmitter) :
    (transmitAll ps t).1 = (Writer.sendAll t.limits ps t.sink).1 ∧
      (transmitAll ps t).2.sink = (Writer.sendAll t.limits ps t.sink).2 := by
  induction ps generalizing t with
  | nil => exact ⟨rfl, rfl⟩
  | cons p ps ih =>
    obtain ⟨result, sink, limits⟩ := t.transmit_eq p
    obtain ⟨results, last⟩ := ih (t.transmit p).2
    rw [limits, sink] at results last
    simp only [transmitAll, Writer.sendAll, result, results, last, and_self]

end Transmitter

/-- Call by call, a stream takes the whole frame, or nothing of one that is too large, or a front of
one that it fails in; interruptions make no difference to that, and neither does what the buffer of
the sender still holds. -/
theorem Writer.sendAll_pieces (limits : Frame.Limits) (ps : List Primitive) (sink : Outbound) :
    (∃ pieces,
      SentAll limits ps sink (sendAll limits ps sink).1 pieces (sendAll limits ps sink).2 ∧
        (sendAll limits ps sink).2.accepted = sink.accepted ++ pieces.flatten) ∧
    sendAll limits ps sink.uninterrupted =
      ((sendAll limits ps sink).1, (sendAll limits ps sink).2.uninterrupted) ∧
    ∀ leftover,
      (Transmitter.transmitAll ps ⟨limits, leftover, sink⟩).1 = (sendAll limits ps sink).1 ∧
      (Transmitter.transmitAll ps ⟨limits, leftover, sink⟩).2.sink = (sendAll limits ps sink).2 := by
  refine ⟨?_, sendAll_uninterrupted limits ps sink, ?_⟩
  · obtain ⟨pieces, sent⟩ := sentAll_sendAll limits ps sink
    exact ⟨pieces, sent, sent.accepted⟩
  · intro leftover
    exact Transmitter.transmitAll_eq ps ⟨limits, leftover, sink⟩

/-- A frame cut after two bytes, one that is too large, and one that is written past an interruption
in single bytes but not flushed. -/
example :
    Writer.sendAll { maxFrame := 5 } [⟨4, [7]⟩, ⟨4, [7, 7]⟩, ⟨8, []⟩]
      { writes := [.accept 2, .accept 0, .accept 1, .fault (.ofKind .interrupted), .accept 1]
        flushes := [some .wouldBlock] } =
      ([.error .connectionClosed, .error (.tooLarge 6 5), .error (.io .wouldBlock)],
        { accepted := [52, 58, 56, 58, 48, 58] }) := by
  cbv

end CodecLink
