import CodecLink.Proofs.Frame.Buffering
import CodecLink.Waiting

/-! What sending writes on a channel and what receiving takes from it. A send that succeeds wrote
one whole frame; one that fails wrote a part of it, and the channel is of no more use then. -/
namespace CodecLink

namespace Writer

theorem writeAll_cases (bs : Bytes) (sink : Outbound) :
    (writeAll bs sink).1 = .ok () ∧ (writeAll bs sink).2.accepted = sink.accepted ++ bs ∨
      ∃ e part, (writeAll bs sink).1 = .error e ∧ part <+: bs ∧
        (writeAll bs sink).2.accepted = sink.accepted ++ part := by
  unfold writeAll
  generalize sink.writes = writes
  generalize sink.accepted = accepted
  fun_induction writeAll.go sink bs writes accepted with
  | case1 bs writes accepted empty => simp_all
  | case2 bs accepted _ broken => exact .inr ⟨_, [], rfl, List.nil_prefix, by simp⟩
  | case3 bs accepted _ intact => exact .inl ⟨rfl, rfl⟩
  | case4 bs accepted _ rest => exact .inr ⟨_, [], rfl, List.nil_prefix, by simp⟩
  | case5 bs accepted _ most rest _ ih =>
    rcases ih with ⟨sent, all⟩ | ⟨e, part, failed, front, some_⟩
    · exact .inl ⟨sent, by rw [all, List.append_assoc, List.take_append_drop]⟩
    · refine .inr ⟨e, bs.take most ++ part, failed, ?_, by rw [some_, List.append_assoc]⟩
      have whole := (List.prefix_append_right_inj (bs.take most)).2 front
      rwa [List.take_append_drop] at whole
  | case6 bs accepted _ fault rest _ ih => exact ih
  | case7 bs accepted _ fault rest _ => exact .inr ⟨_, [], rfl, List.nil_prefix, by simp⟩

theorem flush_accepted (sink : Outbound) : (flush sink).2.accepted = sink.accepted := by
  unfold flush
  generalize sink.flushes = flushes
  fun_induction flush.go sink flushes <;> simp_all

theorem send_cases (limits : Frame.Limits) (p : Primitive) (sink : Outbound) :
    (send limits p sink).1 = .ok () ∧
        (send limits p sink).2.accepted = sink.accepted ++ Frame.bytes p ∨
      ∃ e part, (send limits p sink).1 = .error e ∧ part <+: Frame.bytes p ∧
        (send limits p sink).2.accepted = sink.accepted ++ part := by
  unfold send
  split
  · rename_i e refused
    exact .inr ⟨e, [], rfl, List.nil_prefix, by simp⟩
  · rename_i frame encoded
    have whole : frame = Frame.bytes p := by
      simp only [Frame.encode] at encoded
      split at encoded
      · cases encoded
      · exact (Except.ok.inj encoded).symm
    subst whole
    have written := writeAll_cases (Frame.bytes p) sink
    split
    · rename_i e after failed
      rw [failed] at written
      rcases written with ⟨sent, _⟩ | ⟨_, part, _, front, accepted⟩
      · cases sent
      · exact .inr ⟨e, part, rfl, front, accepted⟩
    · rename_i after finished
      rw [finished] at written
      rcases written with ⟨_, accepted⟩ | ⟨_, _, failed, _⟩
      · -- The frame is out even if flushing fails.
        have kept := (flush_accepted after).trans accepted
        cases flushed : (flush after).1 with
        | ok => exact .inl ⟨rfl, kept⟩
        | error e => exact .inr ⟨e, Frame.bytes p, rfl, List.prefix_rfl, kept⟩
      · cases failed

theorem writeAll_error {bs : Bytes} {sink : Outbound} {e : FrameError}
    (failed : (writeAll bs sink).1 = .error e) :
    e = .connectionClosed ∨ ∃ fault, e = .io fault := by
  rw [writeAll] at failed
  generalize sink.writes = writes at failed
  generalize sink.accepted = accepted at failed
  fun_induction writeAll.go sink bs writes accepted with
  | case1 => cases failed
  | case2 =>
    cases failed
    exact .inr ⟨_, rfl⟩
  | case3 => cases failed
  | case4 =>
    cases failed
    exact .inl rfl
  | case5 _ _ _ _ _ _ ih => exact ih failed
  | case6 _ _ _ _ _ _ ih => exact ih failed
  | case7 =>
    cases failed
    exact .inr ⟨_, rfl⟩

theorem flush_error {sink : Outbound} {e : FrameError} (failed : (flush sink).1 = .error e) :
    ∃ fault, e = .io fault := by
  rw [flush] at failed
  generalize sink.flushes = flushes at failed
  fun_induction flush.go sink flushes with
  | case1 => cases failed
  | case2 => cases failed
  | case3 _ _ _ ih => exact ih failed
  | case4 =>
    cases failed
    exact ⟨_, rfl⟩

theorem send_error {limits : Frame.Limits} {p : Primitive} {sink : Outbound} {e : FrameError}
    (failed : (send limits p sink).1 = .error e) :
    e = .connectionClosed ∨ (∃ fault, e = .io fault) ∨ ∃ size most, e = .tooLarge size most := by
  rw [send] at failed
  split at failed
  · rename_i refusal refused
    cases failed
    rw [Frame.encode] at refused
    split at refused
    · cases refused
      exact .inr (.inr ⟨_, _, rfl⟩)
    · cases refused
  · split at failed
    · rename_i written
      cases failed
      rcases writeAll_error (congrArg Prod.fst written) with closed | fault
      · exact .inl closed
      · exact .inr (.inl fault)
    · exact .inr (.inl (flush_error failed))

/-- A frame within the limit is written and flushed. -/
theorem send_admitted {limits : Frame.Limits} {p : Primitive}
    (room : (Frame.bytes p).length ≤ limits.maxFrame) (sink : Outbound) :
    send limits p sink =
      match writeAll (Frame.bytes p) sink with
      | (.error e, sink) => (.error e, sink)
      | (.ok (), sink) => flush sink := by
  have encoded : Frame.encode limits.maxFrame p = .ok (Frame.bytes p) := if_neg (Nat.not_lt.2 room)
  rewrite [send, encoded]
  rfl

theorem send_refused {limits : Frame.Limits} {p : Primitive}
    (large : limits.maxFrame < (Frame.bytes p).length) (sink : Outbound) :
    send limits p sink =
      (.error (.tooLarge (Frame.bytes p).length limits.maxFrame), sink) := by
  have refused : Frame.encode limits.maxFrame p =
      .error (.tooLarge (Frame.bytes p).length limits.maxFrame) := if_pos large
  rw [send, refused]

theorem send_admitted_error {limits : Frame.Limits} {p : Primitive} {sink : Outbound}
    {e : FrameError} (room : (Frame.bytes p).length ≤ limits.maxFrame)
    (failed : (send limits p sink).1 = .error e) :
    e = .connectionClosed ∨ ∃ fault, e = .io fault := by
  rw [send_admitted room] at failed
  split at failed
  · rename_i written
    cases failed
    exact writeAll_error (congrArg Prod.fst written)
  · exact .inr (flush_error failed)

end Writer

theorem ChannelError.isFatal_ofFrame (e : FrameError) : (ofFrame e).isFatal = true := by
  unfold ofFrame
  split
  · rfl
  · split <;> rfl
  · rfl

namespace Channel

def written (c : Channel) : Bytes := c.stream.outbound.accepted

/-- The bytes that arrived and were not handed out yet. -/
def held (c : Channel) : Bytes := c.reader.buffer ++ Inbound.unread c.stream.inbound.steps

theorem send_cases (p : Primitive) (c : Channel) :
    (c.send p).1 = .ok () ∧ (c.send p).2.written = c.written ++ Frame.bytes p ∨
      ∃ e part, (c.send p).1 = .error e ∧ e.isFatal = true ∧ part <+: Frame.bytes p ∧
        (c.send p).2.written = c.written ++ part := by
  rcases Writer.send_cases c.limits p c.stream.outbound with
    ⟨sent, accepted⟩ | ⟨e, part, failed, front, accepted⟩
  · exact .inl ⟨by simp [send, sent, Except.mapError], accepted⟩
  · exact .inr ⟨.ofFrame e, part, by simp [send, failed, Except.mapError],
      ChannelError.isFatal_ofFrame e, front, accepted⟩

@[simp] theorem written_recv (c : Channel) : c.recv.2.written = c.written := rfl

theorem written_of_recv {c after : Channel} {result : Except ChannelError Primitive}
    (received : c.recv = (result, after)) : after.written = c.written := by
  rw [← written_recv c, received]

theorem firstReply_cases (tag : Option UInt64) (c : Channel) :
    (firstReply tag c).2.written = c.written ∧
      ∀ e, (firstReply tag c).1 = .error e → e.isFatal = true := by
  fun_induction firstReply tag c with
  | case1 c e after received late => exact ⟨written_of_recv received, by simp⟩
  | case2 c e after received fatal =>
    refine ⟨written_of_recv received, fun e same => ?_⟩
    cases same
    simpa [ChannelError.isFatal] using fatal
  | case3 c p after received outcome _ => exact ⟨written_of_recv received, by simp⟩
  | case4 c p after received _ ih => exact ⟨ih.1.trans (written_of_recv received), ih.2⟩

theorem awaitReply_cases (timeout : Millis) (tag : Option UInt64) (c : Channel) :
    (c.awaitReply timeout tag).2.written = c.written ∧
      ∀ e, (c.awaitReply timeout tag).1 = .error e → e.isFatal = true := by
  unfold awaitReply
  split
  · exact ⟨rfl, by simp⟩
  · exact firstReply_cases tag { c with recvTimeout := some timeout }

theorem awaitCompletion_cases (mode : Completion) (flag : Option ReadyFlag) (tag : Option UInt64)
    (c : Channel) :
    (c.awaitCompletion mode flag tag).2.2.written = c.written ∧
      ∀ e, (c.awaitCompletion mode flag tag).1 = .error e → e.isFatal = true := by
  cases mode with
  | roundTrip timeoutMs => exact awaitReply_cases timeoutMs.toNat tag c
  | polling intervalMs maxPolls =>
    cases flag with
    | none => exact ⟨rfl, by simp [awaitCompletion]⟩
    | some flag => exact ⟨rfl, by simp [awaitCompletion]⟩

end Channel

end CodecLink
