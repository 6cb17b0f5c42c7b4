import CodecLink.Proofs.Channel.Awaiting
import CodecLink.Proofs.Dispatcher.CheckedCalls
import CodecLink.Proofs.Dispatcher.ReadyWords
import CodecLink.Proofs.Message.Formats
import CodecLink.Proofs.Session.TaskFailures

/-! The size that a wait reports and the number of bits beside it. A reply can state any size of
sixty-four bits, and the bits of what is as large as 2^61 bytes are more than a word can count; a
ready word never states so much. -/
namespace CodecLink

theorem Feedback.toNat_detail (size : UInt64) :
    (done size).detail.toNat = 8 * size.toNat % 2 ^ 64 := by
  unfold done
  rw [UInt64.toNat_mul, Nat.mul_comm]
  rfl

theorem Feedback.doneChecked_eq (size : UInt64) :
    doneChecked size = if size.toNat < 2 ^ 61 then .ok (done size) else .error .overflow := by
  have room : size.toNat < Checked.wordCount := size.toNat_lt
  have checked := Passthrough.doneChecked_eq room
  rw [UInt64.ofNat_toNat] at checked
  rw [checked]
  unfold Checked.wordCount
  by_cases small : size.toNat < 2 ^ 61
  · rw [if_pos small, if_pos (by omega)]
    rfl
  · rw [if_neg small, if_neg (by omega)]
    rfl

namespace TaskOutput

/-- The length is that of the feedback, and the detail is eight times as much. -/
structure Exact (output : TaskOutput) : Prop where
  length : output.length = output.feedback.outputSize
  bits : output.feedback.detail.toNat = 8 * output.feedback.outputSize.toNat

/-- The output by checked steps: a product too large for a word ends the client. -/
def ofOutcomeChecked (outcome : WaitOutcome) : Checked TaskOutput := do
  let feedback ← if outcome = .failed then .ok .failed else Feedback.doneChecked outcome.size
  return { length := outcome.size, feedback, timedOut := outcome.isTimeout }

theorem outputSize_ofOutcome (outcome : WaitOutcome) :
    (ofOutcome outcome).feedback.outputSize = outcome.size := by
  cases outcome <;> rfl

theorem detail_ofOutcome (outcome : WaitOutcome) :
    (ofOutcome outcome).feedback.detail.toNat = 8 * outcome.size.toNat % 2 ^ 64 := by
  cases outcome with
  | ready size => exact Feedback.toNat_detail size
  | failed => rfl
  | timeout => rfl

theorem exact_iff (outcome : WaitOutcome) :
    (ofOutcome outcome).Exact ↔ outcome.size.toNat < 2 ^ 61 := by
  have detail := detail_ofOutcome outcome
  have size := outputSize_ofOutcome outcome
  constructor
  · rintro ⟨_, bits⟩
    rw [detail, size] at bits
    omega
  · intro small
    refine ⟨size.symm, ?_⟩
    rw [detail, size]
    omega

theorem ofOutcomeChecked_eq (outcome : WaitOutcome) :
    ofOutcomeChecked outcome =
      if outcome.size.toNat < 2 ^ 61 then .ok (ofOutcome outcome) else .error .overflow := by
  unfold ofOutcomeChecked
  cases outcome with
  | ready size =>
    have stated : (WaitOutcome.ready size).size = size := rfl
    rw [if_neg (by simp), Feedback.doneChecked_eq, ofOutcome_ready, stated]
    split
    · rfl
    · rfl
  | failed => rfl
  | timeout =>
    rw [if_neg (by simp), Feedback.doneChecked_eq]
    rfl

theorem empty_eq : empty = ofOutcome (.ready 0) := rfl

end TaskOutput

/-- A word of thirty-two bits, and nothing larger, is taken from a ready flag. -/
theorem ReadyFlag.size_poll (polls : Nat) (flag : ReadyFlag) :
    (flag.poll polls).1.size.toNat < 2 ^ 32 := by
  have late : WaitOutcome.timeout.size.toNat < 2 ^ 32 := by decide
  induction polls generalizing flag with
  | zero =>
    rw [poll_eq]
    split
    · exact (flag.shown 0).toNat_lt
    · exact late
  | succ polls ih =>
    rw [poll_eq]
    split
    · exact (flag.shown 0).toNat_lt
    · exact ih flag.load.2

namespace Session

variable {s : Session} {c : Channel} {flag : Option ReadyFlag} {output : TaskOutput}

theorem outcome_of_complete {tag : Option UInt64}
    (returned : (s.complete flag tag).1 = .ok output) :
    ∃ outcome, output = .ofOutcome outcome ∧
      (s.config.completion.isPolling = true → outcome.size.toNat < 2 ^ 32) := by
  unfold complete at returned
  split at returned
  · cases returned
  · rename_i c _
    split at returned
    · cases returned
    · rename_i outcome _ _ waited
      cases returned
      refine ⟨outcome, rfl, ?_⟩
      intro polling
      unfold Channel.awaitCompletion at waited
      split at waited
      · rename_i round
        rw [round] at polling
        cases polling
      · cases waited
        exact ReadyFlag.size_poll _ _
      · cases waited
        decide

theorem outcome_of_finishWait {awaited : Awaited}
    (returned : (s.finishWait awaited flag).1 = .ok output) :
    ∃ outcome, output = .ofOutcome outcome ∧
      (s.config.completion.isPolling = true → outcome.size.toNat < 2 ^ 32) := by
  cases awaited with
  | nothing =>
    cases returned
    exact ⟨.ready 0, TaskOutput.empty_eq, fun _ => by decide⟩
  | word => exact outcome_of_complete returned
  | reply tag => exact outcome_of_complete returned

/-- A wait takes the first reply to it of those that arrived. -/
theorem finishWait_queued {timeoutMs tag : UInt64} {skipped later : List Primitive} {p : Primitive}
    {reply : WaitReply} (held : s.channel = some c)
    (round : s.config.completion = .roundTrip timeoutMs) (positive : timeoutMs ≠ 0)
    (queued : c.Queued) (all : c.arrived = skipped ++ p :: later)
    (passed : ∀ q ∈ skipped, ∀ other, ¬Channel.Replies (some tag) q other)
    (replies : Channel.Replies (some tag) p reply) :
    (s.finishWait (.reply tag) none).1 = .ok (.ofOutcome reply.outcome) := by
  have time : timeoutMs.toNat ≠ 0 := by
    intro none_left
    exact positive (UInt64.toNat_inj.1 none_left)
  have answered := (queued.firstReply_answered all passed replies).1
  have waited : (c.awaitCompletion s.config.completion none (some tag)).1 = .ok reply.outcome := by
    rw [round]
    unfold Channel.awaitCompletion
    dsimp only
    rw [Channel.awaitReply_positive time, answered]
  unfold finishWait complete
  rw [held]
  dsimp only
  split
  · rename_i failed
    rw [failed] at waited
    cases waited
  · rename_i found
    rw [found] at waited
    cases waited
    rfl

end Session

theorem WaitReply.size_outcome (r : WaitReply) :
    r.outcome.size = if r.status = .done then r.output.size else 0 := by
  unfold outcome
  cases r.status <;> rfl

/-- The reply that states a size and nothing else. -/
def WaitReply.stating (size : UInt64) : Primitive := .of .wait (encode { output := .heap size })

theorem WaitReply.replies_stating (size tag : UInt64) :
    Channel.Replies (some tag) (stating size) { output := .heap size } := by
  refine ⟨PrimitiveCode.ofWire?_wire .wait, decode_encode { output := .heap size }, ?_⟩
  intro wanted got _ tagged
  cases tagged

namespace Channel

/-- A channel on which nothing but that reply arrives. -/
def stating (size : UInt64) : Channel :=
  { id := ""
    stream :=
      { inbound :=
          { steps := [.data (Frame.bytes (WaitReply.stating size))], ending := .idle } } }

theorem queued_stating (size : UInt64) : (stating size).Queued := by
  intro step member
  obtain rfl := List.mem_singleton.1 member
  unfold ReadStep.isQueued Frame.bytes Header.encode
  simp

theorem arrived_stating (size : UInt64) :
    (stating size).arrived = [] ++ WaitReply.stating size :: [] := by
  have limits : (stating size).limits.maxPayload = 512 := rfl
  apply arrived_of_frames
  · rfl
  · intro p member
    obtain rfl := List.mem_singleton.1 member
    have short := WaitReply.length_encode_le { output := .heap size }
    rw [limits]
    exact Nat.le_trans short (by decide)
  · rw [limits]
    decide

end Channel

/-- A client in the middle of a wait, and a reply that states a size. -/
def Session.told (size : UInt64) : Session :=
  { Session.ofConfig { completion := .roundTrip 5000 } with
    state := .waiting
    channel := some (.stating size) }

theorem Session.finishWait_told (size tag : UInt64) :
    ((told size).finishWait (.reply tag) none).1 = .ok ⟨size, .done size, false⟩ := by
  have told : ((told size).finishWait (.reply tag) none).1 =
      .ok (.ofOutcome (WaitReply.outcome { output := .heap size })) :=
    finishWait_queued rfl rfl (by decide) (Channel.queued_stating size)
      (Channel.arrived_stating size) (by simp) (WaitReply.replies_stating size tag)
  rw [told, ← TaskOutput.ofOutcome_ready]
  rfl

/-- What a wait returns states its length twice and, beside it, eight times the length, up to a
multiple of 2^64. The number of bits is exact below 2^61 bytes and for every ready word. A reply can
state any size: it is the size word of its payload that is reported, if it tells a success. From
2^61 on the product of a client with checked steps overflows, and not before. -/
theorem Session.bits_exact_unless_vast (s : Session) :
    (∀ (awaited : Awaited) (flag : Option ReadyFlag) (output : TaskOutput),
      (s.finishWait awaited flag).1 = .ok output →
        output.length = output.feedback.outputSize ∧
        output.feedback.detail.toNat = 8 * output.feedback.outputSize.toNat % 2 ^ 64 ∧
        (output.Exact ↔ output.length.toNat < 2 ^ 61) ∧
        (s.config.completion.isPolling = true → output.Exact)) ∧
    (∀ (c : Channel) (timeoutMs tag : UInt64) (skipped later : List Primitive) (p : Primitive)
      (reply : WaitReply), s.channel = some c →
      s.config.completion = .roundTrip timeoutMs → timeoutMs ≠ 0 → c.Queued →
      c.arrived = skipped ++ p :: later →
      (∀ q ∈ skipped, ∀ other, ¬Channel.Replies (some tag) q other) →
      Channel.Replies (some tag) p reply →
        ∃ output, (s.finishWait (.reply tag) none).1 = .ok output ∧
          output.length.toNat =
            (if reply.status = .done then Bytes.toNat ((p.payload.drop 4).take 8) else 0)) ∧
    ∀ outcome, TaskOutput.ofOutcomeChecked outcome =
      if outcome.size.toNat < 2 ^ 61 then .ok (.ofOutcome outcome) else .error .overflow := by
  refine ⟨?_, ?_, TaskOutput.ofOutcomeChecked_eq⟩
  · intro awaited flag output returned
    obtain ⟨outcome, rfl, words⟩ := outcome_of_finishWait returned
    have exact_below := TaskOutput.exact_iff outcome
    refine ⟨(TaskOutput.outputSize_ofOutcome outcome).symm, ?_, exact_below, ?_⟩
    · rw [TaskOutput.detail_ofOutcome, TaskOutput.outputSize_ofOutcome]
    · intro polling
      apply exact_below.2
      have word := words polling
      omega
  · intro c timeoutMs tag skipped later p reply held round positive queued all passed replies
    refine ⟨_, finishWait_queued held round positive queued all passed replies, ?_⟩
    have length : (TaskOutput.ofOutcome reply.outcome).length = reply.outcome.size := rfl
    rw [length, WaitReply.size_outcome]
    split
    · exact WaitReply.size_of_decode replies.decoded
    · rfl

/-- The largest size of which the bits are counted. -/
theorem Session.bits_exact_at_bound :
    let output : TaskOutput := ⟨0x1fffffffffffffff, .done 0x1fffffffffffffff, false⟩
    ((told 0x1fffffffffffffff).finishWait (.reply 1) none).1 = .ok output ∧ output.Exact ∧
      output.feedback.detail = 0xfffffffffffffff8 ∧
      output.length.toNat =
        Bytes.toNat (((WaitReply.stating 0x1fffffffffffffff).payload.drop 4).take 8) := by
  intro output
  obtain ⟨exact_below, reported, _⟩ := bits_exact_unless_vast (told 0x1fffffffffffffff)
  have returned := finishWait_told 0x1fffffffffffffff 1
  obtain ⟨_, _, exact_iff, _⟩ := exact_below _ _ _ returned
  obtain ⟨other, same, length⟩ := reported _ 5000 1 _ _ _ _ rfl rfl (by decide)
    (Channel.queued_stating _) (Channel.arrived_stating _) (by simp)
    (WaitReply.replies_stating _ 1)
  cases returned.symm.trans same
  exact ⟨returned, exact_iff.2 (by decide), rfl, length⟩

/-- One byte more, and no bit is counted of it; a client with checked steps ends there. -/
theorem Session.bits_of_vast_reply :
    ∃ output, ((told 0x2000000000000000).finishWait (.reply 1) none).1 = .ok output ∧
      output.length.toNat = 2 ^ 61 ∧ output.feedback.outputSize.toNat = 2 ^ 61 ∧
      output.feedback.detail = 0 ∧
      ¬output.feedback.detail.toNat = 8 * output.feedback.outputSize.toNat ∧
      TaskOutput.ofOutcomeChecked (.ready output.length) = .error .overflow := by
  refine ⟨_, finishWait_told 0x2000000000000000 1, by decide, by decide, by decide, by decide, ?_⟩
  rw [TaskOutput.ofOutcomeChecked_eq]
  exact if_neg (by decide)

end CodecLink
