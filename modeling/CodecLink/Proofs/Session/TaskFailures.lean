import CodecLink.Engine.Scripted
import CodecLink.Proofs.Dispatcher.TaskEnds
import CodecLink.Proofs.Session.LateReplies

/-! What a wait tells of a task that failed. A failure to import the output and an error of the
engine reach the client; a result that the engine itself rates a failure arrives as a success of the
size it states. -/
namespace CodecLink

open Dispatcher

namespace TaskOutput

theorem ofOutcome_ready (size : UInt64) : ofOutcome (.ready size) = ⟨size, .done size, false⟩ := by
  simp [ofOutcome, WaitOutcome.size, WaitOutcome.isTimeout]

theorem ofOutcome_failed : ofOutcome .failed = ⟨0, .failed, false⟩ := by
  simp [ofOutcome, WaitOutcome.size, WaitOutcome.isTimeout]

end TaskOutput

namespace Exchange

variable {σ : Type}

/-- A wait that does not run out of time reports a failure exactly if the output of its task could
not be imported or the engine gave no result, and states no length then. Any result of the engine is
reported as done, with the size that it states. -/
theorem failure_reported_unless_rated (engines : EngineHost σ) (config : SessionConfig)
    {timeoutMs : UInt64} (round : config.completion = .roundTrip timeoutMs) (host : Dispatcher σ)
    (events : List (ExchangeEvent σ)) (few : (run engines config host events).waits < 2 ^ 64)
    {awaited : Awaited} (waiting : (run engines config host events).awaited = some awaited)
    {output : TaskOutput}
    (returned : ((run engines config host events).session.finishWait awaited none).1 = .ok output)
    (inTime : output.timedOut = false) :
    let s := run engines config host events
    ∃ reply ∈ s.replies, ∃ ended, reply.request.wait = some s.waits ∧ reply.Answers engines ∧
      reply.handler.taskEnd? engines reply.request.primitive.payload = some ended ∧
      (output.feedback.status = .failed ↔
        ended = .unimported ∨ ∃ error, ended = .failed error) ∧
      (output.feedback.status = .failed → output = ⟨0, .failed, false⟩) ∧
      ∀ feedback, ended = .completed feedback →
        output = ⟨feedback.outputSize, .done feedback.outputSize, false⟩ := by
  intro s
  have orderly : s.Orderly engines timeoutMs :=
    (orderly_start config round host).foldl events few
  obtain ⟨stale, reply, replies, own, _, answers, same, _⟩ :=
    orderly.answered few waiting returned inTime
  obtain ⟨ended, found, told⟩ := dispatch_outcome answers
  refine ⟨reply, by simp [replies], ended, own, answers, found, ?_⟩
  rw [told] at same
  cases ended with
  | unimported =>
    rw [TaskEnd.outcome, TaskOutput.ofOutcome_failed] at same
    exact ⟨by simp [same, Feedback.failed], fun _ => same, by simp⟩
  | failed error =>
    rw [TaskEnd.outcome, TaskOutput.ofOutcome_failed] at same
    exact ⟨by simp [same, Feedback.failed], fun _ => same, by simp⟩
  | completed feedback =>
    rw [TaskEnd.outcome, TaskOutput.ofOutcome_ready] at same
    refine ⟨by simp [same, Feedback.done], fun failed => ?_, fun other found => ?_⟩
    · rw [same] at failed
      cases failed
    · cases found
      exact same

/-- A host whose engine's first answer to a request is laid out. -/
def scripted (outcome : Outcome) : Dispatcher ScriptedEngine :=
  { engine := { outcomes := [(.wait, [outcome])] } }

/-- A single task, up to the moment at which the reply is there. -/
def soleTask (answer : WaitReply) : List (ExchangeEvent ScriptedEngine) :=
  let reply := Frame.bytes (.of .wait answer.encode)
  [.call (.attach { id := "client" }), .call (.start {}), .call (.wait {} none), .handle true,
    .handle true, .handle true,
    .arrive reply.length { inbound := { steps := [.data reply], ending := .idle } }]

def afterSoleTask (outcome : Outcome) (answer : WaitReply) : Exchange ScriptedEngine :=
  run (ScriptedEngine.host .full) { completion := .roundTrip 5000 } (scripted outcome)
    (soleTask answer)

theorem ok_of_toOption {ε α : Type} {result : Except ε α} {value : α}
    (found : result.toOption = some value) : result = .ok value := by
  cases result with
  | error e => cases found
  | ok other => exact congrArg _ (Option.some.inj found)

theorem failure_of_lost_result :
    let s := afterSoleTask (.fail (.failed "lost")) (.failed (some 1))
    s.awaited = some (.reply 1) ∧
      (s.session.finishWait (.reply 1) none).1 = .ok ⟨0, .failed, false⟩ ∧
      ∃ reply ∈ s.replies, ∃ ended, reply.request.wait = some 1 ∧
        reply.handler.taskEnd? (ScriptedEngine.host .full) reply.request.primitive.payload =
          some ended ∧ (ended = .unimported ∨ ∃ error, ended = .failed error) := by
  intro s
  have waits : s.waits = 1 := by decide +kernel
  have few : s.waits < 2 ^ 64 := by
    rw [waits]
    decide
  have waiting : s.awaited = some (.reply 1) := by decide +kernel
  have returned : (s.session.finishWait (.reply 1) none).1 = .ok ⟨0, .failed, false⟩ :=
    ok_of_toOption (by decide +kernel)
  obtain ⟨reply, member, ended, own, _, found, failed, _⟩ :=
    failure_reported_unless_rated (ScriptedEngine.host .full) { completion := .roundTrip 5000 } rfl
      (scripted (.fail (.failed "lost"))) (soleTask (.failed (some 1))) few waiting returned rfl
  exact ⟨waiting, returned, reply, member, ended, waits ▸ own, found, failed.1 rfl⟩

/-- An engine's own verdict of failure does not reach the client: the wait is told of a success. -/
theorem rated_failure_reported_done :
    let s := afterSoleTask (.report .failed) ⟨.heap 0, .done, some 1⟩
    ∃ output, (s.session.finishWait (.reply 1) none).1 = .ok output ∧ output.timedOut = false ∧
      ∃ reply ∈ s.replies, ∃ ended, reply.request.wait = some s.waits ∧
        reply.Answers (ScriptedEngine.host .full) ∧
        reply.handler.taskEnd? (ScriptedEngine.host .full) reply.request.primitive.payload =
          some ended ∧
        ¬(output.feedback.status = .failed ↔ ended.Unsuccessful) := by
  intro s
  have unsuccessful : (TaskEnd.completed .failed).Unsuccessful := .inr (.inr ⟨_, rfl, rfl⟩)
  refine ⟨⟨0, .done 0, false⟩, ok_of_toOption (by decide +kernel), rfl,
    s.replies.get ⟨0, by decide +kernel⟩, List.get_mem _ _, .completed .failed, by decide +kernel,
    ?_, by decide +kernel, fun reported => ?_⟩
  · show (Dispatcher.dispatch _ _ _).2.2 = some _
    decide +kernel
  · cases reported.2 unsuccessful

end Exchange

end CodecLink
