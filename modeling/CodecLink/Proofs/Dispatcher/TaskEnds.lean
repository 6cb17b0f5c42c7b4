import CodecLink.Proofs.Channel.Replies
import CodecLink.Proofs.Dispatcher.EngineCalls
import CodecLink.Proofs.Dispatcher.Replies

/-! How a task ends on the host, and what the reply says of it: whether the output was imported and
the engine gave a result, and the size that the result states. How the engine rated its own result
is not passed on. -/
namespace CodecLink.Dispatcher

variable {σ : Type} {host : EngineHost σ}

/-- How a task ends when its completion is asked for. -/
inductive TaskEnd
  | unimported
  | failed (error : EngineError)
  | completed (feedback : Feedback)
  deriving DecidableEq, Repr

namespace TaskEnd

def ofResult : EngineResult Feedback → TaskEnd
  | .ok feedback => completed feedback
  | .error error => failed error

/-- What the client is told. -/
def outcome : TaskEnd → WaitOutcome
  | completed feedback => .ready feedback.outputSize
  | unimported | failed _ => .failed

/-- Whether the task failed by any account, the engine's own rating of its result included. -/
def Unsuccessful (ended : TaskEnd) : Prop :=
  ended = unimported ∨ (∃ error, ended = failed error) ∨
    ∃ feedback, ended = completed feedback ∧ feedback.status = .failed

end TaskEnd

/-- How the engine ends the session's task, asked as often as the dispatcher may ask. -/
def collected (host : EngineHost σ) (output : Option Buffer) (s : HostSession)
    (d : Dispatcher σ) : TaskEnd :=
  .ofResult (host.result { s.task with output } d.allowance d.hosted)

@[simp] theorem collected_countPrimitive (output : Option Buffer) (s : HostSession)
    (d : Dispatcher σ) : d.countPrimitive.collected host output s = d.collected host output s := rfl

theorem collected_eq (output : Option Buffer) (s : HostSession) (d : Dispatcher σ) :
    d.collected host output s =
      .ofResult (d.collect host { s.task with output } (d.settings.maxTries - 1)).1 := by
  obtain ⟨_, -, asked⟩ := collect_drain host { s.task with output } d
  rw [collected, asked]

theorem collected_eq_completed_iff {output : Option Buffer} {s : HostSession} {d : Dispatcher σ}
    {feedback : Feedback} :
    d.collected host output s = .completed feedback ↔
      ∃ calls, host.Drain { s.task with output } d.allowance d.hosted calls (.ok feedback) := by
  obtain ⟨calls, drain, -⟩ := collect_drain host { s.task with output } d
  rw [collected]
  generalize host.result { s.task with output } d.allowance d.hosted = result at drain ⊢
  constructor
  · intro completed
    cases result with
    | error e => cases completed
    | ok given =>
      cases completed
      exact ⟨calls, drain⟩
  · rintro ⟨others, other⟩
    rw [drain.unique other]
    rfl

/-- The output that a request names; `none` if it cannot be read as a request. -/
def requested? (payload : Bytes) (t : RegionTable) :
    Option (Except DescriptorError (Option Buffer)) :=
  match decodeWait payload with
  | .error _ => none
  | .ok none => some (.ok none)
  | .ok (some request) => some ((t.importBuffer request.output).map some)

def tagOf (payload : Bytes) : Option UInt64 := (decodeWait payload).toOption.join.bind (·.tag)

/-- How the task ends that a request of this payload asks for. -/
def taskEnd? (host : EngineHost σ) (payload : Bytes) (d : Dispatcher σ) : Option TaskEnd :=
  match d.session, requested? payload d.regions with
  | some s, some (.ok output) => some (d.collected host output s)
  | some _, some (.error _) => some .unimported
  | _, _ => none

theorem onWait_eq (payload : Bytes) (s : HostSession) (d : Dispatcher σ) :
    d.onWait host payload s =
      match requested? payload d.regions with
      | none => (d.countDropped, none)
      | some (.error _) => (d.countDropped, failedReply s (tagOf payload))
      | some (.ok output) => d.finishTask host output (tagOf payload) s := by
  rw [onWait, requested?, tagOf]
  cases decodeWait payload with
  | error e => rfl
  | ok request =>
    cases request with
    | none => rfl
    | some request =>
      dsimp only
      cases d.regions.importBuffer request.output <;> rfl

theorem failedReply_outcome {s : HostSession} {tag : Option UInt64} {m : WaitReply}
    (answered : failedReply s tag = some m) : m.outcome = .failed := by
  rw [failedReply] at answered
  split at answered
  · cases answered
    rfl
  · cases answered

theorem finishTask_outcome {output : Option Buffer} {tag : Option UInt64} {s : HostSession}
    {d : Dispatcher σ} {m : WaitReply} (answered : (d.finishTask host output tag s).2 = some m) :
    m.outcome = (d.collected host output s).outcome := by
  rw [finishTask] at answered
  rw [collected_eq]
  cases collected : d.collect host { s.task with output } (d.settings.maxTries - 1) with
  | mk result after =>
    rw [collected] at answered
    cases result with
    | error e => exact failedReply_outcome answered
    | ok feedback =>
      dsimp only at answered
      split at answered
      · cases answered
        rfl
      · cases answered

theorem dispatch_outcome {p : Primitive} {d : Dispatcher σ} {m : WaitReply}
    (answered : (d.dispatch host p).2.2 = some m) :
    ∃ ended, d.taskEnd? host p.payload = some ended ∧ m.outcome = ended.outcome := by
  have kind := (dispatch_reply answered).1
  cases opened : d.session with
  | none =>
    rw [dispatch, kind, show d.countPrimitive.session = none from opened] at answered
    cases answered
  | some s =>
    rw [dispatch, kind, show d.countPrimitive.session = some s from opened] at answered
    have answered : (d.countPrimitive.onWait host p.payload s).2 = some m := answered
    have same : d.countPrimitive.regions = d.regions := rfl
    rw [onWait_eq, same] at answered
    rw [taskEnd?, opened]
    cases asked : requested? p.payload d.regions with
    | none =>
      rw [asked] at answered
      cases answered
    | some imported =>
      rw [asked] at answered
      cases imported with
      | error e => exact ⟨.unimported, rfl, failedReply_outcome answered⟩
      | ok output =>
        exact ⟨d.countPrimitive.collected host output s, rfl, finishTask_outcome answered⟩

end CodecLink.Dispatcher
