import CodecLink.Proofs.Dispatcher.EngineCalls
import CodecLink.Proofs.Dispatcher.TaskEnds
import CodecLink.Proofs.Message.Opening
import CodecLink.Proofs.Record.Acceptance

/-! Everything that becomes of a dispatcher when it handles a primitive: the primitive is dropped, a
session is opened or ended, one operation is performed, or a task is finished. -/
namespace CodecLink

namespace HostSession

/-- The session behind a task without a result. -/
def failed (s : HostSession) : HostSession := { s with task.output := none }

/-- The session behind a task with a result. -/
def done (s : HostSession) : HostSession :=
  { s with task.output := none, applied := s.applied.clearChanges }

end HostSession

namespace Dispatcher

variable {σ : Type} (host : EngineHost σ)

inductive Opening (config : SessionConfig) (d : Dispatcher σ) : Dispatcher σ → Prop
  | unsupported (absent : host.create config.backend d.engine = none) :
      Opening config d d.countEngineError
  | refused {engine : σ} {error : EngineError}
      (created : host.create config.backend d.engine = some engine)
      (failed : ({ d with engine }.perform host (.init config)).1 = .error error) :
      Opening config d ({ d with engine }.perform host (.init config)).2.countEngineError
  | opened {engine : σ} (created : host.create config.backend d.engine = some engine)
      (ready : ({ d with engine }.perform host (.init config)).1 = .ok ()) :
      Opening config d
        { ({ d with engine }.perform host (.init config)).2 with
          session := some { config, applied := .blank config.backend.codec } }

/-- What follows on a request whose output could be imported. -/
inductive Finish (output : Option Buffer) (tag : Option UInt64) (s : HostSession)
    (d : Dispatcher σ) : Dispatcher σ × Option WaitReply → Prop
  | failed {calls : Nat} {error : EngineError}
      (drain : host.Drain { s.task with output } d.allowance d.hosted calls (.error error)) :
      Finish output tag s d
        (({ d.waited host { s.task with output } calls with
            session := some s.failed }).countEngineError,
          failedReply s tag)
  | replied {calls : Nat} {feedback : Feedback} {timeoutMs : UInt64}
      (drain : host.Drain { s.task with output } d.allowance d.hosted calls (.ok feedback))
      (mode : s.config.completion = .roundTrip timeoutMs) :
      Finish output tag s d
        ({ d.waited host { s.task with output } calls with
            session := some s.done
            summary.tasks := (d.waited host { s.task with output } calls).summary.tasks + 1 },
          some (doneReply output feedback tag))
  | published {calls : Nat} {feedback : Feedback} {intervalMs : UInt64} {maxPolls : UInt32}
      (drain : host.Drain { s.task with output } d.allowance d.hosted calls (.ok feedback))
      (mode : s.config.completion = .polling intervalMs maxPolls) :
      Finish output tag s d
        (({ d.waited host { s.task with output } calls with
            session := some s.done
            summary.tasks := (d.waited host { s.task with output } calls).summary.tasks + 1 } :
              Dispatcher σ).publish output feedback,
          none)

/-- The operation that a primitive asks for in a session, and the session as it is then. -/
inductive Orders (p : Primitive) (s : HostSession) (d : Dispatcher σ) :
    EngineOperation → HostSession → Prop
  | prepare (kind : p.kind? = some .regs) : Orders p s d (.prepare s.task) s
  | start {input : Option Buffer} (kind : p.kind? = some .start)
      (imported : d.importPayload p.payload = .ok input) :
      Orders p s d (.start { sequence := s.task.sequence + 1, input })
        { s with task := { sequence := s.task.sequence + 1, input } }
  | record {kind : RecordKind} {request : ConfigRequest} {applied : AppliedConfig}
      (known : p.kind? = some kind.primitive)
      (decoded : ConfigRequest.decode s.config.backend.codec kind p.payload = .ok request)
      (merged : s.applied.apply request = .ok applied) :
      Orders p s d (.control (.configure request)) { s with applied }
  | control (kind : p.kind? = some .control) : Orders p s d (.control (.raw p.payload)) s
  | reset (kind : p.kind? = some .reset) : Orders p s d .reset s
  | flush (kind : p.kind? = some .flush) : Orders p s d .flush s

inductive Handling (p : Primitive) (d : Dispatcher σ) :
    Dispatcher σ × Flow × Option WaitReply → Prop
  | dropped : Handling p d (d.countPrimitive.countDropped, .resume, none)
  | unimported {s : HostSession} {error : DescriptorError} (opened : d.session = some s)
      (kind : p.kind? = some .wait) (named : requested? p.payload d.regions = some (.error error)) :
      Handling p d
        (d.countPrimitive.countDropped, .resume, failedReply s (tagOf p.payload))
  | opening {config : SessionConfig} {after : Dispatcher σ} (closed : d.session = none)
      (kind : p.kind? = some .init) (opening : Opening host config d.countPrimitive after) :
      Handling p d (after, .resume, none)
  | farewell {s : HostSession} (opened : d.session = some s) (kind : p.kind? = some .deinit) :
      Handling p d (d.countPrimitive.onDeinit host, .stop, none)
  | ordered {s next : HostSession} {operation : EngineOperation} (opened : d.session = some s)
      (orders : Orders p s d operation next) :
      Handling p d
        ({ d.countPrimitive with session := some next }.attempt host operation, .resume, none)
  | finished {s : HostSession} {output : Option Buffer} {result : Dispatcher σ × Option WaitReply}
      (opened : d.session = some s) (kind : p.kind? = some .wait)
      (named : requested? p.payload d.regions = some (.ok output))
      (finish : Finish host output (tagOf p.payload) s d.countPrimitive result) :
      Handling p d (result.1, .resume, result.2)

variable {host}

theorem openSession_opening (config : SessionConfig) (d : Dispatcher σ) :
    Opening host config d (d.openSession host config) := by
  rw [openSession]
  cases created : host.create config.backend d.engine with
  | none => exact .unsupported created
  | some engine =>
    dsimp only
    cases performed : { d with engine }.perform host (.init config) with
    | mk result after =>
      have same : ({ d with engine }.perform host (.init config)).2 = after := by rw [performed]
      cases result with
      | error e => exact same ▸ .refused created (by rw [performed])
      | ok _ => exact same ▸ .opened created (by rw [performed])

variable (host) in
theorem finishTask_finish (output : Option Buffer) (tag : Option UInt64) (s : HostSession)
    (d : Dispatcher σ) : Finish host output tag s d (d.finishTask host output tag s) := by
  obtain ⟨calls, drain, asked⟩ := collect_drain host { s.task with output } d
  rw [finishTask, asked]
  cases result : host.result { s.task with output } d.allowance d.hosted with
  | error e =>
    rw [result] at drain
    exact .failed drain
  | ok feedback =>
    rw [result] at drain
    dsimp only
    cases mode : s.config.completion with
    | roundTrip timeoutMs => exact .replied drain mode
    | polling intervalMs maxPolls => exact .published drain mode

theorem calls_publish (output : Option Buffer) (feedback : Feedback) (d : Dispatcher σ) :
    (d.publish output feedback).calls = d.calls := by
  rw [publish]
  split <;> rfl

theorem engine_publish (output : Option Buffer) (feedback : Feedback) (d : Dispatcher σ) :
    (d.publish output feedback).engine = d.engine := by
  rw [publish]
  split <;> rfl

theorem settings_publish (output : Option Buffer) (feedback : Feedback) (d : Dispatcher σ) :
    (d.publish output feedback).settings = d.settings := by
  rw [publish]
  split <;> rfl

theorem session_publish (output : Option Buffer) (feedback : Feedback) (d : Dispatcher σ) :
    (d.publish output feedback).session = d.session := by
  rw [publish]
  split <;> rfl

theorem summary_publish (output : Option Buffer) (feedback : Feedback) (d : Dispatcher σ) :
    (d.publish output feedback).summary = d.summary := by
  rw [publish]
  split <;> rfl

theorem Finish.calls_eq {d : Dispatcher σ} {output : Option Buffer} {tag : Option UInt64}
    {s : HostSession} {result : Dispatcher σ × Option WaitReply}
    (finish : Finish host output tag s d result) :
    ∃ calls outcome, host.Drain { s.task with output } d.allowance d.hosted calls outcome ∧
      result.1.calls = d.calls ++ List.replicate calls (.wait { s.task with output }) := by
  cases finish with
  | @failed calls _ drain =>
    exact ⟨calls, _, drain, (waited_fields host { s.task with output } d calls).2.2⟩
  | @replied calls _ _ drain mode =>
    exact ⟨calls, _, drain, (waited_fields host { s.task with output } d calls).2.2⟩
  | @published calls _ _ _ drain mode =>
    refine ⟨calls, _, drain, ?_⟩
    rw [calls_publish]
    exact (waited_fields host { s.task with output } d calls).2.2

theorem dispatch_unknown {p : Primitive} (unknown : p.kind? = none) (d : Dispatcher σ) :
    d.dispatch host p = (d.countPrimitive.countDropped, .resume, none) := by
  rw [dispatch, unknown]

theorem dispatch_closed {p : Primitive} {d : Dispatcher σ} {kind : PrimitiveCode}
    (known : p.kind? = some kind) (other : kind ≠ .init) (closed : d.session = none) :
    d.dispatch host p = (d.countPrimitive.countDropped, .resume, none) := by
  rw [dispatch, known, show d.countPrimitive.session = none from closed]
  cases kind <;> first | rfl | exact absurd rfl other

theorem dispatch_open {p : Primitive} {d : Dispatcher σ} {kind : PrimitiveCode} {s : HostSession}
    (known : p.kind? = some kind) (opened : d.session = some s) :
    d.dispatch host p = d.countPrimitive.route host kind p.payload s := by
  rw [dispatch, known, show d.countPrimitive.session = some s from opened]

variable (host) in
theorem dispatch_request {p : Primitive} {d : Dispatcher σ} {s : HostSession}
    (kind : p.kind? = some .wait) (opened : d.session = some s) :
    d.dispatch host p =
      match requested? p.payload d.regions with
      | none => (d.countPrimitive.countDropped, .resume, none)
      | some (.error _) =>
        (d.countPrimitive.countDropped, .resume, failedReply s (tagOf p.payload))
      | some (.ok output) =>
        ((d.countPrimitive.finishTask host output (tagOf p.payload) s).1, .resume,
          (d.countPrimitive.finishTask host output (tagOf p.payload) s).2) := by
  rw [dispatch_open kind opened, route, onWait_eq,
    show d.countPrimitive.regions = d.regions from rfl]
  rcases requested? p.payload d.regions with _ | _ | _ <;> rfl

theorem dispatch_init {p : Primitive} {d : Dispatcher σ} (kind : p.kind? = some .init) :
    d.dispatch host p = (d.countPrimitive.onInit host p.payload, .resume, none) := by
  cases opened : d.session with
  | none => rw [dispatch, kind, show d.countPrimitive.session = none from opened]
  | some s => rw [dispatch_open kind opened, route]

theorem dispatch_opening {d : Dispatcher σ} (closed : d.session = none) (config : SessionConfig) :
    d.dispatch host (.of .init config.toPayload) =
      (d.countPrimitive.openSession host config, .resume, none) := by
  have known : (Primitive.of .init config.toPayload).kind? = some .init :=
    PrimitiveCode.ofWire?_wire .init
  have counted : d.countPrimitive.session = none := closed
  rw [dispatch_init known, onInit, counted, Primitive.of, config.isEmpty_toPayload,
    config.ofPayload?_toPayload]
  rfl

theorem onInit_handling {p : Primitive} (d : Dispatcher σ) (kind : p.kind? = some .init) :
    Handling host p d (d.countPrimitive.onInit host p.payload, .resume, none) := by
  rw [onInit]
  split
  · exact .dropped
  · rename_i opened
    have closed : d.session = none := Option.not_isSome_iff_eq_none.1 opened
    split
    · exact .opening closed kind (openSession_opening _ _)
    · split
      · exact .dropped
      · exact .opening closed kind (openSession_opening _ _)

theorem onStart_handling {p : Primitive} {d : Dispatcher σ} {s : HostSession}
    (opened : d.session = some s) (kind : p.kind? = some .start) :
    Handling host p d (d.countPrimitive.onStart host p.payload s, .resume, none) := by
  rw [onStart]
  cases imported : d.countPrimitive.importPayload p.payload with
  | error e => exact .dropped
  | ok input => exact .ordered opened (.start kind imported)

theorem onRecord_taken {kind : RecordKind} {payload : Bytes} {d : Dispatcher σ} {s : HostSession}
    {request : ConfigRequest} {applied : AppliedConfig}
    (decoded : ConfigRequest.decode s.config.backend.codec kind payload = .ok request)
    (merged : s.applied.apply request = .ok applied) :
    d.onRecord host kind payload s =
      { d with session := some { s with applied } }.attempt host
        (.control (.configure request)) := by
  rw [onRecord, if_neg (not_not.2 (ConfigRequest.size_of_decode decoded)), decoded]
  simp only [merged, bind, Except.bind, pure, Except.pure]

theorem onRecord_missized {kind : RecordKind} {payload : Bytes} {d : Dispatcher σ} {s : HostSession}
    (other : payload.length ≠ ConfigRequest.size s.config.backend.codec kind) :
    d.onRecord host kind payload s = d.countDropped :=
  if_pos other

theorem onRecord_refused {kind : RecordKind} {payload : Bytes} {d : Dispatcher σ} {s : HostSession}
    {request : ConfigRequest} {error : RecordError}
    (decoded : ConfigRequest.decode s.config.backend.codec kind payload = .ok request)
    (refused : s.applied.apply request = .error error) :
    d.onRecord host kind payload s = d.countDropped := by
  rw [onRecord, if_neg (not_not.2 (ConfigRequest.size_of_decode decoded)), decoded]
  simp only [refused, bind, Except.bind]

variable (host) in
theorem dispatch_record (kind : RecordKind) {p : Primitive} {d : Dispatcher σ} {s : HostSession}
    (known : p.kind? = some kind.primitive) (opened : d.session = some s) :
    d.dispatch host p = (d.countPrimitive.onRecord host kind p.payload s, .resume, none) := by
  rw [dispatch_open known opened]
  cases kind <;> rfl

theorem onRecord_handling (kind : RecordKind) {p : Primitive} {d : Dispatcher σ} {s : HostSession}
    (opened : d.session = some s) (known : p.kind? = some kind.primitive) :
    Handling host p d (d.countPrimitive.onRecord host kind p.payload s, .resume, none) := by
  by_cases sized : p.payload.length = ConfigRequest.size s.config.backend.codec kind
  · obtain ⟨request, decoded, -⟩ := ConfigRequest.decode_sized sized
    cases merged : s.applied.apply request with
    | error e =>
      rw [onRecord_refused decoded merged]
      exact .dropped
    | ok applied =>
      rw [onRecord_taken decoded merged]
      exact .ordered opened (.record known decoded merged)
  · rw [onRecord_missized sized]
    exact .dropped

variable (host) in
theorem dispatch_handling (p : Primitive) (d : Dispatcher σ) :
    Handling host p d (d.dispatch host p) := by
  cases known : p.kind? with
  | none =>
    rw [dispatch_unknown known]
    exact .dropped
  | some kind =>
    by_cases first : kind = .init
    · subst first
      rw [dispatch_init known]
      exact onInit_handling d known
    cases opened : d.session with
    | none =>
      rw [dispatch_closed known first opened]
      exact .dropped
    | some s =>
      have unchanged : d.countPrimitive = { d.countPrimitive with session := some s } := by
        rw [← opened]
        rfl
      have simple {operation : EngineOperation} (orders : Orders p s d operation s) :
          Handling host p d (d.countPrimitive.attempt host operation, .resume, none) := by
        rw [unchanged]
        exact .ordered opened orders
      rw [dispatch_open known opened]
      cases kind with
      | undefined => exact .dropped
      | init => exact absurd rfl first
      | deinit => exact .farewell opened known
      | regs => exact simple (.prepare known)
      | start => exact onStart_handling opened known
      | wait =>
        rw [← dispatch_open known opened, dispatch_request host known opened]
        cases named : requested? p.payload d.regions with
        | none => exact .dropped
        | some imported =>
          cases imported with
          | error e => exact .unimported opened known named
          | ok output => exact .finished opened known named (finishTask_finish host _ _ _ _)
      | controlPrep => exact onRecord_handling .prep opened known
      | controlRc => exact onRecord_handling .rc opened known
      | controlCodec => exact onRecord_handling .codec opened known
      | controlSei => exact onRecord_handling .sei opened known
      | control => exact simple (.control known)
      | reset => exact simple (.reset known)
      | flush => exact simple (.flush known)

end Dispatcher

end CodecLink
