import CodecLink.Proofs.Dispatcher.Handling

/-! Engines that are watched. The calls are noted with what was answered, and nothing else changes:
a dispatcher does the same whether or not its engine is watched. -/
namespace CodecLink

inductive EngineEvent
  | performed (operation : EngineOperation) (result : EngineResult Unit)
  | waited (task : Task) (result : EngineResult Feedback)

def EngineEvent.call : EngineEvent → EngineCall
  | performed operation _ => .perform operation
  | waited task _ => .wait task

structure Observed (σ : Type) where
  engine : σ
  log : List EngineEvent := []

def EngineHost.observed {σ : Type} (host : EngineHost σ) : EngineHost (Observed σ) where
  create backend o := (host.create backend o.engine).map fun engine => { o with engine }
  perform operation t o :=
    let (result, t, engine) := host.perform operation t o.engine
    (result, t, ⟨engine, o.log ++ [.performed operation result]⟩)
  wait task t o :=
    let (result, t, engine) := host.wait task t o.engine
    (result, t, ⟨engine, o.log ++ [.waited task result]⟩)

namespace Dispatcher

variable {σ : Type}

def observed (d : Dispatcher σ) : Dispatcher (Observed σ) :=
  ⟨d.settings, d.regions, ⟨d.engine, []⟩, d.session, d.summary, d.calls⟩

def forget (d : Dispatcher (Observed σ)) : Dispatcher σ :=
  ⟨d.settings, d.regions, d.engine.engine, d.session, d.summary, d.calls⟩

/-- The engine calls of a run, with what was answered. -/
def trace (host : EngineHost σ) (ps : List Primitive) (d : Dispatcher σ) : List EngineEvent :=
  (d.observed.reached host.observed ps).engine.log

section

variable (host : EngineHost σ) (d : Dispatcher (Observed σ))

theorem perform_forget (operation : EngineOperation) :
    d.forget.perform host operation =
      ((d.perform host.observed operation).1, (d.perform host.observed operation).2.forget) :=
  rfl

theorem wait_forget (task : Task) :
    d.forget.wait host task =
      ((d.wait host.observed task).1, (d.wait host.observed task).2.forget) :=
  rfl

theorem attempt_forget (operation : EngineOperation) :
    (d.attempt host.observed operation).forget = d.forget.attempt host operation := by
  rw [attempt_eq, attempt_eq, perform_forget]
  cases (d.perform host.observed operation).1 <;> rfl

theorem collect_forget (task : Task) (more : Nat) :
    d.forget.collect host task more =
      ((d.collect host.observed task more).1, (d.collect host.observed task more).2.forget) := by
  induction more generalizing d with
  | zero => rfl
  | succ more ih =>
    rw [collect, collect, wait_forget]
    rcases d.wait host.observed task with ⟨result, after⟩
    rcases result with (_ | _ | _ | _ | _) | _
    · exact ih after
    all_goals rfl

theorem openSession_forget (config : SessionConfig) :
    (d.openSession host.observed config).forget = d.forget.openSession host config := by
  have same : host.observed.create config.backend d.engine =
      (host.create config.backend d.engine.engine).map fun engine => ⟨engine, d.engine.log⟩ := rfl
  rw [openSession, openSession, same, show d.forget.engine = d.engine.engine from rfl]
  cases host.create config.backend d.engine.engine with
  | none => rfl
  | some engine =>
    have performed : ({ d.forget with engine } : Dispatcher σ) =
      ({ d with engine := ⟨engine, d.engine.log⟩ } : Dispatcher (Observed σ)).forget := rfl
    dsimp only [Option.map_some]
    rw [performed, perform_forget]
    rcases ({ d with engine := ⟨engine, d.engine.log⟩ } : Dispatcher (Observed σ)).perform
      host.observed (.init config) with ⟨_ | _, after⟩ <;> rfl

theorem onInit_forget (payload : Bytes) :
    (d.onInit host.observed payload).forget = d.forget.onInit host payload := by
  rw [onInit, onInit, show d.forget.session = d.session from rfl,
    show d.forget.settings = d.settings from rfl]
  split
  · rfl
  · split
    · exact openSession_forget host d _
    · split
      · rfl
      · exact openSession_forget host d _

theorem onDeinit_forget : (d.onDeinit host.observed).forget = d.forget.onDeinit host := by
  have parted : ({ d.forget with session := none } : Dispatcher σ) =
    ({ d with session := none } : Dispatcher (Observed σ)).forget := rfl
  rw [onDeinit, onDeinit, parted, ← attempt_forget]
  rfl

theorem onStart_forget (payload : Bytes) (s : HostSession) :
    (d.onStart host.observed payload s).forget = d.forget.onStart host payload s := by
  rw [onStart, onStart, show d.forget.importPayload payload = d.importPayload payload from rfl]
  split
  · rfl
  · exact attempt_forget host _ _

theorem publish_forget (output : Option Buffer) (feedback : Feedback) :
    (d.publish output feedback).forget = d.forget.publish output feedback := by
  rw [publish, publish]
  split <;> rfl

theorem finishTask_forget (output : Option Buffer) (tag : Option UInt64) (s : HostSession) :
    d.forget.finishTask host output tag s =
      ((d.finishTask host.observed output tag s).1.forget,
        (d.finishTask host.observed output tag s).2) := by
  rw [finishTask, finishTask, show d.forget.settings = d.settings from rfl, collect_forget]
  rcases d.collect host.observed { s.task with output } (d.settings.maxTries - 1) with
    ⟨_ | feedback, after⟩
  · rfl
  · dsimp only
    cases s.config.completion with
    | roundTrip timeoutMs => rfl
    | polling intervalMs maxPolls =>
      dsimp only
      rw [publish_forget]
      rfl

theorem onWait_forget (payload : Bytes) (s : HostSession) :
    d.forget.onWait host payload s =
      ((d.onWait host.observed payload s).1.forget, (d.onWait host.observed payload s).2) := by
  rw [onWait_eq, onWait_eq, show d.forget.regions = d.regions from rfl]
  rcases requested? payload d.regions with _ | _ | output
  · rfl
  · rfl
  · exact finishTask_forget host d output _ s

theorem onRecord_forget (kind : RecordKind) (payload : Bytes) (s : HostSession) :
    (d.onRecord host.observed kind payload s).forget = d.forget.onRecord host kind payload s := by
  rw [onRecord, onRecord]
  split
  · rfl
  dsimp only
  split
  · rfl
  · exact attempt_forget host _ _

theorem route_forget (kind : PrimitiveCode) (payload : Bytes) (s : HostSession) :
    d.forget.route host kind payload s =
      ((d.route host.observed kind payload s).1.forget,
        (d.route host.observed kind payload s).2) := by
  cases kind with
  | undefined => rfl
  | init => exact Prod.ext (onInit_forget host d payload).symm rfl
  | deinit => exact Prod.ext (onDeinit_forget host d).symm rfl
  | start => exact Prod.ext (onStart_forget host d payload s).symm rfl
  | wait =>
    rw [route, route, onWait_forget]
  | controlPrep | controlRc | controlCodec | controlSei =>
    exact Prod.ext (onRecord_forget host d _ payload s).symm rfl
  | regs | control | reset | flush => exact Prod.ext (attempt_forget host d _).symm rfl

theorem dispatch_forget (p : Primitive) :
    d.forget.dispatch host p =
      ((d.dispatch host.observed p).1.forget, (d.dispatch host.observed p).2) := by
  cases known : p.kind? with
  | none =>
    rw [dispatch_unknown known, dispatch_unknown known]
    rfl
  | some kind =>
    by_cases first : kind = .init
    · subst first
      rw [dispatch_init known, dispatch_init known]
      exact Prod.ext (onInit_forget host d.countPrimitive p.payload).symm rfl
    · cases opened : d.session with
      | none =>
        have forgotten : d.forget.session = none := opened
        rw [dispatch_closed known first opened, dispatch_closed known first forgotten]
        rfl
      | some s =>
        have forgotten : d.forget.session = some s := opened
        rw [dispatch_open known opened, dispatch_open known forgotten]
        exact route_forget host d.countPrimitive kind p.payload s

end

theorem reached_forget (host : EngineHost σ) (ps : List Primitive) (d : Dispatcher (Observed σ)) :
    (d.reached host.observed ps).forget = d.forget.reached host ps := by
  induction ps generalizing d with
  | nil => rfl
  | cons p ps ih =>
    have next : (d.forget.dispatch host p).1 = (d.dispatch host.observed p).1.forget := by
      rw [dispatch_forget]
    show ((d.dispatch host.observed p).1.reached host.observed ps).forget =
      (d.forget.dispatch host p).1.reached host ps
    rw [ih, next]

end Dispatcher

end CodecLink
