import CodecLink.Proofs.Dispatcher.Observed

/-! The calls on engines fall into blocks, one for each engine that was asked to set itself up. A
block is over when that fails or the session ends, and the next one begins only then. Within a block
the starts are numbered, and every other call for a task is for the one started last. -/
namespace CodecLink

/-- The calls on one engine. -/
inductive Block
  | refused (config : SessionConfig) (error : EngineError)
  | session (config : SessionConfig) (body : List EngineEvent)
      (farewell : Option (EngineResult Unit))

def EngineCall.isStart : EngineCall → Bool
  | perform (.start _) => true
  | _ => false

/-- Whether a call is in order in a session with so many starts before it. -/
def EngineCall.Fits (starts : Nat) : EngineCall → Prop
  | perform (.init _) | perform .deinit => False
  | perform (.prepare task) => task.sequence = .ofNat starts ∧ task.output = none
  | perform (.start task) => task.sequence = .ofNat (starts + 1) ∧ task.output = none
  | perform .reset | perform .flush | perform (.control _) => True
  | wait task => task.sequence = .ofNat starts

namespace Block

def events : Block → List EngineEvent
  | refused config error => [.performed (.init config) (.error error)]
  | session config body farewell =>
    .performed (.init config) (.ok ()) :: body ++ farewell.toList.map (.performed .deinit)

def isOpen : Block → Bool
  | session _ _ none => true
  | _ => false

def starts (body : List EngineEvent) : Nat := body.countP (·.call.isStart)

def Numbered (body : List EngineEvent) : Prop :=
  ∀ front event back, body = front ++ event :: back → event.call.Fits (starts front)

def Orderly : Block → Prop
  | refused _ _ => True
  | session _ body _ => Numbered body

theorem numbered_nil : Numbered [] := by
  intro front event back cut
  cases front <;> cases cut

theorem numbered_concat {body : List EngineEvent} {event : EngineEvent} (numbered : Numbered body)
    (fits : event.call.Fits (starts body)) : Numbered (body ++ [event]) := by
  intro front other back cut
  rcases List.eq_nil_or_concat back with rfl | ⟨back, last, rfl⟩
  · obtain ⟨rfl, same⟩ := List.append_inj' cut rfl
    cases same
    exact fits
  · have cut : body ++ [event] = (front ++ other :: back) ++ [last] := by rw [cut]; simp
    obtain ⟨same, -⟩ := List.append_inj' cut rfl
    exact numbered front other back same

end Block

namespace Dispatcher

variable {σ : Type} {host : EngineHost σ}

/-- What is noted of the calls while a session is open or while none is. -/
inductive Logged : List EngineEvent → Option HostSession → Prop
  | closed {blocks : List Block} (earlier : ∀ b ∈ blocks, b.isOpen = false ∧ b.Orderly) :
      Logged (blocks.flatMap Block.events) none
  | opened {blocks : List Block} {body : List EngineEvent} {s : HostSession}
      (earlier : ∀ b ∈ blocks, b.isOpen = false ∧ b.Orderly) (numbered : Block.Numbered body)
      (sequence : s.task.sequence = .ofNat (Block.starts body)) (output : s.task.output = none) :
      Logged (blocks.flatMap Block.events ++ (Block.session s.config body none).events) (some s)

namespace Logged

variable {log : List EngineEvent} {s next : HostSession}

theorem finished (logged : Logged log none) (b : Block) (ended : b.isOpen = false)
    (orderly : b.Orderly) : Logged (log ++ b.events) none := by
  cases logged with
  | @closed blocks all =>
    have same : blocks.flatMap Block.events ++ b.events = (blocks ++ [b]).flatMap Block.events := by
      simp
    rw [same]
    refine .closed fun c member => ?_
    rcases List.mem_append.1 member with old | new
    · exact all c old
    · cases List.mem_singleton.1 new
      exact ⟨ended, orderly⟩

theorem fresh (logged : Logged log none) (config : SessionConfig) (applied : AppliedConfig) :
    Logged (log ++ [.performed (.init config) (.ok ())]) (some { config, applied }) := by
  cases logged with
  | closed earlier =>
    exact @Logged.opened _ _ { config, applied } earlier Block.numbered_nil rfl rfl

/-- A call in order, and the session that goes on with it. -/
theorem call (logged : Logged log (some s)) {event : EngineEvent} (config : next.config = s.config)
    (output : next.task.output = none)
    (fits : s.task.output = none → ∀ count, s.task.sequence = .ofNat count →
      event.call.Fits count ∧
        next.task.sequence = .ofNat (if event.call.isStart then count + 1 else count)) :
    Logged (log ++ [event]) (some next) := by
  cases logged with
  | @opened blocks body _ earlier numbered sequence cleared =>
    obtain ⟨fit, advanced⟩ := fits cleared _ sequence
    have count : Block.starts (body ++ [event]) =
        if event.call.isStart then Block.starts body + 1 else Block.starts body := by
      rw [Block.starts, List.countP_append, List.countP_singleton]
      split <;> rfl
    have same :
        blocks.flatMap Block.events ++ (Block.session s.config body none).events ++ [event] =
          blocks.flatMap Block.events ++
            (Block.session next.config (body ++ [event]) none).events := by
      simp [Block.events, config]
    rw [same]
    exact .opened earlier (Block.numbered_concat numbered fit) (by rw [count, advanced]) output

/-- A change of the session that no call shows. -/
theorem congr (logged : Logged log (some s)) (config : next.config = s.config)
    (sequence : next.task.sequence = s.task.sequence) (output : next.task.output = none) :
    Logged log (some next) := by
  cases logged with
  | opened earlier numbered counted cleared =>
    rw [← config]
    exact .opened earlier numbered (by rw [sequence, counted]) output

theorem waits (logged : Logged log (some s)) (output : Option Buffer)
    (results : List (EngineResult Feedback)) :
    Logged (log ++ results.map (.waited { s.task with output })) (some s) := by
  induction results generalizing log with
  | nil => simpa using logged
  | cons result results ih =>
    have cleared : s.task.output = none := by
      cases logged
      assumption
    have next : Logged (log ++ [.waited { s.task with output } result]) (some s) :=
      logged.call rfl cleared fun _ count sequence => ⟨sequence, sequence⟩
    simpa using ih next

theorem farewell (logged : Logged log (some s)) (result : EngineResult Unit) :
    Logged (log ++ [.performed .deinit result]) none := by
  cases logged with
  | @opened blocks body _ earlier numbered sequence output =>
    have closed : Logged (blocks.flatMap Block.events) none := .closed earlier
    have ended := closed.finished (.session s.config body (some result)) rfl numbered
    simpa [Block.events] using ended

end Logged

section

variable (d : Dispatcher (Observed σ))

variable (host) in
theorem log_perform (operation : EngineOperation) :
    (d.perform host.observed operation).2.engine.log =
      d.engine.log ++ [.performed operation (d.perform host.observed operation).1] :=
  rfl

theorem log_attempt (operation : EngineOperation) :
    (d.attempt host.observed operation).engine.log =
      d.engine.log ++ [.performed operation (d.perform host.observed operation).1] := by
  rw [attempt_eq, ← log_perform]
  cases (d.perform host.observed operation).1 <;> rfl

variable (host) in
theorem log_waited (task : Task) (times : Nat) :
    ∃ results : List (EngineResult Feedback), results.length = times ∧
      (d.waited host.observed task times).engine.log =
        d.engine.log ++ results.map (.waited task) := by
  induction times generalizing d with
  | zero => exact ⟨[], rfl, (List.append_nil _).symm⟩
  | succ times ih =>
    obtain ⟨results, count, same⟩ := ih (d.wait host.observed task).2
    refine ⟨(d.wait host.observed task).1 :: results, congrArg Nat.succ count, ?_⟩
    rw [waited_succ, same, List.map_cons, List.append_cons]
    rfl

end

theorem Opening.logged {d after : Dispatcher (Observed σ)} {config : SessionConfig}
    (opening : Opening host.observed config d after) (logged : Logged d.engine.log none)
    (closed : d.session = none) : Logged after.engine.log after.session := by
  have kept {engine : Observed σ}
      (created : host.observed.create config.backend d.engine = some engine) :
      engine.log = d.engine.log := by
    obtain ⟨_, _, rfl⟩ := Option.map_eq_some_iff.1 created
    rfl
  cases opening with
  | unsupported absent =>
    rw [← closed] at logged
    exact logged
  | @refused engine error created failed =>
    have noted := log_perform host { d with engine } (.init config)
    rw [failed, kept created] at noted
    show Logged ({ d with engine }.perform host.observed (.init config)).2.engine.log d.session
    rw [noted, closed]
    exact logged.finished (.refused config error) rfl trivial
  | @opened engine created ready =>
    have noted := log_perform host { d with engine } (.init config)
    rw [ready, kept created] at noted
    show Logged ({ d with engine }.perform host.observed (.init config)).2.engine.log _
    rw [noted]
    exact logged.fresh config _

theorem Orders.logged {p : Primitive} {s next : HostSession} {τ : Type} {d : Dispatcher τ}
    {operation : EngineOperation} {log : List EngineEvent} (orders : Orders p s d operation next)
    (logged : Logged log (some s)) (result : EngineResult Unit) :
    Logged (log ++ [.performed operation result]) (some next) := by
  have cleared : s.task.output = none := by
    cases logged
    assumption
  cases orders with
  | prepare kind =>
    exact logged.call rfl cleared fun output _ sequence => ⟨⟨sequence, output⟩, sequence⟩
  | start kind imported =>
    refine logged.call rfl rfl fun _ count sequence => ?_
    have advanced : s.task.sequence + 1 = .ofNat (count + 1) := by
      rw [sequence, UInt64.ofNat_add]
      rfl
    exact ⟨⟨advanced, rfl⟩, advanced⟩
  | record known decoded merged =>
    exact logged.call rfl cleared fun _ _ sequence => ⟨trivial, sequence⟩
  | control kind => exact logged.call rfl cleared fun _ _ sequence => ⟨trivial, sequence⟩
  | reset kind => exact logged.call rfl cleared fun _ _ sequence => ⟨trivial, sequence⟩
  | flush kind => exact logged.call rfl cleared fun _ _ sequence => ⟨trivial, sequence⟩

theorem Finish.logged {d : Dispatcher (Observed σ)} {output : Option Buffer} {tag : Option UInt64}
    {s : HostSession} {result : Dispatcher (Observed σ) × Option WaitReply}
    (finish : Finish host.observed output tag s d result) (logged : Logged d.engine.log (some s)) :
    Logged result.1.engine.log result.1.session := by
  have asked (calls : Nat) :
      Logged (d.waited host.observed { s.task with output } calls).engine.log (some s) := by
    obtain ⟨results, -, noted⟩ := log_waited host d { s.task with output } calls
    rw [noted]
    exact logged.waits output results
  cases finish with
  | @failed calls _ drain => exact (asked calls).congr rfl rfl rfl
  | @replied calls _ _ drain mode => exact (asked calls).congr rfl rfl rfl
  | @published calls _ _ _ drain mode =>
    rw [engine_publish, session_publish]
    exact (asked calls).congr rfl rfl rfl

theorem Logged.dispatch {d : Dispatcher (Observed σ)} (logged : Logged d.engine.log d.session)
    (p : Primitive) :
    Logged (d.dispatch host.observed p).1.engine.log (d.dispatch host.observed p).1.session := by
  have handled := dispatch_handling host.observed p d
  generalize d.dispatch host.observed p = result at handled ⊢
  cases handled with
  | dropped => exact logged
  | unimported opened kind named => exact logged
  | opening closed kind opening => exact opening.logged (closed ▸ logged) closed
  | farewell opened kind =>
    rw [opened] at logged
    rw [onDeinit]
    simp only [session_attempt, log_attempt]
    exact logged.farewell _
  | ordered opened orders =>
    rw [opened] at logged
    simp only [session_attempt, log_attempt]
    exact orders.logged logged _
  | finished opened kind named finish => exact finish.logged (opened ▸ logged)

theorem Logged.reached {d : Dispatcher (Observed σ)} (logged : Logged d.engine.log d.session)
    (ps : List Primitive) :
    Logged (d.reached host.observed ps).engine.log (d.reached host.observed ps).session :=
  reached_induction (fun d : Dispatcher (Observed σ) => Logged d.engine.log d.session)
    (fun p _ logged => logged.dispatch p) ps logged

theorem Logged.blocks {log : List EngineEvent} {session : Option HostSession}
    (logged : Logged log session) :
    ∃ blocks : List Block, log = blocks.flatMap Block.events ∧ (∀ b ∈ blocks, b.Orderly) ∧
      (∀ b ∈ blocks.dropLast, b.isOpen = false) ∧
      (session.isSome ↔ ∃ b, blocks.getLast? = some b ∧ b.isOpen = true) := by
  cases logged with
  | @closed blocks earlier =>
    refine ⟨blocks, rfl, fun b member => (earlier b member).2,
      fun b member => (earlier b (List.dropLast_subset _ member)).1, ?_⟩
    constructor
    · intro opened
      cases opened
    · rintro ⟨b, last, opened⟩
      rw [(earlier b (List.mem_of_getLast? last)).1] at opened
      cases opened
  | @opened blocks body s earlier numbered sequence output =>
    refine ⟨blocks ++ [.session s.config body none], by simp, fun b member => ?_, ?_, ?_⟩
    · rcases List.mem_append.1 member with old | new
      · exact (earlier b old).2
      · cases List.mem_singleton.1 new
        exact numbered
    · rw [List.dropLast_concat]
      exact fun b member => (earlier b member).1
    · exact ⟨fun _ => ⟨_, List.getLast?_concat, rfl⟩, fun _ => rfl⟩

theorem Orders.kind_ne {p : Primitive} {s next : HostSession} {d : Dispatcher σ}
    {operation : EngineOperation} (orders : Orders p s d operation next) :
    p.kind? ≠ some .wait := by
  intro waits
  cases orders with
  | @record kind request applied known decoded merged =>
    rw [known] at waits
    cases kind <;> cases waits
  | prepare kind | start kind imported | control kind | reset kind | flush kind =>
    rw [kind] at waits
    cases waits

/-- A request for a completed task may ask the engine again and again, always for one task; any
other primitive causes one call at most. -/
def CallsFor (allowed : Nat) (p : Primitive) (before after : List EngineCall) : Prop :=
  if p.kind? = some .wait then
    ∃ task times, times ≤ allowed ∧ after = before ++ List.replicate times (.wait task)
  else ∃ operation : Option EngineOperation,
    after = before ++ operation.toList.map .perform

variable (host) in
theorem calls_dispatch (p : Primitive) (d : Dispatcher σ) :
    CallsFor d.allowance p d.calls (d.dispatch host p).1.calls := by
  have idle : CallsFor d.allowance p d.calls d.calls := by
    rw [CallsFor]
    split
    · exact ⟨{}, 0, Nat.zero_le _, (List.append_nil _).symm⟩
    · exact ⟨none, (List.append_nil _).symm⟩
  have once (other : p.kind? ≠ some .wait) (operation : EngineOperation) :
      CallsFor d.allowance p d.calls (d.calls ++ [.perform operation]) := by
    rw [CallsFor, if_neg other]
    exact ⟨some operation, rfl⟩
  have handled := dispatch_handling host p d
  generalize d.dispatch host p = result at handled ⊢
  cases handled with
  | dropped => exact idle
  | unimported opened kind named => exact idle
  | @opening config after closed kind opening =>
    have other : p.kind? ≠ some .wait := by rw [kind]; decide
    cases opening with
    | unsupported absent => exact idle
    | refused created failed => exact once other (.init config)
    | opened created ready => exact once other (.init config)
  | farewell opened kind =>
    have other : p.kind? ≠ some .wait := by rw [kind]; decide
    rw [onDeinit]
    simp only [calls_attempt]
    exact once other .deinit
  | @ordered s next operation opened orders =>
    simp only [calls_attempt]
    exact once orders.kind_ne operation
  | finished opened kind named finish =>
    obtain ⟨times, _, drain, asked⟩ := finish.calls_eq
    rw [CallsFor, if_pos kind]
    exact ⟨_, times, drain.bounded, asked⟩

variable (host) in
theorem settings_dispatch (p : Primitive) (d : Dispatcher σ) :
    (d.dispatch host p).1.settings = d.settings := by
  have handled := dispatch_handling host p d
  generalize d.dispatch host p = result at handled ⊢
  cases handled with
  | dropped => rfl
  | unimported opened kind named => rfl
  | opening closed kind opening => cases opening <;> rfl
  | farewell opened kind =>
    rw [onDeinit]
    simp only [settings_attempt]
    rfl
  | ordered opened orders =>
    simp only [settings_attempt]
    rfl
  | finished opened kind named finish =>
    have kept (task : Task) (calls : Nat) :=
      (waited_fields host task d.countPrimitive calls).1
    cases finish with
    | failed drain => exact kept _ _
    | replied drain mode => exact kept _ _
    | published drain mode =>
      rw [settings_publish]
      exact kept _ _

variable (host) in
theorem settings_reached (ps : List Primitive) (d : Dispatcher σ) :
    (d.reached host ps).settings = d.settings :=
  reached_induction (·.settings = d.settings)
    (fun p after kept => (settings_dispatch host p after).trans kept) ps rfl

/-- Every call is in the log. -/
def Noted (d : Dispatcher (Observed σ)) : Prop := d.engine.log.map EngineEvent.call = d.calls

namespace Noted

variable {d : Dispatcher (Observed σ)}

theorem attempt (noted : d.Noted) (operation : EngineOperation) :
    (d.attempt host.observed operation).Noted := by
  rw [Noted, log_attempt, calls_attempt, List.map_append, noted]
  rfl

variable (host) in
theorem waited (noted : d.Noted) (task : Task) (times : Nat) :
    (d.waited host.observed task times).Noted := by
  obtain ⟨results, count, log⟩ := log_waited host d task times
  have asked : (results.map (EngineEvent.waited task)).map EngineEvent.call =
      List.replicate times (.wait task) := by
    rw [List.map_map, ← count]
    exact List.map_eq_replicate_iff.2 fun _ _ => rfl
  rw [Noted, log, List.map_append, noted, asked]
  exact (waited_fields host.observed task d times).2.2.symm

theorem opening {after : Dispatcher (Observed σ)} {config : SessionConfig} (noted : d.Noted)
    (opening : Opening host.observed config d after) : after.Noted := by
  have performed {engine : Observed σ}
      (created : host.observed.create config.backend d.engine = some engine) :
      ({ d with engine }.perform host.observed (.init config)).2.Noted := by
    obtain ⟨_, _, rfl⟩ := Option.map_eq_some_iff.1 created
    rw [Noted, log_perform, calls_perform, List.map_append]
    exact congrArg (· ++ _) noted
  cases opening with
  | unsupported absent => exact noted
  | refused created failed => exact performed created
  | opened created ready => exact performed created

theorem dispatch (noted : d.Noted) (p : Primitive) : (d.dispatch host.observed p).1.Noted := by
  have counted : d.countPrimitive.Noted := noted
  have between (session : Option HostSession) :
      ({ d.countPrimitive with session } : Dispatcher (Observed σ)).Noted := noted
  have handled := dispatch_handling host.observed p d
  generalize d.dispatch host.observed p = result at handled ⊢
  cases handled with
  | dropped => exact noted
  | unimported opened kind named => exact noted
  | opening closed kind opening => exact counted.opening opening
  | farewell opened kind => exact (between none).attempt .deinit
  | @ordered s next operation opened orders => exact (between (some next)).attempt operation
  | finished opened kind named finish =>
    have asked := counted.waited host
    cases finish with
    | failed drain => exact asked _ _
    | replied drain mode => exact asked _ _
    | published drain mode =>
      rw [Noted, engine_publish, calls_publish]
      exact asked _ _

theorem reached (noted : d.Noted) (ps : List Primitive) : (d.reached host.observed ps).Noted :=
  reached_induction Noted (fun p _ noted => noted.dispatch p) ps noted

end Noted

/-- The engine calls of a run on a dispatcher that handled nothing before, and what was answered, as
a watch on the engine shows them that leaves the run as it is. -/
theorem calls_in_blocks (host : EngineHost σ) (settings : DispatchSettings)
    (regions : RegionTable) (engine : σ) (ps : List Primitive) :
    let fresh : Dispatcher σ := { settings, regions, engine }
    (fresh.observed.reached host.observed ps).forget = fresh.reached host ps ∧
      (trace host ps fresh).map EngineEvent.call = (fresh.reached host ps).calls ∧
      (∃ blocks : List Block, trace host ps fresh = blocks.flatMap Block.events ∧
        (∀ b ∈ blocks, b.Orderly) ∧ (∀ b ∈ blocks.dropLast, b.isOpen = false) ∧
        ((fresh.reached host ps).session.isSome ↔
          ∃ b, blocks.getLast? = some b ∧ b.isOpen = true)) ∧
      ∀ turn ∈ turns host ps fresh,
        CallsFor (max 1 settings.maxTries) turn.2 turn.1.calls
          (turn.1.dispatch host turn.2).1.calls := by
  intro fresh
  have same := reached_forget host ps fresh.observed
  have forgotten : fresh.observed.forget = fresh := rfl
  rw [forgotten] at same
  have empty : Logged (([] : List Block).flatMap Block.events) none := .closed (by simp)
  have logged : Logged fresh.observed.engine.log fresh.observed.session := empty
  have noted : fresh.observed.Noted := rfl
  refine ⟨same, ?_, ?_, fun turn member => ?_⟩
  · rw [← same]
    exact noted.reached ps
  · rw [← same]
    exact (logged.reached ps).blocks
  · obtain ⟨front, back, -, reached⟩ := mem_turns member
    have calls := calls_dispatch host turn.2 turn.1
    rw [allowance, reached, settings_reached host front fresh, ← reached] at calls
    exact calls

end Dispatcher

end CodecLink
