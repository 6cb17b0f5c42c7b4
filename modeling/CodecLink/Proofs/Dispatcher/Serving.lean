import CodecLink.Dispatcher.Serve
import CodecLink.Engine.Scripted
import CodecLink.Proofs.Channel.Transfer
import CodecLink.Proofs.Dispatcher.CallBlocks

/-! What becomes of the engine when a channel was served. The engine of a session is released once,
whether the peer says farewell, is gone, or a stop is asked for; only a failure of the channel that
is not the loss of the peer leaves the session open and its engine taken. -/
namespace CodecLink

/-- An engine is taken when it was set up and released when it is told so, whatever it answers. -/
inductive Tenure
  | taken
  | released
  deriving DecidableEq, Repr

def EngineEvent.tenure? : EngineEvent → Option Tenure
  | performed (.init _) (.ok ()) => some .taken
  | performed .deinit _ => some .released
  | _ => none

/-- The failures of a channel that end serving it with an error: a fault other than the loss of the
peer, and a reply beyond the limit on frames. -/
inductive ChannelError.Aborts : ChannelError → Prop
  | fault {fault : Fault} (there : fault.kind ≠ .brokenPipe ∧ fault.kind ≠ .connectionReset) :
      Aborts (.frame (.io fault))
  | oversized (size most : Nat) : Aborts (.frame (.tooLarge size most))

namespace Dispatcher

variable {σ : Type} {host : EngineHost σ}

theorem aborts_of_verdict {c after : Channel} {error e : ChannelError}
    (received : c.recv = (.error error, after)) (judged : verdict error = .fail e) : e.Aborts := by
  obtain ⟨failure, rfl⟩ : ∃ failure, error = c.readError failure := by
    have outcome := congrArg Prod.fst received
    dsimp only [Channel.recv] at outcome
    cases pulled : (c.reader.next c.stream.inbound).1 with
    | ok p =>
      rw [pulled] at outcome
      cases outcome
    | error failure =>
      rw [pulled] at outcome
      cases outcome
      exact ⟨failure, rfl⟩
  rw [Channel.readError] at judged
  split at judged
  · cases judged
  · cases failure with
    | io fault =>
      dsimp only [ChannelError.ofFrame] at judged
      split at judged
      · cases judged
      · rename_i there
        cases judged
        exact .fault (by simpa using there)
    | malformedHeader _ | truncated _ _ | tooLarge _ _ | connectionClosed => cases judged

theorem aborts_of_reply {m : WaitReply} {c after : Channel} {e : ChannelError}
    (sent : sendReply (some m) c = (.error e, after))
    (there : ∀ reason, e = .disconnected reason → False) : e.Aborts := by
  have outcome := congrArg Prod.fst sent
  dsimp only [sendReply, Channel.send] at outcome
  cases written : (Writer.send c.limits (.of .wait m.encode) c.stream.outbound).1 with
  | ok _ =>
    rw [written] at outcome
    cases outcome
  | error failure =>
    rw [written] at outcome
    cases outcome
    rcases Writer.send_error written with rfl | ⟨fault, rfl⟩ | ⟨size, most, rfl⟩
    · exact absurd rfl (there _)
    · rw [ChannelError.ofFrame] at there ⊢
      split
      · rename_i lost
        rw [if_pos lost] at there
        exact absurd rfl (there _)
      · rename_i kept
        exact .fault (by simpa using kept)
    · exact .oversized size most

/-- How serving a channel ends, told of the dispatcher before an open session is released: `during`
holds of it as long as primitives are handled, `past` once a farewell was. -/
inductive ServeEnd (host : EngineHost σ) (during past : Dispatcher σ → Prop) (served : Served σ) :
    Prop
  | ended {last : Dispatcher σ} (status : served.status = .ended) (held : during last ∨ past last)
      (released : served.dispatcher = last.release host)
  | waiting (status : served.status = .waiting) (held : during served.dispatcher)
  | failed {error : ChannelError} (status : served.status = .failed error) (aborts : error.Aborts)
      (held : during served.dispatcher)

/-- What holds behind a primitive, by whether serving goes on. -/
def Behind (during past : Dispatcher σ → Prop) (handled : Dispatcher σ × Flow × Option WaitReply) :
    Prop :=
  match handled.2.1 with
  | .resume => during handled.1
  | .stop => past handled.1

theorem flow_of_reply {p : Primitive} {d : Dispatcher σ} {m : WaitReply}
    (answered : (d.dispatch host p).2.2 = some m) : (d.dispatch host p).2.1 = .resume := by
  have handled := dispatch_handling host p d
  generalize d.dispatch host p = result at handled answered ⊢
  cases handled with
  | farewell opened kind => cases answered
  | dropped | unimported _ _ _ | opening _ _ _ | ordered _ _ | finished _ _ _ _ => rfl

theorem serve_end {during past : Dispatcher σ → Prop}
    (skip : ∀ d, during d → during d.countDropped)
    (step : ∀ p d, during d → Behind during past (d.dispatch host p)) (stops : List Bool)
    (c : Channel) {d : Dispatcher σ} (start : during d) :
    ServeEnd host during past (d.serve host stops c) := by
  fun_induction serve host stops d c with
  | case1 stops d c stopped => exact .ended rfl (.inl start) rfl
  | case2 stops d c _ error after received judged quiet => exact .waiting rfl start
  | case3 stops d c _ error after received judged _ ih => exact ih start
  | case4 stops d c _ error after received judged => exact .ended rfl (.inl start) rfl
  | case5 stops d c _ error after received judged ih => exact ih (skip d start)
  | case6 stops d c _ error after received e judged =>
    exact .failed rfl (aborts_of_verdict received judged) start
  | case7 stops d c _ p after received next flow reply handled reason last sent =>
    have behind := step p d start
    rw [handled] at behind
    refine .ended rfl ?_ rfl
    cases flow with
    | resume => exact .inl behind
    | stop => exact .inr behind
  | case8 stops d c _ p after received next flow reply handled error last there sent =>
    have behind := step p d start
    -- A farewell is not answered, so a reply that cannot be sent is not behind one.
    cases reply with
    | none => cases sent
    | some m =>
      have resumes : (d.dispatch host p).2.1 = .resume := flow_of_reply (by rw [handled])
      rw [handled] at behind resumes
      cases resumes
      exact .failed rfl (aborts_of_reply sent there) behind
  | case9 stops d c _ p after received next reply last sent handled =>
    have behind := step p d start
    rw [handled] at behind
    exact .ended rfl (.inr behind) rfl
  | case10 stops d c _ p after received next reply last sent handled ih =>
    have behind := step p d start
    rw [handled] at behind
    exact ih behind

variable (host) in
/-- One round of serving. -/
theorem serve_eq (stops : List Bool) (d : Dispatcher σ) (c : Channel) :
    d.serve host stops c =
      if stops.head? = some true then d.ended host c
      else match c.recv with
        | (.error error, after) =>
          match verdict error with
          | .retry =>
            if after.isQuiet then ⟨d, after, .waiting⟩ else serve host (stops.drop 1) d after
          | .finish => d.ended host after
          | .skip => serve host (stops.drop 1) d.countDropped after
          | .fail error => ⟨d, after, .failed error⟩
        | (.ok p, after) =>
          match d.dispatch host p with
          | (d, flow, reply) =>
            match sendReply reply after with
            | (.error (.disconnected _), after) => d.ended host after
            | (.error error, after) => ⟨d, after, .failed error⟩
            | (.ok (), after) =>
              match flow with
              | .stop => d.ended host after
              | .resume => serve host (stops.drop 1) d after := by
  rw [serve]
  split
  · rfl
  split
  · rename_i error after received
    rw [received]
    dsimp only
    split
    · rename_i judged
      rw [judged]
      dsimp only
      split <;> rfl
    all_goals
      rename_i judged
      rw [judged]
  · rename_i p after received
    rw [received]
    dsimp only
    rcases d.dispatch host p with ⟨next, flow, reply⟩
    dsimp only
    split
    · rename_i sent
      rw [sent]
    · rename_i error last there sent
      rw [sent]
      cases error with
      | disconnected reason => exact absurd rfl (there reason)
      | _ => rfl
    · rename_i sent
      cases flow <;> rw [sent]

theorem serve_forget (stops : List Bool) (c : Channel) (d : Dispatcher (Observed σ)) :
    d.forget.serve host stops c =
      ⟨(d.serve host.observed stops c).dispatcher.forget, (d.serve host.observed stops c).channel,
        (d.serve host.observed stops c).status⟩ := by
  have released (d : Dispatcher (Observed σ)) (c : Channel) :
      d.forget.ended host c = ⟨(d.release host.observed).forget, c, .ended⟩ := by
    rw [ended, release, release, show d.forget.session = d.session from rfl]
    split <;> rfl
  have dispatched {p : Primitive} {d next : Dispatcher (Observed σ)} {flow : Flow}
      {reply : Option WaitReply} (handled : d.dispatch host.observed p = (next, flow, reply)) :
      d.forget.dispatch host p = (next.forget, flow, reply) := by
    rw [dispatch_forget, handled]
  -- The watched loop leads; the other one is unrolled by a round in each case.
  fun_induction serve host.observed stops d c with
  | case1 stops d c stopped =>
    rw [serve_eq, if_pos stopped]
    exact released d c
  | case2 stops d c going error after received judged quiet =>
    rw [serve_eq, if_neg going, received]
    simp only [judged, quiet, if_true]
  | case3 stops d c going error after received judged loud ih =>
    rw [serve_eq, if_neg going, received]
    simp only [judged, if_neg loud]
    exact ih
  | case4 stops d c going error after received judged =>
    rw [serve_eq, if_neg going, received]
    simp only [judged]
    exact released d after
  | case5 stops d c going error after received judged ih =>
    rw [serve_eq, if_neg going, received]
    simp only [judged]
    exact ih
  | case6 stops d c going error after received e judged =>
    rw [serve_eq, if_neg going, received]
    simp only [judged]
  | case7 stops d c going p after received next flow reply handled reason last sent =>
    rw [serve_eq, if_neg going, received]
    simp only [dispatched handled, sent]
    exact released next last
  | case8 stops d c going p after received next flow reply handled error last there sent =>
    rw [serve_eq, if_neg going, received]
    simp only [dispatched handled, sent]
  | case9 stops d c going p after received next reply last sent handled =>
    rw [serve_eq, if_neg going, received]
    simp only [dispatched handled, sent]
    exact released next last
  | case10 stops d c going p after received next reply last sent handled ih =>
    rw [serve_eq, if_neg going, received]
    simp only [dispatched handled, sent]
    exact ih

/-- The engines taken and released so far, with that of a session which was open from the start. -/
def tenures (inherited : Option HostSession) (d : Dispatcher (Observed σ)) : List Tenure :=
  inherited.toList.map (fun _ => .taken) ++ d.engine.log.filterMap EngineEvent.tenure?

/-- One engine is in use while a session is open, and none otherwise. -/
def Employs (inherited : Option HostSession) (d : Dispatcher (Observed σ)) : Prop :=
  d.tenures inherited = d.session.toList.map fun _ => .taken

def Dismissed (inherited : Option HostSession) (d : Dispatcher (Observed σ)) : Prop :=
  d.session = none ∧ d.tenures inherited = [.taken, .released]

theorem Orders.tenure {p : Primitive} {s next : HostSession} {d : Dispatcher σ}
    {operation : EngineOperation} (orders : Orders p s d operation next)
    (result : EngineResult Unit) : (EngineEvent.performed operation result).tenure? = none := by
  cases orders <;> rfl

section

variable {inherited : Option HostSession} {d after : Dispatcher (Observed σ)}

theorem tenures_of_log {events : List EngineEvent}
    (log : after.engine.log = d.engine.log ++ events) :
    after.tenures inherited =
      d.tenures inherited ++ events.filterMap EngineEvent.tenure? := by
  rw [tenures, tenures, log, List.filterMap_append, List.append_assoc]

/-- Calls that neither take nor release an engine. -/
theorem Employs.kept {events : List EngineEvent} (employs : d.Employs inherited)
    (log : after.engine.log = d.engine.log ++ events)
    (plain : events.filterMap EngineEvent.tenure? = [])
    (session : after.session.isSome = d.session.isSome) : after.Employs inherited := by
  have same : after.session.toList.map (fun _ => Tenure.taken) =
      d.session.toList.map fun _ => .taken := by
    cases opened : d.session <;> cases present : after.session <;> simp_all
  rw [Employs, tenures_of_log log, plain, List.append_nil, same]
  exact employs

theorem Employs.dismissed (employs : d.Employs inherited) (opened : d.session.isSome)
    (closed : after.session = none) {result : EngineResult Unit}
    (log : after.engine.log = d.engine.log ++ [.performed .deinit result]) :
    after.Dismissed inherited := by
  obtain ⟨s, present⟩ := Option.isSome_iff_exists.1 opened
  refine ⟨closed, ?_⟩
  rw [tenures_of_log log, employs, present]
  rfl

theorem Employs.opening {config : SessionConfig} (employs : d.Employs inherited)
    (closed : d.session = none) (opening : Opening host.observed config d after) :
    after.Employs inherited := by
  have noted {engine : Observed σ}
      (created : host.observed.create config.backend d.engine = some engine) :
      ({ d with engine }.perform host.observed (.init config)).2.engine.log = d.engine.log ++
        [.performed (.init config) ({ d with engine }.perform host.observed (.init config)).1] := by
    obtain ⟨_, _, rfl⟩ := Option.map_eq_some_iff.1 created
    rfl
  cases opening with
  | unsupported absent => exact employs
  | @refused engine error created failed =>
    refine employs.kept (noted created) ?_ rfl
    rw [failed]
    rfl
  | @opened engine created ready =>
    have log := noted created
    rw [ready] at log
    refine (tenures_of_log log).trans ?_
    rw [employs, closed]
    rfl

theorem employs_dispatch (p : Primitive) (d : Dispatcher (Observed σ))
    (employs : d.Employs inherited) :
    Behind (Employs inherited) (Dismissed inherited) (d.dispatch host.observed p) := by
  have handled := dispatch_handling host.observed p d
  generalize d.dispatch host.observed p = result at handled ⊢
  cases handled with
  | dropped => exact employs
  | unimported opened kind named => exact employs
  | opening closed kind opening =>
    exact Employs.opening (d := d.countPrimitive) employs closed opening
  | farewell opened kind =>
    show (d.countPrimitive.onDeinit host.observed).Dismissed inherited
    have present : d.countPrimitive.session.isSome := by
      show d.session.isSome
      rw [opened]
      rfl
    have log : (d.countPrimitive.onDeinit host.observed).engine.log = d.engine.log ++
        [.performed .deinit
          ({ d.countPrimitive with session := none }.perform host.observed .deinit).1] :=
      log_attempt _ _
    exact Employs.dismissed (d := d.countPrimitive) employs present (session_attempt _ _) log
  | @ordered s next operation opened orders =>
    refine employs.kept (log_attempt _ _) ?_ ?_
    · rw [List.filterMap_cons_none (orders.tenure _)]
      rfl
    · rw [session_attempt, opened]
      rfl
  | @finished s output result opened kind named finish =>
    have asked (task : Task) (calls : Nat) : ∃ events : List EngineEvent,
        (d.countPrimitive.waited host.observed task calls).engine.log = d.engine.log ++ events ∧
          events.filterMap EngineEvent.tenure? = [] := by
      obtain ⟨results, _, log⟩ := log_waited host d.countPrimitive task calls
      refine ⟨_, log, List.filterMap_eq_nil_iff.2 fun event member => ?_⟩
      obtain ⟨result, _, rfl⟩ := List.mem_map.1 member
      rfl
    show result.1.Employs inherited
    cases finish with
    | @failed calls _ drain =>
      obtain ⟨events, log, plain⟩ := asked { s.task with output } calls
      exact employs.kept log plain (by rw [opened]; rfl)
    | @replied calls _ _ drain mode =>
      obtain ⟨events, log, plain⟩ := asked { s.task with output } calls
      exact employs.kept log plain (by rw [opened]; rfl)
    | @published calls _ _ _ drain mode =>
      obtain ⟨events, log, plain⟩ := asked { s.task with output } calls
      refine employs.kept ?_ plain ?_
      · rw [engine_publish]
        exact log
      · rw [session_publish, opened]
        rfl

theorem release_dismisses (held : d.Employs inherited ∨ d.Dismissed inherited) :
    (d.release host.observed).session = none ∧
      ((d.release host.observed).tenures inherited = [] ∨
        (d.release host.observed).tenures inherited = [.taken, .released]) := by
  rw [release]
  rcases held with employs | ⟨closed, dismissed⟩
  · split
    · rename_i opened
      have noted := log_perform host { d with session := none } .deinit
      obtain ⟨gone, all⟩ := employs.dismissed opened rfl noted
      exact ⟨gone, .inr all⟩
    · rename_i vacant
      have closed := Option.not_isSome_iff_eq_none.1 vacant
      rw [Employs, closed] at employs
      exact ⟨closed, .inl employs⟩
  · rw [closed]
    exact ⟨closed, .inr dismissed⟩

end

/-- Watching changes nothing of how a channel is served. When that ends without an error, no session
is open and the engine taken was released once; an error leaves the session as it is, and so its
engine in use. -/
theorem engine_released_unless_aborted (host : EngineHost σ) (stops : List Bool) (d : Dispatcher σ)
    (c : Channel) :
    let served := d.serve host stops c
    let watched := d.observed.serve host.observed stops c
    served = ⟨watched.dispatcher.forget, watched.channel, watched.status⟩ ∧
      match watched.status with
      | .ended => watched.dispatcher.session = none ∧
          (watched.dispatcher.tenures d.session = [] ∨
            watched.dispatcher.tenures d.session = [.taken, .released])
      | .waiting => watched.dispatcher.Employs d.session
      | .failed error => error.Aborts ∧ watched.dispatcher.Employs d.session := by
  have start : d.observed.Employs d.session := List.append_nil _
  have finish : ServeEnd host.observed (Employs d.session) (Dismissed d.session) _ :=
    serve_end (fun _ employs => employs) employs_dispatch stops c start
  refine ⟨serve_forget stops c d.observed, ?_⟩
  cases finish with
  | ended status held released =>
    rw [status, released]
    exact release_dismisses held
  | waiting status held =>
    rw [status]
    exact held
  | failed status aborts held =>
    rw [status]
    exact ⟨aborts, held⟩

/-- A reply beyond the limit on frames ends serving with an error, and the engine that was set up is
not told to let go. -/
theorem oversized_reply_keeps_engine :
    let c := (Channel.ofLimits "" 2 { maxFrame := 36 }).arrive (Bytes.ofAscii "1:0:4:0:5:0:2:0:")
    let settings : DispatchSettings := { defaultSession := { completion := .roundTrip 50 } }
    let served := serve (ScriptedEngine.host .full) [] { settings, engine := {} } c
    served.status = .failed (.frame (.tooLarge 37 36)) ∧ served.dispatcher.session.isSome ∧
      EngineCall.perform .deinit ∉ served.dispatcher.calls ∧
      EngineCall.perform (.init settings.defaultSession) ∈ served.dispatcher.calls := by
  decide +kernel

end Dispatcher

end CodecLink
