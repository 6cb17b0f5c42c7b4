import CodecLink.Dispatcher.Checked
import CodecLink.Proofs.Dispatcher.Serving
import CodecLink.Proofs.Message.CheckedLayouts

/-! Whatever is done by checked steps to the end gives what is done without checks, from a single
engine call to the serving of a channel. -/
namespace CodecLink

namespace Checked

variable {α β : Type}

def Gives (x : Checked α) (value : α) : Prop := ∀ a, x = .ok a → a = value

theorem gives_ok (value : α) : Gives (.ok value) value := by
  intro a same
  cases same
  rfl

theorem gives_of_eq {x : Checked α} {value : α} (same : x = .ok value) : Gives x value :=
  same ▸ gives_ok value

theorem Gives.bind {x : Checked α} {value : α} (gives : Gives x value) {f : α → Checked β}
    {result : β} (next : Gives (f value) result) : Gives (x >>= f) result := by
  intro b done
  obtain ⟨a, here, done⟩ := bind_ok.1 done
  cases gives a here
  exact next b done

theorem Gives.map {x : Checked α} {value : α} (gives : Gives x value) (f : α → β) :
    Gives (x.map f) (f value) := by
  intro b done
  cases x with
  | error crash => cases done
  | ok a =>
    cases done
    rw [gives a rfl]

theorem gives_ignored (x : Checked α) {y : Checked β} {value : β} (gives : Gives y value) :
    Gives (x >>= fun _ => y) value := by
  intro b done
  obtain ⟨_, _, done⟩ := bind_ok.1 done
  exact gives b done

theorem gives_counted (counter : Nat) (after : α) : Gives (counted counter after) after := by
  intro a done
  rw [counted] at done
  cases room : add counter 1 with
  | error crash =>
    rw [room] at done
    cases done
  | ok _ =>
    rw [room] at done
    cases done
    rfl

theorem gives_add (a b : Nat) : Gives (add a b) (a + b) := by
  intro sum done
  rw [add] at done
  split at done
  · cases done
    rfl
  · cases done

theorem gives_times (a b : Nat) : Gives (times a b) (a * b) := by
  intro product done
  rw [times] at done
  split at done
  · cases done
    rfl
  · cases done

theorem gives_increment (n : UInt64) : Gives (increment n) (n + 1) := by
  have same : UInt64.ofNat (n.toNat + 1) = n + 1 := by
    rw [UInt64.ofNat_add, UInt64.ofNat_toNat]
    rfl
  rw [← same]
  exact (gives_add n.toNat 1).map UInt64.ofNat

end Checked

open Checked

structure CheckedHost.Refines {σ : Type} (checked : CheckedHost σ) (host : EngineHost σ) :
    Prop where
  create : checked.create = host.create
  perform (operation : EngineOperation) (t : RegionTable) (engine : σ) :
    Gives (checked.perform operation t engine) (host.perform operation t engine)
  wait (task : Task) (t : RegionTable) (engine : σ) :
    Gives (checked.wait task t engine) (host.wait task t engine)

theorem Feedback.gives_done (size : UInt64) : Gives (doneChecked size) (done size) := by
  have same : UInt64.ofNat (size.toNat * 8) = size * 8 := by
    rw [UInt64.ofNat_mul, UInt64.ofNat_toNat]
    rfl
  rw [done, ← same]
  exact (gives_times size.toNat 8).bind (gives_ok _)

namespace Passthrough

theorem gives_input (task : Task) (t : RegionTable) :
    Gives (inputChecked task t) (inputOf task t) := by
  rw [inputChecked, inputOf]
  cases task.input with
  | none => exact gives_ok _
  | some buffer =>
    dsimp only
    cases buffer.region.bind t.region? with
    | none => exact gives_ignored _ (gives_ok _)
    | some r => exact gives_ignored _ (gives_ok _)

theorem gives_perform (operation : EngineOperation) (t : RegionTable) (e : Passthrough) :
    Gives (e.performChecked operation t) (e.perform operation t) := by
  cases operation with
  | start task =>
    rw [performChecked, perform]
    split
    · exact (gives_input task t).bind (gives_ok _)
    · exact gives_ok _
  | control command =>
    rw [performChecked, perform]
    split
    · exact gives_ignored _ (gives_ignored _ (gives_ok _))
    · exact gives_ok _
  | _ => exact gives_ok _

theorem gives_wait (task : Task) (t : RegionTable) (e : Passthrough) :
    Gives (e.waitChecked task t) (e.wait task t) := by
  rw [waitChecked, wait]
  split
  · exact gives_ok _
  · cases e.pending with
    | none => exact gives_ok _
    | some produced =>
      dsimp only
      cases deliver _ task.output t with
      | error fault => exact gives_ok _
      | ok t => exact (Feedback.gives_done _).bind (gives_ok _)

end Passthrough

namespace ScriptedEngine

theorem gives_perform (operation : EngineOperation) (t : RegionTable) (s : ScriptedEngine) :
    Gives (s.performChecked operation t) (s.perform operation t) := by
  rw [performChecked, perform]
  rcases s.take (.ofOperation operation) with ⟨_ | _ | _, s⟩
  · exact (Passthrough.gives_perform operation t s.engine).bind (gives_ok _)
  · exact gives_ok _
  · exact (Passthrough.gives_perform operation t s.engine).bind (gives_ok _)

theorem gives_wait (task : Task) (t : RegionTable) (s : ScriptedEngine) :
    Gives (s.waitChecked task t) (s.wait task t) := by
  rw [waitChecked, wait]
  rcases s.take .wait with ⟨_ | _ | _, s⟩
  · exact (Passthrough.gives_wait task t s.engine).bind (gives_ok _)
  · exact gives_ok _
  · exact gives_ok _

theorem checkedHost_refines (registry : EngineRegistry) :
    (checkedHost registry).Refines (host registry) where
  create := rfl
  perform := gives_perform
  wait := gives_wait

end ScriptedEngine

namespace Dispatcher

variable {σ : Type} {checked : CheckedHost σ} {host : EngineHost σ}

theorem gives_dropped (d : Dispatcher σ) : Gives d.countDroppedChecked d.countDropped :=
  gives_counted _ _

theorem gives_engineError (d : Dispatcher σ) : Gives d.countEngineErrorChecked d.countEngineError :=
  gives_counted _ _

section

variable (refines : checked.Refines host)
include refines

theorem gives_perform (operation : EngineOperation) (d : Dispatcher σ) :
    Gives (d.performChecked checked operation) (d.perform host operation) :=
  (refines.perform operation d.regions d.engine).bind (gives_ok _)

theorem gives_attempt (operation : EngineOperation) (d : Dispatcher σ) :
    Gives (d.attemptChecked checked operation) (d.attempt host operation) := by
  refine (gives_perform refines operation d).bind ?_
  rw [attempt]
  rcases d.perform host operation with ⟨_ | _, after⟩
  · exact gives_engineError after
  · exact gives_ok after

theorem gives_wait (task : Task) (d : Dispatcher σ) :
    Gives (d.waitChecked checked task) (d.wait host task) :=
  (refines.wait task d.regions d.engine).bind (gives_ok _)

theorem gives_collect (task : Task) (more : Nat) (d : Dispatcher σ) :
    Gives (d.collectChecked checked task more) (d.collect host task more) := by
  induction more generalizing d with
  | zero => exact gives_wait refines task d
  | succ more ih =>
    refine (gives_wait refines task d).bind ?_
    rw [collect]
    rcases d.wait host task with ⟨error | feedback, after⟩
    · cases error with
      | notReady => exact ih after
      | _ => exact gives_ok _
    · exact gives_ok _

theorem gives_openSession (config : SessionConfig) (d : Dispatcher σ) :
    Gives (d.openSessionChecked checked config) (d.openSession host config) := by
  rw [openSessionChecked, openSession, refines.create]
  cases host.create config.backend d.engine with
  | none => exact gives_engineError d
  | some engine =>
    refine (gives_perform refines (.init config) { d with engine }).bind ?_
    dsimp only
    generalize ({ d with engine } : Dispatcher σ).perform host (.init config) = opened
    rcases opened with ⟨_ | _, after⟩
    · exact gives_engineError after
    · exact gives_ok _

theorem gives_onInit (payload : Bytes) (d : Dispatcher σ) :
    Gives (d.onInitChecked checked payload) (d.onInit host payload) := by
  rw [onInitChecked, onInit]
  split
  · exact gives_dropped d
  · split
    · exact gives_openSession refines _ d
    · cases SessionConfig.ofPayload? payload with
      | none => exact gives_dropped d
      | some config => exact gives_openSession refines config d

theorem gives_onDeinit (d : Dispatcher σ) : Gives (d.onDeinitChecked checked) (d.onDeinit host) :=
  (gives_attempt refines .deinit { d with session := none }).bind (gives_ok _)

end

theorem importPayloadChecked_eq (payload : Bytes) (d : Dispatcher σ) :
    d.importPayloadChecked payload = .ok (d.importPayload payload) := by
  rw [importPayloadChecked, importPayload]
  split
  · rfl
  · rw [Descriptor.decodeChecked_eq, ok_bind]
    cases Descriptor.decode payload with
    | error e => rfl
    | ok descriptor => cases d.regions.importBuffer descriptor <;> rfl

theorem decodeWaitChecked_eq (payload : Bytes) :
    decodeWaitChecked payload = .ok (decodeWait payload) := by
  rw [decodeWaitChecked, decodeWait]
  split
  · rfl
  · rw [WaitRequest.decodeChecked_eq, ok_bind]
    rfl

section

variable (refines : checked.Refines host)
include refines

theorem gives_onStart (payload : Bytes) (s : HostSession) (d : Dispatcher σ) :
    Gives (d.onStartChecked checked payload s) (d.onStart host payload s) := by
  rw [onStartChecked, onStart, importPayloadChecked_eq, ok_bind]
  cases d.importPayload payload with
  | error e => exact gives_dropped d
  | ok input => exact (gives_increment s.task.sequence).bind (gives_attempt refines _ _)

theorem gives_finishTask (output : Option Buffer) (tag : Option UInt64) (s : HostSession)
    (d : Dispatcher σ) :
    Gives (d.finishTaskChecked checked output tag s) (d.finishTask host output tag s) := by
  refine (gives_collect refines { s.task with output } (d.settings.maxTries - 1) d).bind ?_
  rw [finishTask]
  rcases d.collect host { s.task with output } (d.settings.maxTries - 1) with ⟨e | feedback, after⟩
  · exact (gives_engineError _).bind (gives_ok _)
  · refine (gives_add after.summary.tasks 1).bind ?_
    dsimp only
    cases s.config.completion with
    | roundTrip timeoutMs => exact gives_ok _
    | polling intervalMs maxPolls => exact gives_ok _

theorem gives_onWait (payload : Bytes) (s : HostSession) (d : Dispatcher σ) :
    Gives (d.onWaitChecked checked payload s) (d.onWait host payload s) := by
  rw [onWaitChecked, onWait, decodeWaitChecked_eq, ok_bind]
  rcases decodeWait payload with e | _ | request
  · exact (gives_dropped d).bind (gives_ok _)
  · exact gives_finishTask refines none none s d
  · dsimp only
    cases d.regions.importBuffer request.output with
    | error e => exact (gives_dropped d).bind (gives_ok _)
    | ok buffer => exact gives_finishTask refines (some buffer) request.tag s d

theorem gives_onRecord (kind : RecordKind) (payload : Bytes) (s : HostSession) (d : Dispatcher σ) :
    Gives (d.onRecordChecked checked kind payload s) (d.onRecord host kind payload s) := by
  rw [onRecordChecked, onRecord]
  split
  · exact gives_dropped d
  rw [ConfigRequest.decodeChecked_eq, ok_bind]
  cases ConfigRequest.decode s.config.backend.codec kind payload with
  | error e => exact gives_dropped d
  | ok request =>
    simp only [bind, Except.bind]
    cases s.applied.apply request with
    | error e => exact gives_dropped d
    | ok applied => exact gives_attempt refines (.control (.configure request)) _

theorem gives_route (kind : PrimitiveCode) (payload : Bytes) (s : HostSession) (d : Dispatcher σ) :
    Gives (d.routeChecked checked kind payload s) (d.route host kind payload s) := by
  cases kind with
  | undefined => exact (gives_dropped d).map _
  | init => exact (gives_onInit refines payload d).map _
  | deinit => exact (gives_onDeinit refines d).map _
  | regs => exact (gives_attempt refines _ d).map _
  | start => exact (gives_onStart refines payload s d).map _
  | wait => exact (gives_onWait refines payload s d).map _
  | controlPrep => exact (gives_onRecord refines .prep payload s d).map _
  | controlRc => exact (gives_onRecord refines .rc payload s d).map _
  | controlCodec => exact (gives_onRecord refines .codec payload s d).map _
  | controlSei => exact (gives_onRecord refines .sei payload s d).map _
  | control => exact (gives_ignored _ (gives_attempt refines (.control (.raw payload)) d)).map _
  | reset => exact (gives_attempt refines _ d).map _
  | flush => exact (gives_attempt refines _ d).map _

theorem gives_dispatch (p : Primitive) (d : Dispatcher σ) :
    Gives (d.dispatchChecked checked p) (d.dispatch host p) := by
  refine (gives_counted d.summary.primitives d.countPrimitive).bind ?_
  rw [dispatch]
  rcases p.kind? with _ | kind
  · exact (gives_dropped d.countPrimitive).bind (gives_ok _)
  · cases d.countPrimitive.session with
    | some s => exact gives_route refines kind p.payload s d.countPrimitive
    | none =>
      cases kind with
      | init => exact (gives_onInit refines p.payload d.countPrimitive).bind (gives_ok _)
      | _ => exact (gives_dropped d.countPrimitive).bind (gives_ok _)

end

/-- A reply is short, so that sending it takes nothing that there is not. -/
theorem sendReplyChecked_eq (reply : Option WaitReply) (c : Channel) :
    sendReplyChecked reply c = .ok (sendReply reply c) := by
  cases reply with
  | none => rfl
  | some m =>
    have short := m.length_frame_le
    simp only [Frame.bytes, List.length_append] at short
    have room : layOut c.limits.maxFrame (.of .wait m.encode) = .ok () := by
      rw [layOut, add_ok (Nat.lt_of_le_of_lt short (by decide)), ok_bind]
      split
      · exact allocate_ok (Nat.le_trans short (by decide))
      · rfl
    rw [sendReplyChecked, WaitReply.encodeChecked_eq, ok_bind]
    dsimp only
    rw [room]
    rfl

/-- What becomes of a primitive: it is dispatched, and the reply is sent. -/
def handle (host : EngineHost σ) (p : Primitive) (d : Dispatcher σ) (c : Channel) :
    Dispatcher σ × Flow × Except ChannelError Unit × Channel :=
  let (d, flow, reply) := d.dispatch host p
  let (sent, c) := sendReply reply c
  (d, flow, sent, c)

section

variable {stops : List Bool} {d : Dispatcher σ} {c after : Channel}

theorem serve_of_error (going : ¬stops.head? = some true) {error : ChannelError}
    (received : c.recv = (.error error, after)) :
    d.serve host stops c =
      match verdict error with
      | .retry =>
        if after.isQuiet then ⟨d, after, .waiting⟩ else d.serve host (stops.drop 1) after
      | .finish => d.ended host after
      | .skip => d.countDropped.serve host (stops.drop 1) after
      | .fail error => ⟨d, after, .failed error⟩ := by
  rewrite [serve_eq, if_neg going, received]
  rfl

theorem serve_of_primitive (going : ¬stops.head? = some true) {p : Primitive}
    (received : c.recv = (.ok p, after)) :
    d.serve host stops c =
      match d.handle host p after with
      | (d, _, .error (.disconnected _), after) => d.ended host after
      | (d, _, .error error, after) => ⟨d, after, .failed error⟩
      | (d, .stop, .ok (), after) => d.ended host after
      | (d, .resume, .ok (), after) => d.serve host (stops.drop 1) after := by
  rw [serve_eq, if_neg going, received, handle]
  dsimp only
  rcases d.dispatch host p with ⟨next, flow, reply⟩
  dsimp only
  rcases sendReply reply after with ⟨error | _, last⟩
  · cases error <;> rfl
  · cases flow <;> rfl

end

section

variable (refines : checked.Refines host)
include refines

theorem gives_handle (p : Primitive) (d : Dispatcher σ) (c : Channel) :
    Gives (d.handleChecked checked p c) (d.handle host p c) := by
  refine (gives_dispatch refines p d).bind ?_
  exact (gives_of_eq (sendReplyChecked_eq (d.dispatch host p).2.2 c)).bind (gives_ok _)

theorem gives_release (d : Dispatcher σ) : Gives (d.releaseChecked checked) (d.release host) := by
  rw [releaseChecked, release]
  split
  · exact (gives_perform refines .deinit { d with session := none }).bind (gives_ok _)
  · exact gives_ok _

theorem ended_of_checked {d : Dispatcher σ} {c : Channel} {served : Served σ}
    (done : d.endedChecked checked c = .ok served) : d.ended host c = served := by
  rw [endedChecked] at done
  cases released : d.releaseChecked checked with
  | error crash =>
    rw [released] at done
    cases done
  | ok after =>
    rw [released] at done
    cases done
    rw [ended, gives_release refines d after released]

/-- Serving that came to no step it could not take was serving. -/
theorem serve_of_checked {stops : List Bool} {d : Dispatcher σ} {c : Channel} {served : Served σ}
    (done : d.serveChecked checked stops c = .ok served) : d.serve host stops c = served := by
  fun_induction serveChecked checked stops d c with
  | case1 stops d c stopped =>
    rw [serve_eq, if_pos stopped]
    exact ended_of_checked refines done
  | case2 stops d c going error after received judged quiet =>
    cases done
    rw [serve_of_error going received, judged]
    exact if_pos quiet
  | case3 stops d c going error after received judged loud ih =>
    rw [serve_of_error going received, judged]
    exact (if_neg loud).trans (ih done)
  | case4 stops d c going error after received judged =>
    rw [serve_of_error going received, judged]
    exact ended_of_checked refines done
  | case5 => cases done
  | case6 stops d c going error after received judged next counted ih =>
    cases gives_dropped d next counted
    rw [serve_of_error going received, judged]
    exact ih done
  | case7 stops d c going error after received e judged =>
    cases done
    rw [serve_of_error going received, judged]
  | case8 => cases done
  | case9 stops d c going p after received next flow reason left handled =>
    rw [serve_of_primitive going received, ← gives_handle refines p d after _ handled]
    exact ended_of_checked refines done
  | case10 stops d c going p after received next flow error left there handled =>
    cases done
    rw [serve_of_primitive going received, ← gives_handle refines p d after _ handled]
    cases error with
    | disconnected reason => exact absurd rfl (there reason)
    | _ => rfl
  | case11 stops d c going p after received next left handled =>
    rw [serve_of_primitive going received, ← gives_handle refines p d after _ handled]
    exact ended_of_checked refines done
  | case12 stops d c going p after received next left handled ih =>
    rw [serve_of_primitive going received, ← gives_handle refines p d after _ handled]
    exact ih done

end

end Dispatcher

end CodecLink
