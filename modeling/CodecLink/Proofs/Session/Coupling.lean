import CodecLink.Proofs.Dispatcher.Stages
import CodecLink.Proofs.Session.Exchange
import CodecLink.Proofs.Session.Undisturbed
import CodecLink.Session.Link

/-! A session and a host that copies, joined by a channel on which nothing goes wrong. Calls of the
session, the arrival of bytes, the host's handling of what arrived and what else is done to the
shared regions come in any order; a wait is over only once its completion was seen. -/
namespace CodecLink

/-- A wait under way: what completes it, the buffer it is for, the region whose ready word it looks
at, and what it saw there so far. -/
structure Watch where
  awaited : Awaited
  output : Descriptor
  flag : Option RegionId := none
  looks : List UInt32 := []
  deriving DecidableEq, Repr

structure Coupling where
  session : Session
  host : Dispatcher ScriptedEngine
  hostEnd : Channel := { id := "host" }
  /-- Bytes on their way in either direction. -/
  toHost : Bytes := []
  toClient : Bytes := []
  watch : Option Watch := none
  /-- How many requests for a completed task were sent. -/
  waits : Nat := 0
  /-- The input of the last start that was sent. -/
  started : Descriptor := {}
  /-- The shared regions as they were when the host last handled a start. -/
  snapshot : RegionTable := {}

inductive CouplingEvent
  /-- Any call but a wait, whose ready word is that of a region here. -/
  | call (call : SessionCall)
  | wait (output : Descriptor) (flag : Option RegionId)
  | look
  | finish
  | toHost (bytes : Nat)
  | toClient (bytes : Nat)
  /-- The host reads once, and handles and answers the primitive that it gets. -/
  | handle
  | fill (id : RegionId) (content : Bytes)
  | share (region : Region)
  | retire (handle : UInt64)

namespace Coupling

def link (s : Coupling) : Link ScriptedEngine :=
  { session := s.session, host := s.host, hostEnd := some s.hostEnd }

/-- The ready word as the wait sees it: what it saw so far, and what it is now. -/
def flagOf (w : Watch) (s : Coupling) : Option ReadyFlag :=
  (s.link.flagOf w.flag).map fun flag => { flag with upcoming := w.looks }

/-- What the client wrote goes on its way. -/
def settle (after : Session) (s : Coupling) : Coupling :=
  { s with
    session := after.emptied
    toHost := s.toHost ++ (after.latest.map Channel.written).getD [] }

def startedBy (call : SessionCall) (s : Coupling) : Descriptor :=
  match call, (s.session.perform call).1 with
  | .start input, .ok () => input
  | _, _ => s.started

def wait (output : Descriptor) (flag : Option RegionId) (s : Coupling) : Coupling :=
  let host := (s.link.armFor output flag).host
  match s.session.submitWait output flag.isSome with
  | (.error _, after) => { s with host }.settle after
  | (.ok awaited, after) =>
    { s with host, watch := some { awaited, output, flag }, waits := s.waits + 1 }.settle after

def handle (registry : EngineRegistry) (s : Coupling) : Coupling :=
  match s.hostEnd.recv with
  | (.error _, hostEnd) => { s with hostEnd }
  | (.ok p, hostEnd) =>
    let outcome := s.host.dispatch (ScriptedEngine.host registry) p
    let hostEnd := (Dispatcher.sendReply outcome.2.2 hostEnd).2
    { s with
      host := outcome.1
      hostEnd := hostEnd.emptied
      toClient := s.toClient ++ hostEnd.written
      snapshot := if p.kind? = some .start then s.host.regions else s.snapshot }

def step (registry : EngineRegistry) (s : Coupling) : CouplingEvent → Coupling
  | .call call =>
    if s.watch.isSome then s
    else { s with started := s.startedBy call }.settle (s.session.perform call).2
  | .wait output flag => if s.watch.isSome then s else s.wait output flag
  | .look =>
    match s.watch, s.watch.bind fun w => s.link.flagOf w.flag with
    | some w, some flag => { s with watch := some { w with looks := w.looks ++ [flag.value] } }
    | _, _ => s
  | .finish =>
    match s.watch with
    | none => s
    | some w =>
      { s with watch := none }.settle (s.session.finishWait w.awaited (s.flagOf w)).2.2
  | .toHost bytes =>
    { s with hostEnd := s.hostEnd.arrive (s.toHost.take bytes), toHost := s.toHost.drop bytes }
  | .toClient bytes =>
    match s.session.channel with
    | none => s
    | some c =>
      { s with
        session.channel := some (c.arrive (s.toClient.take bytes))
        toClient := s.toClient.drop bytes }
  | .handle => s.handle registry
  | .fill id content =>
    match s.host.regions.write id content with
    | .error _ => s
    | .ok regions => { s with host.regions := regions }
  | .share region => { s with host.regions := s.host.regions.insert region }
  | .retire handle => { s with host.regions := s.host.regions.unregister handle }

/-- The host has handled all that was sent. -/
def Served (s : Coupling) : Prop := s.toHost = [] ∧ s.hostEnd.held = []

instance (s : Coupling) : Decidable s.Served := inferInstanceAs (Decidable (_ ∧ _))

/-- Whether a wait would still look for its completion. -/
def hasTime (w : Watch) (s : Coupling) : Bool :=
  match s.session.config.completion with
  | .roundTrip timeoutMs => timeoutMs != 0
  | .polling _ maxPolls => w.looks.length ≤ maxPolls.toNat

/-- The completion that a wait is for, if any, is there to be seen. -/
def Seen (w : Watch) (s : Coupling) : Prop :=
  w.awaited ≠ .nothing → s.Served ∧ s.toClient = [] ∧ s.hasTime w = true

instance (w : Watch) (s : Coupling) : Decidable (s.Seen w) :=
  inferInstanceAs (Decidable (w.awaited ≠ .nothing → _))

/-- Channels are fresh and have the default limits; shared descriptors that are used fit into the
regions that they name. -/
def AllowsCall (s : Coupling) : SessionCall → Prop
  | .attach c | .init (.ok c) => c = .ofLimits c.id c.tag {} c.recvTimeout
  | .start input => s.session.state ∈ Session.startingStates → s.host.regions.Admits input
  | .wait _ _ => False
  | _ => True

instance (s : Coupling) : DecidablePred s.AllowsCall
  | .attach c | .init (.ok c) =>
    inferInstanceAs (Decidable (c = .ofLimits c.id c.tag {} c.recvTimeout))
  | .start input =>
    inferInstanceAs (Decidable (_ ∈ Session.startingStates → s.host.regions.Admits input))
  | .wait _ _ => .isFalse id
  | .init (.error _) | .control _ | .genRegs | .reset | .flush | .deinit => .isTrue trivial

/-- A wait lasts until its completion was seen; nothing is put into its output meanwhile. Regions
stay registered, and new ones have handles of their own, as long as a wait is under way or anything
on its way to the host. -/
def Allows (s : Coupling) : CouplingEvent → Prop
  | .call call => s.AllowsCall call
  | .wait output _ => s.session.state = .running → s.host.regions.Admits output
  | .finish => ∀ w ∈ s.watch, s.Seen w
  | .fill id _ =>
    ∀ w ∈ s.watch, w.output.isShared = true → s.host.regions.find? w.output.handle ≠ some id
  | .share region => s.watch.isNone ∧ s.Served ∨ s.host.regions.find? region.handle = none
  | .retire _ => s.watch.isNone ∧ s.Served
  | .look | .toHost _ | .toClient _ | .handle => True

instance (s : Coupling) : DecidablePred s.Allows
  | .call call => inferInstanceAs (Decidable (s.AllowsCall call))
  | .wait output _ =>
    inferInstanceAs (Decidable (s.session.state = .running → s.host.regions.Admits output))
  | .finish => inferInstanceAs (Decidable (∀ w ∈ s.watch, s.Seen w))
  | .fill id _ => inferInstanceAs (Decidable (∀ w ∈ s.watch, w.output.isShared = true →
      s.host.regions.find? w.output.handle ≠ some id))
  | .share region =>
    inferInstanceAs (Decidable (_ ∧ s.Served ∨ s.host.regions.find? region.handle = none))
  | .retire _ => inferInstanceAs (Decidable (_ ∧ s.Served))
  | .look | .toHost _ | .toClient _ | .handle => .isTrue trivial

def run (registry : EngineRegistry) (s : Coupling) (events : List CouplingEvent) : Coupling :=
  events.foldl (step registry) s

/-- Every event is allowed when it comes. -/
def Permits (registry : EngineRegistry) : Coupling → List CouplingEvent → Prop
  | _, [] => True
  | s, event :: rest => s.Allows event ∧ Permits registry (s.step registry event) rest

instance decidablePermits (registry : EngineRegistry) :
    (s : Coupling) → (events : List CouplingEvent) → Decidable (Permits registry s events)
  | _, [] => .isTrue trivial
  | s, event :: rest =>
    have := decidablePermits registry (s.step registry event) rest
    inferInstanceAs (Decidable (s.Allows event ∧ _))

def ofConfig (config : SessionConfig) (settings : DispatchSettings) (regions : RegionTable) :
    Coupling :=
  { session := .ofConfig config, host := { settings, regions, engine := {} } }

end Coupling

end CodecLink
