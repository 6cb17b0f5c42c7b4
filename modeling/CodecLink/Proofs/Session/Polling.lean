import CodecLink.Proofs.Dispatcher.Publishing
import CodecLink.Proofs.Session.CallOrder
import CodecLink.Proofs.Session.Exchange
import CodecLink.Proofs.Session.Undisturbed

/-! A session that looks at ready words and a host that publishes there whenever it comes to it. A
wait arms its word, sends its request and looks, and may run out of looks before the host has got to
the request; the host handles a request and publishes what it produced later. All of this comes in
any order. -/
namespace CodecLink

/-- A word that a request makes the host publish, and the host as it was when it came to handle the
request. -/
structure Posting (σ : Type) where
  request : Request
  handler : Dispatcher σ
  region : RegionId
  word : UInt32

/-- A wait under way, which has armed the word of a region. -/
structure Poll (σ : Type) where
  number : Nat
  output : Descriptor
  flag : RegionId
  /-- What completes the wait, once its request was sent. -/
  awaited : Option Awaited := none
  looks : List UInt32 := []
  /-- What the host was not done with when the word was armed. -/
  left : List Request
  /-- What was published in the region since. -/
  posted : List (Posting σ) := []

structure Polling (σ : Type) where
  session : Session
  host : Dispatcher σ
  /-- How many requests for a completed task were sent. -/
  waits : Nat := 0
  requests : List Request := []
  /-- What the request that was handled last has yet to have published. -/
  due : Option (Posting σ) := none
  poll : Option (Poll σ) := none

inductive PollingEvent
  /-- Any call but a wait with a ready word. -/
  | call (call : SessionCall)
  | world (change : Channel → Channel)
  | arm (output : Descriptor) (flag : RegionId)
  | send
  | look
  | finish
  /-- The host does what the next request asks for, but for the publishing. -/
  | handle
  | publish
  | fill (id : RegionId) (content : Bytes)
  | share (region : Region)
  | retire (handle : UInt64)

namespace Poll

variable {σ : Type}

def note (p : Posting σ) (w : Poll σ) : Poll σ :=
  if p.region = w.flag then { w with posted := w.posted ++ [p] } else w

def request (w : Poll σ) : Request := ⟨some w.number, .of .wait w.output.encode⟩

end Poll

namespace Polling

variable {σ : Type}

/-- What the host is not done with, the oldest first. -/
def outstanding (s : Polling σ) : List Request := s.due.toList.map (·.request) ++ s.requests

/-- The ready word as the wait sees it: what it saw so far, and what it is now. -/
def flagOf (w : Poll σ) (s : Polling σ) : Option ReadyFlag :=
  (s.host.regions.word? w.flag).map fun value => { upcoming := w.looks, value }

def watches : SessionCall → Bool
  | .wait _ (some _) => true
  | _ => false

def call (call : SessionCall) (s : Polling σ) : Polling σ :=
  let waits := if call.submits s.session then s.waits + 1 else s.waits
  let number := if call.submits s.session then some waits else none
  let sent := Frame.whole (Traffic.told call s.session).bytes
  { s with
    session := (s.session.perform call).2
    waits, requests := s.requests ++ sent.map (Request.mk number) }

def arm (output : Descriptor) (flag : RegionId) (s : Polling σ) : Polling σ :=
  { s with
    host.regions := s.host.regions.arm flag
    poll := some { number := s.waits + 1, output, flag, left := s.outstanding } }

/-- What submitting a wait writes on the session's channel. -/
def submitted (output : Descriptor) (s : Session) : Bytes :=
  let written := fun channel : Option Channel => (channel.map Channel.written).getD []
  (written (s.submitWait output true).2.latest).drop (written s.latest).length

def send (w : Poll σ) (s : Polling σ) : Polling σ :=
  let answer := s.session.submitWait w.output true
  let sent := Frame.whole (submitted w.output s.session)
  { s with
    session := answer.2
    waits := s.waits + 1
    requests := s.requests ++ sent.map (Request.mk (some w.number))
    poll := answer.1.toOption.map fun awaited => { w with awaited := some awaited } }

def handle (engines : EngineHost σ) (request : Request) (requests : List Request)
    (s : Polling σ) : Polling σ :=
  let host := (s.host.dispatch engines request.primitive).1
  match s.host.posted? engines request.primitive with
  | none => { s with host, requests }
  | some (region, word) =>
    { s with
      host := { host with regions := s.host.regions.withhold region host.regions }
      requests
      due := some { request, handler := s.host, region, word } }

def publish (p : Posting σ) (s : Polling σ) : Polling σ :=
  { s with
    host.regions := s.host.regions.publish p.region p.word
    due := none
    poll := s.poll.map (·.note p) }

def step (engines : EngineHost σ) (s : Polling σ) : PollingEvent → Polling σ
  | .call call => if s.poll.isSome || watches call then s else s.call call
  | .world change => { s with session.channel := s.session.channel.map change }
  | .arm output flag =>
    if s.poll.isNone ∧ s.session.state = .running ∧ s.session.watchesWord output true ∧
        (s.host.regions.word? flag).isSome then
      s.arm output flag
    else s
  | .send =>
    match s.poll with
    | none => s
    | some w => if w.awaited.isSome then s else s.send w
  | .look =>
    match s.poll, s.poll.bind fun w => s.host.regions.word? w.flag with
    | some w, some word =>
      if w.awaited.isSome then { s with poll := some { w with looks := w.looks ++ [word] } } else s
    | _, _ => s
  | .finish =>
    match s.poll, s.poll.bind (·.awaited) with
    | some w, some awaited =>
      { s with session := (s.session.finishWait awaited (s.flagOf w)).2.2, poll := none }
    | _, _ => s
  | .handle =>
    match s.due, s.requests with
    | none, request :: requests => s.handle engines request requests
    | _, _ => s
  | .publish =>
    match s.due with
    | none => s
    | some p => s.publish p
  | .fill id content =>
    match s.host.regions.write id content with
    | .error _ => s
    | .ok regions => { s with host.regions := regions }
  | .share region => { s with host.regions := s.host.regions.insert region }
  | .retire handle => { s with host.regions := s.host.regions.unregister handle }

def run (engines : EngineHost σ) (config : SessionConfig) (host : Dispatcher σ)
    (events : List PollingEvent) : Polling σ :=
  events.foldl (step engines) { session := .ofConfig config, host }

end Polling

end CodecLink
