import CodecLink.Proofs.Channel.Replies
import CodecLink.Proofs.Dispatcher.Replies
import CodecLink.Proofs.Session.Settled

/-! A session that waits for replies and a dispatcher that answers whenever it comes to it. Requests
and replies lie in two queues, replies also in pieces of any size; a wait may be given up before its
reply is there, and replies that nobody waits for any more pile up. What arrives while a wait is
looking is taken to have arrived before, since nothing else looks at it. -/
namespace CodecLink

/-- A primitive on its way to the host, and which wait it is the request of. -/
structure Request where
  wait : Option Nat
  primitive : Primitive

/-- A reply on its way to the client, and the dispatcher as it was when it handled the request. -/
structure Reply (σ : Type) where
  request : Request
  handler : Dispatcher σ
  message : WaitReply

def Reply.primitive {σ : Type} (r : Reply σ) : Primitive := .of .wait r.message.encode

def Channel.fresh (c : Channel) : Channel :=
  { c with
    reader := { c.reader with buffer := [] }
    stream :=
      { inbound := { c.stream.inbound with steps := [] }
        outbound := { c.stream.outbound with accepted := [] } } }

namespace SessionCall

def fresh : SessionCall → SessionCall
  | attach c => attach c.fresh
  | init (.ok c) => init (.ok c.fresh)
  | call => call

def submits (call : SessionCall) (s : Session) : Bool :=
  match call with
  | wait _ _ => s.state = .running
  | _ => false

end SessionCall

def Session.emptied (s : Session) : Session :=
  { s with channel := s.channel.map Channel.emptied, retired := s.retired.map Channel.emptied }

structure Exchange (σ : Type) where
  session : Session
  host : Dispatcher σ
  /-- What the wait under way is to be completed by. -/
  awaited : Option Awaited := none
  waits : Nat := 0
  requests : List Request := []
  replies : List (Reply σ) := []
  /-- The bytes of these replies that did not arrive yet. -/
  wire : Bytes := []

inductive ExchangeEvent (σ : Type)
  | call (call : SessionCall)
  | finish
  /-- More of the replies arrives; what the system will do about reads and writes may change. -/
  | arrive (bytes : Nat) (stream : Stream)
  /-- The host handles the next request; its reply may fail to be sent. -/
  | handle (replied : Bool)
  | skip
  /-- Without a channel, what was written last may be lost in both directions. -/
  | lose (requests replies : Nat)
  | renew (host : Dispatcher σ)

namespace Exchange

variable {σ : Type}

def frames (replies : List (Reply σ)) : Bytes := (replies.map Reply.primitive).flatMap Frame.bytes

/-- What the client wrote goes on its way, and the replies that it took are no longer on theirs. -/
def settle (label : Option Nat) (after : Session) (s : Exchange σ) : Exchange σ :=
  let written := (after.latest.map Channel.written).getD []
  let s := { s with
    session := after.emptied
    requests := s.requests ++ (Frame.whole written).map (Request.mk label) }
  match after.channel with
  | none => { s with wire := frames s.replies }
  | some c =>
    let left := (Frame.whole (c.held ++ s.wire)).length
    { s with replies := s.replies.drop (s.replies.length - left) }

def begin (call : SessionCall) (s : Exchange σ) : Exchange σ :=
  let begun := s.session.begin call
  if call.submits s.session then
    { s with awaited := begun.1, waits := s.waits + 1 }.settle (some (s.waits + 1)) begun.2
  else { s with awaited := begun.1 }.settle none begun.2

def step (engines : EngineHost σ) (s : Exchange σ) : ExchangeEvent σ → Exchange σ
  | .call call => if s.awaited.isNone then s.begin call.fresh else s
  | .finish =>
    match s.awaited with
    | none => s
    | some awaited => { s with awaited := none }.settle none (s.session.finishWait awaited none).2.2
  | .arrive bytes stream =>
    match s.session.channel with
    | none => s
    | some c =>
      if stream.outbound.accepted = [] ∧ Inbound.unread stream.inbound.steps =
          Inbound.unread c.stream.inbound.steps ++ s.wire.take bytes then
        { s with session.channel := some { c with stream }, wire := s.wire.drop bytes }
      else s
  | .handle replied =>
    match s.requests with
    | [] => s
    | request :: requests =>
      let handler := s.host
      let answer := s.host.dispatch engines request.primitive
      let s := { s with host := answer.1, requests }
      match answer.2.2 with
      | none => s
      | some message =>
        let reply : Reply σ := ⟨request, handler, message⟩
        if replied then
          { s with replies := s.replies ++ [reply], wire := s.wire ++ Frame.bytes reply.primitive }
        else s
  | .skip => { s with requests := s.requests.drop 1 }
  | .lose requests replies =>
    match s.session.channel with
    | some _ => s
    | none =>
      let replies := s.replies.take replies
      { s with requests := s.requests.take requests, replies, wire := frames replies }
  | .renew host => { s with host }

def run (engines : EngineHost σ) (config : SessionConfig) (host : Dispatcher σ)
    (events : List (ExchangeEvent σ)) : Exchange σ :=
  events.foldl (step engines) { session := .ofConfig config, host }

end Exchange

end CodecLink
