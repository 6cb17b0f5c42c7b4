import CodecLink.Channel.Error
import CodecLink.Frame.Reader
import CodecLink.Frame.Writer

/-! One end of an established channel. What it wrote lies in its outbound stream until `exchange`
hands it to the other end. -/
namespace CodecLink

structure Channel where
  id : String
  tag : UInt8 := 2
  recvTimeout : Option Millis := none
  reader : Reader := {}
  stream : Stream := { inbound := { ending := .idle } }
  deriving DecidableEq, Repr

namespace Channel

def limits (c : Channel) : Frame.Limits := c.reader.limits

def ofLimits (id : String) (tag : UInt8) (limits : Frame.Limits)
    (recvTimeout : Option Millis := none) : Channel :=
  { id, tag, recvTimeout, reader := { limits } }

def send (p : Primitive) (c : Channel) : Except ChannelError Unit × Channel :=
  let (result, outbound) := Writer.send c.limits p c.stream.outbound
  (result.mapError .ofFrame, { c with stream := { c.stream with outbound } })

/-- Bytes written as they are, without a frame around them. -/
def sendRaw (bs : Bytes) (c : Channel) : Except ChannelError Unit × Channel :=
  let (result, outbound) := Writer.writeAll bs c.stream.outbound
  (result.mapError .ofFrame, { c with stream := { c.stream with outbound } })

def readError (c : Channel) (error : FrameError) : ChannelError :=
  if error.isTimeout then .timeout (c.recvTimeout.getD 0) else .ofFrame error

def recv (c : Channel) : Except ChannelError Primitive × Channel :=
  let (result, reader, inbound) := c.reader.next c.stream.inbound
  (result.mapError c.readError, { c with reader, stream := { c.stream with inbound } })

def setRecvTimeout (timeout : Option Millis) (c : Channel) :
    Except ChannelError Unit × Channel :=
  if timeout = some 0 then (.error (.frame (.io .zeroTimeout)), c)
  else (.ok (), { c with recvTimeout := timeout })

/-- Closes both directions; what is already queued can still be read. -/
def shutdown (c : Channel) : Channel :=
  { c with
    stream :=
      { inbound := { c.stream.inbound with ending := .finished }
        outbound := { c.stream.outbound with broken := true } } }

/-- Says farewell, if it can be said, and closes. -/
def disconnect (c : Channel) : Channel := (c.send (.of .deinit [])).2.shutdown

/-- Bytes arrive behind those that are still to be read. -/
def arrive (bs : Bytes) (c : Channel) : Channel :=
  { c with stream := { c.stream with inbound := c.stream.inbound.push bs } }

def emptied (c : Channel) : Channel :=
  { c with stream := { c.stream with outbound := { c.stream.outbound with accepted := [] } } }

/-- Everything written arrives, and a shutdown of either end closes both. -/
def exchange (a b : Channel) : Channel × Channel :=
  let gone := a.stream.outbound.broken || b.stream.outbound.broken
  let first := (a.arrive b.stream.outbound.accepted).emptied
  let second := (b.arrive a.stream.outbound.accepted).emptied
  if gone then (first.shutdown, second.shutdown) else (first, second)

/-- The end that stays after the other was let go. Bytes which that one had not read make the last
read here a reset. -/
def afterRelease (gone stays : Channel) : Channel :=
  let (gone, stays) := exchange gone.shutdown stays
  if gone.stream.inbound.holdsBytes then
    { stays with
      stream := { stays.stream with
        inbound := { stays.stream.inbound with
          steps := stays.stream.inbound.steps ++ [.fault .connectionReset] } } }
  else stays

/-- Bytes that arrived and were not yet handed out as primitives. -/
def backlog (c : Channel) : Nat := Reader.backlog c.reader.buffer c.stream.inbound.steps

/-- Nothing can be received until the other end writes or closes. -/
def isQuiet (c : Channel) : Bool :=
  c.stream.inbound.steps.isEmpty && c.stream.inbound.ending = .idle

theorem recv_progress {c after : Channel} {result : Except ChannelError Primitive}
    (received : c.recv = (result, after)) :
    after.backlog < c.backlog ∨ result = .error (.disconnected .closedByPeer) ∨
      (∃ ms, result = .error (.timeout ms)) ∧ after.isQuiet := by
  have progress := Reader.pull_progress c.reader.limits.maxPayload c.stream.inbound.ending
    c.reader.buffer c.stream.inbound.steps
  simp only [recv, Reader.next, Prod.mk.injEq] at received
  obtain ⟨rfl, rfl⟩ := received
  rcases progress with less | closed | ⟨quiet, empty, idle⟩
  · exact .inl less
  · refine .inr (.inl ?_)
    rw [closed]
    rfl
  · refine .inr (.inr ⟨⟨c.recvTimeout.getD 0, ?_⟩, ?_⟩)
    · rw [quiet]
      rfl
    · rw [idle] at empty
      simp [isQuiet, empty, idle]

theorem backlog_lt_of_recv_ok {c after : Channel} {p : Primitive}
    (received : c.recv = (.ok p, after)) : after.backlog < c.backlog := by
  rcases recv_progress received with less | closed | ⟨⟨ms, quiet⟩, _⟩
  · exact less
  · cases closed
  · cases quiet

/-- Receives until something fails: the primitives and the failure. -/
def recvAll (c : Channel) : List Primitive × ChannelError × Channel :=
  match _received : c.recv with
  | (.error error, c) => ([], error, c)
  | (.ok p, c) =>
    let (ps, error, c) := recvAll c
    (p :: ps, error, c)
termination_by c.backlog
decreasing_by exact backlog_lt_of_recv_ok _received

def describe (c : Channel) : String :=
  "Channel \x7b id: \"" ++ c.id ++ "\", tag: " ++ toString c.tag.toNat ++ ", recv_timeout: "
    ++ (match c.recvTimeout with
        | none => "None"
        | some ms => "Some(" ++ ms.describe ++ ")")
    ++ " \x7d"

end Channel

end CodecLink
