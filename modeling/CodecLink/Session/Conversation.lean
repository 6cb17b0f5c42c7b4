import CodecLink.Channel.Connect
import CodecLink.Session.Calls

/-! A session and the other end of its channel, each moved by hand: between two moves everything
written arrives, and an end that was let go closes the other. -/
namespace CodecLink

structure Conversation where
  session : Session
  peer : Option Channel := none
  /-- Whether the peer may write bytes without a frame. -/
  raw : Bool := true
  listener : Listener := {}
  deriving DecidableEq, Repr

namespace Conversation

/-- Lets what was written arrive. `held` tells whether the session had a channel before the move. -/
def settle (held : Bool) (c : Conversation) : Conversation :=
  match c.peer, c.session.channel, c.session.retired with
  | some peer, some mine, _ =>
    let (mine, peer) := mine.exchange peer
    { c with peer := some peer, session.channel := some mine }
  | some peer, none, some mine =>
    if held then { c with peer := some (mine.afterRelease peer) } else c
  | _, _, _ => c

def dropPeer (c : Conversation) : Conversation :=
  match c.peer, c.session.channel with
  | some peer, some mine =>
    { c with peer := none, session.channel := some (peer.afterRelease mine) }
  | _, _ => { c with peer := none }

/-- The peer reads all there is. What ends its channel is told, and the peer is dropped then. -/
def collect (c : Conversation) : List Primitive × Option ChannelError × Conversation :=
  match c.peer with
  | none => ([], none, c)
  | some peer =>
    let (ps, error, peer) := peer.recvAll
    let c := { c with peer := some peer }
    if error.isTimeout then (ps, none, c) else (ps, some error, c.dropPeer)

def call {α : Type} (move : Session → Session.Answer α) (c : Conversation) :
    Except SessionError α × Conversation :=
  let (result, session) := move c.session
  (result, { c with session }.settle c.session.channel.isSome)

def wait (output : Descriptor) (flag : Option ReadyFlag) (c : Conversation) :
    Except SessionError TaskOutput × Option ReadyFlag × Conversation :=
  let (result, flag, session) := c.session.wait output flag
  (result, flag, { c with session }.settle c.session.channel.isSome)

/-- A new peer takes the place of the old one only if the move succeeds. -/
def join (peer : Option Channel) (raw : Bool) (move : Session → Session.Answer Unit)
    (c : Conversation) : Except SessionError Unit × Conversation :=
  match move c.session with
  | (.ok (), session) => (.ok (), { c with session, peer, raw }.settle true)
  | (.error error, session) => (.error error, { c with session })

def attach (limits : Frame.Limits) (c : Conversation) : Except SessionError Unit × Conversation :=
  c.join (some (.ofLimits "pair-server" Handshake.channelTag {})) true
    (·.attach (.ofLimits "pair-client" Handshake.channelTag limits))

/-- Connects to an endpoint at which the listener is or is not. -/
def init (endpoint : String) (listening : Bool) (tag : UInt8) (c : Conversation) :
    Except SessionError Unit × Conversation :=
  if listening then
    let connected := c.listener.connect endpoint tag
    let mine := if connected.server.toBool then connected.client
      else connected.client.map Channel.shutdown
    c.join connected.server.toOption false (·.init mine)
  else c.join none false (·.init (.error (.endpoint (.connect endpoint .noSuchFile))))

/-- A move of the peer, if there is one. -/
def movePeer (move : Channel → Except ChannelError Unit × Channel) (c : Conversation) :
    Option (Except ChannelError Unit) × Conversation :=
  match c.peer with
  | none => (none, c)
  | some peer =>
    let (result, peer) := move peer
    (some result, { c with peer := some peer }.settle true)

end Conversation

end CodecLink
