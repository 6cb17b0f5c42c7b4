import CodecLink.Channel.Basic
import CodecLink.Channel.Handshake

/-! Setting up a channel over a fresh connection: both halves of the handshake, and the two ends if
both succeeded. -/
namespace CodecLink

/-- The server's side of a rendezvous: which tags it serves, and the number of the next channel. -/
structure Listener where
  accepted : List UInt8 := [Handshake.channelTag]
  limits : Frame.Limits := {}
  nextId : Nat := 1
  deriving DecidableEq, Repr

namespace Listener

def channelName (id : Nat) : String := s!"channel-{id}"

/-- The server's half on a connection. Every connection takes a number, also when its handshake
fails; an established channel reads on after the tag. -/
def accept (s : Stream) (l : Listener) : Except ChannelError Channel × Stream × Listener :=
  let (result, answered) := Handshake.server l.accepted Handshake.defaultTimeout s
  let channelOf := fun tag =>
    { Channel.ofLimits (channelName l.nextId) tag l.limits with stream := answered }
  (result.map channelOf, answered, { l with nextId := l.nextId + 1 })

def waitingFor (bs : Bytes) : Stream :=
  { inbound := Inbound.push bs { ending := .idle } }

structure Connected where
  client : Except ChannelError Channel
  server : Except ChannelError Channel
  listener : Listener

/-- The client offers a tag, the server answers it, and the client takes the answer. -/
def connect (endpoint : String) (tag : UInt8) (l : Listener) : Connected :=
  let offered := (Handshake.writeTag tag {}).2.accepted
  let (server, answered, listener) := l.accept (waitingFor offered)
  let (client, _) :=
    Handshake.client tag Handshake.defaultTimeout (waitingFor answered.outbound.accepted)
  { client := client.map fun tag => .ofLimits endpoint tag {}
    server := server.map Channel.emptied
    listener }

namespace Connected

/-- What comes of sending a primitive over the channel, if there is one: the answer to sending it
or, once it was sent, to receiving it. -/
def deliver (p : Primitive) (c : Connected) :
    Option (Except ChannelError (Except ChannelError Primitive)) :=
  match c.client, c.server with
  | .ok client, .ok server =>
    match client.send p with
    | (.error error, _) => some (.error error)
    | (.ok (), client) => some (.ok (client.exchange server).2.recv.1)
  | _, _ => none

end Connected

end Listener

end CodecLink
