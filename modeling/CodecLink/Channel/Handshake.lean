import CodecLink.Channel.Error
import CodecLink.Stream

/-! Agreeing on the kind of channel: the client sends one tag byte, the server sends it back if it
serves that kind and the reject byte if not. -/
namespace CodecLink.Handshake

def channelTag : UInt8 := 2

def rejectTag : UInt8 := 0xFF

def defaultTimeout : Millis := 5000

def writeByte (tag : UInt8) (sink : Outbound) : Except ChannelError Unit × Outbound :=
  go sink.writes
where
  go : List WriteStep → Except ChannelError Unit × Outbound
    | [] =>
      if sink.broken then (.error (.frame (.io .brokenPipe)), { sink with writes := [] })
      else (.ok (), { sink with writes := [], accepted := sink.accepted ++ [tag] })
    | .accept 0 :: rest =>
      (.error (.disconnected .duringHandshake), { sink with writes := rest })
    | .accept _ :: rest =>
      (.ok (), { sink with writes := rest, accepted := sink.accepted ++ [tag] })
    | .fault fault :: rest =>
      if fault.kind = .interrupted then go rest
      else (.error (.frame (.io fault)), { sink with writes := rest })

def writeTag (tag : UInt8) (sink : Outbound) : Except ChannelError Unit × Outbound :=
  match writeByte tag sink with
  | (.error error, sink) => (.error error, sink)
  | (.ok (), sink) =>
    let (result, sink) := sink.flush
    (result.mapError fun fault => .frame (.io fault), sink)

def isPassing (fault : Fault) : Bool := fault.kind = .interrupted || fault.isTimeout

/-- Reads one byte. Only the deadline ends waiting for it, and nothing is read once it passed. -/
def readTag (timeout : Millis) (source : Inbound) : Except ChannelError UInt8 × Inbound :=
  if timeout = 0 then (.error (.timeout timeout), source) else go source.steps
where
  go : List ReadStep → Except ChannelError UInt8 × Inbound
    | [] =>
      match source.ending with
      | .finished => (.error (.disconnected .duringHandshake), { source with steps := [] })
      | .idle => (.error (.timeout timeout), { source with steps := [] })
    | .data [] :: rest =>
      (.error (.disconnected .duringHandshake), { source with steps := rest })
    | .data [tag] :: rest => (.ok tag, { source with steps := rest })
    | .data (tag :: b :: bs) :: rest =>
      (.ok tag, { source with steps := .data (b :: bs) :: rest })
    | .fault fault :: rest =>
      if isPassing fault then go rest else (.error (.frame (.io fault)), { source with steps := rest })

def client (tag : UInt8) (timeout : Millis) (s : Stream) : Except ChannelError UInt8 × Stream :=
  match writeTag tag s.outbound with
  | (.error error, outbound) => (.error error, { s with outbound })
  | (.ok (), outbound) =>
    match readTag timeout s.inbound with
    | (.error error, inbound) => (.error error, { inbound, outbound })
    | (.ok got, inbound) =>
      (if got = tag then .ok got else .error (.handshakeMismatch tag got), { inbound, outbound })

/-- Whether the reject byte arrives makes no difference to the server. -/
def server (accepted : List UInt8) (timeout : Millis) (s : Stream) :
    Except ChannelError UInt8 × Stream :=
  match readTag timeout s.inbound with
  | (.error error, inbound) => (.error error, { s with inbound })
  | (.ok offered, inbound) =>
    if accepted.contains offered then
      let (result, outbound) := writeTag offered s.outbound
      (result.map fun _ => offered, { inbound, outbound })
    else
      let (_, outbound) := writeTag rejectTag s.outbound
      (.error (.unsupportedTag offered), { inbound, outbound })

end CodecLink.Handshake
