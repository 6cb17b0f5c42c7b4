import CodecLink.Frame.Codec
import CodecLink.Stream

/-! Sending frames: a frame is encoded whole, written until the stream has taken all of it, and
flushed. Interrupted writes and flushes are repeated; a write that takes nothing means that the
connection is closed. -/
namespace CodecLink.Writer

def writeAll (bytes : Bytes) (sink : Outbound) : Except FrameError Unit × Outbound :=
  go bytes sink.writes sink.accepted
where
  go (bytes : Bytes) (writes : List WriteStep) (accepted : Bytes) :
      Except FrameError Unit × Outbound :=
    if bytes.isEmpty then (.ok (), { sink with writes, accepted })
    else match writes with
      | [] =>
        if sink.broken then (.error (.io .brokenPipe), { sink with writes := [], accepted })
        else (.ok (), { sink with writes := [], accepted := accepted ++ bytes })
      | .accept 0 :: rest => (.error .connectionClosed, { sink with writes := rest, accepted })
      | .accept most :: rest => go (bytes.drop most) rest (accepted ++ bytes.take most)
      | .fault fault :: rest =>
        if fault.kind = .interrupted then go bytes rest accepted
        else (.error (.io fault), { sink with writes := rest, accepted })

def flush (sink : Outbound) : Except FrameError Unit × Outbound :=
  go sink.flushes
where
  go : List (Option Fault) → Except FrameError Unit × Outbound
    | [] => (.ok (), { sink with flushes := [] })
    | none :: rest => (.ok (), { sink with flushes := rest })
    | some fault :: rest =>
      if fault.kind = .interrupted then go rest
      else (.error (.io fault), { sink with flushes := rest })

def send (limits : Frame.Limits) (p : Primitive) (sink : Outbound) :
    Except FrameError Unit × Outbound :=
  match Frame.encode limits.maxFrame p with
  | .error e => (.error e, sink)
  | .ok frame =>
    match writeAll frame sink with
    | (.error e, sink) => (.error e, sink)
    | (.ok (), sink) => flush sink

end CodecLink.Writer
