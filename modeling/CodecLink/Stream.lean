import CodecLink.Bytes
import CodecLink.Fault

/-! The two directions of a byte stream, seen from one end. What the other end and the system will
do is laid out beforehand: a list of read outcomes, and lists of write and flush outcomes. -/
namespace CodecLink

inductive ReadStep
  | data (bytes : Bytes)
  | fault (fault : Fault)
  deriving DecidableEq, Repr

inductive Ending
  | finished
  | idle
  deriving DecidableEq, Repr

structure Inbound where
  steps : List ReadStep := []
  ending : Ending := .finished
  deriving DecidableEq, Repr

namespace ReadStep

def weight : ReadStep → Nat
  | data bytes => bytes.length + 1
  | fault _ => 1

def bytes : ReadStep → Bytes
  | data bytes => bytes
  | fault _ => []

end ReadStep

namespace Inbound

def weight : List ReadStep → Nat
  | [] => 0
  | step :: steps => step.weight + weight steps

/-- Bytes that arrived join those still waiting, as they do in a socket's queue. -/
def push (bytes : Bytes) (source : Inbound) : Inbound :=
  match bytes, source.steps.getLast? with
  | [], _ => source
  | _, some (.data queued) =>
    { source with steps := source.steps.dropLast ++ [.data (queued ++ bytes)] }
  | _, _ => { source with steps := source.steps ++ [.data bytes] }

def holdsBytes (source : Inbound) : Bool := source.steps.any fun step => !step.bytes.isEmpty

end Inbound

inductive WriteStep
  | accept (most : Nat)
  | fault (fault : Fault)
  deriving DecidableEq, Repr

structure Outbound where
  writes : List WriteStep := []
  flushes : List (Option Fault) := []
  /-- Whether the other end is gone, so that writes past the list fail. -/
  broken : Bool := false
  accepted : Bytes := []
  deriving DecidableEq, Repr

namespace Outbound

def write (bytes : Bytes) (sink : Outbound) : Except Fault Nat × Outbound :=
  match sink.writes with
  | [] =>
    if sink.broken then (.error .brokenPipe, sink)
    else (.ok bytes.length, { sink with accepted := sink.accepted ++ bytes })
  | .accept most :: rest =>
    (.ok (min most bytes.length),
      { sink with writes := rest, accepted := sink.accepted ++ bytes.take most })
  | .fault fault :: rest => (.error fault, { sink with writes := rest })

def flush (sink : Outbound) : Except Fault Unit × Outbound :=
  match sink.flushes with
  | [] => (.ok (), sink)
  | none :: rest => (.ok (), { sink with flushes := rest })
  | some fault :: rest => (.error fault, { sink with flushes := rest })

end Outbound

structure Stream where
  inbound : Inbound := {}
  outbound : Outbound := {}
  deriving DecidableEq, Repr

end CodecLink
