import CodecLink.Channel.Basic
import CodecLink.Region
import CodecLink.SessionConfig.Basic
import CodecLink.WaitMessage

/-! Waiting for a task: looking at a ready word a bounded number of times, or reading replies until
the one that is meant. Running out of time is an outcome and not an error. -/
namespace CodecLink

/-- A ready word of which the next few looks are laid out beforehand. -/
structure ReadyFlag where
  upcoming : List UInt32 := []
  value : UInt32 := 0
  arms : Nat := 0
  loads : Nat := 0
  deriving DecidableEq, Repr

namespace ReadyFlag

def load (flag : ReadyFlag) : UInt32 × ReadyFlag :=
  match flag.upcoming with
  | [] => (flag.value, { flag with loads := flag.loads + 1 })
  | word :: upcoming => (word, { flag with upcoming, loads := flag.loads + 1 })

def arm (flag : ReadyFlag) : ReadyFlag :=
  { flag with value := readySentinel, arms := flag.arms + 1 }

end ReadyFlag

inductive WaitOutcome
  | ready (size : UInt64)
  | failed
  | timeout
  deriving DecidableEq, Repr

namespace WaitOutcome

def size : WaitOutcome → UInt64
  | ready size => size
  | failed | timeout => 0

def isTimeout : WaitOutcome → Bool
  | timeout => true
  | _ => false

def name : WaitOutcome → String
  | ready _ => "ready"
  | failed => "failed"
  | timeout => "timeout"

end WaitOutcome

namespace ReadyFlag

/-- Looks once more than `polls` times, and no further once the word was published. -/
def poll : Nat → ReadyFlag → WaitOutcome × ReadyFlag
  | polls, flag =>
    let (word, flag) := flag.load
    if word ≠ readySentinel then (.ready word.toUInt64, flag)
    else match polls with
      | 0 => (.timeout, flag)
      | polls + 1 => poll polls flag

end ReadyFlag

namespace Channel

/-- What a primitive tells about the wait of the given tag, if it is a reply to it. A reply without
a tag answers any wait. -/
def replyOutcome? (tag : Option UInt64) (p : Primitive) : Option WaitOutcome :=
  if p.kind? ≠ some .wait then none
  else match WaitReply.decode p.payload with
    | .error _ => none
    | .ok reply =>
      let stale := match tag, reply.tag with
        | some wanted, some got => wanted != got
        | _, _ => false
      if stale then none
      else match reply.status with
        | .done => some (.ready reply.output.size)
        | .failed => some .failed

def firstReply (tag : Option UInt64) (c : Channel) : Except ChannelError WaitOutcome × Channel :=
  match _received : c.recv with
  | (.error error, c) => if error.isTimeout then (.ok .timeout, c) else (.error error, c)
  | (.ok p, c) =>
    match replyOutcome? tag p with
    | some outcome => (.ok outcome, c)
    | none => firstReply tag c
termination_by c.backlog
decreasing_by exact backlog_lt_of_recv_ok _received

/-- Waits for a reply with a deadline of its own; the channel's deadline is put back after it. -/
def awaitReply (timeout : Millis) (tag : Option UInt64) (c : Channel) :
    Except ChannelError WaitOutcome × Channel :=
  if timeout = 0 then (.ok .timeout, c)
  else
    let (result, after) := firstReply tag { c with recvTimeout := some timeout }
    (result, { after with recvTimeout := c.recvTimeout })

/-- Waits as the mode says; without a ready word to look at, polling is out of time at once. -/
def awaitCompletion (mode : Completion) (flag : Option ReadyFlag) (tag : Option UInt64)
    (c : Channel) : Except ChannelError WaitOutcome × Option ReadyFlag × Channel :=
  match mode, flag with
  | .roundTrip timeoutMs, flag =>
    let (result, c) := c.awaitReply timeoutMs.toNat tag
    (result, flag, c)
  | .polling _ maxPolls, some flag =>
    let (outcome, flag) := flag.poll maxPolls.toNat
    (.ok outcome, some flag, c)
  | .polling _ _, none => (.ok .timeout, none, c)

end Channel

end CodecLink
