import CodecLink.Channel.Basic

/-! Both ends of a channel, each of which may be gone. -/
namespace CodecLink

structure ChannelPair where
  left : Option Channel
  right : Option Channel
  deriving DecidableEq, Repr

inductive Side
  | left
  | right
  deriving DecidableEq, Repr

namespace ChannelPair

def get? (pair : ChannelPair) : Side → Option Channel
  | .left => pair.left
  | .right => pair.right

/-- The end of that side and the other end. -/
def ofEnds (own other : Option Channel) : Side → ChannelPair
  | .left => ⟨own, other⟩
  | .right => ⟨other, own⟩

def other? (pair : ChannelPair) : Side → Option Channel
  | .left => pair.right
  | .right => pair.left

/-- Something is done at one end, and what it wrote arrives at the other. -/
def move {α : Type} (side : Side) (action : Channel → α × Channel) (pair : ChannelPair) :
    Option α × ChannelPair :=
  match pair.get? side, pair.other? side with
  | none, _ => (none, pair)
  | some own, none =>
    let (answer, own) := action own
    (some answer, ofEnds (some own) none side)
  | some own, some other =>
    let (answer, own) := action own
    let (own, other) := own.exchange other
    (some answer, ofEnds (some own) (some other) side)

/-- One end says farewell and is gone. -/
def disconnect (side : Side) (pair : ChannelPair) : ChannelPair :=
  match pair.get? side with
  | none => pair
  | some own => ofEnds none ((pair.other? side).map own.disconnect.afterRelease) side

end ChannelPair

end CodecLink
