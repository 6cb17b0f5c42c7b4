import CodecLink.Backend

/-! What a session runs and how it learns that a task is complete. -/
namespace CodecLink

/-- A reply to each request, or a ready word that is looked at again and again. -/
inductive Completion
  | roundTrip (timeoutMs : UInt64)
  | polling (intervalMs : UInt64) (maxPolls : UInt32)
  deriving DecidableEq, Repr

namespace Completion

def defaultRoundTrip : Completion := roundTrip 50

def defaultPolling : Completion := polling 1 50

def isPolling : Completion → Bool
  | roundTrip _ => false
  | polling _ _ => true

def name : Completion → String
  | roundTrip _ => "round_trip"
  | polling _ _ => "polling"

end Completion

structure SessionConfig where
  backend : Backend := .h264Encoder
  completion : Completion := .defaultPolling
  deriving DecidableEq, Repr

end CodecLink
