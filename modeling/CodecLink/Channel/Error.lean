import CodecLink.Frame.Codec
import CodecLink.Text.Duration

/-! What can go wrong on the way to a channel and on it. -/
namespace CodecLink

inductive EndpointError
  | bind (path : String) (fault : Fault)
  | connect (path : String) (fault : Fault)
  | accept (fault : Fault)
  | io (fault : Fault)
  | pathTooLong (path : String) (length most : Nat)
  deriving DecidableEq, Repr

namespace EndpointError

def message : EndpointError → String
  | bind path fault => "failed to bind to " ++ path ++ ": " ++ fault.text
  | connect path fault => "failed to connect to " ++ path ++ ": " ++ fault.text
  | accept fault => "failed to accept channel: " ++ fault.text
  | io fault => "transport I/O error: " ++ fault.text
  | pathTooLong path length most =>
    s!"endpoint path too long ({length} bytes, max {most}): " ++ path

end EndpointError

inductive DisconnectReason
  | closedByPeer
  | duringHandshake
  | broken (fault : Fault)
  | other (reason : String)
  deriving DecidableEq, Repr

def DisconnectReason.text : DisconnectReason → String
  | closedByPeer => "peer closed the channel"
  | duringHandshake => "connection closed during handshake"
  | broken fault => fault.text
  | other reason => reason

inductive ChannelError
  | endpoint (error : EndpointError)
  | frame (error : FrameError)
  | handshakeMismatch (sent got : UInt8)
  | unsupportedTag (tag : UInt8)
  | disconnected (reason : DisconnectReason)
  | timeout (after : Millis)
  deriving DecidableEq, Repr

namespace ChannelError

def message : ChannelError → String
  | endpoint error => "transport error: " ++ error.message
  | frame error => "frame error: " ++ error.message
  | handshakeMismatch sent got =>
    "handshake mismatch: sent tag " ++ Numeral.byteText sent ++ ", peer answered "
      ++ Numeral.byteText got
  | unsupportedTag tag => "unsupported channel tag " ++ Numeral.byteText tag
  | disconnected reason => "peer disconnected: " ++ reason.text
  | timeout after => "timed out after " ++ after.describe

def isTimeout : ChannelError → Bool
  | timeout _ => true
  | _ => false

/-- Every error but a timeout makes the channel unusable. -/
def isFatal (error : ChannelError) : Bool := !error.isTimeout

/-- A connection that broke is a disconnection, whether a read or a write found it. -/
def ofFrame : FrameError → ChannelError
  | .connectionClosed => disconnected .closedByPeer
  | .io fault =>
    if fault.kind = .brokenPipe || fault.kind = .connectionReset then disconnected (.broken fault)
    else frame (.io fault)
  | error => frame error

end ChannelError

end CodecLink
