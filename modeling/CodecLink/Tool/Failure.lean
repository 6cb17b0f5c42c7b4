import CodecLink.Session.Basic

/-! How a command ends: its exit code, and for a failure the text that is printed. A failure's code
follows from what went wrong at the bottom, whatever layers reported it. -/
namespace CodecLink

inductive ExitCode
  | success
  | failure
  | badArguments
  | transport
  | permissionDenied
  | invalidData
  | usage
  | timeout
  | internal
  deriving DecidableEq, Repr

def ExitCode.number : ExitCode → Nat
  | success => 0
  | failure => 1
  | badArguments => 2
  | transport => 3
  | permissionDenied => 50
  | invalidData => 60
  | usage => 64
  | timeout => 124
  | internal => 125

structure Failure where
  code : ExitCode
  message : String
  deriving DecidableEq, Repr

namespace Failure

def within (context : String) (code : ExitCode) (text : String) : Failure :=
  ⟨code, context ++ ": " ++ text⟩

def codeOf : FaultKind → ExitCode
  | .permissionDenied => .permissionDenied
  | .timedOut | .wouldBlock => .timeout
  | .connectionRefused | .notFound => .failure
  | _ => .internal

def ofFault (context : String) (fault : Fault) : Failure :=
  within context (codeOf fault.kind) fault.text

def ofEndpoint (context : String) : EndpointError → Failure
  | .bind _ fault | .connect _ fault | .accept fault | .io fault => ofFault context fault
  | error => within context .transport error.message

def ofFrame (context : String) : FrameError → Failure
  | .io fault => ofFault context fault
  | .connectionClosed => within context .failure FrameError.connectionClosed.message
  | error => within context .invalidData error.message

def ofChannel (context : String) : ChannelError → Failure
  | .endpoint error => ofEndpoint context error
  | .frame error => ofFrame context error
  | error@(.timeout _) => within context .timeout error.message
  | error@(.disconnected _) => within context .failure error.message
  | error => within context .transport error.message

def ofSession (context : String) : SessionError → Failure
  | .connection error => ofChannel context error
  | error@(.invalidState _ _) => within context .usage error.message
  | error@(.allocation _) => within context .internal error.message
  | error => within context .invalidData error.message

/-- A channel's worker did not come back. -/
def crashed : Failure := ⟨.internal, "channel worker panicked"⟩

end Failure

end CodecLink
