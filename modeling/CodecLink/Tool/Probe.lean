import CodecLink.Session.Calls
import CodecLink.Tool.Arguments
import CodecLink.Tool.Hosting
import CodecLink.Tool.Period

/-! Probing an endpoint: a session is opened and closed at once. While nothing listens there, the
attempt to connect is repeated until its time is over. -/
namespace CodecLink

structure PeerCredentials where
  user : Nat
  group : Nat
  process : Nat
  deriving DecidableEq, Repr

/-- What a probe measures of its connection; the latency counts hundredths of a millisecond. -/
structure Measured where
  latency : Nat := 0
  credentials : Option PeerCredentials := none
  deriving DecidableEq, Repr

namespace Measured

def twoDigits (n : Nat) : String := toString (n / 10 % 10) ++ toString (n % 10)

def latencyText (m : Measured) : String :=
  toString (m.latency / 100) ++ "." ++ twoDigits m.latency ++ "ms"

/-- The shortest digits with at least one after the point. -/
def latencyNumber (m : Measured) : Json :=
  let fraction := if m.latency % 10 = 0 then m.latency / 10 % 10 else m.latency % 100
  let digits := if m.latency % 10 = 0 then Numeral.digits fraction else Bytes.ofAscii (twoDigits fraction)
  .number { Json.Number.ofNat (m.latency / 100) with fraction := some digits }

def credentialsJson (m : Measured) : Json :=
  match m.credentials with
  | none => .null
  | some c => .ofFields [("uid", .ofNat c.user), ("gid", .ofNat c.group), ("pid", .ofNat c.process)]

def credentialsText (m : Measured) : String :=
  match m.credentials with
  | none => "unavailable"
  | some c => s!"uid={c.user} gid={c.group} pid={c.process}"

end Measured

structure ProbeResult where
  options : ProbeOptions
  config : SessionConfig
  channel : String
  tag : UInt8
  measured : Measured
  deriving DecidableEq, Repr

def ProbeResult.report (r : ProbeResult) : Report where
  title := "Probe"
  fields :=
    [ ("endpoint", .ofString r.options.endpoint), ("channel", .ofString r.channel),
      ("tag", .ofNat r.tag.toNat), ("backend", .ofString r.config.backend.name),
      ("completion", .ofString r.config.completion.name),
      ("connect_latency_ms", r.measured.latencyNumber),
      ("peer_credentials", r.measured.credentialsJson), ("connected", .bool true) ]
  rows :=
    [ ("endpoint", r.options.endpoint), ("channel", r.channel), ("tag", Numeral.byteText r.tag),
      ("backend", r.config.backend.name), ("completion", r.config.completion.name),
      ("connect latency", r.measured.latencyText),
      ("peer credentials", r.measured.credentialsText) ]

namespace Probe

def isRetryable : ChannelError → Bool
  | .endpoint (.connect _ fault) => fault.kind = .notFound || fault.kind = .connectionRefused
  | _ => false

def failure (options : ProbeOptions) (timeout : Millis) (error : ChannelError) : Failure :=
  if isRetryable error then
    ⟨.timeout, "connect to " ++ options.endpoint ++ " timed out after " ++ timeout.describe⟩
  else .ofChannel "connect failed" error

/-- A connection to the host that is bound at the path, if any is. -/
def connect (path : String) (hosting : Option Hosting) (t : FileTree) :
    Except ChannelError (Channel × Except ChannelError Channel × Hosting) := do
  let identity ← (Rendezvous.connect path t).mapError .endpoint
  match hosting with
  | none => throw (.endpoint (.connect path .connectionRefused))
  | some h =>
    if h.crashed || h.socket.identity ≠ identity then
      throw (.endpoint (.connect path .connectionRefused))
    let connected := h.listener.connect path Handshake.channelTag
    return (← connected.client, connected.server, { h with listener := connected.listener })

/-- Opens and closes the session; the answer is the client's end as it was given up. -/
def converse (config : SessionConfig) (client : Channel) : Except Failure Channel :=
  match (Session.ofConfig config).attach client with
  | (.error error, _) => .error (.ofSession "init failed" error)
  | (.ok (), s) =>
    match s.deinit with
    | (.error error, _) => .error (.ofSession "deinit failed" error)
    | (.ok (), s) => .ok (s.retired.getD client)

def run (options : ProbeOptions) (measured : Measured) (hosting : Option Hosting) (t : FileTree) :
    Except Failure (ProbeResult × Hosting) := do
  let timeout ← Period.parse options.timeout
  let (client, server, h) ← (connect options.endpoint hosting t).mapError (failure options timeout)
  let config : SessionConfig := { backend := options.backend }
  let left ← converse config client
  let h := match server with
    | .error _ => h
    | .ok server => (h.serveChannel (left.afterRelease server)).2
  return (⟨options, config, client.id, client.tag, measured⟩, h)

end Probe

end CodecLink
