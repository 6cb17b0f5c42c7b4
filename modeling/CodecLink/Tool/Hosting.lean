import CodecLink.Channel.Connect
import CodecLink.Dispatcher.Checked
import CodecLink.Endpoint.Rendezvous
import CodecLink.Tool.Failure
import CodecLink.Tool.Report

/-! Hosting engines on an endpoint. Each established channel has a dispatcher of its own and is
reported when it is over, unless it failed. A channel whose client stays is over once a stop is
asked for. A worker that comes to a step it cannot take brings the host down. -/
namespace CodecLink

structure ChannelReport where
  channel : String
  summary : DispatchSummary
  deriving DecidableEq, Repr

def ChannelReport.report (clock : Nat) (r : ChannelReport) : Report where
  title := "Channel"
  fields :=
    [ ("channel", .ofString r.channel), ("primitives", .ofNat r.summary.primitives),
      ("dropped", .ofNat r.summary.dropped), ("engine_errors", .ofNat r.summary.engineErrors),
      ("tasks", .ofNat r.summary.tasks), ("deinit", .bool r.summary.deinit),
      ("timestamp", .ofString (toString clock)) ]
  rows :=
    [ ("channel", r.channel), ("primitives", toString r.summary.primitives),
      ("dropped", toString r.summary.dropped),
      ("engine errors", toString r.summary.engineErrors), ("tasks", toString r.summary.tasks),
      ("deinit", toString r.summary.deinit) ]

/-- A channel whose client has not closed it. -/
structure OpenChannel where
  channel : Channel
  dispatcher : Dispatcher ScriptedEngine

structure Hosting where
  socket : Rendezvous
  listener : Listener := {}
  /-- How many channels are served before the host ends. -/
  count : Option Nat
  format : ReportFormat := .json
  served : Nat := 0
  opened : List OpenChannel := []
  reports : List ChannelReport := []
  crashed : Bool := false

namespace Hosting

def engines : CheckedHost ScriptedEngine := ScriptedEngine.checkedHost .full

/-- Binds the endpoint, and makes its directory before if there is none. -/
def start (path : String) (count : Option Nat) (format : ReportFormat) (t : FileTree) :
    Except Failure (Hosting × FileTree) := do
  let t ← (t.createParent path).mapError fun fault =>
    .ofFault ("failed creating " ++ (Path.parent? path).getD "") fault
  let (socket, t) ← (Rendezvous.bind path Rendezvous.defaultMode t).mapError fun error =>
    .ofChannel "bind failed" (.endpoint error)
  return ({ socket, count, format }, t)

/-- Takes no more channels. -/
def isFull (h : Hosting) : Bool :=
  match h.count with
  | none => false
  | some count => count ≤ h.served

def isOver (h : Hosting) : Bool := h.crashed || h.isFull && h.opened.isEmpty

def record (served : Served ScriptedEngine) (h : Hosting) : Hosting :=
  match served.status with
  | .ended => { h with reports := h.reports ++ [⟨served.channel.id, served.dispatcher.summary⟩] }
  | .waiting => { h with opened := h.opened ++ [⟨served.channel, served.dispatcher⟩] }
  | .failed _ => h

/-- What becomes of a channel's worker. -/
def settle (outcome : Except Dispatcher.Crashed (Served ScriptedEngine)) (h : Hosting) : Hosting :=
  match outcome with
  | .error _ => { h with crashed := true }
  | .ok served => h.record served

def channelOf : Except Dispatcher.Crashed (Served ScriptedEngine) → Channel
  | .error crashed => crashed.channel
  | .ok served => served.channel

/-- Serves a new channel as far as its client has written. -/
def serveChannel (c : Channel) (h : Hosting) : Channel × Hosting :=
  let outcome := ({ engine := {} } : Dispatcher ScriptedEngine).serveChecked engines [] c
  (channelOf outcome, { h with served := h.served + 1 }.settle outcome)

/-- A connection arrives with what its client wrote; the answer is what the host writes. -/
def receive (client : Stream) (h : Hosting) : Bytes × Hosting :=
  if h.crashed then ([], h)
  else
    let (result, answered, listener) := h.listener.accept client
    let h := { h with listener }
    match result with
    | .error _ => (answered.outbound.accepted, h)
    | .ok c =>
      let (c, h) := h.serveChannel c
      (c.stream.outbound.accepted, h)

/-- A client writes these bytes and then stays or stops writing. -/
def receiveBytes (bs : Bytes) (stays : Bool) (h : Hosting) : Bytes × Hosting :=
  h.receive { inbound := Inbound.push bs { ending := if stays then .idle else .finished } }

/-- Ends the channels that are still open. -/
def interrupt (h : Hosting) : Hosting :=
  h.opened.foldl (fun h o => h.settle (o.dispatcher.serveChecked engines [true] o.channel))
    { h with opened := [] }

def lines (clock : Nat) (h : Hosting) : List String :=
  h.reports.flatMap fun r => (r.report clock).lines h.format

end Hosting

end CodecLink
