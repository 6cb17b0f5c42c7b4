import CodecLink.Dispatcher.Serve
import CodecLink.Session.Calls

/-! A session joined to a dispatcher by a channel, with regions that both sides share. The
dispatcher handles whatever was sent before the session looks for an answer. -/
namespace CodecLink

structure Link (σ : Type) where
  session : Session
  host : Dispatcher σ
  /-- The host's end of the channel until serving it is over. -/
  hostEnd : Option Channel
  finished : Option (Except ChannelError DispatchSummary) := none

namespace Link

variable {σ : Type} (engines : EngineHost σ)

def outcomeOf (served : Served σ) : Option (Except ChannelError DispatchSummary) :=
  match served.status with
  | .waiting => none
  | .ended => some (.ok served.dispatcher.summary)
  | .failed error => some (.error error)

/-- Serves what has arrived. The host's end is kept only while there may be more to serve. -/
def serveEnd (hostEnd : Channel) (l : Link σ) : Channel × Link σ :=
  let served := l.host.serve engines [] hostEnd
  let finished := outcomeOf served
  (served.channel,
    { l with
      host := served.dispatcher, finished
      hostEnd := if finished.isNone then some served.channel else none })

/-- Lets the host catch up with a client that still holds its end. -/
def catchUp (clientEnd hostEnd : Channel) (l : Link σ) : Link σ :=
  let (clientEnd, hostEnd) := clientEnd.exchange hostEnd
  let (hostEnd, l) := l.serveEnd engines hostEnd
  if l.finished.isNone then
    let (clientEnd, hostEnd) := clientEnd.exchange hostEnd
    { l with hostEnd := some hostEnd, session.channel := some clientEnd }
  else { l with session.channel := some (hostEnd.afterRelease clientEnd) }

/-- Lets the host serve to the end after the client let its end go. -/
def windUp (clientEnd hostEnd : Channel) (l : Link σ) : Link σ :=
  (l.serveEnd engines (clientEnd.afterRelease hostEnd)).2

def pump (l : Link σ) : Link σ :=
  match l.hostEnd, l.session.channel, l.session.retired with
  | some hostEnd, some clientEnd, _ => l.catchUp engines clientEnd hostEnd
  | some hostEnd, none, some clientEnd => l.windUp engines clientEnd hostEnd
  | _, _, _ => l

def call {α : Type} (f : Session → Session.Answer α) (l : Link σ) :
    Except SessionError α × Link σ :=
  let (result, session) := f l.session
  (result, { l with session }.pump engines)

def attach (config : SessionConfig) (host : Dispatcher σ) :
    Except SessionError Unit × Link σ :=
  let hostEnd : Channel := { id := "pair-server" }
  let l : Link σ := { session := .ofConfig config, host, hostEnd := some hostEnd }
  l.call engines (·.attach { id := "pair-client" })

def armFor (output : Descriptor) (flag : Option RegionId) (l : Link σ) : Link σ :=
  match flag with
  | none => l
  | some id =>
    if l.session.state = .running && l.session.watchesWord output true then
      { l with host.regions := l.host.regions.arm id }
    else l

def flagOf (flag : Option RegionId) (l : Link σ) : Option ReadyFlag := do
  let r ← l.host.regions.region? (← flag)
  return { value := r.ready }

def wait (output : Descriptor) (flag : Option RegionId) (l : Link σ) :
    Except SessionError TaskOutput × Link σ :=
  let armed := l.armFor output flag
  match armed.call engines (·.submitWait output flag.isSome) with
  | (.error error, l) => (.error error, l)
  | (.ok awaited, l) =>
    let (result, _, session) := l.session.finishWait awaited (l.flagOf flag)
    (result, { l with session }.pump engines)

/-- The session is dropped without a farewell. -/
def drop (l : Link σ) : Link σ :=
  { l with session.channel := none, session.retired := l.session.channel <|> l.session.retired }.pump
    engines

end Link

end CodecLink
