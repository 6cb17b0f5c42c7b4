import CodecLink.Channel.Basic
import CodecLink.Dispatcher.Basic

/-! Serving a channel: primitives are read and dispatched until the session ends, the peer is gone
or a stop is asked for. -/
namespace CodecLink

inductive ServeStatus
  | waiting
  | ended
  | failed (error : ChannelError)
  deriving DecidableEq, Repr

structure Served (σ : Type) where
  dispatcher : Dispatcher σ
  channel : Channel
  status : ServeStatus

namespace Dispatcher

variable {σ : Type} (host : EngineHost σ)

inductive ReadVerdict
  | retry
  | skip
  | finish
  | fail (error : ChannelError)

def verdict : ChannelError → ReadVerdict
  | .timeout _ => .retry
  | .disconnected _ => .finish
  | .frame (.malformedHeader _) => .skip
  | .frame (.tooLarge _ _) => .skip
  | .frame (.truncated _ _) => .skip
  | error => .fail error

def sendReply (reply : Option WaitReply) (c : Channel) : Except ChannelError Unit × Channel :=
  match reply with
  | none => (.ok (), c)
  | some reply => c.send (.of .wait reply.encode)

def ended (d : Dispatcher σ) (channel : Channel) : Served σ :=
  ⟨d.release host, channel, .ended⟩

/-- Serves until nothing more can be read. `stops` holds what each check of the stop request will
see; past its end there is none. -/
def serve (stops : List Bool) (d : Dispatcher σ) (c : Channel) : Served σ :=
  if stops.head? = some true then d.ended host c
  else match _received : c.recv with
    | (.error error, after) =>
      match _judged : verdict error with
      | .retry =>
        if _quiet : after.isQuiet then ⟨d, after, .waiting⟩ else serve (stops.drop 1) d after
      | .finish => d.ended host after
      | .skip => serve (stops.drop 1) d.countDropped after
      | .fail error => ⟨d, after, .failed error⟩
    | (.ok p, after) =>
      match d.dispatch host p with
      | (d, flow, reply) =>
        match _sent : sendReply reply after with
        | (.error (.disconnected _), after) => d.ended host after
        | (.error error, after) => ⟨d, after, .failed error⟩
        | (.ok (), after) =>
          match flow with
          | .stop => d.ended host after
          | .resume => serve (stops.drop 1) d after
termination_by c.backlog
decreasing_by
  · rcases Channel.recv_progress _received with less | closed | ⟨_, quiet⟩
    · exact less
    · cases closed
      cases _judged
    · exact absurd quiet _quiet
  · rcases Channel.recv_progress _received with less | closed | ⟨⟨_, timeout⟩, _⟩
    · exact less
    · cases closed
      cases _judged
    · cases timeout
      cases _judged
  · have less := Channel.backlog_lt_of_recv_ok _received
    have same : ∀ {c' : Channel} {r : Except ChannelError Unit} {c : Channel},
        sendReply reply c = (r, c') → c'.backlog = c.backlog := by
      intro c' r c sent
      cases reply with
      | none => cases sent; rfl
      | some reply => cases sent; rfl
    rw [same _sent]
    exact less

end Dispatcher

end CodecLink
