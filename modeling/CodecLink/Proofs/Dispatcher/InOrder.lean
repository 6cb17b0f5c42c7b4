import CodecLink.Engine.Scripted
import CodecLink.Proofs.Channel.Arrivals
import CodecLink.Proofs.Dispatcher.Answering
import CodecLink.Proofs.Dispatcher.Serving
import CodecLink.Proofs.Frame.Whole
import CodecLink.Proofs.Message.Payloads

/-! Serving a channel is handling its primitives one after another. How the bytes were cut and how
long the pauses were leaves no trace; serving stops at the first farewell to an open session, at the
first reply that cannot be delivered, or behind the last primitive. -/
namespace CodecLink

namespace Dispatcher

variable {σ : Type}

/-- A farewell that ends a session: without one there is nothing to end. -/
def isFarewell (turn : Dispatcher σ × Primitive) : Bool :=
  turn.2.kind? = some .deinit && turn.1.session.isSome

/-- Sends one reply after another up to the first failure. -/
def deliver (limits : Frame.Limits) :
    List WaitReply → Outbound → Except ChannelError Unit × Outbound
  | [], sink => (.ok (), sink)
  | m :: ms, sink =>
    match Writer.send limits (.of .wait m.encode) sink with
    | (.error e, sink) => (.error (.ofFrame e), sink)
    | (.ok (), sink) => deliver limits ms sink

/-- Serving gets past these primitives: none is a farewell and all replies are delivered. -/
def Passes (host : EngineHost σ) (limits : Frame.Limits) (ps : List Primitive) (d : Dispatcher σ)
    (sink : Outbound) : Prop :=
  (∀ turn ∈ turns host ps d, isFarewell turn = false) ∧
    (deliver limits (replies host ps d) sink).1 = .ok ()

/-- Which of the primitives are handled. -/
inductive Handles (host : EngineHost σ) (limits : Frame.Limits) (ps : List Primitive)
    (d : Dispatcher σ) (sink : Outbound) : List Primitive → Prop
  | all (past : Passes host limits ps d sink) : Handles host limits ps d sink ps
  | farewell {front back : List Primitive} {p : Primitive} (cut : ps = front ++ p :: back)
      (past : Passes host limits front d sink)
      (said : isFarewell (d.reached host front, p) = true) :
      Handles host limits ps d sink (front ++ [p])
  | undelivered {front back : List Primitive} {p : Primitive} {reason : DisconnectReason}
      (cut : ps = front ++ p :: back) (past : Passes host limits front d sink)
      (lost : (deliver limits (replies host (front ++ [p]) d) sink).1 =
        .error (.disconnected reason)) :
      Handles host limits ps d sink (front ++ [p])

/-- A reply fails to be sent, if at all, because the peer is gone or the frame is too large. -/
def OnlyLosses (host : EngineHost σ) (limits : Frame.Limits) (ps : List Primitive)
    (d : Dispatcher σ) (sink : Outbound) : Prop :=
  ∀ front p back, ps = front ++ p :: back → Passes host limits front d sink →
    ∀ fault, (deliver limits (replies host (front ++ [p]) d) sink).1 ≠ .error (.frame (.io fault))

variable {host : EngineHost σ}

section

variable {limits : Frame.Limits} {p : Primitive} {ps : List Primitive} {d : Dispatcher σ}
  {sink : Outbound}

theorem deliver_append (ms more : List WaitReply) (sink : Outbound) :
    deliver limits (ms ++ more) sink =
      match deliver limits ms sink with
      | (.error e, sink) => (.error e, sink)
      | (.ok (), sink) => deliver limits more sink := by
  induction ms generalizing sink with
  | nil => rfl
  | cons m ms ih =>
    rw [List.cons_append, deliver, deliver]
    rcases Writer.send limits (.of .wait m.encode) sink with ⟨_ | _, after⟩
    · rfl
    · exact ih after

/-- A reply that the limit admits can be lost with the peer or to another fault of the stream. -/
theorem deliver_error {ms : List WaitReply} {e : ChannelError} (room : 49 ≤ limits.maxFrame)
    (failed : (deliver limits ms sink).1 = .error e) :
    (∃ reason, e = .disconnected reason) ∨ ∃ fault, e = .frame (.io fault) := by
  induction ms generalizing sink with
  | nil => cases failed
  | cons m ms ih =>
    rw [deliver] at failed
    have admitted := Nat.le_trans m.length_frame_le room
    cases sent : Writer.send limits (.of .wait m.encode) sink with
    | mk result after =>
      rw [sent] at failed
      cases result with
      | ok _ => exact ih failed
      | error f =>
        cases failed
        rcases Writer.send_admitted_error admitted (congrArg Prod.fst sent) with rfl | ⟨fault, rfl⟩
        · exact .inl ⟨_, rfl⟩
        · rw [ChannelError.ofFrame]
          split
          · exact .inl ⟨_, rfl⟩
          · exact .inr ⟨_, rfl⟩

theorem replies_cons (p : Primitive) (ps : List Primitive) (d : Dispatcher σ) :
    replies host (p :: ps) d =
      (d.dispatch host p).2.2.toList ++ replies host ps (d.dispatch host p).1 := by
  rw [replies, turns, List.filterMap_cons]
  cases (d.dispatch host p).2.2 <;> rfl

theorem deliver_replies_cons
    (told : (deliver limits (d.dispatch host p).2.2.toList sink).1 = .ok ()) :
    deliver limits (replies host (p :: ps) d) sink =
      deliver limits (replies host ps (d.dispatch host p).1)
        (deliver limits (d.dispatch host p).2.2.toList sink).2 := by
  rw [replies_cons, deliver_append]
  generalize deliver limits (d.dispatch host p).2.2.toList sink = outcome at told ⊢
  rcases outcome with ⟨_ | _, after⟩
  · cases told
  · rfl

theorem passes_nil : Passes host limits [] d sink :=
  ⟨fun _ member => absurd member List.not_mem_nil, rfl⟩

theorem Passes.cons (going : isFarewell (d, p) = false)
    (told : (deliver limits (d.dispatch host p).2.2.toList sink).1 = .ok ())
    (past : Passes host limits ps (d.dispatch host p).1
      (deliver limits (d.dispatch host p).2.2.toList sink).2) :
    Passes host limits (p :: ps) d sink :=
  ⟨List.forall_mem_cons.2 ⟨going, past.1⟩, by rw [deliver_replies_cons told]; exact past.2⟩

theorem Handles.cons {handled : List Primitive} (going : isFarewell (d, p) = false)
    (told : (deliver limits (d.dispatch host p).2.2.toList sink).1 = .ok ())
    (handles : Handles host limits ps (d.dispatch host p).1
      (deliver limits (d.dispatch host p).2.2.toList sink).2 handled) :
    Handles host limits (p :: ps) d sink (p :: handled) := by
  cases handles with
  | all past => exact .all (past.cons going told)
  | farewell cut past said => exact .farewell (by rw [cut]; rfl) (past.cons going told) said
  | undelivered cut past lost =>
    refine .undelivered (by rw [cut]; rfl) (past.cons going told) (Eq.trans ?_ lost)
    rw [List.cons_append, deliver_replies_cons told]

theorem OnlyLosses.tail (losses : OnlyLosses host limits (p :: ps) d sink)
    (going : isFarewell (d, p) = false)
    (told : (deliver limits (d.dispatch host p).2.2.toList sink).1 = .ok ()) :
    OnlyLosses host limits ps (d.dispatch host p).1
      (deliver limits (d.dispatch host p).2.2.toList sink).2 := by
  intro front q back cut past fault
  have kept := losses (p :: front) q back (by rw [cut]; rfl) (past.cons going told) fault
  rwa [List.cons_append, deliver_replies_cons told] at kept

theorem OnlyLosses.head (losses : OnlyLosses host limits (p :: ps) d sink)
    (room : 49 ≤ limits.maxFrame) {e : ChannelError}
    (failed : (deliver limits (d.dispatch host p).2.2.toList sink).1 = .error e) :
    ∃ reason, e = .disconnected reason := by
  rcases deliver_error room failed with lost | ⟨fault, rfl⟩
  · exact lost
  · refine absurd ?_ (losses [] p ps rfl passes_nil fault)
    rw [List.nil_append, replies_cons, show replies host [] _ = [] from rfl, List.append_nil]
    exact failed

end

theorem Opening.deinit {config : SessionConfig} {d after : Dispatcher σ}
    (opening : Opening host config d after) : after.summary.deinit = d.summary.deinit := by
  cases opening <;> rfl

theorem Finish.deinit {output : Option Buffer} {tag : Option UInt64} {s : HostSession}
    {d : Dispatcher σ} {result : Dispatcher σ × Option WaitReply}
    (finish : Finish host output tag s d result) :
    result.1.summary.deinit = d.summary.deinit := by
  have kept (task : Task) (calls : Nat) :
      (d.waited host task calls).summary.deinit = d.summary.deinit := by
    rw [summary_waited]
  cases finish with
  | failed drain => exact kept _ _
  | replied drain mode => exact kept _ _
  | published drain mode =>
    rw [summary_publish]
    exact kept _ _

end Dispatcher

end CodecLink
