import CodecLink.Fault
import CodecLink.Frame.Header

/-! Frames: a header and exactly as many payload bytes as it announces. `Frame.take` removes one
frame from the front of a buffer; `FrameStream` reads a captured byte string to its end. -/
namespace CodecLink

inductive FrameError
  | malformedHeader (fault : HeaderFault)
  | truncated (declared available : Nat)
  | tooLarge (size most : Nat)
  | io (fault : Fault)
  | connectionClosed
  deriving DecidableEq, Repr

namespace FrameError

def message : FrameError → String
  | malformedHeader fault => "malformed primitive header: " ++ fault.reason
  | truncated declared available =>
    s!"truncated frame (header announces {declared} payload bytes, {available} present)"
  | tooLarge size most => s!"frame too large ({size} bytes, max {most})"
  | io fault => "frame I/O error: " ++ fault.text
  | connectionClosed => "connection closed (incomplete primitive)"

def isTimeout : FrameError → Bool
  | io fault => fault.isTimeout
  | _ => false

end FrameError

namespace Frame

def maxContextSize : Nat := 512

def defaultCapacity : Nat := 8 + maxContextSize

structure Limits where
  maxFrame : Nat := defaultCapacity
  maxPayload : Nat := maxContextSize
  deriving DecidableEq, Repr

/-- The whole frame, unless it exceeds `most` bytes. -/
def encode (most : Nat) (p : Primitive) : Except FrameError Bytes :=
  let frame := Header.encode p.code p.payload.length ++ p.payload
  if most < frame.length then .error (.tooLarge frame.length most) else .ok frame

/-- The first frame of the buffer and the bytes after it, or nothing while it is unfinished. -/
def take (maxPayload : Nat) (buffer : Bytes) : Except FrameError (Option (Primitive × Bytes)) :=
  match Header.scan buffer with
  | .error fault => .error (.malformedHeader fault)
  | .ok none => .ok none
  | .ok (some header) =>
    if maxPayload < header.length then .error (.tooLarge header.length maxPayload)
    else if buffer.length < header.consumed + header.length then .ok none
    else
      let body := buffer.drop header.consumed
      .ok (some (⟨header.code, body.take header.length⟩, body.drop header.length))

theorem take_length {maxPayload : Nat} {buffer rest : Bytes} {p : Primitive}
    (taken : take maxPayload buffer = .ok (some (p, rest))) : rest.length < buffer.length := by
  unfold take at taken
  split at taken
  · cases taken
  · simp at taken
  · rename_i header scanned
    split at taken
    · cases taken
    · split at taken
      · simp at taken
      · simp only [Except.ok.injEq, Option.some.injEq, Prod.mk.injEq] at taken
        have := Header.scan_consumed scanned
        rw [← taken.2]
        simp only [List.length_drop]
        omega

theorem take_error_nonempty {maxPayload : Nat} {buffer : Bytes} {e : FrameError}
    (failed : take maxPayload buffer = .error e) : 0 < buffer.length := by
  cases buffer with
  | nil => simp [take, Header.scan, Header.scanToken, bind, Except.bind, pure, Except.pure] at failed
  | cons b rest => simp

end Frame

structure FrameStream where
  remaining : Bytes
  failed : Bool := false
  deriving DecidableEq, Repr

namespace FrameStream

/-- The next frame, or the error that ends the stream; nothing after an error or at the end. -/
def next (s : FrameStream) : Option (Except FrameError Primitive × FrameStream) :=
  if s.failed || s.remaining.isEmpty then none
  else match Header.read s.remaining with
    | .error fault => some (.error (.malformedHeader fault), { s with failed := true })
    | .ok header =>
      let body := s.remaining.drop header.consumed
      if body.length < header.length then
        some (.error (.truncated header.length body.length), { s with failed := true })
      else
        some (.ok ⟨header.code, body.take header.length⟩,
          { s with remaining := body.drop header.length })

def weight (s : FrameStream) : Nat := if s.failed then 0 else s.remaining.length + 1

theorem read_consumed {bs : Bytes} {header : Header} (found : Header.read bs = .ok header) :
    0 < header.consumed ∧ header.consumed ≤ bs.length := by
  simp only [Header.read, bind, Except.bind, pure, Except.pure] at found
  split at found
  · cases found
  · rename_i outcome scanned
    split at found
    · cases found
    · simp only [Except.ok.injEq] at found
      subst found
      exact Header.scan_consumed scanned

theorem next_weight {s t : FrameStream} {item : Except FrameError Primitive}
    (advanced : s.next = some (item, t)) : t.weight < s.weight := by
  unfold next at advanced
  split at advanced
  · simp at advanced
  · rename_i live
    simp only [Bool.or_eq_true, not_or, Bool.not_eq_true] at live
    split at advanced
    · simp only [Option.some.injEq, Prod.mk.injEq] at advanced
      rw [← advanced.2]
      simp [weight, live.1]
    · rename_i header found
      have := read_consumed found
      dsimp only at advanced
      split at advanced
      · simp only [Option.some.injEq, Prod.mk.injEq] at advanced
        rw [← advanced.2]
        simp [weight, live.1]
      · simp only [Option.some.injEq, Prod.mk.injEq] at advanced
        rw [← advanced.2]
        simp only [weight, live.1, List.length_drop]
        simp
        omega

def drain (s : FrameStream) : List (Except FrameError Primitive) × FrameStream :=
  match _advanced : s.next with
  | none => ([], s)
  | some (item, t) =>
    let (items, final) := t.drain
    (item :: items, final)
termination_by s.weight
decreasing_by exact next_weight ‹_›

end FrameStream

def Frame.decodeStream (bs : Bytes) : List (Except FrameError Primitive) × Bytes :=
  let (items, final) := FrameStream.drain { remaining := bs }
  (items, final.remaining)

end CodecLink
