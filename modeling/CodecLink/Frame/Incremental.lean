import CodecLink.Frame.Codec

/-! Decoding a buffer that its owner fills. A header that cannot be read empties the buffer; a
frame that is too large stays in it. -/
namespace CodecLink.Frame

def decodeNext (limits : Limits) (source : Bytes) : Except FrameError (Option Primitive) × Bytes :=
  match take limits.maxPayload source with
  | .ok none => (.ok none, source)
  | .ok (some (p, rest)) => (.ok (some p), rest)
  | .error (.malformedHeader fault) => (.error (.malformedHeader fault), [])
  | .error e => (.error e, source)

/-- Appends the frame, or leaves the buffer as it is when the frame is too large. -/
def encodeOnto (most : Nat) (p : Primitive) (target : Bytes) : Except FrameError Unit × Bytes :=
  match encode most p with
  | .error e => (.error e, target)
  | .ok frame => (.ok (), target ++ frame)

/-- All whole frames at the front, what stopped the taking unless it was a lack of bytes, and what
is left. -/
def takeAll (most : Nat) (buffer : Bytes) : List Primitive × Option FrameError × Bytes :=
  match _taken : take most buffer with
  | .ok none => ([], none, buffer)
  | .error e => ([], some e, buffer)
  | .ok (some (p, rest)) =>
    let (ps, e, left) := takeAll most rest
    (p :: ps, e, left)
termination_by buffer.length
decreasing_by exact take_length _taken

end CodecLink.Frame
