import CodecLink.Descriptor

/-! The request for a completed task and the reply to it. Both start with a descriptor; a request
may end with a tag, a reply with a status and a tag, where zero stands for no tag. -/
namespace CodecLink

inductive TaskStatus
  | done
  | failed
  deriving DecidableEq, Repr

namespace TaskStatus

def name : TaskStatus → String
  | done => "done"
  | failed => "failed"

def wire : TaskStatus → Nat
  | done => 0
  | failed => 1

def ofWire (word : Nat) : TaskStatus := if word = 0 then done else failed

end TaskStatus

structure WaitRequest where
  output : Descriptor
  tag : Option UInt64 := none
  deriving DecidableEq, Repr

namespace WaitRequest

def taggedSize : Nat := Descriptor.wireSize + 8

def encode (r : WaitRequest) : Bytes :=
  r.output.encode ++
    match r.tag with
    | none => []
    | some tag => .littleEndian 8 tag.toNat

def decode (bs : Bytes) : Except DescriptorError WaitRequest :=
  if bs.length = Descriptor.wireSize then
    return { output := ← Descriptor.decode bs }
  else if bs.length = taggedSize then do
    let output ← Descriptor.decode (bs.take Descriptor.wireSize)
    return { output, tag := some (.ofNat (Bytes.toNat (bs.drop Descriptor.wireSize))) }
  else .error (.sizeMismatch taggedSize bs.length)

end WaitRequest

structure WaitReply where
  output : Descriptor
  status : TaskStatus := .done
  tag : Option UInt64 := none
  deriving DecidableEq, Repr

namespace WaitReply

def wireSize : Nat := Descriptor.wireSize + 12

def trailer : List Nat := [4, 8]

def failed (tag : Option UInt64) : WaitReply := ⟨.heap 0, .failed, tag⟩

/-- A success without a tag is the descriptor alone. -/
def encode (r : WaitReply) : Bytes :=
  if r.tag.isNone && r.status = .done then r.output.encode
  else
    r.output.encode ++ .pack (trailer.zip [r.status.wire, (r.tag.getD 0).toNat])

def ofTrailer (output : Descriptor) : List Nat → WaitReply
  | [status, tag] => ⟨output, .ofWire status, if tag = 0 then none else some (.ofNat tag)⟩
  | _ => { output }

def decode (bs : Bytes) : Except DescriptorError WaitReply :=
  if bs.length = Descriptor.wireSize then
    return { output := ← Descriptor.decode bs }
  else if bs.length = wireSize then do
    let output ← Descriptor.decode (bs.take Descriptor.wireSize)
    return ofTrailer output (Bytes.unpack trailer (bs.drop Descriptor.wireSize))
  else .error (.sizeMismatch wireSize bs.length)

end WaitReply

end CodecLink
