import CodecLink.Checked.Steps
import CodecLink.Record.Basic
import CodecLink.WaitMessage

/-! Messages read and written by checked steps. -/
namespace CodecLink

namespace Descriptor

/-- The file number and the address are not looked at. -/
def decodeChecked (bs : Bytes) : Checked (Except DescriptorError Descriptor) :=
  if bs.length = wireSize then do
    let kindWord ← Checked.wordAt bs 0 4
    match BufferKind.ofWire? kindWord with
    | none => return .error (.unknownKind kindWord)
    | some kind =>
      let size ← Checked.wordIn bs 4 12 8
      let handle ← Checked.wordIn bs 16 24 8
      return .ok { kind, size := .ofNat size, handle := .ofNat handle }
  else return .error (.sizeMismatch wireSize bs.length)

def encodeChecked (d : Descriptor) : Checked Bytes :=
  Checked.pack (layout.zip [d.kind.wire, d.size.toNat, 0, d.handle.toNat, 0])

end Descriptor

namespace WaitRequest

def decodeChecked (bs : Bytes) : Checked (Except DescriptorError WaitRequest) :=
  if bs.length = Descriptor.wireSize then do
    let output ← Descriptor.decodeChecked bs
    return output.map fun output => { output }
  else if bs.length = taggedSize then do
    let (front, rest) ← Checked.splitAt bs Descriptor.wireSize
    let word ← Checked.copy 8 rest
    let output ← Descriptor.decodeChecked front
    return output.map fun output => { output, tag := some (.ofNat (Bytes.toNat word)) }
  else return .error (.sizeMismatch taggedSize bs.length)

end WaitRequest

namespace WaitReply

def encodeChecked (r : WaitReply) : Checked Bytes := do
  let output ← r.output.encodeChecked
  Checked.allocate output.length
  if r.tag.isNone && r.status = .done then return output
  let bs := output ++ Bytes.pack (trailer.zip [r.status.wire, (r.tag.getD 0).toNat])
  Checked.allocate bs.length
  return bs

end WaitReply

namespace ConfigRequest

def recordName (codec : Codec) : RecordKind → String
  | .prep => "prep"
  | .rc => "rc"
  | .codec =>
    match codec with
    | .h264 => "h264 codec"
    | .jpeg => "jpeg codec"
  | .sei => "sei"

def layout (codec : Codec) : RecordKind → List Nat
  | .prep => Prep.layout
  | .rc => RateControl.layout
  | .codec =>
    match codec with
    | .h264 => H264.layout
    | .jpeg => Jpeg.layout
  | .sei => [Sei.size]

def ofFields (codec : Codec) (kind : RecordKind) (fields : List Nat) : ConfigRequest :=
  match kind with
  | .prep => prep (.ofFields fields)
  | .rc => rc (.ofFields fields)
  | .codec =>
    match codec with
    | .h264 => .codec (.h264 (.ofFields fields))
    | .jpeg => .codec (.jpeg (.ofFields fields))
  | .sei => sei (.ofNat (fields.headD 0))

/-- The fields of a record of the right size are looked up in it, one behind another. -/
def decodeChecked (codec : Codec) (kind : RecordKind) (bs : Bytes) :
    Checked (Except RecordError ConfigRequest) :=
  if bs.length = size codec kind then do
    let fields ← Checked.fieldsAt bs 0 (layout codec kind)
    return .ok (ofFields codec kind fields)
  else return .error (.sizeMismatch (recordName codec kind) (size codec kind) bs.length)

end ConfigRequest

end CodecLink
