import CodecLink.Backend
import CodecLink.Bytes

/-! Configuration records and their fixed little-endian layouts. The change word of a record says
which of its fields are meant; bits without a meaning are kept. -/
namespace CodecLink

inductive RecordError
  | sizeMismatch (record : String) (expected got : Nat)
  | outOfRange (field : String) (value least most : Nat)
  | codecMismatch (expected got : Codec)
  deriving DecidableEq, Repr

def RecordError.message : RecordError → String
  | sizeMismatch record expected got => s!"{record} record is {expected} bytes, got {got}"
  | outOfRange field value least most => s!"{field} = {value} outside {least}..={most}"
  | codecMismatch expected got =>
    "codec record for " ++ got.name ++ ", session runs " ++ expected.name

/-- Input geometry and pixel format. -/
structure Prep where
  change : UInt16 := 0
  width : UInt16 := 0
  height : UInt16 := 0
  horStride : UInt16 := 0
  verStride : UInt16 := 0
  format : UInt16 := 0
  deriving DecidableEq, Repr

/-- Rate control. -/
structure RateControl where
  change : UInt32 := 0
  mode : UInt32 := 0
  bpsTarget : UInt32 := 0
  bpsMax : UInt32 := 0
  bpsMin : UInt32 := 0
  fpsInNum : UInt16 := 0
  fpsInDenom : UInt16 := 0
  fpsOutNum : UInt16 := 0
  fpsOutDenom : UInt16 := 0
  gop : UInt32 := 0
  deriving DecidableEq, Repr

structure H264 where
  change : UInt32 := 0
  profile : UInt32 := 0
  level : UInt32 := 0
  entropy : UInt8 := 0
  cabacInitIdc : UInt8 := 0
  transform8x8 : UInt8 := 0
  constrainedIntra : UInt8 := 0
  qpInit : UInt8 := 0
  qpMax : UInt8 := 0
  qpMin : UInt8 := 0
  qpMaxStep : UInt8 := 0
  deriving DecidableEq, Repr

structure Jpeg where
  change : UInt32 := 0
  quant : UInt32 := 0
  deriving DecidableEq, Repr

inductive CodecRecord
  | h264 (record : H264)
  | jpeg (record : Jpeg)
  deriving DecidableEq, Repr

/-- What a caller asks to configure; the last is the mode of supplemental information. -/
inductive ConfigRequest
  | prep (record : Prep)
  | rc (record : RateControl)
  | codec (record : CodecRecord)
  | sei (mode : UInt32)
  deriving DecidableEq, Repr

def checkSize (record : String) (expected : Nat) (bs : Bytes) : Except RecordError Unit :=
  if bs.length = expected then .ok () else .error (.sizeMismatch record expected bs.length)

namespace Prep

def layout : List Nat := [2, 2, 2, 2, 2, 2]

def size : Nat := Bytes.span layout

/-- Bits of the change word, counted from the lowest. -/
def inputBit : Nat := 0

def formatBit : Nat := 2

def names (r : Prep) (bit : Nat) : Bool := r.change.toNat.testBit bit

def encode (r : Prep) : Bytes :=
  .pack <| layout.zip [r.change.toNat, r.width.toNat, r.height.toNat, r.horStride.toNat,
    r.verStride.toNat, r.format.toNat]

def ofFields : List Nat → Prep
  | [change, width, height, horStride, verStride, format] =>
    ⟨.ofNat change, .ofNat width, .ofNat height, .ofNat horStride, .ofNat verStride, .ofNat format⟩
  | _ => {}

def decode (bs : Bytes) : Except RecordError Prep := do
  checkSize "prep" size bs
  return ofFields (bs.unpack layout)

/-- Geometry of an unpadded input. -/
def input (width height : UInt16) : Prep :=
  { change := 1, width, height, horStride := width, verStride := height }

/-- The range check of one field: its name, value and bounds. -/
structure Bounded where
  field : String
  value : Nat
  least : Nat
  most : Nat

def bounds (r : Prep) : Codec → List Bounded
  | .h264 =>
    [ ⟨"width", r.width.toNat, 0, 1920⟩, ⟨"height", r.height.toNat, 0, 3840⟩,
      ⟨"hor_stride", r.horStride.toNat, 0, 3840⟩, ⟨"ver_stride", r.verStride.toNat, 0, 3840⟩ ]
  | .jpeg =>
    [ ⟨"width", r.width.toNat, 16, 8192⟩, ⟨"height", r.height.toNat, 16, 8192⟩,
      ⟨"hor_stride", max r.horStride.toNat r.width.toNat, 16, 65535⟩,
      ⟨"ver_stride", max r.verStride.toNat r.height.toNat, 16, 65535⟩ ]

/-- Geometry is checked only when the change word names it; the first bad field is reported. -/
def validate (r : Prep) (backend : Backend) : Except RecordError Unit :=
  if r.names inputBit then
    match (r.bounds backend.codec).find? fun b => b.value < b.least || b.most < b.value with
    | some b => .error (.outOfRange b.field b.value b.least b.most)
    | none => .ok ()
  else .ok ()

end Prep

namespace RateControl

def layout : List Nat := [4, 4, 4, 4, 4, 2, 2, 2, 2, 4]

def size : Nat := Bytes.span layout

def encode (r : RateControl) : Bytes :=
  .pack <| layout.zip [r.change.toNat, r.mode.toNat, r.bpsTarget.toNat, r.bpsMax.toNat,
    r.bpsMin.toNat, r.fpsInNum.toNat, r.fpsInDenom.toNat, r.fpsOutNum.toNat, r.fpsOutDenom.toNat,
    r.gop.toNat]

def ofFields : List Nat → RateControl
  | [change, mode, target, most, least, inNum, inDenom, outNum, outDenom, gop] =>
    ⟨.ofNat change, .ofNat mode, .ofNat target, .ofNat most, .ofNat least, .ofNat inNum,
      .ofNat inDenom, .ofNat outNum, .ofNat outDenom, .ofNat gop⟩
  | _ => {}

def decode (bs : Bytes) : Except RecordError RateControl := do
  checkSize "rc" size bs
  return ofFields (bs.unpack layout)

end RateControl

namespace H264

def layout : List Nat := [4, 4, 4, 1, 1, 1, 1, 1, 1, 1, 1]

def size : Nat := Bytes.span layout

def profileBit : Nat := 1

def entropyBit : Nat := 2

def transformBit : Nat := 3

def intraBit : Nat := 4

def qpBit : Nat := 8

def names (r : H264) (bit : Nat) : Bool := r.change.toNat.testBit bit

def encode (r : H264) : Bytes :=
  .pack <| layout.zip [r.change.toNat, r.profile.toNat, r.level.toNat, r.entropy.toNat,
    r.cabacInitIdc.toNat, r.transform8x8.toNat, r.constrainedIntra.toNat, r.qpInit.toNat,
    r.qpMax.toNat, r.qpMin.toNat, r.qpMaxStep.toNat]

def ofFields : List Nat → H264
  | [change, profile, level, entropy, idc, transform, intra, qpInit, qpMax, qpMin, step] =>
    ⟨.ofNat change, .ofNat profile, .ofNat level, .ofNat entropy, .ofNat idc, .ofNat transform,
      .ofNat intra, .ofNat qpInit, .ofNat qpMax, .ofNat qpMin, .ofNat step⟩
  | _ => {}

def decode (bs : Bytes) : Except RecordError H264 := do
  checkSize "h264 codec" size bs
  return ofFields (bs.unpack layout)

end H264

namespace Jpeg

def layout : List Nat := [4, 4]

def size : Nat := Bytes.span layout

def quantBit : Nat := 0

def names (r : Jpeg) (bit : Nat) : Bool := r.change.toNat.testBit bit

def encode (r : Jpeg) : Bytes := .pack <| layout.zip [r.change.toNat, r.quant.toNat]

def ofFields : List Nat → Jpeg
  | [change, quant] => ⟨.ofNat change, .ofNat quant⟩
  | _ => {}

def decode (bs : Bytes) : Except RecordError Jpeg := do
  checkSize "jpeg codec" size bs
  return ofFields (bs.unpack layout)

end Jpeg

def Codec.recordSize : Codec → Nat
  | h264 => H264.size
  | jpeg => Jpeg.size

namespace CodecRecord

def codec : CodecRecord → Codec
  | h264 _ => .h264
  | jpeg _ => .jpeg

def blank : Codec → CodecRecord
  | .h264 => h264 {}
  | .jpeg => jpeg {}

def encode : CodecRecord → Bytes
  | h264 r => r.encode
  | jpeg r => r.encode

def decode (codec : Codec) (bs : Bytes) : Except RecordError CodecRecord :=
  match codec with
  | .h264 => (H264.decode bs).map h264
  | .jpeg => (Jpeg.decode bs).map jpeg

end CodecRecord

namespace Sei

def size : Nat := 4

def encode (mode : UInt32) : Bytes := .littleEndian size mode.toNat

def decode (bs : Bytes) : Except RecordError UInt32 := do
  checkSize "sei" size bs
  return .ofNat bs.toNat

end Sei

namespace ConfigRequest

def kind : ConfigRequest → RecordKind
  | prep _ => .prep
  | rc _ => .rc
  | codec _ => .codec
  | sei _ => .sei

def encode : ConfigRequest → Bytes
  | prep r => r.encode
  | rc r => r.encode
  | codec r => r.encode
  | sei mode => Sei.encode mode

def size (codec : Codec) : RecordKind → Nat
  | .prep => Prep.size
  | .rc => RateControl.size
  | .codec => codec.recordSize
  | .sei => Sei.size

def decode (codec : Codec) (kind : RecordKind) (bs : Bytes) : Except RecordError ConfigRequest :=
  match kind with
  | .prep => (Prep.decode bs).map prep
  | .rc => (RateControl.decode bs).map rc
  | .codec => (CodecRecord.decode codec bs).map ConfigRequest.codec
  | .sei => (Sei.decode bs).map sei

end ConfigRequest

end CodecLink
