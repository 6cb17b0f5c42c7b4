import CodecLink.Record.Basic

/-! Laying one record over another: only the fields that the newer change word names are taken, and
the change words join. A compression quant beyond the largest falls back to the default, and the
merged record keeps no change word. -/
namespace CodecLink

def Prep.merge (old new : Prep) : Prep :=
  let input := new.names inputBit
  { change := old.change ||| new.change
    width := if input then new.width else old.width
    height := if input then new.height else old.height
    horStride := if input then new.horStride else old.horStride
    verStride := if input then new.verStride else old.verStride
    format := if new.names formatBit then new.format else old.format }

/-- Rate control is replaced whole. -/
def RateControl.merge (old new : RateControl) : RateControl :=
  { new with change := old.change ||| new.change }

def H264.merge (old new : H264) : H264 :=
  let qp := new.names qpBit
  { change := old.change ||| new.change
    profile := if new.names profileBit then new.profile else old.profile
    level := if new.names profileBit then new.level else old.level
    entropy := if new.names entropyBit then new.entropy else old.entropy
    cabacInitIdc := if new.names entropyBit then new.cabacInitIdc else old.cabacInitIdc
    transform8x8 := if new.names transformBit then new.transform8x8 else old.transform8x8
    constrainedIntra := if new.names intraBit then new.constrainedIntra else old.constrainedIntra
    qpInit := if qp then new.qpInit else old.qpInit
    qpMax := if qp then new.qpMax else old.qpMax
    qpMin := if qp then new.qpMin else old.qpMin
    qpMaxStep := if qp then new.qpMaxStep else old.qpMaxStep }

namespace Jpeg

def defaultQuant : UInt32 := 8

def maxQuant : UInt32 := 10

def usableQuant (quant : UInt32) : UInt32 := if maxQuant < quant then defaultQuant else quant

def merge (old new : Jpeg) : Jpeg :=
  { change := 0
    quant := if new.names quantBit then usableQuant new.quant else old.quant }

/-- Joins two requests that are both still to be delivered; the quant is checked on delivery. -/
def join (old new : Jpeg) : Jpeg :=
  { change := old.change ||| new.change
    quant := if new.names quantBit then new.quant else old.quant }

end Jpeg

def CodecRecord.merge (old new : CodecRecord) : Except RecordError CodecRecord :=
  match old, new with
  | h264 old, h264 new => .ok (h264 (old.merge new))
  | jpeg old, jpeg new => .ok (jpeg (old.merge new))
  | old, new => .error (.codecMismatch old.codec new.codec)

end CodecLink
