import CodecLink.Primitive

/-! Codec backends, the four kinds of configuration record, and which backend takes which. -/
namespace CodecLink

inductive Codec
  | h264
  | jpeg
  deriving DecidableEq, Repr

def Codec.name : Codec → String
  | h264 => "h264"
  | jpeg => "jpeg"

inductive RecordKind
  | prep
  | rc
  | codec
  | sei
  deriving DecidableEq, Repr

namespace RecordKind

/-- The order in which records are delivered. -/
def all : List RecordKind := [prep, rc, codec, sei]

def bit : RecordKind → UInt32
  | prep => 1
  | rc => 2
  | codec => 4
  | sei => 8

def ofBit? (bits : UInt32) : Option RecordKind := all.find? fun kind => kind.bit == bits

def primitive : RecordKind → PrimitiveCode
  | prep => .controlPrep
  | rc => .controlRc
  | codec => .controlCodec
  | sei => .controlSei

def ofPrimitive? : PrimitiveCode → Option RecordKind
  | .controlPrep => some prep
  | .controlRc => some rc
  | .controlCodec => some codec
  | .controlSei => some sei
  | _ => none

end RecordKind

/-- A set of record kinds. -/
structure RecordSet where
  prep : Bool := false
  rc : Bool := false
  codec : Bool := false
  sei : Bool := false
  deriving DecidableEq, Repr

namespace RecordSet

def has (set : RecordSet) : RecordKind → Bool
  | .prep => set.prep
  | .rc => set.rc
  | .codec => set.codec
  | .sei => set.sei

def put (set : RecordSet) (kind : RecordKind) (present : Bool) : RecordSet :=
  match kind with
  | .prep => { set with prep := present }
  | .rc => { set with rc := present }
  | .codec => { set with codec := present }
  | .sei => { set with sei := present }

def insert (set : RecordSet) (kind : RecordKind) : RecordSet := set.put kind true

def erase (set : RecordSet) (kind : RecordKind) : RecordSet := set.put kind false

/-- Erases every kind whose bit is set; other bits mean nothing. -/
def eraseBits (set : RecordSet) (bits : UInt32) : RecordSet :=
  RecordKind.all.foldl (fun set kind => if bits &&& kind.bit ≠ 0 then set.erase kind else set) set

def toList (set : RecordSet) : List RecordKind := RecordKind.all.filter set.has

def bits (set : RecordSet) : UInt32 := set.toList.foldl (fun word kind => word ||| kind.bit) 0

@[simp] theorem has_put (set : RecordSet) (kind other : RecordKind) (present : Bool) :
    (set.put kind present).has other = if other = kind then present else set.has other := by
  cases kind <;> cases other <;> rfl

theorem mem_toList {set : RecordSet} {kind : RecordKind} : kind ∈ set.toList ↔ set.has kind := by
  cases kind <;> simp [toList, RecordKind.all]

end RecordSet

inductive Backend
  | h264Decoder
  | h264Encoder
  | jpegEncoder
  deriving DecidableEq, Repr

namespace Backend

def all : List Backend := [h264Decoder, h264Encoder, jpegEncoder]

def codec : Backend → Codec
  | h264Decoder | h264Encoder => .h264
  | jpegEncoder => .jpeg

def isEncoder : Backend → Bool
  | h264Decoder => false
  | h264Encoder | jpegEncoder => true

def accepted : Backend → RecordSet
  | h264Decoder => {}
  | h264Encoder => ⟨true, true, true, true⟩
  | jpegEncoder => { prep := true, codec := true }

def name : Backend → String
  | h264Decoder => "h264_decoder"
  | h264Encoder => "h264_encoder"
  | jpegEncoder => "jpeg_encoder"

def ofName? (text : String) : Option Backend := all.find? fun backend => backend.name == text

/-- What is said of a name that no backend has. -/
def unknownText (text : String) : String := "unknown backend '" ++ text ++ "'"

end Backend

end CodecLink
