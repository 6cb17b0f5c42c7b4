import CodecLink.Bytes

/-! The thirteen primitives of the protocol and their numbers on the wire. -/
namespace CodecLink

inductive PrimitiveCode
  | undefined | init | deinit | regs | start | wait | controlPrep | controlRc | controlCodec
  | controlSei | control | reset | flush
  deriving DecidableEq, Repr

namespace PrimitiveCode

def all : List PrimitiveCode :=
  [undefined, init, deinit, regs, start, wait, controlPrep, controlRc, controlCodec, controlSei,
    control, reset, flush]

def wire : PrimitiveCode → UInt32
  | undefined => 0 | init => 1 | deinit => 2 | regs => 3 | start => 4 | wait => 5
  | controlPrep => 6 | controlRc => 7 | controlCodec => 8 | controlSei => 9 | control => 10
  | reset => 11 | flush => 12

def ofWire? (code : UInt32) : Option PrimitiveCode := all.find? fun kind => kind.wire == code

def name : PrimitiveCode → String
  | undefined => "UNDEFINED" | init => "INIT" | deinit => "DEINIT" | regs => "REGS"
  | start => "START" | wait => "WAIT" | controlPrep => "CONTROL_PREP" | controlRc => "CONTROL_RC"
  | controlCodec => "CONTROL_CODEC" | controlSei => "CONTROL_SEI" | control => "CONTROL"
  | reset => "RESET" | flush => "FLUSH"

def isConfig : PrimitiveCode → Bool
  | controlPrep | controlRc | controlCodec | controlSei => true
  | _ => false

theorem ofWire?_wire (kind : PrimitiveCode) : ofWire? kind.wire = some kind := by
  cases kind <;> rfl

end PrimitiveCode

structure Primitive where
  code : UInt32
  payload : Bytes
  deriving DecidableEq, Repr

namespace Primitive

def of (kind : PrimitiveCode) (payload : Bytes) : Primitive := ⟨kind.wire, payload⟩

def kind? (p : Primitive) : Option PrimitiveCode := PrimitiveCode.ofWire? p.code

def name (p : Primitive) : String := (p.kind?.map PrimitiveCode.name).getD "UNKNOWN"

end Primitive

end CodecLink
