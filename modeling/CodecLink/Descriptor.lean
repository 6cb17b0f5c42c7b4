import CodecLink.Bytes
import CodecLink.Text.Numeral

/-! Buffer descriptors. A file number and an address mean nothing to the other side, so both are
written as zero and read as zero. -/
namespace CodecLink

inductive BufferKind
  | heap
  | shared
  deriving DecidableEq, Repr

namespace BufferKind

def wire : BufferKind → Nat
  | heap => 0
  | shared => 1

def ofWire? : Nat → Option BufferKind
  | 0 => some heap
  | 1 => some shared
  | _ => none

def name : BufferKind → String
  | heap => "heap"
  | shared => "shared"

theorem ofWire?_wire (kind : BufferKind) : ofWire? kind.wire = some kind := by
  cases kind <;> rfl

end BufferKind

inductive DescriptorError
  | sizeMismatch (expected got : Nat)
  | unknownKind (kind : Nat)
  | unknownHandle (handle : UInt64)
  | regionTooSmall (size capacity : Nat)
  deriving DecidableEq, Repr

def DescriptorError.message : DescriptorError → String
  | sizeMismatch expected got => s!"descriptor is {expected} bytes, got {got}"
  | unknownKind kind => s!"unknown buffer kind {kind}"
  | unknownHandle handle => "no shared region for handle " ++ Numeral.hexText handle.toNat
  | regionTooSmall size capacity => s!"descriptor size {size} exceeds region capacity {capacity}"

structure Descriptor where
  kind : BufferKind := .heap
  size : UInt64 := 0
  fd : Int32 := 0
  handle : UInt64 := 0
  ptr : UInt64 := 0
  deriving DecidableEq, Repr

namespace Descriptor

def heap (size : UInt64) : Descriptor := { size }

def shared (handle size : UInt64) : Descriptor := { kind := .shared, size, handle }

def isShared (d : Descriptor) : Bool := d.kind = .shared

/-- The part that has a meaning on both sides. -/
def sanitized (d : Descriptor) : Descriptor := { d with fd := 0, ptr := 0 }

def wireSize : Nat := 32

def layout : List Nat := [4, 8, 4, 8, 8]

def encode (d : Descriptor) : Bytes :=
  .pack <| layout.zip [d.kind.wire, d.size.toNat, 0, d.handle.toNat, 0]

def ofFields : List Nat → Except DescriptorError Descriptor
  | [kindWord, size, _, handle, _] =>
    match BufferKind.ofWire? kindWord with
    | some kind => .ok { kind, size := .ofNat size, handle := .ofNat handle }
    | none => .error (.unknownKind kindWord)
  | _ => .error (.sizeMismatch wireSize 0)

def decode (bs : Bytes) : Except DescriptorError Descriptor :=
  if bs.length = wireSize then ofFields (bs.unpack layout)
  else .error (.sizeMismatch wireSize bs.length)

@[simp] theorem sanitized_sanitized (d : Descriptor) : d.sanitized.sanitized = d.sanitized := rfl

@[simp] theorem encode_sanitized (d : Descriptor) : d.sanitized.encode = d.encode := rfl

@[simp] theorem length_encode (d : Descriptor) : d.encode.length = wireSize := by
  simp [encode, Bytes.length_pack, Bytes.span, layout, wireSize]

end Descriptor

end CodecLink
