import CodecLink.Bytes

/-! Steps that are only taken if they can be: sums and products within a word, bytes read and placed
where there are any, memory within what can be asked for. A step that cannot be taken ends the
worker that came to it. -/
namespace CodecLink

inductive Crash
  | overflow
  | outOfRange
  | capacity
  deriving DecidableEq, Repr

abbrev Checked (α : Type) := Except Crash α

namespace Checked

theorem bind_ok {α β : Type} {x : Checked α} {f : α → Checked β} {b : β} :
    (x >>= f) = .ok b ↔ ∃ a, x = .ok a ∧ f a = .ok b := by
  cases x with
  | error crash =>
    constructor
    · intro done
      cases done
    · rintro ⟨_, done, _⟩
      cases done
  | ok a =>
    constructor
    · exact fun done => ⟨a, rfl, done⟩
    · rintro ⟨_, same, done⟩
      cases same
      exact done

def wordCount : Nat := 0x10000000000000000

/-- The most bytes that can be asked for at once. -/
def memoryLimit : Nat := 0x7fffffffffffffff

def add (a b : Nat) : Checked Nat := if a + b < wordCount then .ok (a + b) else .error .overflow

def times (a b : Nat) : Checked Nat := if a * b < wordCount then .ok (a * b) else .error .overflow

def increment (n : UInt64) : Checked UInt64 := (add n.toNat 1).map .ofNat

/-- What comes of something counted, if the counter has room for it. -/
def counted {α : Type} (counter : Nat) (after : α) : Checked α := (add counter 1).map fun _ => after

def allocate (size : Nat) : Checked Unit :=
  if size ≤ memoryLimit then .ok () else .error .capacity

def byteAt (bs : Bytes) (i : Nat) : Checked UInt8 :=
  match bs[i]? with
  | some b => .ok b
  | none => .error .outOfRange

def slice (bs : Bytes) (start stop : Nat) : Checked Bytes :=
  if start ≤ stop ∧ stop ≤ bs.length then .ok ((bs.take stop).drop start) else .error .outOfRange

def splitAt (bs : Bytes) (n : Nat) : Checked (Bytes × Bytes) :=
  if n ≤ bs.length then .ok (bs.take n, bs.drop n) else .error .outOfRange

/-- Copies bytes to a place for so many. -/
def copy (width : Nat) (bs : Bytes) : Checked Bytes :=
  if bs.length = width then .ok bs else .error .outOfRange

/-- So many bytes from a place on, each looked up by its index. -/
def bytesAt (bs : Bytes) (start : Nat) : Nat → Checked Bytes
  | 0 => .ok []
  | width + 1 => do
    let b ← byteAt bs start
    let rest ← bytesAt bs (start + 1) width
    return b :: rest

def wordAt (bs : Bytes) (start width : Nat) : Checked Nat :=
  (bytesAt bs start width).map Bytes.toNat

/-- The fields of a layout that stands from a place on. -/
def fieldsAt (bs : Bytes) (start : Nat) : List Nat → Checked (List Nat)
  | [] => .ok []
  | width :: widths => do
    let field ← wordAt bs start width
    let fields ← fieldsAt bs (start + width) widths
    return field :: fields

/-- A slice read as a word of so many bytes. -/
def wordIn (bs : Bytes) (start stop width : Nat) : Checked Nat := do
  let part ← slice bs start stop
  let word ← copy width part
  return Bytes.toNat word

/-- Copies bytes over a slice of others. -/
def place (out : Bytes) (start stop : Nat) (bs : Bytes) : Checked Bytes := do
  let _ ← slice out start stop
  let bs ← copy (stop - start) bs
  return out.take start ++ bs ++ out.drop stop

/-- Places fields, given as width and value, one behind another. -/
def packAt (out : Bytes) (start : Nat) : List (Nat × Nat) → Checked Bytes
  | [] => .ok out
  | (width, value) :: fields => do
    let out ← place out start (start + width) (Bytes.littleEndian width value)
    packAt out (start + width) fields

/-- Fields written into an array that is as long as their layout. -/
def pack (fields : List (Nat × Nat)) : Checked Bytes :=
  packAt (List.replicate (Bytes.span (fields.map (·.1))) 0) 0 fields

end Checked

end CodecLink
