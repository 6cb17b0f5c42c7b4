import CodecLink.Primitive
import CodecLink.Proofs.Message.Payloads

/-! The fields of a descriptor that mean nothing to the other side. They are written as zero, and
whatever else stands in their place, the same is read. -/
namespace CodecLink

theorem Bytes.littleEndian_zero (width : Nat) :
    littleEndian width 0 = List.replicate width 0 := by
  induction width with
  | zero => rfl
  | succ width ih =>
    rw [littleEndian, Nat.zero_div, ih]
    rfl

namespace Descriptor

/-- Whether the file number or the address of a descriptor covers this byte of it. -/
def isLocal (i : Nat) : Bool := (12 ≤ i && i < 16) || (24 ≤ i && i < 32)

def masked (bs : Bytes) : Bytes := bs.mapIdx fun i b => if isLocal i then 0 else b

def Blank (bs : Bytes) : Prop := ∀ i, isLocal i = true → ∀ b ∈ bs[i]?, b = 0

/-- Nothing of a descriptor is of use on one side only. -/
def Portable (d : Descriptor) : Prop := d.fd = 0 ∧ d.ptr = 0

theorem portable_sanitized (d : Descriptor) : d.sanitized.Portable := ⟨rfl, rfl⟩

@[simp] theorem length_masked (bs : Bytes) : (masked bs).length = bs.length := List.length_mapIdx

@[simp] theorem isEmpty_masked (bs : Bytes) : (masked bs).isEmpty = bs.isEmpty := by
  cases bs <;> simp [masked, List.mapIdx_cons]

theorem getElem?_masked (bs : Bytes) (i : Nat) :
    (masked bs)[i]? = bs[i]?.map fun b => if isLocal i then 0 else b := List.getElem?_mapIdx

theorem take_masked (count : Nat) (bs : Bytes) :
    (masked bs).take count = masked (bs.take count) := by
  refine List.ext_getElem? fun i => ?_
  rw [getElem?_masked, List.getElem?_take, List.getElem?_take, getElem?_masked]
  split <;> rfl

/-- A stretch of bytes without the local ones. -/
theorem window_masked (bs : Bytes) (start count : Nat)
    (kept : ∀ i < count, isLocal (start + i) = false) :
    ((masked bs).drop start).take count = (bs.drop start).take count := by
  refine List.ext_getElem? fun i => ?_
  rw [List.getElem?_take, List.getElem?_take]
  split
  · rename_i inside
    rw [List.getElem?_drop, List.getElem?_drop, getElem?_masked, kept i inside]
    simp
  · rfl

theorem drop_masked (bs : Bytes) : (masked bs).drop wireSize = bs.drop wireSize := by
  refine List.ext_getElem? fun i => ?_
  have behind : isLocal (wireSize + i) = false := by
    simp only [isLocal, wireSize]
    grind
  rw [List.getElem?_drop, List.getElem?_drop, getElem?_masked, behind]
  simp

@[simp] theorem decode_masked (bs : Bytes) : decode (masked bs) = decode bs := by
  have kind := window_masked bs 0 4 (by decide)
  have size := window_masked bs 4 8 (by decide)
  have handle := window_masked bs 16 8 (by decide)
  rw [List.drop_zero, List.drop_zero] at kind
  simp only [decode, length_masked, layout, Bytes.unpack, List.drop_drop, Nat.reduceAdd, kind, size,
    handle]
  rfl

theorem blank_encode (d : Descriptor) : Blank d.encode := by
  intro i covered b member
  have parts : d.encode = (Bytes.littleEndian 4 d.kind.wire ++ Bytes.littleEndian 8 d.size.toNat) ++
      (List.replicate 4 0 ++ (Bytes.littleEndian 8 d.handle.toNat ++ List.replicate 8 0)) := by
    simp [encode, layout, Bytes.pack, Bytes.littleEndian_zero]
  simp only [isLocal, Bool.or_eq_true, Bool.and_eq_true, decide_eq_true_eq] at covered
  rw [parts, List.getElem?_append_right (by simp; omega)] at member
  simp only [List.length_append, Bytes.length_littleEndian] at member
  rcases covered with ⟨above, below⟩ | ⟨above, below⟩
  · rw [List.getElem?_append_left (by simp; omega)] at member
    exact (List.mem_replicate.1 (List.mem_of_getElem? member)).2
  · rw [List.getElem?_append_right (by simp; omega),
      List.getElem?_append_right (by simp; omega)] at member
    exact (List.mem_replicate.1 (List.mem_of_getElem? member)).2

theorem Blank.append {front : Bytes} (blank : Blank front) (whole : wireSize ≤ front.length)
    (back : Bytes) : Blank (front ++ back) := by
  intro i covered b member
  have inside : i < front.length := by
    simp only [isLocal, Bool.or_eq_true, Bool.and_eq_true, decide_eq_true_eq] at covered
    simp only [wireSize] at whole
    omega
  rw [List.getElem?_append_left inside] at member
  exact blank i covered b member

theorem blank_nil : Blank [] := by simp [Blank]

end Descriptor

namespace WaitRequest

@[simp] theorem decode_masked (bs : Bytes) : decode (Descriptor.masked bs) = decode bs := by
  rw [decode, decode, Descriptor.length_masked, Descriptor.decode_masked, Descriptor.take_masked,
    Descriptor.decode_masked, Descriptor.drop_masked]

theorem blank_encode (r : WaitRequest) : Descriptor.Blank r.encode :=
  r.output.blank_encode.append (by simp) _

end WaitRequest

theorem WaitReply.blank_encode (r : WaitReply) : Descriptor.Blank r.encode := by
  rw [encode]
  split
  · exact r.output.blank_encode
  · exact r.output.blank_encode.append (by simp) _

namespace Primitive

/-- The kinds whose payload starts with a descriptor. -/
def namesBuffer (p : Primitive) : Bool := p.kind? = some .start || p.kind? = some .wait

/-- The primitive without what the sender may have left in the local fields of a descriptor. -/
def masked (p : Primitive) : Primitive :=
  if p.namesBuffer then { p with payload := Descriptor.masked p.payload } else p

def Blank (p : Primitive) : Prop := p.namesBuffer = true → Descriptor.Blank p.payload

end Primitive

end CodecLink
