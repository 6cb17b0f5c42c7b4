import CodecLink.Descriptor

/-! Memory shared by both sides: regions with a ready word, and the table of handles under which
they are found. A region that is no longer in the table stays reachable for the buffers that were
attached to it, so regions are known by their place in a list that only grows. -/
namespace CodecLink

/-- The ready word while nothing is ready. -/
def readySentinel : UInt32 := 0xFFFFFFFF

structure Region where
  handle : UInt64
  capacity : Nat
  ready : UInt32 := 0
  data : Bytes := []
  deriving DecidableEq, Repr

namespace Region

def descriptor (r : Region) : Descriptor := .shared r.handle (.ofNat r.capacity)

/-- Replaces the content, unless it would not fit. -/
def write (r : Region) (bs : Bytes) : Except DescriptorError Region :=
  if r.capacity < bs.length then .error (.regionTooSmall bs.length r.capacity)
  else .ok { r with data := bs }

def publish (r : Region) (value : UInt32) : Region := { r with ready := value }

def arm (r : Region) : Region := r.publish readySentinel

end Region

abbrev RegionId := Nat

structure RegionTable where
  regions : List Region := []
  /-- The registered handles, each once. -/
  slots : List (UInt64 × RegionId) := []
  nextHandle : UInt64 := 1
  deriving DecidableEq, Repr

/-- A buffer as the receiving side holds it: a descriptor and, if shared, its region. -/
structure Buffer where
  descriptor : Descriptor
  region : Option RegionId := none
  deriving DecidableEq, Repr

namespace RegionTable

def size (t : RegionTable) : Nat := t.slots.length

def region? (t : RegionTable) (id : RegionId) : Option Region := t.regions[id]?

def find? (t : RegionTable) (handle : UInt64) : Option RegionId :=
  (t.slots.find? fun slot => slot.1 == handle).map (·.2)

def get? (t : RegionTable) (handle : UInt64) : Option Region := (t.find? handle).bind t.region?

def unregister (t : RegionTable) (handle : UInt64) : RegionTable :=
  { t with slots := t.slots.filter fun slot => slot.1 != handle }

/-- Registers a region in the place of any other of its handle. -/
def insert (t : RegionTable) (r : Region) : RegionTable :=
  { t with
    regions := t.regions ++ [r]
    slots := (t.slots.filter fun slot => slot.1 != r.handle) ++ [(r.handle, t.regions.length)] }

/-- Registers an empty region under the next handle. -/
def allocate (t : RegionTable) (capacity : Nat) : Region × RegionTable :=
  let r : Region := { handle := t.nextHandle, capacity }
  (r, { t.insert r with nextHandle := t.nextHandle + 1 })

def modify (t : RegionTable) (id : RegionId) (f : Region → Region) : RegionTable :=
  { t with regions := t.regions.modify id f }

def write (t : RegionTable) (id : RegionId) (bs : Bytes) : Except DescriptorError RegionTable :=
  match t.region? id with
  | none => .ok t
  | some r => do
    let r ← r.write bs
    return t.modify id fun _ => r

def publish (t : RegionTable) (id : RegionId) (value : UInt32) : RegionTable :=
  t.modify id (·.publish value)

def arm (t : RegionTable) (id : RegionId) : RegionTable := t.modify id Region.arm

/-- The buffer a descriptor names; a shared one must fit into the region of its handle. -/
def importBuffer (t : RegionTable) (d : Descriptor) : Except DescriptorError Buffer :=
  match d.kind with
  | .heap => .ok { descriptor := d.sanitized }
  | .shared =>
    match t.find? d.handle with
    | none => .error (.unknownHandle d.handle)
    | some id =>
      match t.region? id with
      | none => .error (.unknownHandle d.handle)
      | some r =>
        if r.capacity < d.size.toNat then .error (.regionTooSmall d.size.toNat r.capacity)
        else .ok { descriptor := d.sanitized, region := some id }

end RegionTable

end CodecLink
