import CodecLink.Engine.Passthrough

/-! What a table of shared regions holds after one of them was changed, and what an engine that
copies puts into the region of its output. -/
namespace CodecLink

namespace RegionTable

theorem region?_modify (t : RegionTable) (id other : RegionId) (f : Region → Region) :
    (t.modify id f).region? other =
      if id = other then (t.region? other).map f else t.region? other := by
  rw [region?, modify, List.getElem?_modify]
  split
  · rfl
  · simp [region?]

/-- What holds of all regions still does if it holds of the changed one. -/
theorem forall_modify {P : Region → Prop} {t : RegionTable} (all : ∀ r ∈ t.regions, P r)
    (id : RegionId) {f : Region → Region} (keeps : ∀ r, t.region? id = some r → P (f r)) :
    ∀ r ∈ (t.modify id f).regions, P r := by
  intro r member
  obtain ⟨place, here⟩ := List.mem_iff_getElem?.1 member
  have here : (t.modify id f).region? place = some r := here
  rw [region?_modify] at here
  split at here
  · rename_i same
    obtain ⟨old, there, rfl⟩ := Option.map_eq_some_iff.1 here
    exact keeps old (same ▸ there)
  · exact all r (List.mem_of_getElem? here)

theorem find?_modify (t : RegionTable) (id : RegionId) (f : Region → Region) (handle : UInt64) :
    (t.modify id f).find? handle = t.find? handle := rfl

theorem get?_modify (t : RegionTable) {id : RegionId} {handle : UInt64}
    (found : t.find? handle = some id) (f : Region → Region) :
    (t.modify id f).get? handle = (t.get? handle).map f := by
  rw [get?, get?, find?_modify, found, Option.bind_some, Option.bind_some, region?_modify,
    if_pos rfl]

theorem get?_modify_other (t : RegionTable) {id : RegionId} {handle : UInt64}
    (other : t.find? handle ≠ some id) (f : Region → Region) :
    (t.modify id f).get? handle = t.get? handle := by
  rw [get?, get?, find?_modify]
  cases found : t.find? handle with
  | none => rfl
  | some place =>
    have apart : id ≠ place := fun same => other (by rw [found, same])
    rw [Option.bind_some, Option.bind_some, region?_modify, if_neg apart]

/-- A region of a fresh handle leaves the others as they are. -/
theorem insert_fresh {t : RegionTable} {new : Region} (fresh : t.find? new.handle = none)
    {handle : UInt64} {r : Region} (present : t.get? handle = some r) :
    (t.insert new).find? handle = t.find? handle ∧ (t.insert new).get? handle = some r := by
  rw [get?] at present
  cases found : t.find? handle with
  | none =>
    rw [found] at present
    cases present
  | some id =>
    rw [found, Option.bind_some, region?] at present
    have kept : t.slots.filter (fun slot => slot.1 != new.handle) = t.slots := by
      rw [List.filter_eq_self]
      intro slot member
      have absent : t.slots.find? (fun slot => slot.1 == new.handle) = none := by
        simpa [find?] using fresh
      simpa using List.find?_eq_none.1 absent slot member
    have same : (t.insert new).find? handle = some id := by
      rw [find?] at found ⊢
      obtain ⟨slot, first, rfl⟩ := Option.map_eq_some_iff.1 found
      simp only [insert, kept, List.find?_append, first, Option.some_or, Option.map_some]
    refine ⟨same, ?_⟩
    have inside : id < t.regions.length := (List.getElem?_eq_some_iff.1 present).1
    rw [get?, same, Option.bind_some, region?]
    simp only [insert]
    rw [List.getElem?_append_left inside, present]

/-- A shared descriptor names a region that is large enough. -/
def Admits (t : RegionTable) (d : Descriptor) : Prop :=
  d.isShared = true → ∃ r ∈ t.get? d.handle, d.size.toNat ≤ r.capacity

instance (t : RegionTable) (d : Descriptor) : Decidable (t.Admits d) :=
  inferInstanceAs (Decidable (d.isShared = true → ∃ r ∈ t.get? d.handle, d.size.toNat ≤ r.capacity))

def bufferOf (t : RegionTable) (d : Descriptor) : Buffer :=
  { descriptor := d.sanitized, region := if d.isShared then t.find? d.handle else none }

/-- What a descriptor gives to read: of its region no more than it says, and nothing of a heap
buffer. -/
def contentOf (t : RegionTable) (d : Descriptor) : Bytes :=
  if d.isShared then (((t.get? d.handle).map (·.data)).getD []).take d.size.toNat else []

@[simp] theorem importBuffer_sanitized (t : RegionTable) (d : Descriptor) :
    t.importBuffer d.sanitized = t.importBuffer d := rfl

theorem importBuffer_admits {t : RegionTable} {d : Descriptor} (admits : t.Admits d) :
    t.importBuffer d = .ok (t.bufferOf d) := by
  obtain ⟨kind, size, fd, handle, ptr⟩ := d
  cases kind with
  | heap => rfl
  | shared =>
    obtain ⟨r, present, room⟩ := admits rfl
    have present : t.get? handle = some r := present
    have room : ¬r.capacity < size.toNat := Nat.not_lt.2 room
    rw [get?] at present
    cases found : t.find? handle with
    | none =>
      rw [found] at present
      cases present
    | some id =>
      rw [found, Option.bind_some] at present
      simp only [importBuffer, bufferOf, found, present, if_neg room, Descriptor.isShared,
        decide_true, if_true]

/-- A region that was imported is there and large enough for its descriptor. -/
theorem importBuffer_region {t : RegionTable} {d : Descriptor} {buffer : Buffer}
    (imported : t.importBuffer d = .ok buffer) :
    buffer.region = none ∨ ∃ id r, buffer.region = some id ∧ t.region? id = some r ∧
      buffer.descriptor.size.toNat ≤ r.capacity := by
  rw [importBuffer] at imported
  cases kind : d.kind with
  | heap =>
    rw [kind] at imported
    cases imported
    exact .inl rfl
  | shared =>
    rw [kind] at imported
    cases found : t.find? d.handle with
    | none =>
      simp only [found] at imported
      cases imported
    | some id =>
      simp only [found] at imported
      cases here : t.region? id with
      | none =>
        simp only [here] at imported
        cases imported
      | some r =>
        simp only [here] at imported
        split at imported
        · cases imported
        · cases imported
          exact .inr ⟨id, r, rfl, here, Nat.not_lt.1 ‹_›⟩

theorem modify_congr {t : RegionTable} {id : RegionId} {f g : Region → Region}
    (same : ∀ r, t.region? id = some r → f r = g r) : t.modify id f = t.modify id g := by
  have regions : t.regions.modify id f = t.regions.modify id g := by
    refine List.ext_getElem? fun i => ?_
    rw [List.getElem?_modify, List.getElem?_modify]
    split
    · rename_i here
      subst here
      cases present : t.regions[id]? with
      | none => rfl
      | some r => exact congrArg some (same r present)
    · rfl
  rw [modify, modify, regions]

/-- The table with a change to the region that a descriptor names. -/
def adjust (t : RegionTable) (d : Descriptor) (f : Region → Region) : RegionTable :=
  match (t.bufferOf d).region with
  | none => t
  | some id => t.modify id f

theorem find?_adjust (t : RegionTable) (d : Descriptor) (f : Region → Region) (handle : UInt64) :
    (t.adjust d f).find? handle = t.find? handle := by
  rw [adjust]
  split <;> rfl

theorem bufferOf_adjust (t : RegionTable) (d other : Descriptor) (f : Region → Region) :
    (t.adjust d f).bufferOf other = t.bufferOf other := by
  rw [bufferOf, bufferOf, find?_adjust]

theorem get?_adjust {t : RegionTable} {d : Descriptor} (shared : d.isShared = true)
    (f : Region → Region) : (t.adjust d f).get? d.handle = (t.get? d.handle).map f := by
  rw [adjust, bufferOf, if_pos shared]
  cases found : t.find? d.handle with
  | none => simp [get?, found]
  | some id => exact get?_modify t found f

/-- Regions that are registered stay so, under their handles and with their capacities. -/
def Keeps (t after : RegionTable) : Prop :=
  ∀ handle r, t.get? handle = some r → ∃ s, after.get? handle = some s ∧ s.capacity = r.capacity

theorem Keeps.admits {t after : RegionTable} (keeps : t.Keeps after) {d : Descriptor}
    (admits : t.Admits d) : after.Admits d := by
  intro shared
  obtain ⟨r, present, room⟩ := admits shared
  obtain ⟨s, still, same⟩ := keeps d.handle r present
  exact ⟨s, still, same ▸ room⟩

theorem keeps_modify (t : RegionTable) (id : RegionId) {f : Region → Region}
    (same : ∀ r, (f r).capacity = r.capacity) : t.Keeps (t.modify id f) := by
  intro handle r present
  by_cases found : t.find? handle = some id
  · exact ⟨f r, by rw [get?_modify t found, present]; rfl, same r⟩
  · exact ⟨r, by rw [get?_modify_other t found, present], rfl⟩

theorem keeps_insert {t : RegionTable} {new : Region} (fresh : t.find? new.handle = none) :
    t.Keeps (t.insert new) :=
  fun _ r present => ⟨r, (insert_fresh fresh present).2, rfl⟩

theorem write_fits {t : RegionTable} {id : RegionId} {r : Region} {bs : Bytes}
    (present : t.region? id = some r) (room : bs.length ≤ r.capacity) :
    t.write id bs = .ok (t.modify id fun r => { r with data := bs }) := by
  have same : (t.modify id fun _ => { r with data := bs }) =
      t.modify id fun r => { r with data := bs } := by
    refine modify_congr fun other found => ?_
    cases present.symm.trans found
    rfl
  rw [write, present, ← same]
  dsimp only
  rw [Region.write, if_neg (Nat.not_lt.2 room)]
  rfl

theorem write_ok {t after : RegionTable} {id : RegionId} {bs : Bytes}
    (written : t.write id bs = .ok after) : after = t.modify id fun r => { r with data := bs } := by
  cases present : t.region? id with
  | none =>
    rw [write, present] at written
    cases written
    have outside : t.regions.length ≤ id := List.getElem?_eq_none_iff.1 present
    rw [modify, List.modify_eq_self outside]
  | some r =>
    by_cases room : bs.length ≤ r.capacity
    · rw [write_fits present room] at written
      exact (Except.ok.inj written).symm
    · rw [write, present] at written
      dsimp only at written
      rw [Region.write, if_pos (Nat.not_le.1 room)] at written
      cases written

end RegionTable

namespace Passthrough

theorem deliver_eq {produced : Produced} {output : Option Buffer} {t after : RegionTable}
    (delivered : deliver produced output t = .ok after) :
    after = match output.bind (·.region) with
      | none => t
      | some id => t.modify id fun r => { r with data := produced.toBytes } := by
  rw [deliver] at delivered
  cases target : output.bind (·.region) with
  | none =>
    rw [target] at delivered
    exact (Except.ok.inj delivered).symm
  | some id =>
    rw [target] at delivered
    dsimp only at delivered ⊢
    cases present : t.region? id with
    | none =>
      rw [present] at delivered
      cases delivered
      have outside : t.regions.length ≤ id := List.getElem?_eq_none_iff.1 present
      rw [RegionTable.modify, List.modify_eq_self outside]
    | some r =>
      rw [present] at delivered
      dsimp only at delivered
      split at delivered
      · cases delivered
      · cases written : t.write id produced.toBytes with
        | error e =>
          rw [written] at delivered
          cases delivered
        | ok next =>
          rw [written] at delivered
          cases delivered
          exact RegionTable.write_ok written

theorem deliver_region? {produced : Produced} {output : Option Buffer} {t after : RegionTable}
    (delivered : deliver produced output t = .ok after) (id : RegionId) :
    after.region? id =
      if output.bind (·.region) = some id then
        (t.region? id).map fun r => { r with data := produced.toBytes }
      else t.region? id := by
  rw [deliver_eq delivered]
  cases output.bind (·.region) with
  | none => rfl
  | some place =>
    dsimp only
    rw [RegionTable.region?_modify]
    simp only [Option.some.injEq]

theorem inputOf_bufferOf {t : RegionTable} {d : Descriptor} (shared : d.isShared = true)
    (admits : t.Admits d) (task : Task) :
    inputOf { task with input := some (t.bufferOf d) } t = .bytes (t.contentOf d) := by
  obtain ⟨r, present, _⟩ := admits shared
  have present : t.get? d.handle = some r := present
  rw [RegionTable.get?] at present
  rw [inputOf, RegionTable.contentOf, if_pos shared]
  simp only [RegionTable.bufferOf, if_pos shared, RegionTable.get?, present, Option.map_some,
    Option.getD_some, Descriptor.sanitized]

/-- What fits into the output that a descriptor names can be put there. -/
theorem deliver_bufferOf {t : RegionTable} {d : Descriptor} (admits : t.Admits d) {bs : Bytes}
    (short : bs.length ≤ d.size.toNat) :
    deliver (.bytes bs) (some (t.bufferOf d)) t =
      .ok (t.adjust d fun r => { r with data := bs }) := by
  rw [deliver, RegionTable.adjust]
  cases shared : d.isShared with
  | false => simp [RegionTable.bufferOf, shared]
  | true =>
    obtain ⟨r, present, room⟩ := admits shared
    have present : t.get? d.handle = some r := present
    rw [RegionTable.get?] at present
    cases found : t.find? d.handle with
    | none =>
      rw [found] at present
      cases present
    | some id =>
      rw [found, Option.bind_some] at present
      have fits : (Produced.bytes bs).toBytes.length ≤ r.capacity := Nat.le_trans short room
      have size : ¬r.capacity < (Produced.bytes bs).size := Nat.not_lt.2 fits
      simp only [RegionTable.bufferOf, shared, if_true, found, Option.bind_some, present,
        if_neg size, RegionTable.write_fits present fits]
      rfl

end Passthrough

end CodecLink
