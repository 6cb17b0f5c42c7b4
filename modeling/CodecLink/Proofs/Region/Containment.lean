import CodecLink.Proofs.Dispatcher.Copying
import CodecLink.Proofs.Region.Handles

/-! Contents stay within their regions. An imported buffer keeps its region, whatever becomes of the
handle, and the region keeps its capacity; so what is cut to the buffer can always be laid into the
region, and goes nowhere else. -/
namespace CodecLink

theorem Produced.size_cutTo_some (content : Produced) (buffer : Buffer) :
    (content.cutTo (some buffer)).size ≤ buffer.descriptor.size.toNat := by
  cases content with
  | bytes bs => exact List.length_take_le _ _
  | zeros count => exact Nat.min_le_left _ _

theorem Produced.size_cutTo_le (content : Produced) (output : Option Buffer) :
    (content.cutTo output).size ≤ content.size := by
  cases output with
  | none => exact Nat.le_refl _
  | some buffer =>
    cases content with
    | bytes bs => exact List.length_take_le' _ _
    | zeros count => exact Nat.min_le_right _ _

namespace RegionTable

variable {t middle after : RegionTable} {buffer : Buffer} {output : Option Buffer}

def Contained (t : RegionTable) : Prop := ∀ r ∈ t.regions, r.Contained

/-- The buffer's region, if it has one, is there and large enough for its descriptor. -/
def Holds (t : RegionTable) (buffer : Buffer) : Prop :=
  ∀ id, buffer.region = some id →
    ∃ r, t.region? id = some r ∧ buffer.descriptor.size.toNat ≤ r.capacity

theorem importBuffer_holds {d : Descriptor} (imported : t.importBuffer d = .ok buffer) :
    t.Holds buffer := by
  intro id shared
  rcases importBuffer_region imported with heap | ⟨place, r, same, here, room⟩
  · rw [heap] at shared
    cases shared
  · rw [same] at shared
    cases shared
    exact ⟨r, here, room⟩

/-- A shared buffer has the region that its handle stands for and that it fits into, a heap buffer
has none. -/
def Attaches (t : RegionTable) (d : Descriptor) (buffer : Buffer) : Prop :=
  buffer.descriptor = d.sanitized ∧
    if d.isShared then
      ∃ id r, t.find? d.handle = some id ∧ t.region? id = some r ∧ r.handle = d.handle ∧
        d.size.toNat ≤ r.capacity ∧ buffer.region = some id
    else buffer.region = none

theorem Consistent.attaches (consistent : t.Consistent) {d : Descriptor}
    (imported : t.importBuffer d = .ok buffer) : t.Attaches d buffer := by
  rw [Attaches, Descriptor.isShared]
  rw [importBuffer] at imported
  cases kind : d.kind with
  | heap =>
    rw [kind] at imported
    cases imported
    exact ⟨rfl, rfl⟩
  | shared =>
    rw [kind] at imported
    cases found : t.find? d.handle with
    | none =>
      simp only [found] at imported
      cases imported
    | some id =>
      obtain ⟨slot, first, rfl⟩ := Option.map_eq_some_iff.1 found
      obtain ⟨r, here, carries⟩ := consistent.named slot (List.mem_of_find?_eq_some first)
      have sought : slot.1 = d.handle := by simpa using List.find?_some first
      simp only [found, here] at imported
      split at imported
      · cases imported
      · cases imported
        exact ⟨rfl, slot.2, r, rfl, here, carries.trans sought, Nat.not_lt.1 ‹_›, rfl⟩

/-- No region is lost, renamed or resized, and the table stays in order. -/
structure Grows (t after : RegionTable) : Prop where
  kept : ∀ id r, t.region? id = some r →
    ∃ s, after.region? id = some s ∧ s.handle = r.handle ∧ s.capacity = r.capacity
  contained : t.Contained → after.Contained
  consistent : t.Consistent → after.Consistent

theorem grows_refl (t : RegionTable) : t.Grows t :=
  ⟨fun _ r here => ⟨r, here, rfl, rfl⟩, fun contained => contained, fun consistent => consistent⟩

theorem Grows.trans (first : t.Grows middle) (second : middle.Grows after) : t.Grows after where
  kept id r here := by
    obtain ⟨s, there, handle, capacity⟩ := first.kept id r here
    obtain ⟨u, last, name, size⟩ := second.kept id s there
    exact ⟨u, last, name.trans handle, size.trans capacity⟩
  contained within := second.contained (first.contained within)
  consistent ordered := second.consistent (first.consistent ordered)

theorem Grows.holds (grows : t.Grows after) (held : t.Holds buffer) : after.Holds buffer := by
  intro id shared
  obtain ⟨r, here, room⟩ := held id shared
  obtain ⟨s, there, -, capacity⟩ := grows.kept id r here
  exact ⟨s, there, capacity ▸ room⟩

theorem grows_modify (t : RegionTable) (id : RegionId) {f : Region → Region}
    (handle : ∀ r, (f r).handle = r.handle) (capacity : ∀ r, (f r).capacity = r.capacity)
    (contained : ∀ r, t.region? id = some r → r.Contained → (f r).Contained) :
    t.Grows (t.modify id f) where
  kept other r here := by
    rw [region?_modify, here]
    split
    · exact ⟨f r, rfl, handle r, capacity r⟩
    · exact ⟨r, rfl, rfl, rfl⟩
  contained within :=
    forall_modify within id fun r here => contained r here (within r (List.mem_of_getElem? here))
  consistent ordered := ordered.modify id handle

theorem grows_append (t : RegionTable) {new : Region} (contained : new.Contained) :
    t.Grows { t with regions := t.regions ++ [new] } where
  kept _ r here := ⟨r, region?_append_old here new, rfl, rfl⟩
  contained within r member := by
    rcases List.mem_append.1 member with old | last
    · exact within r old
    · rw [List.mem_singleton.1 last]
      exact contained
  consistent ordered := ordered.append new

theorem grows_called (t : RegionTable) (call : TableCall) : t.Grows (t.called call) := by
  have consistent (ordered : t.Consistent) : (t.called call).Consistent := ordered.called call
  cases call with
  | allocate capacity =>
    have contained : Region.Contained { handle := t.nextHandle, capacity } := Nat.zero_le _
    have grows := t.grows_append contained
    exact ⟨grows.kept, grows.contained, consistent⟩
  | insert r contained =>
    have grows := t.grows_append contained
    exact ⟨grows.kept, grows.contained, consistent⟩
  | restore id =>
    have same : (t.restore id).regions = t.regions := by
      rw [restore]
      split <;> rfl
    refine ⟨fun place r here => ⟨r, ?_, rfl, rfl⟩, fun within r member => ?_, consistent⟩
    · rw [← here, region?, region?, called, same]
    · rw [called, same] at member
      exact within r member
  | remove handle => exact ⟨(grows_refl t).kept, (grows_refl t).contained, consistent⟩
  | get handle => exact grows_refl t
  | write id bs =>
    rw [called]
    cases written : t.write id bs with
    | error e => exact grows_refl t
    | ok after =>
      have same := write_ok written
      refine same ▸ t.grows_modify id (fun _ => rfl) (fun _ => rfl) fun r here _ => ?_
      rw [RegionTable.write, here] at written
      dsimp only at written
      rw [Region.write] at written
      split at written
      · cases written
      · exact Nat.not_lt.1 ‹_›
  | publish id word =>
    exact t.grows_modify id (fun _ => rfl) (fun _ => rfl) fun _ _ within => within

/-- A write that does not fit changes nothing. -/
theorem region?_written {id : RegionId} {r : Region} (here : t.region? id = some r) (bs : Bytes) :
    (t.called (.write id bs)).region? id =
      some (if bs.length ≤ r.capacity then { r with data := bs } else r) := by
  rw [called]
  split
  · rename_i room
    rw [write_fits here room]
    show (t.modify id _).region? id = _
    rw [region?_modify, if_pos rfl, here]
    rfl
  · rename_i much
    have refused : t.write id bs = .error (.regionTooSmall bs.length r.capacity) := by
      rw [write, here]
      dsimp only
      rw [Region.write, if_pos (Nat.not_le.1 much)]
      rfl
    rw [refused]
    exact here

/-- The content lies in the output's region, if it has one, and is no longer than the output. No
other region is changed, and of this one nothing else but the ready word. -/
structure Filled (t : RegionTable) (output : Option Buffer) (content : Produced)
    (after : RegionTable) : Prop where
  slots : after.slots = t.slots
  apart : ∀ id, output.bind (·.region) ≠ some id → after.region? id = t.region? id
  short : ∀ buffer ∈ output, content.toBytes.length ≤ buffer.descriptor.size.toNat
  own : ∀ id, output.bind (·.region) = some id → ∃ r word, t.region? id = some r ∧
    after.region? id = some { r with data := content.toBytes, ready := word }

theorem Filled.publish {content : Produced} (filled : t.Filled output content after) {id : RegionId}
    (attached : output.bind (·.region) = some id) (word : UInt32) :
    t.Filled output content (after.publish id word) where
  slots := filled.slots
  apart other different := by
    have different' : id ≠ other := by
      rintro rfl
      exact different attached
    rw [RegionTable.publish, region?_modify, if_neg different']
    exact filled.apart other different
  short := filled.short
  own place same := by
    obtain ⟨r, _, here, there⟩ := filled.own place same
    refine ⟨r, word, here, ?_⟩
    rw [RegionTable.publish, region?_modify, if_pos (Option.some.inj (attached.symm.trans same)),
      there]
    rfl

/-- What fills a buffer that the table holds overflows no region. -/
theorem Filled.grows {content : Produced} (filled : t.Filled output content after)
    (held : ∀ buffer ∈ output, t.Holds buffer) : t.Grows after := by
  have kept (id : RegionId) (r : Region) (here : t.region? id = some r) :
      ∃ s, after.region? id = some s ∧ s.handle = r.handle ∧ s.capacity = r.capacity ∧
        (r.Contained → s.Contained) := by
    -- Only the output's own region changes, and its descriptor stays below the capacity.
    by_cases own : output.bind (·.region) = some id
    · obtain ⟨buffer, given, shared⟩ := Option.bind_eq_some_iff.1 own
      obtain ⟨r', word, same, there⟩ := filled.own id own
      cases here.symm.trans same
      obtain ⟨r', same, room⟩ := held buffer given id shared
      cases here.symm.trans same
      exact ⟨_, there, rfl, rfl, fun _ => Nat.le_trans (filled.short buffer given) room⟩
    · exact ⟨r, (filled.apart id own).trans here, rfl, rfl, fun contained => contained⟩
  have old (id : RegionId) (s : Region) (there : after.region? id = some s) :
      ∃ r, t.region? id = some r := by
    by_cases own : output.bind (·.region) = some id
    · obtain ⟨r, _, here, -⟩ := filled.own id own
      exact ⟨r, here⟩
    · exact ⟨s, (filled.apart id own).symm.trans there⟩
  refine ⟨fun id r here => ?_, fun within s member => ?_, fun ordered => ?_⟩
  · obtain ⟨s, there, handle, capacity, -⟩ := kept id r here
    exact ⟨s, there, handle, capacity⟩
  · obtain ⟨id, there⟩ := List.mem_iff_getElem?.1 member
    obtain ⟨r, here⟩ := old id s there
    obtain ⟨s', same, -, -, contained⟩ := kept id r here
    cases (show after.region? id = some s from there).symm.trans same
    exact contained (within r (List.mem_of_getElem? here))
  · refine ⟨filled.slots ▸ ordered.distinct, fun slot member => ?_⟩
    obtain ⟨r, here, name⟩ := ordered.named slot (filled.slots ▸ member)
    obtain ⟨s, there, handle, -⟩ := kept slot.2 r here
    exact ⟨s, there, handle.trans name⟩

/-- What is cut to the buffer can be laid into its region, if it has one, and goes nowhere else. -/
def Takes (t : RegionTable) (buffer : Buffer) (content : Produced) : Prop :=
  let cut := content.cutTo (some buffer)
  cut.size ≤ buffer.descriptor.size.toNat ∧
    ∃ after, Passthrough.deliver cut (some buffer) t = .ok after ∧
      ∀ id, after.region? id =
        if buffer.region = some id then
          (t.region? id).map fun r => { r with data := cut.toBytes }
        else t.region? id

end RegionTable

namespace Passthrough

variable {t after : RegionTable} {output : Option Buffer} {content : Produced}

theorem deliver_slots (delivered : deliver content output t = .ok after) :
    after.slots = t.slots := by
  rw [deliver_eq delivered]
  split <;> rfl

/-- What is cut to a buffer that the table holds can be put there. -/
theorem deliver_held {buffer : Buffer} (held : t.Holds buffer) (content : Produced) :
    ∃ after, deliver (content.cutTo (some buffer)) (some buffer) t = .ok after := by
  cases shared : buffer.region with
  | none =>
    refine ⟨t, ?_⟩
    rw [deliver, Option.bind_some, shared]
  | some id =>
    obtain ⟨r, here, room⟩ := held id shared
    have fits : (content.cutTo (some buffer)).size ≤ r.capacity :=
      Nat.le_trans (content.size_cutTo_some buffer) room
    have laid : (content.cutTo (some buffer)).toBytes.length ≤ r.capacity := by
      rwa [Produced.length_toBytes]
    refine ⟨t.modify id fun r => { r with data := (content.cutTo (some buffer)).toBytes }, ?_⟩
    rw [deliver, Option.bind_some, shared]
    dsimp only
    rw [here]
    dsimp only
    rw [if_neg (Nat.not_lt.2 fits), RegionTable.write_fits here laid]

theorem takes_held {buffer : Buffer} (held : t.Holds buffer) (content : Produced) :
    t.Takes buffer content := by
  obtain ⟨after, delivered⟩ := deliver_held held content
  exact ⟨content.size_cutTo_some buffer, after, delivered, deliver_region? delivered⟩

/-- What is cut to the output can be put there, and fills it. -/
theorem filled_held (held : ∀ buffer ∈ output, t.Holds buffer) (content : Produced) :
    ∃ after, deliver (content.cutTo output) output t = .ok after ∧
      t.Filled output (content.cutTo output) after := by
  cases output with
  | none => exact ⟨t, rfl, rfl, fun _ _ => rfl, nofun, nofun⟩
  | some buffer =>
    obtain ⟨after, delivered⟩ := deliver_held (held buffer rfl) content
    have everywhere := deliver_region? delivered
    refine ⟨after, delivered, deliver_slots delivered, fun id other => ?_, fun _ given => ?_,
      fun id attached => ?_⟩
    · rw [everywhere, if_neg other]
    · cases given
      rw [Produced.length_toBytes]
      exact content.size_cutTo_some buffer
    · obtain ⟨r, here, -⟩ := held buffer rfl id attached
      refine ⟨r, r.ready, here, ?_⟩
      rw [everywhere, if_pos attached, here]
      rfl

end Passthrough

end CodecLink
