import Mathlib.Algebra.Ring.Nat
import Mathlib.Data.List.Induction
import CodecLink.Proofs.Regions

/-! The handles of a table over any sequence of calls. Allocation counts its handles up; whoever
inserts a region chooses the handle. An allocated region so displaces another exactly if its handle
is registered at that moment, and before the count comes round that is the work of an insertion. -/
namespace CodecLink

def Region.Contained (r : Region) : Prop := r.data.length ≤ r.capacity

/-- What the holders of a table do with it and with its regions. A region is restored if it was seen
before and is inserted again. -/
inductive TableCall
  | allocate (capacity : Nat)
  | insert (r : Region) (contained : r.Contained)
  | restore (id : RegionId)
  | remove (handle : UInt64)
  | get (handle : UInt64)
  | write (id : RegionId) (bs : Bytes)
  | publish (id : RegionId) (word : UInt32)

namespace RegionTable

variable {t : RegionTable}

/-- Puts a handle in the place of any other registration of it. -/
def register (handle : UInt64) (id : RegionId) (t : RegionTable) : RegionTable :=
  { t with slots := (t.slots.filter fun slot => slot.1 != handle) ++ [(handle, id)] }

def restore (id : RegionId) (t : RegionTable) : RegionTable :=
  match t.region? id with
  | none => t
  | some r => t.register r.handle id

def called (t : RegionTable) : TableCall → RegionTable
  | .allocate capacity => (t.allocate capacity).2
  | .insert r _ => t.insert r
  | .restore id => t.restore id
  | .remove handle => t.unregister handle
  | .get _ => t
  | .write id bs => (t.write id bs).toOption.getD t
  | .publish id word => t.publish id word

def run (calls : List TableCall) : RegionTable := calls.foldl called {}

theorem run_concat (calls : List TableCall) (call : TableCall) :
    run (calls ++ [call]) = (run calls).called call := by
  rw [run, List.foldl_append]
  rfl

theorem find?_unregister (t : RegionTable) (handle other : UInt64) :
    (t.unregister handle).find? other = if other = handle then none else t.find? other := by
  rw [find?, unregister, List.find?_filter]
  split
  · rename_i same
    subst same
    rw [Option.map_eq_none_iff, List.find?_eq_none]
    intro slot _
    by_cases own : slot.1 = other <;> simp [own]
  · rename_i apart
    have same (slot : UInt64 × RegionId) :
        (decide ((slot.1 != handle) = true ∧ (slot.1 == other) = true)) = (slot.1 == other) := by
      by_cases own : slot.1 = other <;> simp [own, apart]
    rw [find?, funext same]

theorem find?_register (t : RegionTable) (handle other : UInt64) (id : RegionId) :
    (t.register handle id).find? other = if other = handle then some id else t.find? other := by
  have before := find?_unregister t handle other
  rw [find?, unregister] at before
  rw [find?, register, List.find?_append, Option.map_or, before]
  split
  · rename_i same
    simp [same]
  · rename_i apart
    simp [Ne.symm apart]

/-- Each handle is registered once, for a region that carries it. -/
structure Consistent (t : RegionTable) : Prop where
  distinct : (t.slots.map (·.1)).Nodup
  named : ∀ slot ∈ t.slots, ∃ r, t.region? slot.2 = some r ∧ r.handle = slot.1

theorem Consistent.unregister (consistent : t.Consistent) (handle : UInt64) :
    (t.unregister handle).Consistent where
  distinct := (List.filter_sublist.map _).nodup consistent.distinct
  named slot member := consistent.named slot (List.mem_filter.1 member |>.1)

theorem Consistent.register (consistent : t.Consistent) {id : RegionId} {r : Region}
    (here : t.region? id = some r) : (t.register r.handle id).Consistent where
  distinct := by
    have apart : ∀ slot ∈ t.slots.filter (fun slot => slot.1 != r.handle), slot.1 ≠ r.handle := by
      intro slot member
      simpa using (List.mem_filter.1 member).2
    rw [RegionTable.register, List.map_append, List.nodup_append]
    refine ⟨(List.filter_sublist.map _).nodup consistent.distinct, by simp, ?_⟩
    intro handle member other last
    obtain ⟨slot, kept, rfl⟩ := List.mem_map.1 member
    obtain rfl : other = r.handle := by simpa using last
    exact apart slot kept
  named slot member := by
    rcases List.mem_append.1 member with before | last
    · exact consistent.named slot (List.mem_filter.1 before |>.1)
    · rw [List.mem_singleton.1 last]
      exact ⟨r, here, rfl⟩

theorem Consistent.modify (consistent : t.Consistent) (id : RegionId) {f : Region → Region}
    (same : ∀ r, (f r).handle = r.handle) : (t.modify id f).Consistent where
  distinct := consistent.distinct
  named slot member := by
    obtain ⟨r, here, own⟩ := consistent.named slot member
    rw [region?_modify, here]
    split
    · exact ⟨f r, rfl, (same r).trans own⟩
    · exact ⟨r, rfl, own⟩

theorem region?_append (t : RegionTable) (new : Region) (id : RegionId) :
    ({ t with regions := t.regions ++ [new] } : RegionTable).region? id =
      if id = t.regions.length then some new else t.region? id := by
  rw [region?, List.getElem?_append]
  split
  · rename_i inside
    rw [if_neg (Nat.ne_of_lt inside)]
    rfl
  · rename_i outside
    split
    · rename_i last
      rw [last, Nat.sub_self]
      rfl
    · rename_i apart
      have beyond : t.regions.length < id :=
        Nat.lt_of_le_of_ne (Nat.not_lt.1 outside) (Ne.symm apart)
      have one_more : [new].length ≤ id - t.regions.length := Nat.sub_pos_of_lt beyond
      rw [List.getElem?_eq_none_iff.2 one_more, region?,
        List.getElem?_eq_none_iff.2 (Nat.le_of_lt beyond)]

theorem region?_append_old {id : RegionId} {r : Region} (here : t.region? id = some r)
    (new : Region) :
    RegionTable.region? { t with regions := t.regions ++ [new] } id = some r := by
  have inside : id < t.regions.length := (List.getElem?_eq_some_iff.1 here).1
  rw [region?_append, if_neg (Nat.ne_of_lt inside), here]

theorem Consistent.append (consistent : t.Consistent) (new : Region) :
    Consistent { t with regions := t.regions ++ [new] } where
  distinct := consistent.distinct
  named slot member := by
    obtain ⟨r, here, own⟩ := consistent.named slot member
    exact ⟨r, region?_append_old here new, own⟩

theorem Consistent.insert (consistent : t.Consistent) (r : Region) : (t.insert r).Consistent := by
  have here : RegionTable.region? { t with regions := t.regions ++ [r] } t.regions.length =
      some r := by
    rw [region?_append, if_pos rfl]
  exact (consistent.append r).register here

theorem Consistent.called (consistent : t.Consistent) (call : TableCall) :
    (t.called call).Consistent := by
  cases call with
  | allocate capacity =>
    have inserted := consistent.insert { handle := t.nextHandle, capacity }
    exact ⟨inserted.distinct, inserted.named⟩
  | insert r contained => exact consistent.insert r
  | restore id =>
    rw [RegionTable.called, restore]
    cases here : t.region? id with
    | none => exact consistent
    | some r => exact consistent.register here
  | remove handle => exact consistent.unregister handle
  | get handle => exact consistent
  | write id bs =>
    rw [RegionTable.called]
    cases written : t.write id bs with
    | error e => exact consistent
    | ok after =>
      rw [write_ok written]
      exact consistent.modify id fun _ => rfl
  | publish id word => exact consistent.modify id fun _ => rfl

theorem consistent_run (calls : List TableCall) : (run calls).Consistent := by
  induction calls using List.reverseRecOn with
  | nil => exact ⟨List.nodup_nil, fun _ member => by cases member⟩
  | append_singleton calls call ih =>
    rw [run_concat]
    exact ih.called call

/-- A registration adds one to the size, unless it takes the place of another. -/
theorem size_register (consistent : t.Consistent) (handle : UInt64) (id : RegionId) :
    (t.register handle id).size = if (t.find? handle).isSome then t.size else t.size + 1 := by
  have split : t.slots.length = t.slots.countP (fun slot => slot.1 == handle) +
      t.slots.countP (fun slot => slot.1 != handle) := by
    rw [List.length_eq_countP_add_countP fun slot : UInt64 × RegionId => slot.1 == handle]
    exact congrArg _ (List.countP_congr fun slot _ => by simp)
  have once : t.slots.countP (fun slot => slot.1 == handle) =
      if handle ∈ t.slots.map (·.1) then 1 else 0 := by
    rw [← consistent.distinct.count, List.count, List.countP_map]
    rfl
  have found : (t.find? handle).isSome ↔ handle ∈ t.slots.map (·.1) := by
    rw [find?, Option.isSome_map, List.find?_isSome, List.mem_map]
    simp
  have size : (t.register handle id).size = t.slots.countP (fun slot => slot.1 != handle) + 1 := by
    rw [RegionTable.size, register, List.length_append, List.countP_eq_length_filter]
    rfl
  rw [size, RegionTable.size, split, once]
  by_cases registered : handle ∈ t.slots.map (·.1)
  · rw [if_pos registered, if_pos (found.2 registered), Nat.add_comm]
  · rw [if_neg registered, if_neg fun there => registered (found.1 there), Nat.zero_add]

def allocations (calls : List TableCall) : Nat :=
  calls.countP fun
    | .allocate _ => true
    | _ => false

theorem nextHandle_run (calls : List TableCall) :
    (run calls).nextHandle = .ofNat (allocations calls + 1) := by
  induction calls using List.reverseRecOn with
  | nil => rfl
  | append_singleton calls call ih =>
    have unchanged (same : ((run calls).called call).nextHandle = (run calls).nextHandle)
        (other : allocations [call] = 0) : (run (calls ++ [call])).nextHandle =
          .ofNat (allocations (calls ++ [call]) + 1) := by
      have none_more : allocations (calls ++ [call]) = allocations calls := by
        rw [allocations, List.countP_append, show List.countP _ [call] = 0 from other]
        rfl
      rw [run_concat, same, ih, none_more]
    cases call with
    | allocate capacity =>
      have one_more : allocations (calls ++ [.allocate capacity]) = allocations calls + 1 := by
        simp [allocations]
      rw [run_concat, one_more, called, allocate, ih]
      simp [UInt64.ofNat_add]
    | restore id =>
      refine unchanged ?_ rfl
      rw [called, restore]
      split <;> rfl
    | write id bs =>
      refine unchanged ?_ rfl
      rw [called]
      cases written : (run calls).write id bs with
      | error e => rfl
      | ok after =>
        rw [write_ok written]
        rfl
    | insert r contained | remove handle | get handle | publish id word => exact unchanged rfl rfl

/-- The region was brought in by an insertion. -/
def Inserted (calls : List TableCall) (handle : UInt64) (id : RegionId) : Prop :=
  ∃ front r contained back, calls = front ++ .insert r contained :: back ∧ r.handle = handle ∧
    id = (run front).regions.length

theorem Inserted.concat {calls : List TableCall} {handle : UInt64} {id : RegionId}
    (inserted : Inserted calls handle id) (call : TableCall) :
    Inserted (calls ++ [call]) handle id := by
  obtain ⟨front, r, contained, back, rfl, own, place⟩ := inserted
  exact ⟨front, r, contained, back ++ [call], by simp, own, place⟩

/-- A region was either inserted or carries one of the handles counted so far. -/
theorem origin_of_region (calls : List TableCall) {id : RegionId} {r : Region}
    (here : (run calls).region? id = some r) :
    Inserted calls r.handle id ∨ ∃ n, 1 ≤ n ∧ n ≤ allocations calls ∧ r.handle = .ofNat n := by
  induction calls using List.reverseRecOn generalizing r with
  | nil => cases here
  | append_singleton calls call ih =>
    have fewer : allocations calls ≤ allocations (calls ++ [call]) :=
      (List.sublist_append_left calls [call]).countP_le
    have older {old : Region} (there : (run calls).region? id = some old)
        (same : old.handle = r.handle) : Inserted (calls ++ [call]) r.handle id ∨
          ∃ n, 1 ≤ n ∧ n ≤ allocations (calls ++ [call]) ∧ r.handle = .ofNat n := by
      rw [← same]
      rcases ih there with inserted | ⟨n, least, most, counted⟩
      · exact .inl (inserted.concat call)
      · exact .inr ⟨n, least, Nat.le_trans most fewer, counted⟩
    have changed {place : RegionId} {f : Region → Region} (same : ∀ r, (f r).handle = r.handle)
        (after : ((run calls).modify place f).region? id = some r) :
        ∃ old, (run calls).region? id = some old ∧ old.handle = r.handle := by
      rw [region?_modify] at after
      split at after
      · obtain ⟨old, there, rfl⟩ := Option.map_eq_some_iff.1 after
        exact ⟨old, there, (same old).symm⟩
      · exact ⟨r, after, rfl⟩
    rw [run_concat] at here
    cases call with
    | allocate capacity =>
      have here : RegionTable.region? { run calls with
          regions := (run calls).regions ++ [{ handle := (run calls).nextHandle, capacity }] } id =
            some r := here
      rw [region?_append] at here
      split at here
      · cases here
        refine .inr ⟨allocations calls + 1, Nat.le_add_left 1 _, ?_, nextHandle_run calls⟩
        simp [allocations]
      · exact older here rfl
    | insert new contained =>
      have here : RegionTable.region? { run calls with regions := (run calls).regions ++ [new] } id =
          some r := here
      rw [region?_append] at here
      split at here
      · rename_i last
        cases here
        exact .inl ⟨calls, r, contained, [], rfl, rfl, last⟩
      · exact older here rfl
    | restore place =>
      have same : ((run calls).restore place).region? id = (run calls).region? id := by
        rw [restore]
        split <;> rfl
      exact older (same.symm.trans here) rfl
    | remove handle => exact older here rfl
    | get handle => exact older here rfl
    | write place bs =>
      rw [called] at here
      cases written : (run calls).write place bs with
      | error e =>
        rw [written] at here
        exact older here rfl
      | ok after =>
        rw [written, write_ok written] at here
        obtain ⟨old, there, same⟩ :=
          changed (f := fun r => { r with data := bs }) (fun _ => rfl) here
        exact older there same
    | publish place word =>
      obtain ⟨old, there, same⟩ := changed (f := (·.publish word)) (fun _ => rfl) here
      exact older there same

/-- A registered handle that the count has not come to yet was inserted. -/
theorem inserted_of_uncounted {calls : List TableCall} (lasting : allocations calls + 1 < 2 ^ 64)
    {id : RegionId} (found : (run calls).find? (run calls).nextHandle = some id) :
    Inserted calls (run calls).nextHandle id := by
  obtain ⟨slot, first, rfl⟩ := Option.map_eq_some_iff.1 found
  obtain ⟨r, here, carries⟩ :=
    (consistent_run calls).named slot (List.mem_of_find?_eq_some first)
  have sought : r.handle = (run calls).nextHandle := by
    rw [carries]
    simpa using List.find?_some first
  rw [← sought]
  rcases origin_of_region calls here with inserted | ⟨n, least, most, counted⟩
  · exact inserted
  · -- The handles counted so far are all below the next one.
    have same : (UInt64.ofNat n).toNat = (UInt64.ofNat (allocations calls + 1)).toNat := by
      rw [← counted, sought, nextHandle_run]
    rw [UInt64.toNat_ofNat', UInt64.toNat_ofNat', Nat.mod_eq_of_lt (by omega),
      Nat.mod_eq_of_lt lasting] at same
    omega

/-- The allocated region is new and found under the handle that is next in the count; all other
handles keep their regions. It displaces a region exactly if its handle is registered, which before
the count comes round only an insertion can have brought about. -/
theorem allocation_unless_taken (calls : List TableCall) (capacity : Nat) :
    let t := run calls
    let r := (t.allocate capacity).1
    let after := (t.allocate capacity).2
    r = { handle := .ofNat (allocations calls + 1), capacity } ∧
      t.region? t.regions.length = none ∧ after.find? r.handle = some t.regions.length ∧
      after.get? r.handle = some r ∧
      (∀ handle ≠ r.handle,
        after.find? handle = t.find? handle ∧ after.get? handle = t.get? handle) ∧
      after.size = (if (t.find? r.handle).isSome then t.size else t.size + 1) ∧
      (allocations calls + 1 < 2 ^ 64 → ∀ id, t.find? r.handle = some id →
        Inserted calls r.handle id) := by
  intro t r after
  have consistent : t.Consistent := consistent_run calls
  have counted : t.nextHandle = .ofNat (allocations calls + 1) := nextHandle_run calls
  have found (handle : UInt64) : after.find? handle =
      if handle = r.handle then some t.regions.length else t.find? handle :=
    find?_register { t with regions := t.regions ++ [r] } r.handle handle t.regions.length
  have place (id : RegionId) : after.region? id =
      if id = t.regions.length then some r else t.region? id := region?_append t r id
  have own := found r.handle
  rw [if_pos rfl] at own
  refine ⟨?_, List.getElem?_eq_none_iff.2 (Nat.le_refl _), own, ?_, ?_, ?_, ?_⟩
  · rw [← counted]
    rfl
  · rw [get?, own, Option.bind_some, place, if_pos rfl]
  · intro handle apart
    have same : after.find? handle = t.find? handle := by rw [found, if_neg apart]
    refine ⟨same, ?_⟩
    rw [get?, get?, same]
    cases registered : t.find? handle with
    | none => rfl
    | some id =>
      obtain ⟨slot, first, rfl⟩ := Option.map_eq_some_iff.1 registered
      obtain ⟨old, here, -⟩ := consistent.named slot (List.mem_of_find?_eq_some first)
      exact (region?_append_old here r).trans here.symm
  · exact size_register (consistent.append r) r.handle t.regions.length
  · intro lasting id taken
    exact inserted_of_uncounted lasting taken

/-- A region that was inserted under the first handle is lost to the first allocation. -/
theorem inserted_region_displaced :
    let t := run [.insert { handle := 1, capacity := 4 } (Nat.zero_le _)]
    t.get? 1 = some { handle := 1, capacity := 4 } ∧
      (t.allocate 8).1 = { handle := 1, capacity := 8 } ∧
      (t.allocate 8).2.get? 1 = some { handle := 1, capacity := 8 } ∧
      (t.allocate 8).2.size = t.size := by
  decide

end RegionTable

end CodecLink
