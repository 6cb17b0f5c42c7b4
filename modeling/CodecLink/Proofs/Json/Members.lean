import Mathlib.Algebra.Ring.Int.Defs
import Mathlib.Data.List.Forall2
import CodecLink.Proofs.Json.Numbers
import CodecLink.Proofs.Json.Reading
import CodecLink.SessionConfig.Payload

/-! What is read from an object: fields in any order, each key once, among others of no meaning. -/
namespace CodecLink.Json

/-- The member has the field's value, and its key however it is spelled. -/
def Names (field : String × Json) (member : Text × Json) : Prop :=
  member.1.Means field.1.toList ∧ member.2 = field.2

/-- An object of these fields, in any order. -/
def IsObject (fields : Fields) (value : Json) : Prop :=
  ∃ listed members, listed.Perm fields ∧ List.Forall₂ Names listed members ∧ value = object members

def ofInt (i : Int) : Json := number { negative := i < 0, whole := Numeral.digits i.natAbs }

/-- A value of no meaning, with at most so many lists and objects inside one another. -/
inductive Filler : Nat → Json → Prop
  | null {depth : Nat} : Filler depth null
  | bool {depth : Nat} (value : Bool) : Filler depth (bool value)
  | integer {depth : Nat} {i : Int} (least : -2 ^ 63 ≤ i) (most : i < 2 ^ 64) :
      Filler depth (ofInt i)
  | text {depth : Nat} {cs : List Char} {t : Text} (means : t.Means cs) : Filler depth (text t)
  | array {depth : Nat} {items : List Json} (inner : ∀ item ∈ items, Filler depth item) :
      Filler (depth + 1) (array items)
  | object {depth : Nat} {members : List (Text × Json)}
      (keys : ∀ member ∈ members, ∃ cs, member.1.Means cs)
      (inner : ∀ member ∈ members, Filler depth member.2) : Filler (depth + 1) (object members)

/-- An object of these fields among others, whose keys are not known. -/
def Among (known : List String) (fields : Fields) (value : Json) : Prop :=
  ∃ extra : Fields, (∀ field ∈ extra, field.1 ∉ known ∧ Filler 99 field.2) ∧
    IsObject (fields ++ extra) value

theorem decodeKeys_names {fields : Fields} {members : List (Text × Json)}
    (named : List.Forall₂ Names fields members) : decodeKeys members = some fields := by
  induction named with
  | nil => rfl
  | @cons field member fields members own _ ih =>
    obtain ⟨means, same⟩ := own
    have key : member.1.decode? = some field.1 := by rw [means.decode?, String.ofList_toList]
    rw [decodeKeys] at ih ⊢
    simp [key, ih, same]

theorem isObject_ofFields {listed fields : Fields} (perm : listed.Perm fields) :
    IsObject fields (ofFields listed) := by
  refine ⟨listed, _, perm, ?_, rfl⟩
  rw [List.forall₂_map_right_iff, List.forall₂_same]
  exact fun field _ => ⟨Text.means_ofString field.1, rfl⟩

theorem Filler.isPlain {depth most : Nat} {value : Json} (filler : Filler depth value)
    (shallow : depth ≤ most) : value.isPlain most = true := by
  induction filler generalizing most with
  | null => simp [Json.isPlain]
  | bool value => simp [Json.isPlain]
  | @integer depth i least below =>
    have small : i.natAbs < 2 ^ 64 := by omega
    have unsigned : Number.inRange { negative := i < 0, whole := Numeral.digits i.natAbs } =
        (Number.ofNat i.natAbs).inRange := rfl
    simp only [ofInt, Json.isPlain, unsigned, Number.inRange_ofNat small]
  | text means =>
    simp [Json.isPlain, means.decode?]
  | array inner ih =>
    obtain ⟨most, rfl⟩ : ∃ less, most = less + 1 := ⟨most - 1, by omega⟩
    rw [Json.isPlain, List.all_eq_true]
    exact fun item member => ih item member (Nat.le_of_succ_le_succ shallow)
  | object keys inner ih =>
    obtain ⟨most, rfl⟩ : ∃ less, most = less + 1 := ⟨most - 1, by omega⟩
    rw [Json.isPlain, List.all_eq_true]
    intro member listed
    obtain ⟨cs, means⟩ := keys member listed
    have plain := ih member listed (Nat.le_of_succ_le_succ shallow)
    simp [means.decode?, plain]

theorem mem_valuesOf {key : String} {value : Json} {fields : Fields}
    (there : (key, value) ∈ fields) : value ∈ valuesOf key fields :=
  List.mem_map.2 ⟨(key, value), List.mem_filter.2 ⟨there, by simp⟩, rfl⟩

theorem required?_unique {key : String} {value found : Json} {fields : Fields}
    (there : (key, value) ∈ fields) (read : required? key fields = some found) : found = value := by
  have own := mem_valuesOf there
  rw [required?] at read
  split at read
  · rename_i alone
    cases read
    rw [alone, List.mem_singleton] at own
    exact own.symm
  · cases read

theorem optional?_unique {key : String} {value : Json} {found : Option Json} {fields : Fields}
    (there : (key, value) ∈ fields) (read : optional? key fields = some found) :
    found = some value := by
  have own := mem_valuesOf there
  rw [optional?] at read
  split at read
  · rename_i absent
    rw [absent] at own
    cases own
  · rename_i alone
    cases read
    rw [alone, List.mem_singleton] at own
    rw [own]
  · cases read

theorem valuesOf_perm {listed fields : Fields} (perm : listed.Perm fields) (key : String) :
    (valuesOf key listed).Perm (valuesOf key fields) :=
  (perm.filter _).map _

theorem required?_perm {listed fields : Fields} (perm : listed.Perm fields) {key : String}
    {value : Json} (once : valuesOf key fields = [value]) : required? key listed = some value := by
  have own := valuesOf_perm perm key
  rw [once, List.perm_singleton] at own
  rw [required?, own]

theorem optional?_perm {listed fields : Fields} (perm : listed.Perm fields) {key : String}
    (most : (valuesOf key fields).length ≤ 1) :
    optional? key listed = some (valuesOf key fields).head? := by
  have own := valuesOf_perm perm key
  rw [optional?]
  match values : valuesOf key fields with
  | [] =>
    rw [values, List.perm_nil] at own
    rw [own]
    rfl
  | [value] =>
    rw [values, List.perm_singleton] at own
    rw [own]
    rfl
  | first :: second :: rest =>
    rw [values] at most
    simp at most

theorem length_valuesOf (key : String) (fields : Fields) :
    (valuesOf key fields).length = (fields.map (·.1)).count key := by
  rw [valuesOf, List.length_map, List.count, List.countP_map, List.countP_eq_length_filter]
  rfl

/-- One of these keys stands twice or more. -/
def Repeats (known : List String) (fields : Fields) : Prop :=
  ∃ key ∈ known, 2 ≤ (fields.map (·.1)).count key

/-- A key given twice is refused, wherever it stands. -/
theorem Repeats.refused {known : List String} {listed fields : Fields}
    (repeats : Repeats known fields) (perm : listed.Perm fields) :
    ∃ key ∈ known, required? key listed = none ∧ optional? key listed = none := by
  obtain ⟨key, member, twice⟩ := repeats
  refine ⟨key, member, ?_⟩
  have long := (valuesOf_perm perm key).length_eq
  rw [length_valuesOf key fields] at long
  rw [required?, optional?]
  match values : valuesOf key listed with
  | [] | [value] =>
    rw [values] at long
    simp at long
    omega
  | first :: second :: rest => exact ⟨rfl, rfl⟩

theorem valuesOf_append {key : String} {known : List String} {extra : Fields}
    (strange : ∀ field ∈ extra, field.1 ∉ known) (member : key ∈ known) (fields : Fields) :
    valuesOf key (fields ++ extra) = valuesOf key fields := by
  have none_own : extra.filter (fun field => field.1 == key) = [] := by
    rw [List.filter_eq_nil_iff]
    intro field there same
    exact strange field there (by simpa [beq_iff_eq.1 same] using member)
  rw [valuesOf, List.filter_append, none_own, List.append_nil]
  rfl

end CodecLink.Json
