import CodecLink.Proofs.Record.Reference

/-! What a request leaves of a record that waits for delivery. Fields that the request does not name
stay as they were, with one exception: rate control knows no groups of fields, so a request for it
leaves nothing but the change word, whatever it names. -/
namespace CodecLink

/-- A request that names nothing overwrites nothing. -/
theorem FieldGroup.overwrite_unnamed {α : Type} {names : Nat → Bool}
    (unnamed : ∀ bit, names bit = false) (groups : List (FieldGroup α)) (new old : α) :
    overwrite groups names new old = old := by
  induction groups with
  | nil => rfl
  | cons group groups ih =>
    rw [overwrite, List.foldl_cons, unnamed, if_neg Bool.false_ne_true]
    exact ih

namespace Prep

/-- The groups of fields that the newer record names are the newer record's, and the change words
are joined. -/
def overlay (old new : Prep) : Prep :=
  { FieldGroup.overwrite groups new.names new old with change := old.change ||| new.change }

theorem overlay_eq (old new : Prep) : old.overlay new = old.merge new := by
  rw [overlay, overwrite_eq]
  rfl

theorem overlay_unnamed {new : Prep} (unnamed : new.change = 0) (old : Prep) :
    old.overlay new = old := by
  have silent (bit : Nat) : new.names bit = false := by
    rw [names, unnamed]
    exact Nat.zero_testBit bit
  rw [overlay, FieldGroup.overwrite_unnamed silent, unnamed, UInt16.or_zero]

end Prep

namespace H264

def overlay (old new : H264) : H264 :=
  { FieldGroup.overwrite groups new.names new old with change := old.change ||| new.change }

theorem overlay_eq (old new : H264) : old.overlay new = old.merge new := by
  rw [overlay, overwrite_eq]
  rfl

theorem overlay_unnamed {new : H264} (unnamed : new.change = 0) (old : H264) :
    old.overlay new = old := by
  have silent (bit : Nat) : new.names bit = false := by
    rw [names, unnamed]
    exact Nat.zero_testBit bit
  rw [overlay, FieldGroup.overwrite_unnamed silent, unnamed, UInt32.or_zero]

end H264

namespace Jpeg

/-- The quant is stored as it was requested. -/
def storedGroups : List (FieldGroup Jpeg) :=
  [⟨quantBit, fun new old => { old with quant := new.quant }⟩]

def overlay (old new : Jpeg) : Jpeg :=
  { FieldGroup.overwrite storedGroups new.names new old with change := old.change ||| new.change }

theorem overlay_eq (old new : Jpeg) : old.overlay new = old.join new := by
  simp only [overlay, FieldGroup.overwrite, storedGroups, List.foldl_cons, List.foldl_nil, join]
  cases new.names quantBit <;> rfl

theorem overlay_unnamed {new : Jpeg} (unnamed : new.change = 0) (old : Jpeg) :
    old.overlay new = old := by
  have silent (bit : Nat) : new.names bit = false := by
    rw [names, unnamed]
    exact Nat.zero_testBit bit
  rw [overlay, FieldGroup.overwrite_unnamed silent, unnamed, UInt32.or_zero]

end Jpeg

namespace ConfigRequest

/-- The request is for a record that is divided into groups of fields, and names none of them. -/
def Unnamed : ConfigRequest → Prop
  | prep r => r.change = 0
  | codec (.h264 r) => r.change = 0
  | codec (.jpeg r) => r.change = 0
  | rc _ | sei _ => False

/-- A request laid over an older one for the same record. Rate control and the supplemental mode are
not divided into groups of fields. -/
def overlay : ConfigRequest → ConfigRequest → ConfigRequest
  | prep old, prep new => prep (old.overlay new)
  | rc old, rc new => rc { new with change := old.change ||| new.change }
  | codec (.h264 old), codec (.h264 new) => codec (.h264 (old.overlay new))
  | codec (.jpeg old), codec (.jpeg new) => codec (.jpeg (old.overlay new))
  | sei _, sei new => sei new
  | old, _ => old

theorem join_eq_overlay (old new : ConfigRequest) : old.join new = old.overlay new := by
  rcases old with o | o | (o | o) | o <;> rcases new with n | n | (n | n) | n <;>
    simp only [join, overlay, Prep.overlay_eq, RateControl.merge, H264.overlay_eq, Jpeg.overlay_eq]

theorem overlay_unnamed {new : ConfigRequest} (unnamed : new.Unnamed) (old : ConfigRequest) :
    old.overlay new = old := by
  rcases new with n | n | (n | n) | n
  · rcases old with o | o | (o | o) | o
    case prep => exact congrArg prep (Prep.overlay_unnamed unnamed o)
    all_goals rfl
  · exact unnamed.elim
  · rcases old with o | o | (o | o) | o
    case codec.h264 => exact congrArg (codec ∘ .h264) (H264.overlay_unnamed unnamed o)
    all_goals rfl
  · rcases old with o | o | (o | o) | o
    case codec.jpeg => exact congrArg (codec ∘ .jpeg) (Jpeg.overlay_unnamed unnamed o)
    all_goals rfl
  · exact unnamed.elim

end ConfigRequest

theorem RecordSet.insert_of_has {set : RecordSet} {kind : RecordKind} (here : set.has kind = true) :
    set.insert kind = set := by
  rcases set with ⟨prep, rc, codec, sei⟩
  cases kind <;> cases here <;> rfl

namespace ConfigSet

theorem ext_stored {set other : ConfigSet} (pending : set.pending = other.pending)
    (stored : set.stored = other.stored) : set = other := by
  have prep := ConfigRequest.prep.inj (congrFun stored .prep)
  have rc := ConfigRequest.rc.inj (congrFun stored .rc)
  have codec := ConfigRequest.codec.inj (congrFun stored .codec)
  have sei := ConfigRequest.sei.inj (congrFun stored .sei)
  rcases set with ⟨_, _, _, _, _⟩
  cases prep
  cases rc
  cases codec
  cases sei
  cases pending
  rfl

/-- A request for a record that waits is laid over it: the groups of fields that it names are
overwritten, the change words are joined, and everything else stays as it was. So a request that
names nothing changes nothing, unless it is one for rate control, whose fields are replaced
whatever the request names. -/
theorem waiting_fields_kept_unless_rate {set : ConfigSet} {request : ConfigRequest}
    (waits : set.pending.has request.kind = true) (suits : request.suits set.codec.codec = true) :
    ∃ after, set.record request = .ok after ∧ after.pending = set.pending ∧
      (∀ kind, after.stored kind =
        if kind = request.kind then (set.stored kind).overlay request else set.stored kind) ∧
      (request.Unnamed → after = set) := by
  obtain ⟨after, recorded⟩ := (set.record_ok_iff request).2 suits
  obtain ⟨pending, -, stored⟩ := record_ok recorded
  rw [RecordSet.insert_of_has waits] at pending
  have overlaid (kind : RecordKind) : after.stored kind =
      if kind = request.kind then (set.stored kind).overlay request else set.stored kind := by
    rw [stored kind]
    by_cases own : kind = request.kind
    · rw [if_pos own, if_pos own, own, if_pos waits, ConfigRequest.join_eq_overlay]
    · rw [if_neg own, if_neg own]
  refine ⟨after, recorded, pending, overlaid, fun unnamed => ext_stored pending ?_⟩
  funext kind
  rw [overlaid kind, ConfigRequest.overlay_unnamed unnamed, ite_self]

/-- A pixel format waits for delivery when the geometry is requested, with a bit that means
nothing. -/
theorem waiting_format_kept :
    let set : ConfigSet :=
      { blank .h264 with prep := { change := 4, format := 7 }, pending := { prep := true } }
    let request : ConfigRequest := .prep { Prep.input 1280 720 with change := 0x8001 }
    set.pending.has request.kind = true ∧ ∃ after, set.record request = .ok after ∧
      after.pending = set.pending ∧
      after.stored .prep = .prep { Prep.input 1280 720 with change := 0x8005, format := 7 } ∧
      after.stored .rc = set.stored .rc := by
  intro set request
  have waits : set.pending.has request.kind = true := rfl
  have suits : request.suits set.codec.codec = true := rfl
  obtain ⟨after, recorded, pending, overlaid, -⟩ := waiting_fields_kept_unless_rate waits suits
  exact ⟨waits, after, recorded, pending, (overlaid .prep).trans (by decide), overlaid .rc⟩

/-- A bit rate that waits for delivery is lost to a later request for rate control that names
nothing, and the joined change word still names it. -/
theorem waiting_rate_lost :
    let rate : RateControl := { change := 2, mode := 1, bpsTarget := 2000000, gop := 60 }
    let first := (blank .h264).record (.rc rate)
    let second := first >>= (·.record (.rc {}))
    first.toOption.map (·.rc) = some rate ∧
      first.toOption.map (·.pending.has .rc) = some true ∧
      second.toOption.map (·.rc.change) = some rate.change ∧
      second.toOption.map (·.rc.fields) ≠ some rate.fields := by
  decide +kernel

end ConfigSet

end CodecLink
