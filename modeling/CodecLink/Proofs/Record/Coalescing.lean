import CodecLink.Record.Pending

/-! What several requests for one record come to while it waits for delivery. A group of fields has
the values of the last request whose change word names it, and those of the first request if no
later one does; the change words are joined. Rate control and the supplemental mode have no groups,
so the last request's fields stand. -/
namespace CodecLink

section

variable {α β : Type}

/-- A field as the last request that names its group has it, or else as the first has it. -/
def lastNamed (names : α → Bool) (field : α → β) (first : α) (later : List α) : β :=
  field ((later.filter names).getLastD first)

theorem lastNamed_concat (names : α → Bool) (field : α → β) (first new : α) (later : List α) :
    lastNamed names field first (later ++ [new]) =
      if names new then field new else lastNamed names field first later := by
  cases named : names new <;> simp [lastNamed, named]

def joined [OrOp β] (change : α → β) (first : α) (later : List α) : β :=
  later.foldl (fun word r => word ||| change r) (change first)

theorem joined_concat [OrOp β] (change : α → β) (first new : α) (later : List α) :
    joined change first (later ++ [new]) = joined change first later ||| change new := by
  simp [joined]

end

namespace Prep

def coalesce (first : Prep) (later : List Prep) : Prep :=
  let ofInput (field : Prep → UInt16) := lastNamed (·.names inputBit) field first later
  { change := joined change first later
    width := ofInput width
    height := ofInput height
    horStride := ofInput horStride
    verStride := ofInput verStride
    format := lastNamed (·.names formatBit) format first later }

theorem coalesce_concat (first new : Prep) (later : List Prep) :
    coalesce first (later ++ [new]) = (coalesce first later).merge new := by
  simp only [coalesce, merge, joined_concat, lastNamed_concat]

end Prep

namespace RateControl

def coalesce (first : RateControl) (later : List RateControl) : RateControl :=
  { later.getLastD first with change := joined change first later }

theorem coalesce_concat (first new : RateControl) (later : List RateControl) :
    coalesce first (later ++ [new]) = (coalesce first later).merge new := by
  simp [coalesce, merge, joined_concat]

end RateControl

namespace H264

def coalesce (first : H264) (later : List H264) : H264 :=
  let of {β : Type} (bit : Nat) (field : H264 → β) := lastNamed (·.names bit) field first later
  { change := joined change first later
    profile := of profileBit profile
    level := of profileBit level
    entropy := of entropyBit entropy
    cabacInitIdc := of entropyBit cabacInitIdc
    transform8x8 := of transformBit transform8x8
    constrainedIntra := of intraBit constrainedIntra
    qpInit := of qpBit qpInit
    qpMax := of qpBit qpMax
    qpMin := of qpBit qpMin
    qpMaxStep := of qpBit qpMaxStep }

theorem coalesce_concat (first new : H264) (later : List H264) :
    coalesce first (later ++ [new]) = (coalesce first later).merge new := by
  simp only [coalesce, merge, joined_concat, lastNamed_concat]

end H264

namespace Jpeg

def coalesce (first : Jpeg) (later : List Jpeg) : Jpeg :=
  { change := joined change first later
    quant := lastNamed (·.names quantBit) quant first later }

theorem coalesce_concat (first new : Jpeg) (later : List Jpeg) :
    coalesce first (later ++ [new]) = (coalesce first later).join new := by
  simp only [coalesce, join, joined_concat, lastNamed_concat]

end Jpeg

namespace ConfigRequest

def prep? : ConfigRequest → Option Prep
  | prep r => some r
  | rc _ | codec _ | sei _ => none

def rc? : ConfigRequest → Option RateControl
  | rc r => some r
  | prep _ | codec _ | sei _ => none

def h264? : ConfigRequest → Option H264
  | codec (.h264 r) => some r
  | codec (.jpeg _) | prep _ | rc _ | sei _ => none

def jpeg? : ConfigRequest → Option Jpeg
  | codec (.jpeg r) => some r
  | codec (.h264 _) | prep _ | rc _ | sei _ => none

def sei? : ConfigRequest → Option UInt32
  | sei mode => some mode
  | prep _ | rc _ | codec _ => none

/-- What the first request and those after it come to; requests for another record count for
nothing. -/
def coalesce (first : ConfigRequest) (later : List ConfigRequest) : ConfigRequest :=
  match first with
  | prep first => prep (first.coalesce (later.filterMap prep?))
  | rc first => rc (first.coalesce (later.filterMap rc?))
  | codec (.h264 first) => codec (.h264 (first.coalesce (later.filterMap h264?)))
  | codec (.jpeg first) => codec (.jpeg (first.coalesce (later.filterMap jpeg?)))
  | sei first => sei ((later.filterMap sei?).getLastD first)

theorem coalesce_nil (request : ConfigRequest) : coalesce request [] = request := by
  rcases request with r | r | (r | r) | mode <;> rfl

/-- One more request for a record that waits; a request for another record changes nothing. -/
def join : ConfigRequest → ConfigRequest → ConfigRequest
  | prep old, prep new => prep (old.merge new)
  | rc old, rc new => rc (old.merge new)
  | codec (.h264 old), codec (.h264 new) => codec (.h264 (old.merge new))
  | codec (.jpeg old), codec (.jpeg new) => codec (.jpeg (old.join new))
  | sei _, sei new => sei new
  | old, _ => old

theorem coalesce_concat (first new : ConfigRequest) (later : List ConfigRequest) :
    coalesce first (later ++ [new]) = (coalesce first later).join new := by
  rcases first with f | f | (f | f) | f <;> rcases new with n | n | (n | n) | n <;>
    simp [coalesce, join, List.filterMap_cons, prep?, rc?, h264?, jpeg?, sei?, Prep.coalesce_concat,
      RateControl.coalesce_concat, H264.coalesce_concat, Jpeg.coalesce_concat]

def suits (codec : Codec) : ConfigRequest → Bool
  | .codec r => r.codec = codec
  | _ => true

end ConfigRequest

namespace ConfigSet

def stored (set : ConfigSet) : RecordKind → ConfigRequest
  | .prep => .prep set.prep
  | .rc => .rc set.rc
  | .codec => .codec set.codec
  | .sei => .sei set.sei

@[simp] theorem encode_stored (set : ConfigSet) (kind : RecordKind) :
    (set.stored kind).encode = set.encoded kind := by
  cases kind <;> rfl

@[simp] theorem kind_stored (set : ConfigSet) (kind : RecordKind) :
    (set.stored kind).kind = kind := by
  cases kind <;> rfl

theorem suits_stored {set : ConfigSet} {codec : Codec} (fits : set.codec.codec = codec)
    (kind : RecordKind) : (set.stored kind).suits codec = true := by
  cases kind with
  | codec => exact decide_eq_true fits
  | prep | rc | sei => rfl

@[simp] theorem stored_delivered (set : ConfigSet) (kind : RecordKind) :
    (set.delivered kind).stored = set.stored := by
  funext other
  cases other <;> rfl

theorem record_ok_iff (set : ConfigSet) (request : ConfigRequest) :
    (∃ after, set.record request = .ok after) ↔ request.suits set.codec.codec := by
  rcases request with r | r | r | mode
  · simp [record, ConfigRequest.suits, bind, Except.bind, pure, Except.pure]
  · simp [record, ConfigRequest.suits, bind, Except.bind, pure, Except.pure]
  · cases own : set.codec <;> cases r <;>
      simp [record, recordCodec, own, ConfigRequest.suits, CodecRecord.codec, bind, Except.bind,
        pure, Except.pure]
  · simp [record, ConfigRequest.suits, bind, Except.bind, pure, Except.pure]

/-- All that recording does: the request's own record takes it in, and then waits. -/
theorem record_ok {set after : ConfigSet} {request : ConfigRequest}
    (recorded : set.record request = .ok after) :
    after.pending = set.pending.insert request.kind ∧ after.codec.codec = set.codec.codec ∧
      ∀ kind, after.stored kind =
        if kind = request.kind then
          if set.pending.has kind then (set.stored kind).join request else request
        else set.stored kind := by
  rcases request with r | r | r | mode
  · cases recorded
    refine ⟨rfl, rfl, fun kind => ?_⟩
    cases waits : set.pending.prep <;> cases kind <;>
      simp [recordPrep, stored, ConfigRequest.kind, ConfigRequest.join, RecordSet.has, waits]
  · cases recorded
    refine ⟨rfl, rfl, fun kind => ?_⟩
    cases waits : set.pending.rc <;> cases kind <;>
      simp [recordRc, stored, ConfigRequest.kind, ConfigRequest.join, RecordSet.has, waits]
  · cases own : set.codec <;> cases r <;>
      simp only [record, recordCodec, own, bind, Except.bind, pure, Except.pure] at recorded <;>
      cases recorded
    all_goals
      refine ⟨rfl, rfl, fun kind => ?_⟩
      cases waits : set.pending.codec <;> cases kind <;>
        simp [stored, own, ConfigRequest.kind, ConfigRequest.join, RecordSet.has, waits]
  · cases recorded
    refine ⟨rfl, rfl, fun kind => ?_⟩
    cases kind <;> simp [stored, ConfigRequest.kind, ConfigRequest.join]

end ConfigSet

end CodecLink
