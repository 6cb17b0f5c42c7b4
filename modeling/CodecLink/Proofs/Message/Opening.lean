import CodecLink.Proofs.Json.Members
import CodecLink.Proofs.Message.Payloads

/-! What opens a session reads back as the configuration it was written for, and so does every text
that differs from it in blanks, in the order of keys and in keys of no meaning; a repeated key or a
text that goes on is refused. -/
namespace CodecLink

theorem Backend.ofJson?_text (backend : Backend) {name : Json.Text}
    (means : name.Means backend.name.toList) : ofJson? (.text name) = some backend := by
  have named : ofName? backend.name = some backend := by
    cases backend <;> decide
  rw [ofJson?, means.decode?, String.ofList_toList, Option.bind_some, named]

namespace Completion

open Json

/-- The keys of the object that a completion is written as. -/
def keys : Completion → List String
  | roundTrip _ => ["mode", "timeout_ms"]
  | polling _ _ => ["mode", "interval_ms", "max_polls"]

def fields (mode : Json.Text) : Completion → Fields
  | roundTrip timeoutMs => [("mode", text mode), ("timeout_ms", ofNat timeoutMs.toNat)]
  | polling intervalMs maxPolls =>
    [("mode", text mode), ("interval_ms", ofNat intervalMs.toNat),
      ("max_polls", ofNat maxPolls.toNat)]

/-- An object that says how completion is learnt: its own fields in any order, and others of no
meaning. -/
def Writes (completion : Completion) (value : Json) : Prop :=
  ∃ mode : Json.Text, mode.Means completion.name.toList ∧
    Among completion.keys (completion.fields mode) value

theorem plain_fields (completion : Completion) (mode : Json.Text) :
    ∀ field ∈ completion.fields mode, field.1 = "mode" ∨ field.2.isPlain maxDepth = true := by
  have plain {n : Nat} (small : n < 2 ^ 64) : (ofNat n).isPlain maxDepth = true :=
    Number.inRange_ofNat small
  cases completion with
  | roundTrip timeoutMs =>
    simp [fields, plain timeoutMs.toNat_lt]
  | polling intervalMs maxPolls =>
    simp [fields, plain intervalMs.toNat_lt, plain (Nat.lt_trans maxPolls.toNat_lt (by decide))]

theorem ofJson?_writes {completion : Completion} {value : Json}
    (writes : completion.Writes value) : ofJson? value = some completion := by
  obtain ⟨mode, means, extra, strange, listed, members, perm, named, rfl⟩ := writes
  have foreign : ∀ field ∈ extra, field.1 ∉ completion.keys := fun field there =>
    (strange field there).1
  have found {key : String} {value : Json} (known : key ∈ completion.keys)
      (own : valuesOf key (completion.fields mode) = [value]) : required? key listed = some value :=
    required?_perm perm ((valuesOf_append foreign known _).trans own)
  have plain : listed.all (fun field => field.1 == "mode" || field.2.isPlain maxDepth) = true := by
    rw [List.all_eq_true]
    intro field there
    rw [Bool.or_eq_true, beq_iff_eq]
    rcases List.mem_append.1 (perm.mem_iff.1 there) with own | other
    · exact plain_fields completion mode field own
    · exact .inr ((strange field other).2.isPlain (by decide))
  have first : required? "mode" listed = some (text mode) := by
    cases completion <;> exact found (by simp [keys]) rfl
  rw [ofJson?, decodeKeys_names named]
  simp only [Option.bind_eq_bind, Option.bind_some, first, string?, means.decode?,
    String.ofList_toList, plain, if_true]
  cases completion with
  | roundTrip timeoutMs =>
    have timeout : required? "timeout_ms" listed = some (ofNat timeoutMs.toNat) :=
      found (by simp [keys]) rfl
    have read : (ofNat timeoutMs.toNat).unsigned? 0xFFFFFFFFFFFFFFFF = some timeoutMs.toNat :=
      Number.unsigned?_ofNat (Nat.le_sub_one_of_lt timeoutMs.toNat_lt)
    simp [name, fieldNames, timeout, ofFields?, read]
  | polling intervalMs maxPolls =>
    have interval : required? "interval_ms" listed = some (ofNat intervalMs.toNat) :=
      found (by simp [keys]) rfl
    have polls : required? "max_polls" listed = some (ofNat maxPolls.toNat) :=
      found (by simp [keys]) rfl
    have read : (ofNat intervalMs.toNat).unsigned? 0xFFFFFFFFFFFFFFFF = some intervalMs.toNat :=
      Number.unsigned?_ofNat (Nat.le_sub_one_of_lt intervalMs.toNat_lt)
    have read_polls : (ofNat maxPolls.toNat).unsigned? 0xFFFFFFFF = some maxPolls.toNat :=
      Number.unsigned?_ofNat (Nat.le_sub_one_of_lt maxPolls.toNat_lt)
    simp [name, fieldNames, interval, polls, ofFields?, read, read_polls]

theorem ofJson?_repeated {completion : Completion} {mode : Text} {given : Fields} {value : Json}
    (means : mode.Means completion.name.toList) (tagged : ("mode", text mode) ∈ given)
    (repeats : Repeats completion.keys given) (object : IsObject given value) :
    ofJson? value = none := by
  obtain ⟨listed, members, perm, spelled, rfl⟩ := object
  obtain ⟨key, known, refused, -⟩ := repeats.refused perm
  rw [ofJson?, decodeKeys_names spelled]
  cases found : required? "mode" listed with
  | none => simp [found]
  | some tag =>
    obtain rfl := required?_unique (perm.mem_iff.2 tagged) found
    -- The mode stands once and is the tag, so the repeated key is one that this mode reads.
    have other : key ≠ "mode" := by
      rintro rfl
      rw [found] at refused
      cases refused
    simp only [Option.bind_eq_bind, Option.bind_some, found, string?, means.decode?,
      String.ofList_toList]
    split
    · cases completion with
      | roundTrip timeoutMs =>
        obtain rfl : key = "timeout_ms" := by simpa [keys, other] using known
        simp [name, fieldNames, refused]
      | polling intervalMs maxPolls =>
        have either : key = "interval_ms" ∨ key = "max_polls" := by simpa [keys, other] using known
        rcases either with rfl | rfl
        · simp [name, fieldNames, refused]
        · cases required? "interval_ms" listed <;> simp [name, fieldNames, refused]
    · rfl

theorem writes_toJson (completion : Completion) : completion.Writes completion.toJson := by
  refine ⟨.ofString completion.name, Text.means_ofString _, [], by simp, ?_⟩
  rw [List.append_nil]
  cases completion <;> exact isObject_ofFields (List.Perm.refl _)

end Completion

namespace SessionConfig

theorem ordinary_vocabulary : ∀ s ∈ vocabulary, ∀ b ∈ Utf8.encode s, Json.IsOrdinary b := by
  decide +kernel

/-- The keys of the object that a configuration is written as. -/
def keys : List String := ["backend", "completion"]

/-- An object for the configuration: its two fields in any order, and others of no meaning. -/
def Writes (config : SessionConfig) (value : Json) : Prop :=
  ∃ (name : Json.Text) (completion : Json), name.Means config.backend.name.toList ∧
    config.completion.Writes completion ∧
    Json.Among keys [("backend", .text name), ("completion", completion)] value

variable {config : SessionConfig} {value : Json}

/-- The completion is the default one unless it is given. -/
theorem ofJson?_object {fields : Json.Fields} {backend : Backend} {name : Json.Text}
    (object : Json.IsObject fields value) (means : name.Means backend.name.toList)
    (named : Json.valuesOf "backend" fields = [.text name])
    (most : (Json.valuesOf "completion" fields).length ≤ 1) :
    ofJson? value = match (Json.valuesOf "completion" fields).head? with
      | none => some { backend }
      | some completion => (Completion.ofJson? completion).map ({ backend, completion := · }) := by
  obtain ⟨listed, members, perm, spelled, rfl⟩ := object
  rw [ofJson?, Json.decodeKeys_names spelled]
  simp only [Option.bind_eq_bind, Option.bind_some, Json.required?_perm perm named,
    backend.ofJson?_text means, Json.optional?_perm perm most]
  cases (Json.valuesOf "completion" fields).head? with
  | none => rfl
  | some completion => cases own : Completion.ofJson? completion <;> simp [own]

theorem ofJson?_writes (writes : config.Writes value) : ofJson? value = some config := by
  obtain ⟨name, completion, means, inner, extra, strange, object⟩ := writes
  have only (key : String) (known : key ∈ keys) :=
    Json.valuesOf_append (fun field there => (strange field there).1) known
      [("backend", .text name), ("completion", completion)]
  have given := only "completion" (by simp [keys])
  have most : (Json.valuesOf "completion" ([("backend", .text name), ("completion", completion)] ++
      extra)).length ≤ 1 := by rw [given]; exact Nat.le_refl 1
  rw [ofJson?_object object means (only "backend" (by simp [keys])) most, given]
  simp [Json.valuesOf, Completion.ofJson?_writes inner]

theorem ofJson?_default {backend : Backend} {name : Json.Text}
    (means : name.Means backend.name.toList)
    (among : Json.Among keys [("backend", .text name)] value) :
    ofJson? value = some { backend } := by
  obtain ⟨extra, strange, object⟩ := among
  have only (key : String) (known : key ∈ keys) :=
    Json.valuesOf_append (fun field there => (strange field there).1) known
      [("backend", .text name)]
  have left_out := only "completion" (by simp [keys])
  have none_given :
      (Json.valuesOf "completion" ([("backend", .text name)] ++ extra)).length ≤ 1 := by
    rw [left_out]
    exact Nat.zero_le 1
  rw [ofJson?_object object means (only "backend" (by simp [keys])) none_given, left_out]
  rfl

theorem ofJson?_repeated {fields : Json.Fields} (repeats : Json.Repeats keys fields)
    (object : Json.IsObject fields value) : ofJson? value = none := by
  obtain ⟨listed, members, perm, spelled, rfl⟩ := object
  obtain ⟨key, known, required, optional⟩ := repeats.refused perm
  rw [ofJson?, Json.decodeKeys_names spelled]
  have either : key = "backend" ∨ key = "completion" := by simpa [keys] using known
  rcases either with rfl | rfl
  · simp [required]
  · simp [optional]

theorem ofJson?_refused {fields : Json.Fields} {completion : Json}
    (given : ("completion", completion) ∈ fields) (object : Json.IsObject fields value)
    (refused : Completion.ofJson? completion = none) : ofJson? value = none := by
  obtain ⟨listed, members, perm, spelled, rfl⟩ := object
  rw [ofJson?, Json.decodeKeys_names spelled]
  cases found : Json.optional? "completion" listed with
  | none => simp [found]
  | some own =>
    obtain rfl := Json.optional?_unique (perm.mem_iff.2 given) found
    simp [found, refused]

theorem writes_toJson (config : SessionConfig) : config.Writes config.toJson := by
  refine ⟨.ofString config.backend.name, config.completion.toJson, Json.Text.means_ofString _,
    config.completion.writes_toJson, [], by simp, ?_⟩
  rw [List.append_nil]
  exact Json.isObject_ofFields (List.Perm.refl _)

theorem layout_toPayload (config : SessionConfig) :
    Json.Layout config.toJson.tokens config.toPayload := by
  have text {s : String} (member : s ∈ vocabulary) :
      (Json.Token.text (.ofString s)).Spelled (Json.Token.text (.ofString s)).write :=
    Json.Token.spelled_ofString (ordinary_vocabulary s member)
  refine @Json.layout_write _ [] (by simp) ?_
  obtain ⟨backend, completion⟩ := config
  have name := text (name_vocabulary backend)
  cases completion with
  | roundTrip timeoutMs =>
    simp [toJson, Completion.toJson, Json.ofFields, Json.tokens, Json.memberTokens, Json.ofString,
      Json.ofNat, name, Json.Token.spelled_ofNat, Json.Token.Spelled.fixed]
    and_intros <;> exact text (by simp [vocabulary])
  | polling intervalMs maxPolls =>
    simp [toJson, Completion.toJson, Json.ofFields, Json.tokens, Json.memberTokens, Json.ofString,
      Json.ofNat, name, Json.Token.spelled_ofNat, Json.Token.Spelled.fixed]
    and_intros <;> exact text (by simp [vocabulary])

/-- An object is read however it is laid out, and nothing may stand behind it. -/
theorem ofPayload?_layout {fields : Json.Fields} {bs : Bytes} (object : Json.IsObject fields value)
    (layout : Json.Layout value.tokens bs) :
    ofPayload? bs = ofJson? value ∧
      ∀ more, (∃ b ∈ more, Json.isBlank b = false) → ofPayload? (bs ++ more) = none := by
  obtain ⟨listed, members, -, -, rfl⟩ := object
  obtain ⟨whole, beyond⟩ := Json.parse_object layout
  refine ⟨by rw [ofPayload?, whole, Option.bind_some], fun more dark => ?_⟩
  rw [ofPayload?, beyond more dark, Option.bind_none]

theorem ofPayload?_writes {bs : Bytes} (writes : config.Writes value)
    (layout : Json.Layout value.tokens bs) :
    ofPayload? bs = some config ∧
      ∀ more, (∃ b ∈ more, Json.isBlank b = false) → ofPayload? (bs ++ more) = none := by
  have read := ofJson?_writes writes
  obtain ⟨name, completion, -, -, extra, -, object⟩ := writes
  rw [← read]
  exact ofPayload?_layout object layout

/-- What opens a session is read back as the configuration that it was written for. -/
theorem ofPayload?_toPayload (config : SessionConfig) :
    ofPayload? config.toPayload = some config :=
  (ofPayload?_writes config.writes_toJson config.layout_toPayload).1

theorem isEmpty_toPayload (config : SessionConfig) : config.toPayload.isEmpty = false := by
  cases written : config.toPayload with
  | nil =>
    have read := ofPayload?_toPayload config
    have unread : ofPayload? [] = none := by decide +kernel
    rw [written, unread] at read
    cases read
  | cons b bs => rfl

/-- The format of what opens a session. It is read back, and so is every other text for the same
configuration, with blanks, with keys in any order and with more keys; only blanks may follow. Where
a key stands twice the text is refused, and the completion may be left out. -/
theorem payload_format (config : SessionConfig) :
    ofPayload? config.toPayload = some config ∧
      (config.Writes config.toJson ∧ Json.Layout config.toJson.tokens config.toPayload) ∧
      (∀ value bs, config.Writes value → Json.Layout value.tokens bs →
        ofPayload? bs = some config ∧
          ∀ more, (∃ b ∈ more, Json.isBlank b = false) → ofPayload? (bs ++ more) = none) ∧
      (∀ fields value bs, Json.Repeats keys fields → Json.IsObject fields value →
        Json.Layout value.tokens bs → ofPayload? bs = none) ∧
      (∀ (mode : Json.Text) inner completion fields value bs,
        mode.Means config.completion.name.toList → ("mode", .text mode) ∈ inner →
        Json.Repeats config.completion.keys inner → Json.IsObject inner completion →
        ("completion", completion) ∈ fields → Json.IsObject fields value →
        Json.Layout value.tokens bs → ofPayload? bs = none) ∧
      ∀ (name : Json.Text) value bs, name.Means config.backend.name.toList →
        Json.Among keys [("backend", .text name)] value → Json.Layout value.tokens bs →
        ofPayload? bs = some { backend := config.backend, completion := .defaultPolling } := by
  refine ⟨config.ofPayload?_toPayload, ⟨config.writes_toJson, config.layout_toPayload⟩,
    fun value bs writes layout => ofPayload?_writes writes layout, ?_, ?_, ?_⟩
  · intro fields value bs repeats object layout
    rw [(ofPayload?_layout object layout).1]
    exact ofJson?_repeated repeats object
  · intro mode inner completion fields value bs means tagged repeats within given object layout
    rw [(ofPayload?_layout object layout).1]
    exact ofJson?_refused given object (Completion.ofJson?_repeated means tagged repeats within)
  · intro name value bs means among layout
    have read := ofJson?_default means among
    obtain ⟨extra, -, object⟩ := among
    rw [(ofPayload?_layout object layout).1, read]

/-- With a blank before each word and each object's keys the other way round, among them a key of
the other mode. -/
theorem payload_format_rearranged :
    let completion := Json.ofFields [("timeout_ms", .array [.null, .bool true]),
      ("max_polls", .ofNat 7), ("interval_ms", .ofNat 5), ("mode", .ofString "polling")]
    let value := Json.ofFields [("x", .null), ("completion", completion),
      ("backend", .ofString "h264_decoder")]
    let spaced := value.tokens.flatMap fun token => [32] ++ token.write
    ofPayload? spaced = some ⟨.h264Decoder, .polling 5 7⟩ ∧
      ofPayload? (spaced ++ [120]) = none := by
  intro completion value spaced
  have plain : ∀ s ∈ "x" :: vocabulary, ∀ b ∈ Utf8.encode s, Json.IsOrdinary b := by
    decide +kernel
  have text {s : String} (member : s ∈ "x" :: vocabulary) :
      (Json.Token.text (.ofString s)).Spelled (Json.Token.text (.ofString s)).write :=
    Json.Token.spelled_ofString (plain s member)
  have layout : Json.Layout value.tokens spaced := by
    refine Json.layout_write (by simp [Json.isBlank]) ?_
    simp [value, completion, Json.ofFields, Json.tokens, Json.memberTokens, Json.itemTokens,
      Json.ofString, Json.ofNat, Json.Token.spelled_ofNat, Json.Token.Spelled.fixed]
    and_intros <;> exact text (by simp [vocabulary, Backend.all, Backend.name])
  have inner : Completion.Writes (.polling 5 7) completion := by
    refine ⟨.ofString "polling", Json.Text.means_ofString _,
      [("timeout_ms", .array [.null, .bool true])], ?_,
      Json.isObject_ofFields (List.reverse_perm _).symm⟩
    intro field member
    rw [List.mem_singleton.1 member]
    refine ⟨by decide, .array ?_⟩
    simp [Json.Filler.null, Json.Filler.bool]
  have writes : Writes ⟨.h264Decoder, .polling 5 7⟩ value := by
    refine ⟨.ofString "h264_decoder", completion, Json.Text.means_ofString _, inner,
      [("x", .null)], ?_, Json.isObject_ofFields (List.reverse_perm _).symm⟩
    intro field member
    rw [List.mem_singleton.1 member]
    exact ⟨by decide, .null⟩
  obtain ⟨read, beyond⟩ := (payload_format ⟨.h264Decoder, .polling 5 7⟩).2.2.1 value spaced writes
    layout
  exact ⟨read, beyond [120] ⟨120, by decide, by decide⟩⟩

end SessionConfig

end CodecLink
