import CodecLink.Proofs.Json.Spelling

/-! Values are read back from their words, and from nothing but their words: what follows them is
left. -/
namespace CodecLink.Json

theorem tokens_cons (value : Json) :
    ∃ first more, value.tokens = first :: more ∧ first ≠ .closeArray := by
  cases value <;> exact ⟨_, _, rfl, by simp⟩

theorem length_tokens_pos (value : Json) : 0 < value.tokens.length := by
  obtain ⟨first, more, same, -⟩ := value.tokens_cons
  rw [same]
  exact Nat.succ_pos _

section

open Token (Separated closing)

/-- What may follow a value inside another. -/
def Continues (rest : List Token) : Prop :=
  (∃ mark ∈ closing, rest.head? = some mark) ∧ Separated rest

theorem continues_comma {rest : List Token} (later : Separated rest) :
    Continues (.comma :: rest) :=
  ⟨⟨.comma, by simp [closing], rfl⟩, later⟩

mutual

theorem separated_tokens (value : Json) {rest : List Token} (continues : Continues rest) :
    Separated (value.tokens ++ rest) := by
  cases value with
  | null => exact continues.2
  | bool value => exact continues.2
  | number n => exact continues
  | text t => exact continues.2
  | array items =>
    have closed : Continues (.closeArray :: rest) :=
      ⟨⟨.closeArray, by simp [closing], rfl⟩, continues.2⟩
    have inner := separated_items items closed
    simpa [tokens, Separated] using inner
  | object members =>
    have closed : Continues (.closeObject :: rest) :=
      ⟨⟨.closeObject, by simp [closing], rfl⟩, continues.2⟩
    have inner := separated_members members closed
    simpa [tokens, Separated] using inner

theorem separated_items (items : List Json) {rest : List Token} (continues : Continues rest) :
    Separated (itemTokens items ++ rest) := by
  match items with
  | [] => exact continues.2
  | [item] => exact separated_tokens item continues
  | item :: next :: items =>
    have later := separated_items (next :: items) continues
    have whole := separated_tokens item (continues_comma later)
    simpa [itemTokens] using whole

theorem separated_members (members : List (Text × Json)) {rest : List Token}
    (continues : Continues rest) : Separated (memberTokens members ++ rest) := by
  match members with
  | [] => exact continues.2
  | [(key, item)] => exact separated_tokens item continues
  | (key, item) :: next :: members =>
    have later := separated_members (next :: members) continues
    have whole := separated_tokens item (continues_comma later)
    simpa [memberTokens, Separated] using whole

end

theorem separated_object (members : List (Text × Json)) : Separated (object members).tokens := by
  have closed : Continues [.closeObject] := ⟨⟨.closeObject, by simp [closing], rfl⟩, trivial⟩
  have inner := separated_members members closed
  simpa [tokens, Separated] using inner

end

theorem itemTokens_cons (item next : Json) (items : List Json) :
    itemTokens (item :: next :: items) = item.tokens ++ .comma :: itemTokens (next :: items) := by
  rw [itemTokens]
  simp

theorem memberTokens_cons (key : Text) (item : Json) (next : Text × Json)
    (members : List (Text × Json)) :
    memberTokens ((key, item) :: next :: members) =
      .text key :: .colon :: (item.tokens ++ .comma :: memberTokens (next :: members)) := by
  rw [memberTokens]
  simp

/-- With two looks at each word, and one more for a list, all words are read. -/
structure Reads (fuel : Nat) : Prop where
  value : ∀ (value : Json) (rest : List Token), 2 * value.tokens.length ≤ fuel →
    readValue fuel (value.tokens ++ rest) = some (value, rest)
  items : ∀ (item : Json) (items : List Json) (rest : List Token),
    2 * (itemTokens (item :: items)).length < fuel →
      readItems fuel (itemTokens (item :: items) ++ .closeArray :: rest) =
        some (item :: items, rest)
  members : ∀ (key : Text) (item : Json) (members : List (Text × Json)) (rest : List Token),
    2 * (memberTokens ((key, item) :: members)).length < fuel →
      readMembers fuel (memberTokens ((key, item) :: members) ++ .closeObject :: rest) =
        some ((key, item) :: members, rest)

namespace Reads

variable {fuel : Nat}

theorem readArray (reads : Reads fuel) (items : List Json) (rest : List Token)
    (enough : 2 * (array items).tokens.length ≤ fuel + 1) :
    readValue (fuel + 1) ((array items).tokens ++ rest) = some (array items, rest) := by
  cases items with
  | nil => rfl
  | cons item items =>
    simp only [tokens, List.length_append, List.length_cons, List.length_nil] at enough
    have same : (array (item :: items)).tokens ++ rest =
        .openArray :: (itemTokens (item :: items) ++ .closeArray :: rest) := by
      simp [tokens]
    rw [same, readValue]
    · rw [reads.items item items rest (by omega)]
      rfl
    · -- No value begins with the end of a list, so the list is not taken for an empty one.
      intro later closed
      obtain ⟨first, more, begins, other⟩ := item.tokens_cons
      cases items with
      | nil =>
        rw [itemTokens, begins] at closed
        exact other (List.cons.inj closed).1
      | cons next items =>
        rw [itemTokens_cons, begins] at closed
        exact other (List.cons.inj closed).1

theorem readObject (reads : Reads fuel) (members : List (Text × Json)) (rest : List Token)
    (enough : 2 * (object members).tokens.length ≤ fuel + 1) :
    readValue (fuel + 1) ((object members).tokens ++ rest) = some (object members, rest) := by
  cases members with
  | nil => rfl
  | cons member members =>
    obtain ⟨key, item⟩ := member
    simp only [tokens, List.length_append, List.length_cons, List.length_nil] at enough
    have same : (object ((key, item) :: members)).tokens ++ rest =
        .openObject :: (memberTokens ((key, item) :: members) ++ .closeObject :: rest) := by
      simp [tokens]
    rw [same, readValue]
    · rw [reads.members key item members rest (by omega)]
      rfl
    · intro later closed
      cases members with
      | nil => cases closed
      | cons next members =>
        rw [memberTokens_cons] at closed
        cases closed

theorem succ (reads : Reads fuel) : Reads (fuel + 1) where
  value value rest enough := by
    cases value with
    | null => rfl
    | bool value => rfl
    | number n => rfl
    | text t => rfl
    | array items => exact reads.readArray items rest enough
    | object members => exact reads.readObject members rest enough
  items item items rest enough := by
    cases items with
    | nil =>
      rw [itemTokens] at enough ⊢
      rw [readItems, reads.value item _ (by omega)]
    | cons next items =>
      have long := item.length_tokens_pos
      rw [itemTokens_cons] at enough ⊢
      simp only [List.length_append, List.length_cons] at enough
      rw [List.append_assoc, List.cons_append, readItems, reads.value item _ (by omega)]
      simp only [reads.items next items rest (by omega)]
      rfl
  members key item members rest enough := by
    cases members with
    | nil =>
      simp only [memberTokens, List.length_cons] at enough
      simp only [memberTokens, List.cons_append, readMembers]
      rw [reads.value item _ (by omega)]
    | cons next members =>
      obtain ⟨other, value⟩ := next
      rw [memberTokens_cons] at enough ⊢
      simp only [List.length_append, List.length_cons] at enough
      simp only [List.cons_append, List.append_assoc, readMembers]
      rw [reads.value item _ (by omega)]
      simp only [reads.members other value members rest (by omega)]
      rfl

end Reads

theorem reads (fuel : Nat) : Reads fuel := by
  induction fuel with
  | zero =>
    refine ⟨fun value rest enough => ?_, fun _ _ _ enough => ?_, fun _ _ _ _ enough => ?_⟩
    · have := value.length_tokens_pos
      omega
    · omega
    · omega
  | succ fuel ih => exact ih.succ

theorem scan_dark {bs : Bytes} (dark : ∃ b ∈ bs, isBlank b = false) : Token.scan bs ≠ some [] := by
  induction bs with
  | nil => simp at dark
  | cons b bs ih =>
    rw [Token.scan]
    split
    · rename_i blank
      refine ih ?_
      simpa [blank] using dark
    · split
      · simp
      · simp

theorem ofTokens?_append (value : Json) (rest : List Token) :
    ofTokens? (value.tokens ++ rest) = if rest = [] then some value else none := by
  rw [ofTokens?, (reads _).value value rest (by simp; omega)]
  cases rest <;> simp

/-- Words may be written with the same blanks before each, or with none. -/
theorem layout_write {tokens : List Token} {blanks : Bytes}
    (blank : ∀ b ∈ blanks, isBlank b = true)
    (spelled : ∀ token ∈ tokens, token.Spelled token.write) :
    Layout tokens (tokens.flatMap fun token => blanks ++ token.write) := by
  induction tokens with
  | nil => exact .nil (by simp)
  | cons token tokens ih =>
    rw [List.forall_mem_cons] at spelled
    rw [List.flatMap_cons, List.append_assoc]
    exact .cons blank spelled.1 (ih spelled.2)

/-- An object may be written with any blanks, and nothing else may stand behind it. -/
theorem parse_object {members : List (Text × Json)} {bs : Bytes}
    (layout : Layout (object members).tokens bs) :
    parse bs = some (object members) ∧
      ∀ more, (∃ b ∈ more, isBlank b = false) → parse (bs ++ more) = none := by
  have scanned := layout.scan (separated_object members)
  refine ⟨?_, fun more dark => ?_⟩
  · have whole := scanned []
    rw [List.append_nil, Token.scan] at whole
    rw [parse, whole]
    simpa using ofTokens?_append (object members) []
  · rw [parse, scanned more]
    cases behind : Token.scan more with
    | none => rfl
    | some rest =>
      -- What follows may be words again, but then it is too many of them.
      have words : rest ≠ [] := by
        rintro rfl
        exact scan_dark dark behind
      simp [ofTokens?_append, words]

end CodecLink.Json
