import CodecLink.Json.Token

/-! Values of the notation as trees, read from and written to words. -/
namespace CodecLink

inductive Json
  | null
  | bool (value : Bool)
  | number (value : Json.Number)
  | text (value : Json.Text)
  | array (items : List Json)
  | object (members : List (Json.Text × Json))
  deriving Repr, Inhabited

namespace Json

mutual

def readValue : Nat → List Token → Option (Json × List Token)
  | 0, _ => none
  | _, [] => none
  | fuel + 1, token :: rest =>
    match token with
    | .null => some (null, rest)
    | .bool value => some (bool value, rest)
    | .number value => some (number value, rest)
    | .text value => some (text value, rest)
    | .openArray =>
      match rest with
      | .closeArray :: rest => some (array [], rest)
      | _ => (readItems fuel rest).map fun found => (array found.1, found.2)
    | .openObject =>
      match rest with
      | .closeObject :: rest => some (object [], rest)
      | _ => (readMembers fuel rest).map fun found => (object found.1, found.2)
    | _ => none

def readItems : Nat → List Token → Option (List Json × List Token)
  | 0, _ => none
  | fuel + 1, tokens =>
    match readValue fuel tokens with
    | some (item, .closeArray :: rest) => some ([item], rest)
    | some (item, .comma :: rest) =>
      (readItems fuel rest).map fun found => (item :: found.1, found.2)
    | _ => none

def readMembers : Nat → List Token → Option (List (Text × Json) × List Token)
  | 0, _ => none
  | fuel + 1, tokens =>
    match tokens with
    | .text key :: .colon :: rest =>
      match readValue fuel rest with
      | some (item, .closeObject :: rest) => some ([(key, item)], rest)
      | some (item, .comma :: rest) =>
        (readMembers fuel rest).map fun found => ((key, item) :: found.1, found.2)
      | _ => none
    | _ => none

end

/-- A single value and nothing after it. Each word is looked at twice at most. -/
def ofTokens? (tokens : List Token) : Option Json :=
  match readValue (2 * tokens.length + 1) tokens with
  | some (value, []) => some value
  | _ => none

def parse (bs : Bytes) : Option Json := (Token.scan bs).bind ofTokens?

mutual

def tokens : Json → List Token
  | null => [.null]
  | bool value => [.bool value]
  | number value => [.number value]
  | text value => [.text value]
  | array items => .openArray :: itemTokens items ++ [.closeArray]
  | object members => .openObject :: memberTokens members ++ [.closeObject]

def itemTokens : List Json → List Token
  | [] => []
  | [item] => item.tokens
  | item :: items => item.tokens ++ .comma :: itemTokens items

def memberTokens : List (Text × Json) → List Token
  | [] => []
  | [(key, item)] => .text key :: .colon :: item.tokens
  | (key, item) :: members =>
    .text key :: .colon :: (item.tokens ++ .comma :: memberTokens members)

end

/-- The text without blanks. -/
def write (value : Json) : Bytes := value.tokens.flatMap Token.write

def ofNat (n : Nat) : Json := number (.ofNat n)

end Json

end CodecLink
