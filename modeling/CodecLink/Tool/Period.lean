import CodecLink.Text.Blank
import CodecLink.Text.Duration
import CodecLink.Text.Numeral
import CodecLink.Tool.Failure

/-! Spans of time as they are typed: a whole number of seconds, with or without `s`, or of
milliseconds with `ms`. -/
namespace CodecLink.Period

/-- The digits and how many milliseconds one of the unit has. -/
def unitOf (cs : List Char) : List Char × Nat :=
  match cs.reverse with
  | 's' :: 'm' :: digits => (digits.reverse, 1)
  | 's' :: digits => (digits.reverse, 1000)
  | _ => (cs, 1000)

def parse (text : String) : Except Failure Millis :=
  let typed := Blank.trim text.toList
  let (digits, unit) := unitOf typed
  if typed.isEmpty then .error ⟨.usage, "duration must not be empty"⟩
  else match Numeral.unsigned? (UInt64.size - 1) digits with
    | none => .error ⟨.usage, "invalid duration value: " ++ String.ofList typed⟩
    | some 0 => .error ⟨.usage, "duration must be greater than zero"⟩
    | some n => .ok (n * unit)

end CodecLink.Period
