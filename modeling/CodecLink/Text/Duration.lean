/-! Spans of time in whole milliseconds and their text: nothing is `0ns`, less than a second is
counted in `ms`, anything longer in `s` with the fraction's trailing zeros left out. -/
namespace CodecLink

abbrev Millis := Nat

namespace Millis

def dropTrailingZeros (cs : List Char) : List Char :=
  (cs.reverse.dropWhile (· == '0')).reverse

def fractionText (ms : Nat) : String :=
  let cs := [ms / 100, ms / 10 % 10, ms % 10].map fun d => Char.ofNat (48 + d)
  match dropTrailingZeros cs with
  | [] => ""
  | kept => "." ++ String.ofList kept

def describe (ms : Millis) : String :=
  if ms = 0 then "0ns"
  else if ms < 1000 then s!"{ms}ms"
  else toString (ms / 1000) ++ fractionText (ms % 1000) ++ "s"

end Millis

end CodecLink
