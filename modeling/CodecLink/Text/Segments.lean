/-! Text cut at a separator, which none of the pieces holds. -/
namespace CodecLink.Segments

def split (separator : Char) : List Char → List (List Char)
  | [] => [[]]
  | c :: cs =>
    if c = separator then [] :: split separator cs
    else match split separator cs with
      | [] => [[c]]
      | piece :: pieces => (c :: piece) :: pieces

def ofString (separator : Char) (s : String) : List String :=
  (split separator s.toList).map String.ofList

end CodecLink.Segments
