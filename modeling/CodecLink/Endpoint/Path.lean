import CodecLink.Text.Segments

/-! Paths as text: the names on the way to an entry, and the text of the directory around it. -/
namespace CodecLink.Path

def isAbsolute (path : String) : Bool := path.toList.head? = some '/'

def endsInSlash (path : String) : Bool := path.toList.getLast? = some '/'

def holdsNul (path : String) : Bool := path.toList.contains '\x00'

/-- Names from the front. A slash at the end asks for a directory, as a last `.` does. -/
def names (path : String) : List String :=
  (Segments.ofString '/' path).filter (· ≠ "") ++ if endsInSlash path then ["."] else []

/-- The path without the slashes and the `.` names at its end. It is given from its end. -/
def trimEnd : List Char → List Char
  | '/' :: c :: rest => trimEnd (c :: rest)
  | '.' :: '/' :: rest => trimEnd ('/' :: rest)
  | reversed => reversed
termination_by reversed => reversed.length

/-- The text before the last name: empty for a single name, and nothing for the root. -/
def parent? (path : String) : Option String :=
  match trimEnd path.toList.reverse with
  | [] => none
  | ['/'] => none
  | reversed => some (String.ofList (trimEnd (reversed.dropWhile (· ≠ '/'))).reverse)

end CodecLink.Path
