import CodecLink.Bytes
import CodecLink.Endpoint.FileSystem
import CodecLink.Endpoint.Path

/-! Directories, files and sockets by their location, and how a path leads to one of them. -/
namespace CodecLink

/-- The names from the working directory. The name `/` comes first for what hangs below the root. -/
abbrev Location := List String

inductive Entry
  | directory
  | file (content : Bytes)
  | socket (identity mode : Nat)
  deriving DecidableEq, Repr

/-- The socket of this number in a tree, which is all on one device. -/
def FileId.ofSocket (identity : Nat) : FileId := ⟨0, identity⟩

/-- Only sockets are told apart; the number 0 stands for all that is none. -/
def Entry.status : Entry → FileStatus
  | directory | file _ => ⟨false, .ofSocket 0⟩
  | socket identity _ => ⟨true, .ofSocket identity⟩

structure FileTree where
  entries : List (Location × Entry) := []
  /-- No socket of the tree had this identity yet. -/
  nextIdentity : Nat := 1
  deriving DecidableEq, Repr

namespace FileTree

def maxName : Nat := 255

def maxPath : Nat := 4096

/-- The directories that are always there. -/
def isBase (place : Location) : Bool := place = [] || place = ["/"]

def get? (t : FileTree) (place : Location) : Option Entry :=
  if isBase place then some .directory
  else (t.entries.find? fun entry => entry.1 = place).map (·.2)

def erase (t : FileTree) (place : Location) : FileTree :=
  { t with entries := t.entries.filter fun entry => entry.1 ≠ place }

def insert (t : FileTree) (place : Location) (entry : Entry) : FileTree :=
  { t.erase place with entries := (t.erase place).entries ++ [(place, entry)] }

/-- Where a name leads from a place, whether or not there is anything. -/
def step (t : FileTree) (place : Location) (name : String) : Except Fault Location :=
  match t.get? place with
  | none => .error .noSuchFile
  | some .directory =>
    if name = "." then .ok place
    else if name = ".." then .ok (if isBase place then place else place.dropLast)
    else if maxName < name.utf8ByteSize then .error .fileNameTooLong
    else .ok (place ++ [name])
  | some _ => .error .notADirectory

def start (path : String) : Location := if Path.isAbsolute path then ["/"] else []

/-- Where a path leads; only the last name may lead to nothing. -/
def walk (t : FileTree) (path : String) : Except Fault Location :=
  if path = "" then .error .noSuchFile
  else if maxPath ≤ path.utf8ByteSize then .error .fileNameTooLong
  else (Path.names path).foldlM t.step (start path)

def find (t : FileTree) (path : String) : Except Fault Entry := do
  Fault.orNoSuchFile (t.get? (← t.walk path))

def holds (t : FileTree) (path : String) : Bool := (t.find path).toBool

def read (t : FileTree) (path : String) : Except Fault Bytes := do
  match ← t.find path with
  | .file content => return content
  | .directory => throw .isADirectory
  | .socket _ _ => throw .noSuchDevice

/-- The directory of a name below a place, made if there is nothing yet. -/
def enter (name : String) (place : Location) (t : FileTree) : Except Fault (Location × FileTree) := do
  let place ← t.step place name
  match t.get? place with
  | none => return (place, t.insert place .directory)
  | some _ => return (place, t)

/-- Makes every directory on the way that is missing. -/
def createDirectories (t : FileTree) (path : String) : Except Fault FileTree := do
  let (place, t) ← (Path.names path).foldlM (fun (place, t) name => enter name place t)
    (start path, t)
  match t.get? place with
  | some .directory => return t
  | _ => throw .fileExists

/-- Makes the directories around a path, as far as it has any. -/
def createParent (t : FileTree) (path : String) : Except Fault FileTree :=
  match Path.parent? path with
  | none => .ok t
  | some parent => if parent = "" || t.holds parent then .ok t else t.createDirectories parent

def addFile (t : FileTree) (path : String) (content : Bytes) : Except Fault FileTree := do
  let t ← t.createParent path
  return t.insert (← t.walk path) (.file content)

def unlink (path : String) (t : FileTree) : Except Fault FileTree := do
  match ← t.find path with
  | .directory => throw .isADirectory
  | _ => return t.erase (← t.walk path)

/-- What is said of a path that ends in a slash and cannot be bound. -/
def occupiedOr (fault : Fault) (path : String) (t : FileTree) : Fault :=
  let trimmed := String.ofList (Path.trimEnd path.toList.reverse).reverse
  if Path.endsInSlash path && t.holds trimmed then .addrInUse else fault

/-- The place of a new socket. -/
def placeFor (path : String) (t : FileTree) : Except Fault Location := do
  if Path.holdsNul path then throw .interiorNul
  match t.walk path with
  | .error fault => throw (t.occupiedOr fault path)
  | .ok place =>
    match t.get? place with
    | some _ => throw .addrInUse
    | none => return place

/-- The mode of a socket that nobody set a mode for. -/
def socketMode : Nat := 0o755

def bindSocket (path : String) (t : FileTree) : Except Fault FileTree := do
  let bound := t.insert (← t.placeFor path) (.socket t.nextIdentity socketMode)
  return { bound with nextIdentity := t.nextIdentity + 1 }

/-- Only sockets have a mode. -/
def setMode (path : String) (mode : Nat) (t : FileTree) : Except Fault FileTree := do
  match ← t.find path with
  | .socket identity _ => return t.insert (← t.walk path) (.socket identity mode)
  | _ => return t

def fileSystem : FileSystem FileTree where
  Place := Location
  resolve path t := if Path.holdsNul path then .error .interiorNul else t.walk path
  get? place t := (t.get? place).map Entry.status
  unlink := unlink
  bindSocket := bindSocket
  setMode := setMode

/-- The tree of these files; one that cannot be placed is left out. -/
def ofFiles (files : List (String × Bytes)) : FileTree :=
  files.foldl (fun t file => (t.addFile file.1 file.2).toOption.getD t) {}

@[simp] theorem get?_insert_self {t : FileTree} {place : Location} {entry : Entry}
    (named : isBase place = false) : (t.insert place entry).get? place = some entry := by
  have absent : t.entries.find? (fun _ => false) = none := List.find?_eq_none.2 (by simp)
  simp [get?, named, insert, erase, List.find?_append, List.find?_filter, absent]

theorem get?_erase_self {t : FileTree} {place : Location} (named : isBase place = false) :
    (t.erase place).get? place = none := by
  have absent : t.entries.find? (fun _ => false) = none := List.find?_eq_none.2 (by simp)
  simp [get?, named, erase, List.find?_filter, absent]

theorem get?_erase_other {t : FileTree} {place other : Location} (apart : other ≠ place) :
    (t.erase place).get? other = t.get? other := by
  have same : (fun entry : Location × Entry => !decide (entry.1 = place) && entry.1 = other) =
      fun entry => decide (entry.1 = other) := by
    funext entry
    by_cases own : entry.1 = other <;> simp [own, apart]
  simp [get?, erase, List.find?_filter, same]

theorem get?_insert_other {t : FileTree} {place other : Location} {entry : Entry}
    (apart : other ≠ place) : (t.insert place entry).get? other = t.get? other := by
  have same : (t.insert place entry).get? other = (t.erase place).get? other := by
    simp [get?, insert, List.find?_append, Ne.symm apart]
  rw [same, get?_erase_other apart]

end FileTree

end CodecLink
