import CodecLink.Fault

/-! What is asked of a file system in order to bind a socket in it. A look at an entry tells whether
it is a socket and which file it is, as far as the system's numbers tell files apart. -/
namespace CodecLink

/-- No two files that are there at the same time have the same. -/
structure FileId where
  device : Nat
  inode : Nat
  deriving DecidableEq, Repr

structure FileStatus where
  isSocket : Bool
  identity : FileId
  deriving DecidableEq, Repr

/-- The calls by which a state of type `σ` is looked at and changed. -/
structure FileSystem (σ : Type) where
  Place : Type
  /-- Where a path leads, whether or not there is anything. -/
  resolve (path : String) (t : σ) : Except Fault Place
  get? (place : Place) (t : σ) : Option FileStatus
  unlink (path : String) (t : σ) : Except Fault σ
  /-- Makes a socket at the path. -/
  bindSocket (path : String) (t : σ) : Except Fault σ
  setMode (path : String) (mode : Nat) (t : σ) : Except Fault σ

def Fault.orNoSuchFile {α : Type} : Option α → Except Fault α
  | none => .error .noSuchFile
  | some found => .ok found

def FileSystem.status {σ : Type} (fs : FileSystem σ) (path : String) (t : σ) :
    Except Fault FileStatus := do
  Fault.orNoSuchFile (fs.get? (← fs.resolve path t) t)

end CodecLink
