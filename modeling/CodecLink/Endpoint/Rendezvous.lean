import CodecLink.Channel.Error
import CodecLink.Endpoint.FileTree

/-! The socket file at which clients and the host meet. Binding clears away a socket left there and
nothing else; letting go removes the file only if it is still the one that was bound. -/
namespace CodecLink

structure Rendezvous where
  path : String
  identity : FileId
  deriving DecidableEq, Repr

namespace Rendezvous

def defaultPath : String := "/run/rvpu/rvpu.sock"

/-- The variable that names another path. -/
def pathVariable : String := "RVPU_ENDPOINT"

/-- The path that the variable's value stands for; an empty value is none. -/
def pathOf (value : Option String) : String :=
  match value with
  | none => defaultPath
  | some path => if path = "" then defaultPath else path

/-- The size of the field that holds the path with its final zero byte. -/
def maxPath : Nat := 108

def defaultMode : Nat := 0o660

def checkPath (path : String) : Except EndpointError Unit :=
  if maxPath ≤ path.utf8ByteSize then .error (.pathTooLong path path.utf8ByteSize maxPath)
  else .ok ()

section Ownership

variable {σ : Type} (fs : FileSystem σ)

/-- Clears away a socket at the path, and refuses what is none. -/
def clearIn (path : String) (t : σ) : Except Fault σ :=
  match fs.status path t with
  | .ok status => if status.isSocket then fs.unlink path t else .error .notASocket
  | .error _ => .ok t

/-- Makes a socket and looks which file it is. -/
def openIn (path : String) (mode : Nat) (t : σ) : Except Fault FileId × σ :=
  match fs.bindSocket path t with
  | .error fault => (.error fault, t)
  | .ok t =>
    match fs.setMode path mode t with
    | .error fault => (.error fault, t)
    | .ok t => ((fs.status path t).map (·.identity), t)

def bindIn (path : String) (mode : Nat) (t : σ) : Except EndpointError Rendezvous × σ :=
  match checkPath path with
  | .error error => (.error error, t)
  | .ok () =>
    match clearIn fs path t with
    | .error fault => (.error (.bind path fault), t)
    | .ok t =>
      let (opened, t) := openIn fs path mode t
      ((opened.map fun identity => ⟨path, identity⟩).mapError (.bind path), t)

/-- Whether the file was removed is not looked at. -/
def releaseIn (r : Rendezvous) (t : σ) : σ :=
  match fs.status r.path t with
  | .ok status =>
    if status.isSocket && status.identity = r.identity then
      (fs.unlink r.path t).toOption.getD t
    else t
  | .error _ => t

end Ownership

/-- There is no new tree where nothing was bound: a failure leaves a file tree as it was. -/
def bind (path : String) (mode : Nat) (t : FileTree) :
    Except EndpointError (Rendezvous × FileTree) :=
  let (bound, t) := bindIn FileTree.fileSystem path mode t
  bound.map (·, t)

def release (r : Rendezvous) (t : FileTree) : FileTree := releaseIn FileTree.fileSystem r t

/-- The identity of the socket that a connection to the path reaches. -/
def reach (path : String) (t : FileTree) : Except Fault FileId :=
  if Path.holdsNul path then .error .interiorNul
  else if path = "" then .error .invalidArgument
  else match t.find path with
    | .ok (.socket identity _) => .ok (.ofSocket identity)
    | .ok _ => .error .connectionRefused
    | .error fault => .error fault

def connect (path : String) (t : FileTree) : Except EndpointError FileId := do
  checkPath path
  (reach path t).mapError (.connect path)

end Rendezvous

/-- Connections that nobody accepted yet, oldest first: the socket each came to and what was
written to it. -/
structure Backlog where
  connections : List (FileId × Bytes) := []
  deriving DecidableEq, Repr

namespace Backlog

def arrive (identity : FileId) (written : Bytes) (b : Backlog) : Backlog :=
  ⟨b.connections ++ [(identity, written)]⟩

def accept (r : Rendezvous) (b : Backlog) : Option Bytes × Backlog :=
  let mine := fun connection : FileId × Bytes => connection.1 = r.identity
  ((b.connections.find? mine).map (·.2), ⟨b.connections.eraseP mine⟩)

end Backlog

end CodecLink
