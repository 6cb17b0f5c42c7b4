import CodecLink.Endpoint.Rendezvous

/-! A file tree with the sockets bound in it, each kept by an owner, and the connections that wait
at them. -/
namespace CodecLink

structure Site where
  files : FileTree := {}
  sockets : List (String × Rendezvous) := []
  backlog : Backlog := {}
  deriving DecidableEq, Repr

namespace Site

def socket? (owner : String) (s : Site) : Option Rendezvous :=
  (s.sockets.find? fun entry => entry.1 == owner).map (·.2)

/-- The socket stays bound, but nobody keeps it any more. -/
def forget (owner : String) (s : Site) : Site :=
  { s with sockets := s.sockets.filter fun entry => entry.1 != owner }

/-- The socket that the owner kept before is let go after the new one is bound. -/
def bind (owner path : String) (mode : Nat) (s : Site) : Except EndpointError Site := do
  let (socket, files) ← Rendezvous.bind path mode s.files
  let files := match s.socket? owner with
    | none => files
    | some previous => previous.release files
  return { s.forget owner with files, sockets := (s.forget owner).sockets ++ [(owner, socket)] }

def drop (owner : String) (s : Site) : Site :=
  match s.socket? owner with
  | none => s
  | some socket => { s.forget owner with files := socket.release s.files }

def dropAll (s : Site) : Site := s.sockets.foldl (fun s entry => s.drop entry.1) s

/-- Writes a file over whatever is not a directory. -/
def writeFile (path : String) (content : Bytes) (s : Site) : Except Fault Site := do
  let place ← s.files.walk path
  match s.files.get? place with
  | some .directory => throw .isADirectory
  | some (.socket _ _) => throw .noSuchDevice
  | _ => return { s with files := s.files.insert place (.file content) }

def makeDirectory (path : String) (s : Site) : Except Fault Site := do
  let place ← s.files.walk path
  match s.files.get? place with
  | some _ => throw .fileExists
  | none => return { s with files := s.files.insert place .directory }

def unlink (path : String) (s : Site) : Except Fault Site := do
  return { s with files := ← s.files.unlink path }

def connect (path : String) (written : Bytes) (s : Site) : Except EndpointError Site := do
  let identity ← Rendezvous.connect path s.files
  return { s with backlog := s.backlog.arrive identity written }

/-- What the oldest waiting client wrote, if there is one. -/
def accept (socket : Rendezvous) (s : Site) : Option Bytes × Site :=
  let (written, backlog) := s.backlog.accept socket
  (written, { s with backlog })

end Site

end CodecLink
