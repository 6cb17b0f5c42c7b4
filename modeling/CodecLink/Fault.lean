/-! What can go wrong below the protocol: kinds of input and output faults and their texts. -/
namespace CodecLink

inductive FaultKind
  | notFound | permissionDenied | connectionRefused | connectionReset | hostUnreachable
  | networkUnreachable | connectionAborted | notConnected | addrInUse | addrNotAvailable
  | networkDown | brokenPipe | alreadyExists | wouldBlock | notADirectory | isADirectory
  | directoryNotEmpty | readOnlyFilesystem | staleNetworkFileHandle | invalidInput | invalidData
  | timedOut | writeZero | storageFull | notSeekable | quotaExceeded | fileTooLarge | resourceBusy
  | executableFileBusy | deadlock | crossesDevices | tooManyLinks | invalidFilename
  | argumentListTooLong | interrupted | unsupported | unexpectedEof | outOfMemory | other
  deriving DecidableEq, Repr

namespace FaultKind

def table : List (FaultKind × String) :=
  [ (notFound, "NotFound"), (permissionDenied, "PermissionDenied"),
    (connectionRefused, "ConnectionRefused"), (connectionReset, "ConnectionReset"),
    (hostUnreachable, "HostUnreachable"), (networkUnreachable, "NetworkUnreachable"),
    (connectionAborted, "ConnectionAborted"), (notConnected, "NotConnected"),
    (addrInUse, "AddrInUse"), (addrNotAvailable, "AddrNotAvailable"),
    (networkDown, "NetworkDown"), (brokenPipe, "BrokenPipe"), (alreadyExists, "AlreadyExists"),
    (wouldBlock, "WouldBlock"), (notADirectory, "NotADirectory"), (isADirectory, "IsADirectory"),
    (directoryNotEmpty, "DirectoryNotEmpty"), (readOnlyFilesystem, "ReadOnlyFilesystem"),
    (staleNetworkFileHandle, "StaleNetworkFileHandle"), (invalidInput, "InvalidInput"),
    (invalidData, "InvalidData"), (timedOut, "TimedOut"), (writeZero, "WriteZero"),
    (storageFull, "StorageFull"), (notSeekable, "NotSeekable"), (quotaExceeded, "QuotaExceeded"),
    (fileTooLarge, "FileTooLarge"), (resourceBusy, "ResourceBusy"),
    (executableFileBusy, "ExecutableFileBusy"), (deadlock, "Deadlock"),
    (crossesDevices, "CrossesDevices"), (tooManyLinks, "TooManyLinks"),
    (invalidFilename, "InvalidFilename"), (argumentListTooLong, "ArgumentListTooLong"),
    (interrupted, "Interrupted"), (unsupported, "Unsupported"), (unexpectedEof, "UnexpectedEof"),
    (outOfMemory, "OutOfMemory"), (other, "Other") ]

def name (kind : FaultKind) : String :=
  ((table.find? fun entry => entry.1 = kind).map (·.2)).getD "Other"

def ofName? (text : String) : Option FaultKind :=
  (table.find? fun entry => entry.2 == text).map (·.1)

end FaultKind

structure Fault where
  kind : FaultKind
  text : String
  deriving DecidableEq, Repr

namespace Fault

def ofKind (kind : FaultKind) : Fault := ⟨kind, kind.name⟩

def wouldBlock : Fault := ⟨.wouldBlock, "Resource temporarily unavailable (os error 11)"⟩
def brokenPipe : Fault := ⟨.brokenPipe, "Broken pipe (os error 32)"⟩
def connectionReset : Fault := ⟨.connectionReset, "Connection reset by peer (os error 104)"⟩
def noSuchFile : Fault := ⟨.notFound, "No such file or directory (os error 2)"⟩
def permissionDenied : Fault := ⟨.permissionDenied, "Permission denied (os error 13)"⟩
def notADirectory : Fault := ⟨.notADirectory, "Not a directory (os error 20)"⟩
def isADirectory : Fault := ⟨.isADirectory, "Is a directory (os error 21)"⟩
def fileExists : Fault := ⟨.alreadyExists, "File exists (os error 17)"⟩
def addrInUse : Fault := ⟨.addrInUse, "Address already in use (os error 98)"⟩
def connectionRefused : Fault := ⟨.connectionRefused, "Connection refused (os error 111)"⟩
def notASocket : Fault := ⟨.alreadyExists, "existing path is not a unix socket"⟩
def zeroTimeout : Fault := ⟨.invalidInput, "cannot set a 0 duration timeout"⟩
def interiorNul : Fault := ⟨.invalidInput, "paths must not contain interior null bytes"⟩
def invalidArgument : Fault := ⟨.invalidInput, "Invalid argument (os error 22)"⟩
def fileNameTooLong : Fault := ⟨.invalidFilename, "File name too long (os error 36)"⟩
def noSuchDevice : Fault := ⟨.other, "No such device or address (os error 6)"⟩

def isTimeout (fault : Fault) : Bool := fault.kind = .wouldBlock || fault.kind = .timedOut

end Fault

end CodecLink
