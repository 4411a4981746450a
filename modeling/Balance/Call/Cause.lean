import Balance.Call.SystemError

/-!
Why a call did not succeed, as a tree of causes. Every cause has a text and
at most one source. An input or output error that carries another error shows
the text of what it carries and passes its source on, so the carried error
itself is skipped by a walk along the sources. `isUnreachable` looks at each
error of that walk and, behind an input or output error, at what it carries.
-/

namespace Balance

inductive IoKind
  | notFound
  | permissionDenied
  | connectionRefused
  | connectionReset
  | hostUnreachable
  | networkUnreachable
  | connectionAborted
  | notConnected
  | addrInUse
  | addrNotAvailable
  | networkDown
  | brokenPipe
  | alreadyExists
  | wouldBlock
  | notADirectory
  | isADirectory
  | directoryNotEmpty
  | readOnlyFilesystem
  | staleNetworkFileHandle
  | invalidInput
  | invalidData
  | timedOut
  | writeZero
  | storageFull
  | notSeekable
  | quotaExceeded
  | fileTooLarge
  | resourceBusy
  | executableFileBusy
  | deadlock
  | crossesDevices
  | tooManyLinks
  | invalidFilename
  | argumentListTooLong
  | interrupted
  | unsupported
  | unexpectedEof
  | outOfMemory
  | other
deriving Repr, DecidableEq

def IoKind.describe : IoKind → String
  | notFound => "entity not found"
  | permissionDenied => "permission denied"
  | connectionRefused => "connection refused"
  | connectionReset => "connection reset"
  | hostUnreachable => "host unreachable"
  | networkUnreachable => "network unreachable"
  | connectionAborted => "connection aborted"
  | notConnected => "not connected"
  | addrInUse => "address in use"
  | addrNotAvailable => "address not available"
  | networkDown => "network down"
  | brokenPipe => "broken pipe"
  | alreadyExists => "entity already exists"
  | wouldBlock => "operation would block"
  | notADirectory => "not a directory"
  | isADirectory => "is a directory"
  | directoryNotEmpty => "directory not empty"
  | readOnlyFilesystem => "read-only filesystem or storage medium"
  | staleNetworkFileHandle => "stale network file handle"
  | invalidInput => "invalid input parameter"
  | invalidData => "invalid data"
  | timedOut => "timed out"
  | writeZero => "write zero"
  | storageFull => "no storage space"
  | notSeekable => "seek on unseekable file"
  | quotaExceeded => "quota exceeded"
  | fileTooLarge => "file too large"
  | resourceBusy => "resource busy"
  | executableFileBusy => "executable file busy"
  | deadlock => "deadlock"
  | crossesDevices => "cross-device link or rename"
  | tooManyLinks => "too many links"
  | invalidFilename => "invalid filename"
  | argumentListTooLong => "argument list too long"
  | interrupted => "operation interrupted"
  | unsupported => "unsupported"
  | unexpectedEof => "unexpected end of file"
  | outOfMemory => "out of memory"
  | other => "other error"

inductive Cause
  | text (message : String)
  | unknownHost (host : String)
  | io (kind : IoKind)
  | carrying (kind : IoKind) (payload : Cause)
  | system (code : Int)
  | wrapped (message : String) (source : Cause)
  | answered (status : UInt16)
  | unconnected (source : Cause)
  | interrupted (source : Cause)
deriving Repr, DecidableEq

namespace Cause

def message : Cause → String
  | text message => message
  | unknownHost host => "unknown host: " ++ host
  | io kind => kind.describe
  | carrying _ payload => payload.message
  | system code => SystemError.describe code
  | wrapped message _ => message
  | answered status => "upstream responded with HTTP " ++ toString status.toNat
  | unconnected source => "connection failed: " ++ source.message
  | interrupted source => "transport error: " ++ source.message

/-- The errors met by walking along the sources, nearest first. -/
def sources : Cause → List Cause
  | carrying _ payload => payload.sources
  | wrapped _ source | unconnected source | interrupted source => source :: source.sources
  | _ => []

/-- An unknown host or a refused connection, looked for in the error itself
and in what it carries. -/
def isRefusal : Cause → Bool
  | unknownHost _ => true
  | io kind => kind == .connectionRefused
  | carrying kind payload => kind == .connectionRefused || payload.isRefusal
  | system code => code == SystemError.connectionRefused
  | _ => false

def isUnreachable (cause : Cause) : Bool :=
  (cause :: cause.sources).any isRefusal

end Cause

end Balance
