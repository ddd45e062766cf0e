import SumCluster.Wire.Client

/-!
# Errors of the cluster

What a call on a node or on its carrier can fail with, its wording, and the two questions asked of
it: whether a failed send is worth repeating, and what a client is told.
-/

namespace SumCluster

/-- Kinds of failures of a socket. -/
inductive SocketFault
  | notFound
  | permissionDenied
  | connectionRefused
  | connectionReset
  | hostUnreachable
  | networkUnreachable
  | connectionAborted
  | notConnected
  | addressInUse
  | addressNotAvailable
  | networkDown
  | brokenPipe
  | alreadyExists
  | wouldBlock
  | notADirectory
  | isADirectory
  | directoryNotEmpty
  | readOnlyFilesystem
  | staleNetworkFileHandle
  | invalidInput
  | invalidData
  | timedOut
  | writeZero
  | storageFull
  | notSeekable
  | quotaExceeded
  | fileTooLarge
  | resourceBusy
  | executableFileBusy
  | deadlock
  | crossesDevices
  | tooManyLinks
  | invalidFilename
  | argumentListTooLong
  | interrupted
  | unsupported
  | unexpectedEnd
  | outOfMemory
  | other
  deriving DecidableEq, Repr, Inhabited

namespace SocketFault

/-- The wording of a failure. -/
def message : SocketFault → String
  | notFound => "entity not found"
  | permissionDenied => "permission denied"
  | connectionRefused => "connection refused"
  | connectionReset => "connection reset"
  | hostUnreachable => "host unreachable"
  | networkUnreachable => "network unreachable"
  | connectionAborted => "connection aborted"
  | notConnected => "not connected"
  | addressInUse => "address in use"
  | addressNotAvailable => "address not available"
  | networkDown => "network down"
  | brokenPipe => "broken pipe"
  | alreadyExists => "entity already exists"
  | wouldBlock => "operation would block"
  | notADirectory => "not a directory"
  | isADirectory => "is a directory"
  | directoryNotEmpty => "directory not empty"
  | readOnlyFilesystem => "read-only filesystem or storage medium"
  | staleNetworkFileHandle => "stale network file handle"
  | invalidInput => "invalid input parameter"
  | invalidData => "invalid data"
  | timedOut => "timed out"
  | writeZero => "write zero"
  | storageFull => "no storage space"
  | notSeekable => "seek on unseekable file"
  | quotaExceeded => "quota exceeded"
  | fileTooLarge => "file too large"
  | resourceBusy => "resource busy"
  | executableFileBusy => "executable file busy"
  | deadlock => "deadlock"
  | crossesDevices => "cross-device link or rename"
  | tooManyLinks => "too many links"
  | invalidFilename => "invalid filename"
  | argumentListTooLong => "argument list too long"
  | interrupted => "operation interrupted"
  | unsupported => "unsupported"
  | unexpectedEnd => "unexpected end of file"
  | outOfMemory => "out of memory"
  | other => "other error"

/-- All kinds with their names. -/
def named : List (String × SocketFault) :=
  [("NotFound", notFound), ("PermissionDenied", permissionDenied),
    ("ConnectionRefused", connectionRefused), ("ConnectionReset", connectionReset),
    ("HostUnreachable", hostUnreachable), ("NetworkUnreachable", networkUnreachable),
    ("ConnectionAborted", connectionAborted), ("NotConnected", notConnected),
    ("AddrInUse", addressInUse), ("AddrNotAvailable", addressNotAvailable),
    ("NetworkDown", networkDown), ("BrokenPipe", brokenPipe), ("AlreadyExists", alreadyExists),
    ("WouldBlock", wouldBlock), ("NotADirectory", notADirectory), ("IsADirectory", isADirectory),
    ("DirectoryNotEmpty", directoryNotEmpty), ("ReadOnlyFilesystem", readOnlyFilesystem),
    ("StaleNetworkFileHandle", staleNetworkFileHandle), ("InvalidInput", invalidInput),
    ("InvalidData", invalidData), ("TimedOut", timedOut), ("WriteZero", writeZero),
    ("StorageFull", storageFull), ("NotSeekable", notSeekable), ("QuotaExceeded", quotaExceeded),
    ("FileTooLarge", fileTooLarge), ("ResourceBusy", resourceBusy),
    ("ExecutableFileBusy", executableFileBusy), ("Deadlock", deadlock),
    ("CrossesDevices", crossesDevices), ("TooManyLinks", tooManyLinks),
    ("InvalidFilename", invalidFilename), ("ArgumentListTooLong", argumentListTooLong),
    ("Interrupted", interrupted), ("Unsupported", unsupported), ("UnexpectedEof", unexpectedEnd),
    ("OutOfMemory", outOfMemory), ("Other", other)]

/-- The kind with a given name. -/
def ofName? (name : String) : Option SocketFault :=
  named.lookup name

/-- Whether the same send may succeed a moment later. -/
def isTransient : SocketFault → Bool
  | timedOut | interrupted | wouldBlock | connectionRefused | connectionReset => true
  | _ => false

end SocketFault

/-- What a call can fail with. -/
inductive ClusterError
  /-- The socket failed. -/
  | socket (fault : SocketFault)
  /-- A frame could not be made or read. -/
  | codec (reason : String)
  /-- The carrier of datagrams failed. -/
  | transport (reason : String)
  /-- The configuration does not allow it. -/
  | config (reason : String)
  /-- A write on a node that does not lead. -/
  | notPrimary (primary : Option NodeId)
  /-- A write that was applied, but not acknowledged by all live backups in time. -/
  | replicationIncomplete (seqn : Seqn) (missing : List NodeId)
  /-- The table of nodes has no room for another one. -/
  | directoryFull (capacity : Nat)
  /-- The node is shutting down. -/
  | shutdown
  /-- The last write has the greatest number there is. -/
  | seqnExhausted
  deriving DecidableEq, Repr, Inhabited

namespace ClusterError

/-- An identifier inside an error text. -/
def showNode (id : NodeId) : String :=
  s!"NodeId({id.toNat})"

/-- A list of identifiers inside an error text. -/
def showNodes (ids : List NodeId) : String :=
  "[" ++ ", ".intercalate (ids.map showNode) ++ "]"

/-- The wording of an error. -/
def message : ClusterError → String
  | socket fault => "I/O error: " ++ fault.message
  | codec reason => "Codec error: " ++ reason
  | transport reason => "Transport error: " ++ reason
  | config reason => "Config error: " ++ reason
  | notPrimary none => "Not primary (current primary: None)"
  | notPrimary (some id) => "Not primary (current primary: Some(" ++ showNode id ++ "))"
  | replicationIncomplete seqn missing =>
    s!"Replication incomplete for seqn {seqn.toNat}: no ack from " ++ showNodes missing
  | directoryFull capacity => s!"Replica directory full (capacity {capacity})"
  | shutdown => "Node is shutting down"
  | seqnExhausted => "attempt to add with overflow"

/-- Whether a send that failed this way is worth repeating. -/
def isRetryable : ClusterError → Bool
  | socket fault => fault.isTransient
  | transport _ => true
  | _ => false

/-- What a client is told. The caller cannot know whether a write that failed in another way than
for want of the lead reached the backups, so all else counts as incomplete. -/
def requestStatus : ClusterError → RequestStatus
  | notPrimary _ => .notPrimary
  | _ => .replicationIncomplete

end ClusterError

end SumCluster
