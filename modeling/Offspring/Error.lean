import Offspring.Errno
import Offspring.OsString

/-!
# Causes of failure

`IoError` is what a system or library call fails with, `LaunchError` what an operation of this library
fails with. Each has one wording; a `LaunchError` that wraps another cause can also name it on its own.
-/

namespace Offspring

/-- The kinds of failures that carry no number. -/
inductive IoKind where
  | addrInUse
  | addrNotAvailable
  | alreadyExists
  | argumentListTooLong
  | brokenPipe
  | connectionAborted
  | connectionRefused
  | connectionReset
  | crossesDevices
  | deadlock
  | directoryNotEmpty
  | executableFileBusy
  | fileTooLarge
  | hostUnreachable
  | interrupted
  | invalidData
  | invalidFilename
  | invalidInput
  | isADirectory
  | networkDown
  | networkUnreachable
  | notADirectory
  | notConnected
  | notFound
  | notSeekable
  | other
  | outOfMemory
  | permissionDenied
  | quotaExceeded
  | readOnlyFilesystem
  | resourceBusy
  | staleNetworkFileHandle
  | storageFull
  | timedOut
  | tooManyLinks
  | unexpectedEof
  | unsupported
  | wouldBlock
  | writeZero
  deriving DecidableEq

/-- The wording of a kind of failure. -/
def IoKind.message : IoKind → String
  | .addrInUse => "address in use"
  | .addrNotAvailable => "address not available"
  | .alreadyExists => "entity already exists"
  | .argumentListTooLong => "argument list too long"
  | .brokenPipe => "broken pipe"
  | .connectionAborted => "connection aborted"
  | .connectionRefused => "connection refused"
  | .connectionReset => "connection reset"
  | .crossesDevices => "cross-device link or rename"
  | .deadlock => "deadlock"
  | .directoryNotEmpty => "directory not empty"
  | .executableFileBusy => "executable file busy"
  | .fileTooLarge => "file too large"
  | .hostUnreachable => "host unreachable"
  | .interrupted => "operation interrupted"
  | .invalidData => "invalid data"
  | .invalidFilename => "invalid filename"
  | .invalidInput => "invalid input parameter"
  | .isADirectory => "is a directory"
  | .networkDown => "network down"
  | .networkUnreachable => "network unreachable"
  | .notADirectory => "not a directory"
  | .notConnected => "not connected"
  | .notFound => "entity not found"
  | .notSeekable => "seek on unseekable file"
  | .other => "other error"
  | .outOfMemory => "out of memory"
  | .permissionDenied => "permission denied"
  | .quotaExceeded => "quota exceeded"
  | .readOnlyFilesystem => "read-only filesystem or storage medium"
  | .resourceBusy => "resource busy"
  | .staleNetworkFileHandle => "stale network file handle"
  | .storageFull => "no storage space"
  | .timedOut => "timed out"
  | .tooManyLinks => "too many links"
  | .unexpectedEof => "unexpected end of file"
  | .unsupported => "unsupported"
  | .wouldBlock => "operation would block"
  | .writeZero => "write zero"

/-- What a system or library call fails with. -/
inductive IoError where
  /-- The operating system refused, with a number. -/
  | os (errno : Errno)
  /-- A failure of a kind, without a number. -/
  | kind (k : IoKind)
  /-- A failure with a text of its own. -/
  | custom (text : String)
  /-- A path with a NUL octet was never handed to the operating system. -/
  | nulInPath
  /-- Octets that had to be text are not. -/
  | notText
  deriving DecidableEq

/-- The wording of a failed call. -/
def IoError.message : IoError → String
  | .os errno => errno.text ++ " (os error " ++ toString errno.number ++ ")"
  | .kind k => k.message
  | .custom text => text
  | .nulInPath => "file name contained an unexpected NUL byte"
  | .notText => "stream did not contain valid UTF-8"

/-- What an operation of this library fails with. -/
inductive LaunchError where
  /-- Files and a console buffer were both asked for. -/
  | redirectionConflict (reason : String)
  /-- The spawner has been used, and its configuration is frozen. -/
  | alreadySpawned
  /-- What should be launched cannot be handed to the operating system. -/
  | invalidArgument (reason : String)
  /-- A file that a stream is routed to cannot be opened. -/
  | redirect (path : OsString) (cause : IoError)
  /-- The child could not be made, or did not come to run the program. -/
  | launch (cause : IoError)
  /-- Another call failed. -/
  | io (cause : IoError)
  /-- A call failed with a number. -/
  | errno (cause : Errno)
  /-- The routing of the streams makes no sense. -/
  | configuration (reason : String)
  deriving DecidableEq

namespace LaunchError

/-- The wording of a failure. -/
def message : LaunchError → String
  | .redirectionConflict reason => "redirection conflict: " ++ reason
  | .alreadySpawned => "spawner already started, configuration is frozen"
  | .invalidArgument reason => "invalid launch argument: " ++ reason
  | .redirect path cause =>
    "failed to open redirection file " ++ path.shown ++ ": " ++ cause.message
  | .launch cause => "launch failed: " ++ cause.message
  | .io cause => "io error: " ++ cause.message
  | .errno cause => "nix error: " ++ cause.described
  | .configuration reason => "configuration error: " ++ reason

/-- The wording of the cause that a failure names as its source. -/
def source? : LaunchError → Option String
  | .redirect _ cause => some cause.message
  | .io cause => some cause.message
  | .errno cause => some cause.described
  | _ => none

/-- Files were asked for although a console buffer is configured. -/
def bufferConfigured : LaunchError :=
  .redirectionConflict "console buffer already configured, cannot also redirect to files"

/-- A console buffer was asked for although files are configured. -/
def filesConfigured : LaunchError :=
  .redirectionConflict "file redirection already configured, cannot also capture to a buffer"

/-- A string for the operating system holds a NUL octet. -/
def nulByte (what : String) : LaunchError :=
  .invalidArgument (what ++ " contains a NUL byte")

end LaunchError

end Offspring
