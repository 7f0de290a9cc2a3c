import Offspring.Console
import Offspring.Error

/-!
# Where the child's standard streams go

A `Redirection` routes the streams nowhere, to files, or into a console buffer; files and a buffer
exclude each other. `Redirection.plan` resolves it to one target a stream: an error stream without a file
of its own shares the target of the output stream in the merging mode.
-/

namespace Offspring

/-- Which console streams go to the target of the output stream when the error stream has none. -/
inductive ConsoleMode where
  /-- Both share it. -/
  | merged
  /-- The error stream stays the parent's. -/
  | stdoutOnly
  deriving DecidableEq, Inhabited

/-- Files for the standard streams; a stream without one stays the parent's. -/
structure StreamFiles where
  stdin : Option OsString := none
  stdout : Option OsString := none
  stderr : Option OsString := none
  deriving DecidableEq, Inhabited

/-- Whether no stream has a file. -/
def StreamFiles.isEmpty (files : StreamFiles) : Bool :=
  files.stdin.isNone && files.stdout.isNone && files.stderr.isNone

/-- The routing of the standard streams. -/
inductive Redirection where
  /-- All streams are the parent's. -/
  | inherit
  /-- Streams go to and come from files. -/
  | files (files : StreamFiles)
  /-- Output is gathered in a console buffer. -/
  | buffer (sink : Sink)
  deriving DecidableEq, Inhabited

/-- The target of one output stream. -/
inductive StreamTarget where
  /-- A file, made or emptied. -/
  | file (path : OsString)
  /-- A console buffer. -/
  | buffer (sink : Sink)
  /-- Whatever the output stream was given. -/
  | sameAsStdout
  deriving DecidableEq

/-- One target a stream; a stream without one is the parent's. -/
structure StreamPlan where
  stdin : Option OsString := none
  stdout : Option StreamTarget := none
  stderr : Option StreamTarget := none
  deriving DecidableEq, Inhabited

namespace Redirection

/-- Routes streams to files. Without any file nothing changes; with a console buffer configured it is a
conflict. -/
def setFiles (r : Redirection) (wanted : StreamFiles) : Except LaunchError Redirection :=
  if wanted.isEmpty then .ok r
  else
    match r with
    | .buffer _ => .error .bufferConfigured
    | _ => .ok (.files wanted)

/-- Gathers output in a console buffer. With a file configured it is a conflict. -/
def setBuffer (r : Redirection) (sink : Sink) : Except LaunchError Redirection :=
  match r with
  | .files chosen => if chosen.isEmpty then .ok (.buffer sink) else .error .filesConfigured
  | _ => .ok (.buffer sink)

/-- The targets of the streams. -/
def plan (r : Redirection) (mode : ConsoleMode) : StreamPlan :=
  match r with
  | .inherit => {}
  | .files chosen =>
    { stdin := chosen.stdin
      stdout := chosen.stdout.map .file
      stderr :=
        match chosen.stderr, chosen.stdout, mode with
        | some path, _, _ => some (.file path)
        | none, some _, .merged => some .sameAsStdout
        | none, _, _ => none }
  | .buffer sink =>
    { stdin := none
      stdout := some (.buffer sink)
      stderr :=
        match mode with
        | .merged => some .sameAsStdout
        | .stdoutOnly => none }

end Redirection

end Offspring
