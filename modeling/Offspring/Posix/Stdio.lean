import Offspring.Posix.Kernel

/-!
# Descriptors for a child's standard streams

`Stdio.openPlan` opens what a plan routes the streams to, in the order input, output, error. A console
buffer becomes a pipe whose end to read stays with the parent. If one step fails, what the earlier ones
have opened is closed again.
-/

namespace Offspring.Posix

/-- The parent's end of a pipe into a console buffer. -/
structure Capture where
  reader : Fd
  sink : Sink
  deriving DecidableEq

/-- What the parent holds for a child's standard streams. -/
structure Stdio where
  stdin : Option Fd := none
  stdout : Option Fd := none
  /-- The error stream's own descriptor. -/
  ownStderr : Option Fd := none
  /-- Whether the error stream shares the output stream's descriptor. -/
  stderrFollows : Bool := false
  capture : Option Capture := none
  deriving DecidableEq

namespace Stdio

/-- The descriptor of the error stream. -/
def stderr (s : Stdio) : Option Fd :=
  if s.stderrFollows then s.stdout else s.ownStderr

/-- The descriptors for the three streams. -/
def targets (s : Stdio) : List (Option Fd) :=
  [s.stdin, s.stdout, s.stderr]

/-- The descriptors that only the child needs. -/
def childFds (s : Stdio) : List Fd :=
  s.stdin.toList ++ s.stdout.toList ++ s.ownStderr.toList

/-- All descriptors held. -/
def allFds (s : Stdio) : List Fd :=
  s.childFds ++ (s.capture.map (·.reader)).toList

variable {W : Type}

/-- Opens a file for a stream. A path with a NUL octet is not handed to the operating system. -/
def openFile (call : OsString → W → Except Errno Fd × W) (path : OsString) (w : W) :
    Except LaunchError Fd × W :=
  if path.hasNul then (.error (.redirect path .nulInPath), w)
  else
    match call path w with
    | (.error e, w) => (.error (.redirect path (.os e)), w)
    | (.ok fd, w) => (.ok fd, w)

/-- Opens the file of the input stream. -/
def openInput (k : Kernel W) (path : Option OsString) (w : W) : Except LaunchError Stdio × W :=
  match path with
  | none => (.ok {}, w)
  | some path =>
    match openFile k.openRead path w with
    | (.error cause, w) => (.error cause, w)
    | (.ok fd, w) => (.ok { stdin := some fd }, w)

/-- Opens the target of the output stream. -/
def openOutput (k : Kernel W) (target : Option StreamTarget) (s : Stdio) (w : W) :
    Except LaunchError Stdio × W :=
  match target with
  | none => (.ok s, w)
  | some (.file path) =>
    match openFile k.create path w with
    | (.error cause, w) => (.error cause, w)
    | (.ok fd, w) => (.ok { s with stdout := some fd }, w)
  | some (.buffer sink) =>
    match k.makePipe w with
    | (.error cause, w) => (.error (.io (.os cause)), w)
    | (.ok (reader, writer), w) =>
      (.ok { s with stdout := some writer, capture := some ⟨reader, sink⟩ }, w)
  | some .sameAsStdout => (.error (.configuration "stdout cannot be routed to itself"), w)

/-- Opens the target of the error stream. Without a file of its own it follows the output stream, if
that goes anywhere. -/
def openError (k : Kernel W) (target : Option StreamTarget) (s : Stdio) (w : W) :
    Except LaunchError Stdio × W :=
  match target with
  | none => (.ok s, w)
  | some (.file path) =>
    match openFile k.create path w with
    | (.error cause, w) => (.error cause, w)
    | (.ok fd, w) => (.ok { s with ownStderr := some fd }, w)
  | some _ => (.ok { s with stderrFollows := s.stdout.isSome }, w)

/-- Goes on with what has been opened so far, which is closed if the next step fails. -/
def andThen (k : Kernel W) (opened : Except LaunchError Stdio × W)
    (next : Stdio → W → Except LaunchError Stdio × W) : Except LaunchError Stdio × W :=
  match opened with
  | (.error cause, w) => (.error cause, w)
  | (.ok s, w) =>
    match next s w with
    | (.error cause, w) => (.error cause, k.closeAll s.allFds w)
    | done => done

/-- Opens what a plan routes the streams to. -/
def openPlan (k : Kernel W) (plan : StreamPlan) (w : W) : Except LaunchError Stdio × W :=
  andThen k (andThen k (openInput k plan.stdin w) (openOutput k plan.stdout)) (openError k plan.stderr)

end Stdio

end Offspring.Posix
