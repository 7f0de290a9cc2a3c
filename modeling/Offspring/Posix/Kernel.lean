import Offspring.Event
import Offspring.Redirection

/-!
# The system calls of the backend

`Kernel W` lists the calls that the backend makes, each as a function of a world `W` with any answer. The
calls of the parent come first, those of a forked child, which name the child, after them.

A call that a signal can interrupt may answer `Errno.interrupted`; `Kernel.interruptions` bounds how many
such answers are still to come, so that `Kernel.retry` ends.
-/

namespace Offspring.Posix

/-- A descriptor's number. -/
abbrev Fd := Nat

/-- A process's number. -/
abbrev Pid := Nat

/-- The number of the signal that cannot be caught. -/
def sigkill : Nat := 9

/-- The exit code of a child that could not run its program. -/
def execFailedExit : Nat := 127

/-- What is left of an ended child: its status word and its peak memory in kilobytes. -/
structure Remains where
  status : UInt32
  peakMemory : Int
  deriving DecidableEq

/-- The calls of the backend, with whatever answers. -/
structure Kernel (W : Type) where
  /-- How many interrupted calls are still to come, at most. -/
  interruptions : W → Nat
  /-- Opens a file for reading. -/
  openRead : OsString → W → Except Errno Fd × W
  /-- Makes or empties a file and opens it for writing. -/
  create : OsString → W → Except Errno Fd × W
  /-- Makes a pipe: the end to read and the end to write, both closed on exec. -/
  makePipe : W → Except Errno (Fd × Fd) × W
  /-- Closes a descriptor. -/
  close : Fd → W → W
  /-- Reads at most so many octets. -/
  read : Fd → Nat → W → Except Errno ByteArray × W
  /-- Makes a child that shares all descriptors. -/
  fork : W → Except Errno Pid × W
  /-- Waits for a child, and reaps it. -/
  await : Pid → W → Except Errno Remains × W
  /-- Reaps a child if it has ended. -/
  poll : Pid → W → Except Errno (Option Remains) × W
  /-- Whether a child has ended; it is not reaped. -/
  hasEnded : Pid → W → Except Errno Bool × W
  /-- Sends a signal. -/
  kill : Pid → Nat → W → Except Errno Unit × W
  /-- Starts a thread that copies what a descriptor gives into a console buffer, and closes the
  descriptor in the end. If no thread can be started the descriptor is closed. -/
  startCollector : Fd → Sink → W → Except IoError Nat × W
  /-- Tells a collecting thread to stop and waits until it has. -/
  finishCollector : Nat → W → W
  /-- Starts a thread that waits for a child and then finishes a collecting thread. -/
  startReaper : Pid → Option Nat → W → Except IoError Unit × W
  /-- Ends the parent itself at once. -/
  abort : W → W
  /-- Tells about the work. -/
  note : Event → W → W
  /-- In the child: makes it the leader of a new session. -/
  newSession : Pid → W → Except Errno Unit × W
  /-- In the child: sets the file mode creation mask. -/
  setUmask : Pid → Nat → W → W
  /-- In the child: keeps a descriptor open on exec. -/
  keepOnExec : Pid → Fd → W → Except Errno Unit × W
  /-- In the child: makes a second descriptor for what the first one refers to; it stays open on exec. -/
  duplicate : Pid → Fd → Fd → W → Except Errno Unit × W
  /-- In the child: changes the working directory. -/
  changeDirectory : Pid → OsString → W → Except Errno Unit × W
  /-- In the child: replaces it by a program, with its arguments and environment. -/
  exec : Pid → OsString → List OsString → List OsString → W → Except Errno Unit × W
  /-- In the child: writes octets to a descriptor. -/
  write : Pid → Fd → ByteArray → W → W
  /-- In the child: ends it. -/
  exit : Pid → Nat → W → W

namespace Kernel

variable {W α : Type}

/-- Makes a call again for as long as it is interrupted, so many times at most. -/
def retryFor (call : W → Except Errno α × W) : Nat → W → Except Errno α × W
  | 0, w => call w
  | fuel + 1, w =>
    match call w with
    | (.error e, w) => if e = .interrupted then retryFor call fuel w else (.error e, w)
    | done => done

/-- Makes a call again for as long as it is interrupted. -/
def retry (k : Kernel W) (call : W → Except Errno α × W) (w : W) : Except Errno α × W :=
  retryFor call (k.interruptions w) w

/-- Closes descriptors in order. -/
def closeAll (k : Kernel W) (fds : List Fd) (w : W) : W :=
  fds.foldl (fun w fd => k.close fd w) w

end Kernel

end Offspring.Posix
