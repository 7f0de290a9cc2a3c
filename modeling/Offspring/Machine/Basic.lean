import Offspring.Machine.Descriptor
import Offspring.Machine.FileTree
import Offspring.Machine.Signal

/-!
# The state of a machine

A machine holds a tree of files, open files, pipes, and processes that share them; its clock counts
microseconds. What a process is working on is a value of a type `T` about which nothing is said here.
One process, the client, is the one that the library itself runs in: it does its work through calls made
from outside, and has threads that gather output and reap children.

A process can be made to fail in certain calls; its children and threads then fail in them as well.
-/

namespace Offspring

open Posix (Fd Pid)

namespace Machine

/-- What an open file reads from and writes to. -/
inductive Channel where
  | node (id : NodeId)
  /-- A text that was made when the file was opened. -/
  | text (octets : ByteArray)
  | reader (pipe : Nat)
  | writer (pipe : Nat)
  /-- A console outside the machine. -/
  | console (sink : Sink)
  deriving DecidableEq

/-- An open file. -/
structure OpenFile where
  channel : Channel
  readable : Bool
  writable : Bool
  /-- Every write goes to the end. -/
  atEnd : Bool := false
  offset : Nat := 0

/-- A call that can be made to fail. -/
inductive Call where
  | fork
  | startThread
  /-- A read of exactly four octets. -/
  | readFour
  | kill
  | exec
  | newSession
  | changeDirectory
  | duplicate
  | makePipe
  | openFile
  | awaitInput
  | await
  | peek
  deriving DecidableEq

/-- Calls that fail, and with what. -/
abbrev Refusals := List (Call × Errno)

/-- How far a process has come. -/
inductive Life where
  | running
  | stopped
  /-- It has ended with a status word and waits to be reaped. -/
  | ended (status : UInt32)
  deriving DecidableEq

/-- Whether a process has ended. -/
def Life.hasEnded : Life → Bool
  | .ended _ => true
  | _ => false

/-- A process that works on a `T`. -/
structure Process (T : Type) where
  parent : Pid
  group : Pid
  session : Pid
  life : Life := .running
  fds : Descriptors := {}
  /-- All descriptors are below this number. -/
  fdLimit : Nat := 1024
  cwd : NodeId
  umask : Nat := 0o022
  /-- Signals that do nothing. -/
  ignored : List Nat := []
  /-- Signals that are handed to the process. -/
  caught : List Nat := []
  /-- Signals handed to the process and not taken yet. -/
  arrived : List Nat := []
  /-- Signals that wait for a stopped process to go on. -/
  held : List Nat := []
  refusals : Refusals := []
  name : OsString
  argv : List OsString
  task : T

/-- A thread of the client. -/
inductive Thread where
  /-- Copies what a descriptor gives into a console buffer. From the time that it is told to stop it has
  a deadline. -/
  | collector (fd : Fd) (sink : Sink) (deadline : Option Nat)
  /-- Waits for a child and then stops a collector. -/
  | reaper (child : Pid) (collector : Option Nat)
  | ended
  deriving DecidableEq

end Machine

open Machine in
/-- A machine whose processes work on a `T`. -/
structure Machine (T : Type) where
  /-- The time in microseconds. -/
  now : Nat := 0
  tree : FileTree
  files : Array OpenFile := #[]
  /-- What is on its way in each pipe. -/
  pipes : Array ByteArray := #[]
  /-- The processes by their numbers. -/
  processes : Array (Option (Process T)) := #[]
  threads : Array (Thread × Refusals) := #[]
  sinks : Sinks := {}
  log : Array Event := #[]
  /-- Whether the client has ended itself. -/
  aborted : Bool := false

namespace Machine

variable {T : Type}

/-- The process that ends up as the parent of all that have lost theirs. -/
def init : Pid := 1

/-- The process that the library runs in. -/
def client : Pid := 2

/-- How much a pipe can hold. -/
def pipeCapacity : Nat := 65536

/-- The most octets that are written to a pipe all at once or not at all. -/
def pipeUnit : Nat := 4096

/-- The process with a number. -/
def process? (m : Machine T) (pid : Pid) : Option (Process T) :=
  (m.processes[pid]?).join

/-- Changes the process with a number. -/
def modifyProcess (m : Machine T) (pid : Pid) (f : Process T → Process T) : Machine T :=
  { m with processes := m.processes.modify pid (Option.map f) }

/-- The error that a process's call is made to fail with. -/
def refusal? (m : Machine T) (pid : Pid) (call : Call) : Option Errno :=
  (m.process? pid).bind fun p => p.refusals.lookup call

/-- What an event tells is kept. -/
def note (event : Event) (m : Machine T) : Machine T :=
  { m with log := m.log.push event }

/-- The open file behind a process's descriptor. -/
def fileOf? (m : Machine T) (pid : Pid) (fd : Fd) : Option (Nat × OpenFile) := do
  let p ← m.process? pid
  let slot ← p.fds.get? fd
  let file ← m.files[slot.file]?
  some (slot.file, file)

/-- Whether a process has a descriptor for a channel. -/
def holds (m : Machine T) (channel : Channel) (p : Process T) : Bool :=
  p.fds.slots.any fun (_, slot) => (m.files[slot.file]?).any (·.channel = channel)

/-- Whether any process has a descriptor for a channel. -/
def isOpen (m : Machine T) (channel : Channel) : Bool :=
  m.processes.any fun p => p.any (m.holds channel)

end Machine

end Offspring
