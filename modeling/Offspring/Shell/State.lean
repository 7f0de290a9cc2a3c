import Offspring.Machine.Processes
import Offspring.Shell.Expansion

/-!
# A shell at work

The state of a shell says what it does next and, frame by frame, what it goes on with after that. A frame
on top tells what the end of the present command leads to.
-/

namespace Offspring.Shell

open Posix (Fd Pid)

/-- Why a shell waits for children. -/
inductive Awaited where
  /-- They run in its foreground; the end of the last one counts. -/
  | foreground
  /-- They were named to a builtin; the end of the last one counts. -/
  | named
  /-- A builtin waits for all there are. -/
  | all
  deriving DecidableEq

/-- What a shell does next. -/
inductive Control where
  /-- It takes the next line of its script. -/
  | fetch
  /-- It runs a command. The last command of a shell can take its process over. -/
  | run (c : Command) (isLast : Bool) (outputs : List (List Char))
  /-- A command has ended. -/
  | settled (status : Nat)
  /-- It writes for a builtin, which ends with a status. -/
  | emit (writes : List (Fd × ByteArray)) (status : Nat)
  /-- It waits for children in order. A builtin stops waiting for a signal that is caught. -/
  | awaiting (children : List Pid) (status : Nat) (why : Awaited)
  /-- It reads a line for variables; the latest character comes first, with whether it is escaped. -/
  | reading (names : List (List Char)) (isRaw : Bool) (line : List Marked)
  /-- It gathers the output of a command in a word. -/
  | gathering (reader : Fd) (child : Pid) (output : ByteArray)
  /-- It reads its script to the end of its input. -/
  | loading (script : ByteArray)
  /-- It turns into a program, perhaps because a builtin has ordered that. -/
  | become (redirects : List (Fd × RedirectionKind × List Char)) (words : List (List Char))
      (assignments : List (List Char × List Char)) (isOrdered : Bool)
  /-- It ends. -/
  | leave (status : Nat)

/-- What a shell goes on with. -/
inductive Frame where
  | nextLine
  | andThen (c : Command) (isLast : Bool)
  | onSuccess (c : Command) (isLast : Bool)
  | onFailure (c : Command) (isLast : Bool)
  | negate
  | choose (yes no : Command) (isLast : Bool)
  /-- The test of a loop has been run; the status is that of the last body. -/
  | tested (isUntil : Bool) (test body : Command) (status : Nat)
  /-- The body of a loop has been run. -/
  | repeated (isUntil : Bool) (test body : Command)
  /-- The body has been run for one value; these are left. -/
  | each (name : List Char) (values : List (List Char)) (body : Command)
  /-- The shell ends if the command has failed. -/
  | guard
  /-- Descriptors get their meanings back. -/
  | undo (saved : List (Fd × Option Fd))
  /-- A function returns to these parameters and local variables. -/
  | call (positional : List (List Char)) (locals : List (List Char × Option Variable))
  /-- A text has been run to its end; these tokens come next, or this. -/
  | source (outer : List Token) (next : Option (Control × Nat))
  /-- A command waits for an output in its words. -/
  | expanding (c : Command) (isLast : Bool) (outputs : List (List Char))

/-- A shell at work. -/
structure State where
  scope : Scope
  control : Control
  frames : List Frame := []
  /-- What is left of the script. -/
  tokens : List Token := []
  line : Nat := 1
  /-- Whether the last command of the script can take the process over. -/
  canGiveUp : Bool := false
  functions : List (List Char × Command) := []
  /-- What is run for a signal, nothing at all if it is empty; number 0 is the end of the shell. -/
  traps : List (Nat × List Char) := []
  /-- The children that nobody has waited for. -/
  children : List Pid := []
  /-- How the children ended that a builtin has waited for. -/
  ended : List (Pid × Nat) := []
  /-- How the last command in a word ended, since the present command began. -/
  outputStatus : Nat := 0
  /-- The builtin that has been started last. -/
  builtin : List Char := []
  /-- Whether the shell ends when a command fails. -/
  endsOnFailure : Bool := false
  /-- Whether all that the shell runs is part of a test. -/
  isTest : Bool := false

/-- Whether the command above a frame is part of a test, so that it may fail. -/
def Frame.tests : Frame → Bool
  | .onSuccess .. | .onFailure .. | .negate | .choose .. | .tested .. => true
  | _ => false

namespace State

/-- The shell with something else to do next. -/
def goTo (s : State) (control : Control) : State :=
  { s with control }

/-- The shell with a command ended. -/
def settle (s : State) (status : Nat) : State :=
  s.goTo (.settled status)

/-- The shell with something to do next, and something to go on with then. -/
def push (s : State) (frame : Frame) (control : Control) : State :=
  { s with frames := frame :: s.frames, control }

/-- What the shell puts in front of a complaint. -/
def complaint (s : State) (message : List Char) : ByteArray :=
  Text.octets (s.scope.name ++ ": ".toList ++ (toString s.line).toList ++ ": ".toList ++ message ++ ['\n'])

/-- The shell complaining, after which the present command ends with a status. -/
def complain (s : State) (message : List Char) (status : Nat) : State :=
  s.goTo (.emit [(2, s.complaint message)] status)

/-- The shell complaining, after which it ends. -/
def giveUp (s : State) (message : List Char) (status : Nat) : State :=
  { s with frames := [], traps := [] }.complain message status

/-- Whether the present command may fail even if the shell ends when a command fails. -/
def mayFail (s : State) : Bool :=
  !s.endsOnFailure || s.isTest || s.frames.any Frame.tests

/-- A child of the shell that runs a command. What the shell caught is not caught by the child. -/
def childRunning (s : State) (control : Control) : State :=
  { s with
    control
    frames := []
    tokens := []
    traps := s.traps.filter fun (signal, action) => signal ≠ 0 && action.isEmpty
    children := []
    isTest := s.mayFail }

/-- Whether the shell has something to do for signals or at its end. -/
def hasTraps (s : State) : Bool :=
  s.traps.any fun (_, action) => !action.isEmpty

/-- The shell running a text, after which it goes on with what comes next. -/
def evaluate (s : State) (text : List Char) (next : Option (Control × Nat)) : State :=
  { s with tokens := Shell.tokens text }.push (.source s.tokens next) .fetch

/-- How the shell tells an ended process's status word. -/
def statusOf (word : UInt32) : Nat :=
  let signal := (word &&& 0x7F).toNat
  if signal = 0 then ((word >>> 8) &&& 0xFF).toNat else 128 + signal

end State

/-- A shell that starts as a program, with the options and operands of its argument vector. -/
structure Invocation where
  name : List Char
  /-- A script in the arguments. -/
  command : Option (List Char) := none
  /-- A script in a file. -/
  file : Option (List Char) := none
  positional : List (List Char) := []
  /-- Whether the shell ends when a command fails. -/
  endsOnFailure : Bool := false
  /-- Whether the script that the arguments announce is missing. -/
  isIncomplete : Bool := false

/-- The way a shell is started by an argument vector. Options other than `-c` and `-e` change nothing here. -/
def Invocation.ofArguments (argv : List (List Char)) : Invocation :=
  let name := argv.headD "sh".toList
  let options := argv.tail.takeWhile fun arg => arg.head? = some '-' && arg.length > 1
  let hasEnd := options.contains "--".toList
  let options := if hasEnd then options.takeWhile (· ≠ "--".toList) ++ ["--".toList] else options
  let operands := argv.tail.drop options.length
  let hasOption (letter : Char) : Bool :=
    options.any fun option => option.contains letter && option ≠ "--".toList
  let endsOnFailure := hasOption 'e'
  match hasOption 'c', operands with
  | true, command :: rest =>
    { name := rest.headD name, command := some command, positional := rest.tail, endsOnFailure }
  | true, [] => { name, isIncomplete := true }
  | false, file :: rest => { name := file, file := some file, positional := rest, endsOnFailure }
  | false, [] => { name, endsOnFailure }

end Offspring.Shell
