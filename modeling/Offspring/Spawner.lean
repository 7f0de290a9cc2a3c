import Offspring.Event
import Offspring.Redirection

/-!
# The life of one child

A `Spawner` is configured, launches one child, observes it and reports how it ended. It works over any
`Backend`: a way to start processes in some world, whose answers may be anything. Only `spawn` leaves the
configuring state, only `wait` moves a spawned child to its end, and `kill` merely asks the backend for
one. In both `kill` and `wait` the answer `true` means that the child is still running.

The child is kept for exactly as long as the state is `spawned`: it is released in the call that first
observes its exit.
-/

namespace Offspring

/-- Per-launch settings. -/
structure LaunchOptions where
  stdio : StreamPlan := {}
  detach : Bool := false
  umask : Option Nat := none
  deriving DecidableEq, Inhabited

/-- A way to start processes in a world `W`; `C` is a launched child that has not been reaped. -/
structure Backend (W C : Type) where
  name : String
  /-- Whether children can end by a signal and tell it. -/
  supportsSignals : Bool
  /-- Starts a child. After a failure nothing is left running. -/
  launch : LaunchSpec → LaunchOptions → W → Except LaunchError C × W
  /-- The process number of a child. -/
  pid : C → Int
  /-- Reaps the child if it has ended. -/
  tryWait : C → W → Option Outcome × C × W
  /-- Waits until the child ends and reaps it. -/
  wait : C → W → Outcome × C × W
  /-- Asks for the child's end; `true` if a running child got the request. -/
  kill : C → W → Bool × C × W
  /-- Gives up the child and all that belongs to it. -/
  release : C → W → W
  /-- Tells about the work. -/
  note : Event → W → W

/-- How `wait` waits. -/
inductive WaitPolicy where
  /-- One check. -/
  | noHang
  /-- Until the child ends. -/
  | infinite
  /-- The child is killed first, then waited for. -/
  | needKill
  deriving DecidableEq

/-- One child: configured, launched, observed and reaped. -/
structure Spawner (C : Type) where
  redirection : Redirection := .inherit
  mode : ConsoleMode := .merged
  detach : Bool := false
  umask : Option Nat := none
  state : Lifecycle := .configuring
  child : Option C := none
  pid : Int := invalidPid
  peakMemory : Int := memoryUnavailable
  /-- Whether the caller has recorded that it signaled the child. -/
  signaled : Bool := false

namespace Spawner

variable {W C : Type}

/-- Whether configuration is accepted. -/
def isConfiguring (s : Spawner C) : Bool :=
  s.state = .configuring

/-- Routes streams to files. Without any file nothing changes, not even the mode. -/
def configureFiles (s : Spawner C) (files : StreamFiles) (mode : ConsoleMode) :
    Except LaunchError (Spawner C) :=
  if s.isConfiguring then
    if files.isEmpty then .ok s
    else do
      let redirection ← s.redirection.setFiles files
      .ok { s with redirection, mode }
  else .error .alreadySpawned

/-- Gathers output in a console buffer. -/
def configureBuffer (s : Spawner C) (sink : Sink) (mode : ConsoleMode) :
    Except LaunchError (Spawner C) :=
  if s.isConfiguring then do
    let redirection ← s.redirection.setBuffer sink
    .ok { s with redirection, mode }
  else .error .alreadySpawned

/-- Sets whether the child gets a session of its own; ignored once the spawner has been used. -/
def configureDetach (b : Backend W C) (detach : Bool) (s : Spawner C) (w : W) : Spawner C × W :=
  if s.isConfiguring then ({ s with detach }, w) else (s, b.note .detachIgnored w)

/-- Sets the file mode creation mask of the child; ignored once the spawner has been used. -/
def configureUmask (b : Backend W C) (umask : Nat) (s : Spawner C) (w : W) : Spawner C × W :=
  if s.isConfiguring then ({ s with umask := some umask }, w) else (s, b.note .umaskIgnored w)

/-- What a launch is asked for. -/
def options (s : Spawner C) : LaunchOptions :=
  { stdio := s.redirection.plan s.mode, detach := s.detach, umask := s.umask }

/-- Launches the child and gives its process number, or `invalidPid` if there is none. -/
def spawn (b : Backend W C) (spec : LaunchSpec) (s : Spawner C) (w : W) : Int × Spawner C × W :=
  if s.isConfiguring then
    match b.launch spec s.options w with
    | (.ok child, w) =>
      let s := { s with pid := b.pid child, child := some child, state := .spawned }
      (s.pid, s, b.note (.childSpawned spec.program b.name s.detach) w)
    | (.error cause, w) =>
      (invalidPid, { s with state := .unspawned }, b.note (.spawnFailed spec.program cause) w)
  else (invalidPid, s, b.note (.spawnerUsed s.state) w)

/-- Asks for the child's end. -/
def kill (b : Backend W C) (s : Spawner C) (w : W) : Bool × Spawner C × W :=
  match s.child with
  | some child =>
    if s.state.isRunning then
      let (delivered, child, w) := b.kill child w
      (delivered, { s with child := some child }, w)
    else (false, s, w)
  | none => (false, s, w)

/-- Records how the child ended and releases it. -/
def recordExit (b : Backend W C) (outcome : Outcome) (child : C) (s : Spawner C) (w : W) :
    Spawner C × W :=
  let s := { s with
    state := .ofStatus outcome.status
    peakMemory := outcome.peakMemory
    child := none }
  (s, b.note (.exitObserved s.state s.peakMemory) (b.release child w))

/-- Observes the child; `true` means that it is still running. -/
def wait (b : Backend W C) (policy : WaitPolicy) (s : Spawner C) (w : W) : Bool × Spawner C × W :=
  match s.child with
  | none => (false, s, w)
  | some child =>
    match policy with
    | .noHang =>
      match b.tryWait child w with
      | (some outcome, child, w) => (false, s.recordExit b outcome child w)
      | (none, child, w) => (true, { s with child := some child }, w)
    | .infinite =>
      let (outcome, child, w) := b.wait child w
      (false, s.recordExit b outcome child w)
    | .needKill =>
      let (delivered, child, w) := b.kill child w
      let w := if delivered then b.note .killedBeforeWaiting w else w
      let (outcome, child, w) := b.wait child w
      (false, s.recordExit b outcome child w)

/-- Records that the caller signaled the child. -/
def markSignaled (s : Spawner C) : Spawner C :=
  { s with signaled := true }

/-- Gives up the spawner, and its child if it still has one. -/
def release (b : Backend W C) (s : Spawner C) (w : W) : W :=
  match s.child with
  | some child => b.release child w
  | none => w

/-- Whether a child is out. -/
def isRunning (s : Spawner C) : Bool :=
  s.state.isRunning

/-- The child's exit code, if it ended by itself. -/
def exitCode (s : Spawner C) : Int :=
  match s.state with
  | .exited code => code
  | _ => noExitCode

/-- The signal that ended the child, if one did and the backend knows signals. -/
def terminationSignal (b : Backend W C) (s : Spawner C) : Int :=
  if b.supportsSignals then
    match s.state with
    | .signaled signal => signal
    | _ => noSignal
  else signalNotApplicable

end Spawner

end Offspring
