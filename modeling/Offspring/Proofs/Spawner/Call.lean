import Offspring.Spawner

/-!
# Runs of calls on one spawner

A `Call` is one use of what a spawner offers; a `Scene` is a spawner in its world. `Scene.perform`
answers one call, and `Scene.run` makes a sequence of them. The scenes that can come up are those of
`run` from a `fresh` spawner, whatever the backend answers and whatever the order of the calls.
-/

namespace Offspring.Spawner

variable {W C : Type}

/-- A call that configures the launch. -/
inductive Setting where
  | files (files : StreamFiles) (mode : ConsoleMode)
  | buffer (sink : Sink) (mode : ConsoleMode)
  | detach (detach : Bool)
  | umask (umask : Nat)
  deriving DecidableEq

/-- A call that reads one observation off the spawner. -/
inductive View where
  | isRunning
  | isSignaled
  | exitCode
  | peakMemory
  | terminationSignal
  | pid
  | state
  deriving DecidableEq

/-- One use of a spawner. -/
inductive Call where
  | configure (setting : Setting)
  | spawn (spec : LaunchSpec)
  | kill
  | wait (policy : WaitPolicy)
  | markSignaled
  | view (view : View)
  deriving DecidableEq

/-- What a call answers. -/
inductive Reply where
  /-- Nothing. -/
  | done
  | settled (result : Except LaunchError Unit)
  | number (value : Int)
  | flag (value : Bool)
  | state (value : Lifecycle)

/-- The answer of an observation. -/
def View.reply (b : Backend W C) (s : Spawner C) : View → Reply
  | .isRunning => .flag s.isRunning
  | .isSignaled => .flag s.signaled
  | .exitCode => .number s.exitCode
  | .peakMemory => .number s.peakMemory
  | .terminationSignal => .number (s.terminationSignal b)
  | .pid => .number s.pid
  | .state => .state s.state

/-- A spawner in its world. -/
structure Scene (W C : Type) where
  spawner : Spawner C
  world : W

namespace Scene

/-- A spawner that has not been used. -/
def fresh (w : W) : Scene W C :=
  ⟨{}, w⟩

/-- Takes the spawner that a redirecting call gives, or leaves the scene as it is. -/
def accept (x : Scene W C) : Except LaunchError (Spawner C) → Reply × Scene W C
  | .ok s => (.settled (.ok ()), { x with spawner := s })
  | .error cause => (.settled (.error cause), x)

/-- Answers a configuring call. -/
def configure (b : Backend W C) (x : Scene W C) : Setting → Reply × Scene W C
  | .files files mode => x.accept (x.spawner.configureFiles files mode)
  | .buffer sink mode => x.accept (x.spawner.configureBuffer sink mode)
  | .detach detach =>
    let (s, w) := x.spawner.configureDetach b detach x.world
    (.done, ⟨s, w⟩)
  | .umask umask =>
    let (s, w) := x.spawner.configureUmask b umask x.world
    (.done, ⟨s, w⟩)

/-- Answers a call. -/
def perform (b : Backend W C) (x : Scene W C) : Call → Reply × Scene W C
  | .configure setting => x.configure b setting
  | .spawn spec =>
    let (number, s, w) := x.spawner.spawn b spec x.world
    (.number number, ⟨s, w⟩)
  | .kill =>
    let (answer, s, w) := x.spawner.kill b x.world
    (.flag answer, ⟨s, w⟩)
  | .wait policy =>
    let (answer, s, w) := x.spawner.wait b policy x.world
    (.flag answer, ⟨s, w⟩)
  | .markSignaled => (.done, { x with spawner := x.spawner.markSignaled })
  | .view view => (view.reply b x.spawner, x)

/-- Makes calls one after the other. -/
def run (b : Backend W C) (x : Scene W C) (calls : List Call) : Scene W C :=
  calls.foldl (fun x call => (x.perform b call).2) x

@[simp] theorem run_nil (b : Backend W C) (x : Scene W C) : x.run b [] = x := rfl

@[simp] theorem run_cons (b : Backend W C) (x : Scene W C) (call : Call) (calls : List Call) :
    x.run b (call :: calls) = (x.perform b call).2.run b calls := rfl

/-- A run goes on from where its first part ended. -/
theorem run_append (b : Backend W C) (x : Scene W C) (calls later : List Call) :
    x.run b (calls ++ later) = (x.run b calls).run b later :=
  List.foldl_append

end Scene

end Offspring.Spawner
