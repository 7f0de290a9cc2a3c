import Offspring.Run.Config
import Offspring.Run.Report
import Offspring.Spawner

/-!
# Executing a run

A run configures a spawner, launches one child and waits for it. With a time limit the child is looked at
every now and then; if it is still running when the limit has come, it is killed and waited for.
-/

namespace Offspring.Run

/-- Where runs are executed: a backend with a clock and console buffers. -/
structure Host (W C : Type) where
  backend : Backend W C
  /-- The time in microseconds. -/
  now : W → Nat
  /-- Lets so many microseconds go by. -/
  rest : Nat → W → W
  /-- How often the child is looked at until a time comes, at most. -/
  looks : Nat → W → Nat
  /-- Makes a console buffer. -/
  newSink : W → Sink × W
  /-- What a console buffer holds. -/
  contents : Sink → W → ByteArray

/-- Why a run comes to nothing. -/
inductive Failure where
  | noProgram
  | noRunFile
  | unreadable (path : OsString) (cause : IoError)
  | malformed (path : OsString) (cause : Json.Error)
  | refused (cause : LaunchError)
  | mask (fault : MaskFault)
  | notSpawned (program : OsString)

/-- The wording of a failure, and that of its cause. -/
def Failure.message : Failure → String × Option String
  | .noProgram => ("run file has no program", none)
  | .noRunFile => ("no run file given and SPROUT_CONFIG is not set", none)
  | .unreadable path cause => ("reading run file " ++ path.shown, some cause.message)
  | .malformed path cause => ("parsing run file " ++ path.shown, some cause.message)
  | .refused cause => (cause.message, none)
  | .mask fault => (fault.message, none)
  | .notSpawned program => ("failed to spawn " ++ program.shown, none)

/-- How long the run rests between two looks at the child, in microseconds. -/
def pollInterval : Nat := 50000

variable {W C : Type}

/-- Kills the child at the end of its time, and waits for it. -/
def killOverdue (h : Host W C) (s : Spawner C) (w : W) : Spawner C × W :=
  let (_, s, w) := s.markSignaled.wait h.backend .needKill w
  (s, w)

/-- Looks at the child until it has ended or its time has come, so often at most; the answer is whether it
was killed. -/
def waitUntil (h : Host W C) (deadline : Nat) : Nat → Spawner C → W → Bool × Spawner C × W
  | 0, s, w =>
    let (s, w) := killOverdue h s w
    (true, s, w)
  | looks + 1, s, w =>
    let (isRunning, s, w) := s.wait h.backend .noHang w
    if !isRunning then (false, s, w)
    else if deadline ≤ h.now w then
      let (s, w) := killOverdue h s w
      (true, s, w)
    else waitUntil h deadline looks s (h.rest pollInterval w)

/-- Waits for the child, up to a time limit in microseconds if there is one. -/
def waitWithTimeout (h : Host W C) (timeout : Option Nat) (s : Spawner C) (w : W) :
    Bool × Spawner C × W :=
  match timeout with
  | none =>
    let (_, s, w) := s.wait h.backend .infinite w
    (false, s, w)
  | some time =>
    let deadline := h.now w + time
    waitUntil h deadline (h.looks deadline w) s w

/-- The spawner of a run before the launch: a buffer is configured first, then files, detaching and the
mask. -/
def configure (b : Backend W C) (c : Config) (sink : Option Sink) (w : W) :
    Except Failure (Spawner C × W) := do
  let s : Spawner C := {}
  let s ←
    match sink with
    | some sink => (s.configureBuffer sink c.mode).mapError .refused
    | none => .ok s
  let s ← (s.configureFiles c.files c.mode).mapError .refused
  let (s, w) := s.configureDetach b c.detach w
  match c.umask with
  | none => .ok (s, w)
  | some text => do
    let mask ← (readMask text).mapError .mask
    .ok (s.configureUmask b mask w)

/-- The console buffer of a run that gathers output. -/
def bufferOf (h : Host W C) (c : Config) (w : W) : Option Sink × W :=
  if c.capture then
    let (sink, w) := h.newSink w
    (some sink, w)
  else (none, w)

/-- What is launched, given the parent's environment. -/
def launchOf (c : Config) (parent : List OsString) : LaunchSpec :=
  if c.inheritEnv then c.launch.mergeParent parent else c.launch

/-- Executes a run. -/
def execute (h : Host W C) (parent : List OsString) (c : Config) (w : W) : Except Failure Report × W :=
  if c.launch.program.isEmpty then (.error .noProgram, w)
  else
    let (sink, w) := bufferOf h c w
    match configure h.backend c sink w with
    | .error failure => (.error failure, w)
    | .ok (s, w) =>
      let spec := launchOf c parent
      let (pid, s, w) := s.spawn h.backend spec w
      if pid = invalidPid then (.error (.notSpawned spec.program), w)
      else
        let (timedOut, s, w) := waitWithTimeout h (c.timeoutSecs.map (· * 1000000)) s w
        (.ok {
          backend := h.backend.name
          pid
          exitCode := s.exitCode
          termSignal := s.terminationSignal h.backend
          peakMemory := s.peakMemory
          signaled := s.signaled
          timedOut
          output := sink.map fun sink => Text.lossy (h.contents sink w) }, w)

end Offspring.Run
