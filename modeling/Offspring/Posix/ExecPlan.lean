import Offspring.Posix.CString
import Offspring.Posix.Stdio
import Offspring.Spawner

/-!
# What a forked child does

Everything that a child needs is prepared in the parent: `ExecPlan.ofSpec` refuses what cannot be handed
to the operating system, and `ExecPlan.run` is the child's own work, step by step up to the new program.
It stops at the first step that fails and tells that step's error.
-/

namespace Offspring.Posix

/-- A launch with all strings and descriptors resolved. -/
structure ExecPlan where
  program : CString
  argv : StringArray
  envp : StringArray
  cwd : Option CString
  /-- Descriptors for the standard streams, in order; a stream without one is left alone. -/
  targets : List (Option Fd)
  umask : Option Nat
  detach : Bool

namespace ExecPlan

/-- The plan of a launch. The checks are made in the order program, arguments, environment, directory. -/
def ofSpec (spec : LaunchSpec) (options : LaunchOptions) (stdio : Stdio) :
    Except LaunchError ExecPlan := do
  if spec.program.isEmpty then .error (.invalidArgument "empty program path")
  else
    let program ← CString.ofOctets "program path" spec.program
    let argv ← CString.ofTexts "argument" spec.argv
    let envp ← CString.ofTexts "environment entry" spec.env
    let cwd ←
      if spec.cwd.isEmpty then .ok none
      else (CString.ofOctets "working directory" spec.cwd).map some
    .ok {
      program
      argv := .ofTexts argv
      envp := .ofTexts envp
      cwd
      targets := stdio.targets
      umask := options.umask.map (· % 0o1000)
      detach := options.detach }

variable {W : Type}

/-- Puts a descriptor at a stream's number. One that is already there is only kept open. -/
def redirectFd (k : Kernel W) (child : Pid) (fd target : Fd) (w : W) : Except Errno Unit × W :=
  if fd = target then k.keepOnExec child fd w
  else k.retry (k.duplicate child fd target) w

/-- Puts the descriptors at the streams' numbers, one after the other from `target` on. -/
def redirectFrom (k : Kernel W) (child : Pid) : Fd → List (Option Fd) → W → Except Errno Unit × W
  | _, [], w => (.ok (), w)
  | target, none :: rest, w => redirectFrom k child (target + 1) rest w
  | target, some fd :: rest, w =>
    match redirectFd k child fd target w with
    | (.error e, w) => (.error e, w)
    | (.ok (), w) => redirectFrom k child (target + 1) rest w

/-- A step that is made only for some plans. -/
def stepIf (wanted : Bool) (step : W → Except Errno Unit × W) (w : W) : Except Errno Unit × W :=
  if wanted then step w else (.ok (), w)

/-- Goes on only after a step that succeeded. -/
def andThen (done : Except Errno Unit × W) (next : W → Except Errno Unit × W) :
    Except Errno Unit × W :=
  match done with
  | (.ok (), w) => next w
  | failed => failed

/-- The child's steps: session, mask, streams, directory, program. -/
def steps (k : Kernel W) (plan : ExecPlan) (child : Pid) (w : W) : Except Errno Unit × W :=
  let session := stepIf plan.detach (k.newSession child) w
  let masked := andThen session fun w =>
    (.ok (), match plan.umask with
      | some mask => k.setUmask child mask w
      | none => w)
  let redirected := andThen masked (redirectFrom k child 0 plan.targets)
  let moved := andThen redirected fun w =>
    match plan.cwd with
    | some dir => k.changeDirectory child dir.read w
    | none => (.ok (), w)
  andThen moved (k.exec child plan.program.read plan.argv.read plan.envp.read)

/-- The four octets of an error's number, the lowest first. -/
def reportOctets (e : Errno) : ByteArray :=
  let n := (e.number % 0x100000000).toNat
  ⟨#[n.toUInt8, (n / 0x100).toUInt8, (n / 0x10000).toUInt8, (n / 0x1000000).toUInt8]⟩

/-- The child's work. After a failure it reports the error's number and ends. -/
def run (k : Kernel W) (plan : ExecPlan) (child : Pid) (report : Fd) (w : W) : W :=
  match plan.steps k child w with
  | (.ok (), w) => w
  | (.error e, w) => k.exit child execFailedExit (k.write child report (reportOctets e) w)

end ExecPlan

end Offspring.Posix
