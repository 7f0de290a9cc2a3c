import Offspring.Posix.ExecPlan
import Offspring.Proofs.Posix.System

/-!
# The course of a child's steps

`ExecPlan.childSteps` lists what a forked child has to do, and `course` does it step by step, with a record of
the steps that succeeded and of the one that failed. `run_eq` says that a child's work is such a course: after
a failed step it only tells the number of the error and ends.
-/

namespace Offspring.Posix

variable {W : Type}

/-- A step of a forked child. -/
inductive ChildStep where
  | session
  | mask (bits : Nat)
  /-- Puts a descriptor at a stream's number. -/
  | stream (fd target : Fd)
  | directory (path : OsString)
  | program
  deriving DecidableEq

/-- The steps that put descriptors at the streams' numbers, from `target` on. -/
def streamSteps : Fd → List (Option Fd) → List ChildStep
  | _, [] => []
  | target, none :: rest => streamSteps (target + 1) rest
  | target, some fd :: rest => .stream fd target :: streamSteps (target + 1) rest

namespace ExecPlan

/-- The steps up to the program. -/
def preparations (plan : ExecPlan) : List ChildStep :=
  (if plan.detach then [.session] else []) ++ (plan.umask.map .mask).toList ++ streamSteps 0 plan.targets ++
    (plan.cwd.map fun dir => .directory dir.read).toList

/-- All steps of a child. -/
def childSteps (plan : ExecPlan) : List ChildStep :=
  plan.preparations ++ [.program]

/-- Does one step. -/
def perform (k : Kernel W) (plan : ExecPlan) (child : Pid) : ChildStep → W → Except Errno Unit × W
  | .session, w => k.newSession child w
  | .mask bits, w => (.ok (), k.setUmask child bits w)
  | .stream fd target, w => redirectFd k child fd target w
  | .directory path, w => k.changeDirectory child path w
  | .program, w => k.exec child plan.program.read plan.argv.read plan.envp.read w

end ExecPlan

/-- How far a child has come. -/
structure Course (W : Type) where
  /-- The steps that succeeded, in order. -/
  done : List ChildStep
  /-- The step that failed behind them, with its error. -/
  failed : Option (ChildStep × Errno)
  world : W

/-- Does steps in order up to the first one that fails. -/
def ExecPlan.course (k : Kernel W) (plan : ExecPlan) (child : Pid) : List ChildStep → W → Course W
  | [], w => ⟨[], none, w⟩
  | step :: rest, w =>
    match plan.perform k child step w with
    | (.ok (), w) =>
      let c := plan.course k child rest w
      { c with done := step :: c.done }
    | (.error e, w) => ⟨[], some (step, e), w⟩

namespace Course

/-- What a course answers, as a call would. -/
def answer (c : Course W) : Except Errno Unit × W :=
  match c.failed with
  | none => (.ok (), c.world)
  | some (_, e) => (.error e, c.world)

/-- The world in which a child has reported a failure and ended. -/
def concluded (k : Kernel W) (child : Pid) (report : Fd) (c : Course W) : W :=
  match c.failed with
  | none => c.world
  | some (_, e) => k.exit child execFailedExit (k.write child report (ExecPlan.reportOctets e) c.world)

end Course

namespace ExecPlan

variable (k : Kernel W) (plan : ExecPlan) (child : Pid)

/-- A course is the steps that succeeded, and no step follows the failed one. -/
theorem course_steps (steps : List ChildStep) (w : W) :
    match (plan.course k child steps w).failed with
    | none => (plan.course k child steps w).done = steps
    | some (step, _) => (plan.course k child steps w).done ++ [step] <+: steps := by
  induction steps generalizing w with
  | nil => rfl
  | cons step rest ih =>
    rcases hstep : plan.perform k child step w with ⟨_ | _, w'⟩
    · simp [course, hstep]
    · have hrest := ih w'
      simp only [course, hstep]
      cases hfailed : (plan.course k child rest w').failed <;> simp only [hfailed] at hrest ⊢
      · rw [hrest]
      · exact (List.prefix_cons_inj step).mpr hrest

section Answers

/-- A course of one step answers as the step does. -/
theorem answer_course_singleton (step : ChildStep) (w : W) :
    (plan.course k child [step] w).answer = plan.perform k child step w := by
  rcases hstep : plan.perform k child step w with ⟨_ | _, w'⟩ <;> simp [course, hstep, Course.answer]

/-- More steps go on where the first ones have succeeded. -/
theorem answer_course_append (steps more : List ChildStep) (w : W) :
    (plan.course k child (steps ++ more) w).answer =
      andThen (plan.course k child steps w).answer fun w => (plan.course k child more w).answer := by
  induction steps generalizing w with
  | nil => rfl
  | cons step rest ih =>
    rcases hstep : plan.perform k child step w with ⟨_ | _, w'⟩
    · simp [course, hstep, Course.answer, andThen]
    · have hrest := ih w'
      simpa only [List.cons_append, course, hstep, Course.answer] using hrest

theorem answer_course_session (w : W) :
    (plan.course k child (if plan.detach then [.session] else []) w).answer =
      stepIf plan.detach (k.newSession child) w := by
  cases plan.detach
  · rfl
  · exact answer_course_singleton k plan child .session w

theorem answer_course_mask (w : W) :
    (plan.course k child (plan.umask.map .mask).toList w).answer =
      (.ok (), match plan.umask with
        | some mask => k.setUmask child mask w
        | none => w) := by
  cases plan.umask <;> rfl

theorem answer_course_streams (target : Fd) (fds : List (Option Fd)) (w : W) :
    (plan.course k child (streamSteps target fds) w).answer = redirectFrom k child target fds w := by
  induction fds generalizing target w with
  | nil => rfl
  | cons fd rest ih =>
    cases fd with
    | none => exact ih (target + 1) w
    | some fd =>
      have happend := answer_course_append k plan child [.stream fd target] (streamSteps (target + 1) rest) w
      rw [answer_course_singleton] at happend
      rw [streamSteps, ← List.singleton_append, happend, redirectFrom, perform]
      rcases redirectFd k child fd target w with ⟨_ | _, w'⟩
      · rfl
      · exact ih (target + 1) w'

theorem answer_course_directory (w : W) :
    (plan.course k child (plan.cwd.map fun dir => .directory dir.read).toList w).answer =
      match plan.cwd with
      | some dir => k.changeDirectory child dir.read w
      | none => (.ok (), w) := by
  cases plan.cwd with
  | none => rfl
  | some dir => exact answer_course_singleton k plan child (.directory dir.read) w

/-- The child's steps are done one after the other, up to the first one that fails. -/
theorem steps_eq (w : W) : plan.steps k child w = (plan.course k child plan.childSteps w).answer := by
  simp only [childSteps, preparations, answer_course_append, answer_course_session, answer_course_mask,
    answer_course_streams, answer_course_directory, answer_course_singleton]
  rfl

/-- A child's work is the course of its steps, with a report of the one that failed. -/
theorem run_eq (report : Fd) (w : W) :
    plan.run k child report w = (plan.course k child plan.childSteps w).concluded k child report := by
  rw [run, steps_eq, Course.answer, Course.concluded]
  cases (plan.course k child plan.childSteps w).failed <;> rfl

end Answers

end ExecPlan

end Offspring.Posix
