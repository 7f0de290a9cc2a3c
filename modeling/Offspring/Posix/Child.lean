import Offspring.Posix.Kernel

/-!
# A forked child

A child is reaped once: the outcome is kept, and once it is there no call is made for the child any more.
An error other than an interruption while waiting means that the child is gone and its status lost. The
collecting thread is finished before an outcome is told, so that the captured output is whole then.

A child that is given up unreaped is killed and waited for, unless it is detached: then a thread of its
own waits for it, so that it does not linger once it ends.
-/

namespace Offspring.Posix

/-- A forked child. -/
structure Child where
  pid : Pid
  detach : Bool
  /-- The thread that gathers its output. -/
  collector : Option Nat
  /-- Its outcome, once it has been reaped. -/
  exit : Option Outcome
  deriving DecidableEq

namespace Child

variable {W : Type}

/-- The peak memory that is told of a child. -/
def peakMemoryOf (kilobytes : Int) : Int :=
  if kilobytes ≤ 0 then memoryUnavailable else kilobytes

/-- Finishes the collecting thread and keeps the outcome. -/
def finish (k : Kernel W) (outcome : Outcome) (c : Child) (w : W) : Outcome × Child × W :=
  let w := match c.collector with
    | some collector => k.finishCollector collector w
    | none => w
  (outcome, { c with collector := none, exit := some outcome }, w)

/-- Takes what waiting for the child has answered for its outcome. -/
def conclude (k : Kernel W) (answer : Except Errno Remains) (c : Child) (w : W) :
    Outcome × Child × W :=
  match answer with
  | .ok remains =>
    c.finish k ⟨.ofWaitStatus remains.status, peakMemoryOf remains.peakMemory⟩ w
  | .error e => c.finish k .lost (k.note (.waitFailed (.os e)) w)

/-- Reaps the child if it has ended. -/
def tryWait (k : Kernel W) (c : Child) (w : W) : Option Outcome × Child × W :=
  match c.exit with
  | some outcome => (some outcome, c, w)
  | none =>
    match k.retry (k.poll c.pid) w with
    | (.ok none, w) => (none, c, w)
    | (.ok (some remains), w) =>
      let (outcome, c, w) := c.conclude k (.ok remains) w
      (some outcome, c, w)
    | (.error e, w) =>
      let (outcome, c, w) := c.conclude k (.error e) w
      (some outcome, c, w)

/-- Waits for the child and reaps it. -/
def wait (k : Kernel W) (c : Child) (w : W) : Outcome × Child × W :=
  match c.exit with
  | some outcome => (outcome, c, w)
  | none =>
    let (answer, w) := k.retry (k.await c.pid) w
    c.conclude k answer w

/-- Kills the child if it is still running. Only an unreaped child is sent a signal, so the number
cannot belong to another process by then. -/
def kill (k : Kernel W) (c : Child) (w : W) : Bool × W :=
  match c.exit with
  | some _ => (false, w)
  | none =>
    match k.retry (k.hasEnded c.pid) w with
    | (.ok true, w) => (false, w)
    | (_, w) =>
      match k.kill c.pid sigkill w with
      | (.ok (), w) => (true, w)
      | (.error e, w) => (false, if e = .noProcess then w else k.note (.killFailed e) w)

/-- Gives up the child. -/
def release (k : Kernel W) (c : Child) (w : W) : W :=
  match c.exit with
  | some _ => w
  | none =>
    if c.detach then
      match k.startReaper c.pid c.collector (k.note .leavingDetached w) with
      | (.ok (), w) => w
      | (.error cause, w) => k.note (.reaperRefused cause) w
    else
      let (_, w) := c.kill k (k.note .killingOnDrop w)
      let (_, _, w) := c.wait k w
      w

end Child

end Offspring.Posix
