import Offspring.Posix.Kernel

/-!
# The thread that reaps a detached child

A detached child that is given up is left to a thread of its own, which waits for it. Only a wait that was
interrupted is made again; after any other answer the child is gone, and the thread that gathers its output
is finished.
-/

namespace Offspring.Posix.Reaper

variable {W : Type}

/-- Whether an answer to the wait leaves nothing to wait for. -/
def isOver : Except Errno Remains → Bool
  | .ok _ => true
  | .error e => e ≠ .interrupted

/-- Takes an answer to the wait; the result says whether the thread is over. -/
def settle (finish : Nat → W → W) (collector : Option Nat) (answer : Except Errno Remains) (w : W) :
    Bool × W :=
  if isOver answer then
    match collector with
    | some collector => (true, finish collector w)
    | none => (true, w)
  else (false, w)

/-- Waits until the child is gone, so many times at most. -/
def runFor (k : Kernel W) (child : Pid) (collector : Option Nat) : Nat → W → W
  | 0, w => w
  | fuel + 1, w =>
    let (answer, w) := k.await child w
    match settle k.finishCollector collector answer w with
    | (true, w) => w
    | (false, w) => runFor k child collector fuel w

/-- Waits until the child is gone. -/
def run (k : Kernel W) (child : Pid) (collector : Option Nat) (w : W) : W :=
  runFor k child collector (k.interruptions w + 1) w

end Offspring.Posix.Reaper
