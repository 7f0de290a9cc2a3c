/-!
# How a child ends, and the life of a spawner

`ExitStatus.ofWaitStatus` decodes the status word of a child that was waited for. `Lifecycle` is the
life of one spawner; `Outcome` is all that is learnt when a child is reaped.
-/

namespace Offspring

/-- How a child ended. -/
inductive ExitStatus where
  /-- It ended by itself with this code. -/
  | exited (code : Int)
  /-- A signal ended it. -/
  | signaled (signal : Int)
  deriving DecidableEq

/-- The process number of a spawner without a child. -/
def invalidPid : Int := -1

/-- The peak memory of a child about which nothing is known. -/
def memoryUnavailable : Int := -1

/-- The exit code before an exit was observed and after death by a signal. -/
def noExitCode : Int := -1

/-- No signal took part in the end of a child. -/
def noSignal : Int := 0

/-- The terminating signal where the backend knows no signals. -/
def signalNotApplicable : Int := -1

namespace ExitStatus

/-- Reads a status word. Its seven lowest bits are 0 for an exit by itself, with the code in the eight
bits above the lowest eight, and the number of a signal otherwise; 127 says neither, and no code is
known then. -/
def ofWaitStatus (status : UInt32) : ExitStatus :=
  let ending := (status &&& 0x7F).toNat
  if 1 ≤ ending ∧ ending ≤ 126 then .signaled ending
  else if ending = 0 then .exited (((status >>> 8) &&& 0xFF).toNat)
  else .exited noExitCode

/-- The exit code, `noExitCode` after death by a signal. -/
def code : ExitStatus → Int
  | .exited code => code
  | .signaled _ => noExitCode

/-- The terminating signal, `noSignal` after an exit. -/
def signal : ExitStatus → Int
  | .exited _ => noSignal
  | .signaled signal => signal

end ExitStatus

/-- All that is learnt when a child is reaped. -/
structure Outcome where
  status : ExitStatus
  /-- Peak resident memory in kilobytes, or `memoryUnavailable`. -/
  peakMemory : Int
  deriving DecidableEq

/-- What is taken for the outcome of a child whose status was lost. -/
def Outcome.lost : Outcome :=
  ⟨.exited noExitCode, memoryUnavailable⟩

/-- The life of one spawner. -/
inductive Lifecycle where
  /-- It accepts configuration. -/
  | configuring
  /-- The launch failed without a child. -/
  | unspawned
  /-- A child was launched and its exit has not been observed. -/
  | spawned
  /-- The child ended by itself. -/
  | exited (code : Int)
  /-- A signal ended the child. -/
  | signaled (signal : Int)
  deriving DecidableEq

namespace Lifecycle

/-- The last state of a spawner whose child ended so. -/
def ofStatus : ExitStatus → Lifecycle
  | .exited code => .exited code
  | .signaled signal => .signaled signal

/-- Whether a child is out. -/
def isRunning : Lifecycle → Bool
  | .spawned => true
  | _ => false

/-- Whether nothing can change any more. -/
def isTerminal : Lifecycle → Bool
  | .unspawned | .exited _ | .signaled _ => true
  | .configuring | .spawned => false

/-- The state as diagnostics show it. -/
def shown : Lifecycle → String
  | .configuring => "Configuring"
  | .unspawned => "Unspawned"
  | .spawned => "Spawned"
  | .exited code => "Exited(" ++ toString code ++ ")"
  | .signaled signal => "Signaled(" ++ toString signal ++ ")"

end Lifecycle

end Offspring
