import Offspring.Spawner

/-!
# A scripted backend

A backend whose child follows a script: it answers `still running` to a number of polls, ends with a
given status, and dies of a kill that comes in time unless it cannot be killed. Its world counts the
calls and keeps what was launched.
-/

namespace Offspring.Scripted

/-- What the backend and its child do. -/
structure Script where
  refuse : Bool := false
  polls : Nat := 0
  exitCode : Int := 0
  diesBy : Option Int := none
  peak : Int := 1024
  pid : Int := 4242
  killSignal : Int := 9
  unkillable : Bool := false
  signals : Bool := true

/-- The calls so far. -/
structure Calls where
  launches : Nat := 0
  kills : Nat := 0
  polls : Nat := 0
  waits : Nat := 0
  released : Nat := 0
  launched : Option (LaunchSpec × LaunchOptions) := none
  events : Array Event := #[]

/-- A child that follows the script. -/
structure Child where
  remaining : Nat
  killed : Bool
  deriving DecidableEq

/-- How the child ends. -/
def Child.outcome (script : Script) (c : Child) : Outcome where
  status :=
    if c.killed then .signaled script.killSignal
    else
      match script.diesBy with
      | some signal => .signaled signal
      | none => .exited script.exitCode
  peakMemory := script.peak

/-- The backend of a script. -/
def backend (script : Script) : Backend Calls Child where
  name := "scripted"
  supportsSignals := script.signals
  launch spec options w :=
    let w := { w with launches := w.launches + 1, launched := some (spec, options) }
    if script.refuse then (.error (.launch (.kind .notFound)), w)
    else (.ok ⟨script.polls, false⟩, w)
  pid _ := script.pid
  tryWait c w :=
    let w := { w with polls := w.polls + 1 }
    if c.killed ∨ c.remaining = 0 then (some (c.outcome script), c, w)
    else (none, { c with remaining := c.remaining - 1 }, w)
  wait c w := (c.outcome script, c, { w with waits := w.waits + 1 })
  kill c w :=
    let w := { w with kills := w.kills + 1 }
    if c.killed ∨ c.remaining = 0 ∨ script.unkillable then (false, c, w)
    else (true, { c with killed := true }, w)
  release _ w := { w with released := w.released + 1 }
  note event w := { w with events := w.events.push event }

end Offspring.Scripted
