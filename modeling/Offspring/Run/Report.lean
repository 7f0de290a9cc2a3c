import Offspring.Json.Value
import Offspring.ExitStatus

/-!
# The report of a run

What is told once the child is gone, and the code that the run itself ends with: the child's, or 128 and
the signal that ended it, or 1 if neither is known.
-/

namespace Offspring.Run

/-- How a child ended. -/
structure Report where
  backend : String
  pid : Int
  exitCode : Int
  termSignal : Int
  peakMemory : Int
  /-- Whether the child was signaled by the run. -/
  signaled : Bool
  timedOut : Bool
  /-- The output, if it was gathered. -/
  output : Option String
  deriving DecidableEq

namespace Report

/-- The code that the run ends with. -/
def exitStatus (r : Report) : Int :=
  if 0 ≤ r.exitCode then r.exitCode
  else if 0 < r.termSignal then 128 + r.termSignal
  else 1

/-- The report as a value. -/
def toJson (r : Report) : Json.Value :=
  .object ([
    ("backend", .string r.backend),
    ("pid", .number r.pid),
    ("exit_code", .number r.exitCode),
    ("term_signal", .number r.termSignal),
    ("peak_memory_kb", .number r.peakMemory),
    ("signaled", .bool r.signaled),
    ("timed_out", .bool r.timedOut)] ++
    r.output.toList.map fun text => ("output", .string text))

/-- The report as it is written. -/
def text (r : Report) : String :=
  r.toJson.pretty

end Report

end Offspring.Run
