import Offspring.ExitStatus
import Offspring.LaunchSpec
import Offspring.Error

/-!
# Diagnostics

What the library tells about its work while it goes on. Each event has a level, a message and named
fields; process numbers are no part of them.
-/

namespace Offspring

/-- How much an event matters. -/
inductive Level where
  | error
  | warn
  | info
  | debug
  deriving DecidableEq

/-- The name of a level. -/
def Level.name : Level → String
  | .error => "ERROR"
  | .warn => "WARN"
  | .info => "INFO"
  | .debug => "DEBUG"

/-- Something worth telling. -/
inductive Event where
  | execSucceeded (program : OsString)
  | collectorRefused (cause : IoError)
  | childSpawned (program : OsString) (backend : String) (detach : Bool)
  | spawnFailed (program : OsString) (cause : LaunchError)
  | spawnerUsed (state : Lifecycle)
  | detachIgnored
  | umaskIgnored
  | killedBeforeWaiting
  | exitObserved (state : Lifecycle) (peakMemory : Int)
  | killFailed (cause : Errno)
  | waitFailed (cause : IoError)
  | leavingDetached
  | killingOnDrop
  | reaperRefused (cause : IoError)
  | collectorPanicked
  | captureCutOff
  | readingFailed (cause : IoError)

namespace Event

/-- The level of an event. -/
def level : Event → Level
  | .spawnerUsed _ | .waitFailed _ => .error
  | .collectorRefused _ | .spawnFailed .. | .killFailed _ | .reaperRefused _ | .collectorPanicked
  | .readingFailed _ => .warn
  | _ => .debug

/-- The message of an event. -/
def message : Event → String
  | .execSucceeded _ => "exec succeeded"
  | .collectorRefused _ => "failed to start output collector"
  | .childSpawned .. => "child spawned"
  | .spawnFailed .. => "spawn failed"
  | .spawnerUsed _ => "spawn called on a used spawner"
  | .detachIgnored => "detach ignored after spawn"
  | .umaskIgnored => "umask ignored after spawn"
  | .killedBeforeWaiting => "killed child before waiting"
  | .exitObserved .. => "child exit observed"
  | .killFailed _ => "failed to send SIGKILL"
  | .waitFailed _ => "wait4 failed, treating child as exited"
  | .leavingDetached => "leaving detached child running"
  | .killingOnDrop => "killing unreaped child on drop"
  | .reaperRefused _ => "failed to start reaper for detached child"
  | .collectorPanicked => "output collector thread panicked"
  | .captureCutOff => "child output still flowing after exit, capture cut off"
  | .readingFailed _ => "reading child output failed"

/-- The named fields of an event. -/
def fields : Event → List (String × String)
  | .execSucceeded program => [("program", program.shown)]
  | .collectorRefused cause => [("error", cause.message)]
  | .childSpawned program backend detach =>
    [("program", program.shown), ("backend", backend), ("detach", toString detach)]
  | .spawnFailed program cause => [("program", program.shown), ("error", cause.message)]
  | .spawnerUsed state => [("state", state.shown)]
  | .exitObserved state peakMemory =>
    [("state", state.shown), ("peak_memory_kb", toString peakMemory)]
  | .killFailed cause => [("error", cause.described)]
  | .waitFailed cause => [("error", cause.message)]
  | .reaperRefused cause => [("error", cause.message)]
  | .readingFailed cause => [("error", cause.message)]
  | _ => []

end Event

end Offspring
