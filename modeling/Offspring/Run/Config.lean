import Offspring.LaunchSpec.Json
import Offspring.Redirection
import Offspring.Run.Arguments

/-!
# What one run does

A `Config` says what to launch, where its streams go, and how long it may take. It comes from the command
line or from a run file, where every part may be left out.
-/

namespace Offspring.Run

/-- One launch with all that goes with it. -/
structure Config where
  launch : LaunchSpec := .ofProgram .empty
  stdin : Option OsString := none
  stdout : Option OsString := none
  stderr : Option OsString := none
  /-- The output is gathered for the report. -/
  capture : Bool := false
  /-- The error stream stays out of the output. -/
  stdoutOnly : Bool := false
  detach : Bool := false
  /-- The mask for new files, as text. -/
  umask : Option String := none
  timeoutSecs : Option Nat := none
  /-- The child gets the parent's variables as well. -/
  inheritEnv : Bool := false
  deriving DecidableEq, Inhabited

namespace Config

/-- A field of a run file, which may be left out. -/
def field {α : Type} (name : String) (read : Json.Scan α) (set : Config → α → Config) :
    Json.Field Config :=
  ⟨name, false, fun config text => do
    let (value, rest) ← read text
    .ok (set config value, rest)⟩

/-- An optional path in a run file. -/
def optionalPath : Json.Scan (Option OsString) :=
  Json.readOptional LaunchSpec.readPath

/-- The form of a run file. -/
def record : Json.Record Config where
  name := "RunConfig"
  empty := {}
  fields := [
    field "launch" LaunchSpec.record.read fun c launch => { c with launch },
    field "stdin" optionalPath fun c stdin => { c with stdin },
    field "stdout" optionalPath fun c stdout => { c with stdout },
    field "stderr" optionalPath fun c stderr => { c with stderr },
    field "capture" Json.readBool fun c capture => { c with capture },
    field "stdout_only" Json.readBool fun c stdoutOnly => { c with stdoutOnly },
    field "detach" Json.readBool fun c detach => { c with detach },
    field "umask" (Json.readOptional (Json.readText "a string")) fun c umask => { c with umask },
    field "timeout_secs" (Json.readOptional (Json.readWord "u64")) fun c timeoutSecs =>
      { c with timeoutSecs },
    field "inherit_env" Json.readBool fun c inheritEnv => { c with inheritEnv }]

/-- Reads a run file. -/
def ofJson (text : String) : Except Json.Error Config :=
  Json.readWhole record.read text

/-- The configuration with one option of the command line. -/
def withOption (c : Config) : OptionName × OptionValue → Config
  | (.stdin, .path p) => { c with stdin := some p }
  | (.stdout, .path p) => { c with stdout := some p }
  | (.stderr, .path p) => { c with stderr := some p }
  | (.cwd, .path p) => { c with launch := c.launch.withCwd p }
  | (.env, .text entry) => { c with launch := { c.launch with env := c.launch.env ++ [entry] } }
  | (.umask, .number mask) => { c with umask := some (maskText mask) }
  | (.timeout, .number seconds) => { c with timeoutSecs := some seconds }
  | (.capture, _) => { c with capture := true }
  | (.stdoutOnly, _) => { c with stdoutOnly := true }
  | (.detach, _) => { c with detach := true }
  | (.inheritEnv, _) => { c with inheritEnv := true }
  | _ => c

/-- The configuration for a request of the command line whose program has been found. -/
def ofRequest (request : RunRequest) (program : OsString) : Config :=
  request.given.foldl withOption { launch := { program, args := request.args } }

/-- The files for the standard streams. -/
def files (c : Config) : StreamFiles :=
  { stdin := c.stdin, stdout := c.stdout, stderr := c.stderr }

/-- Which streams go to the target of the output. -/
def mode (c : Config) : ConsoleMode :=
  if c.stdoutOnly then .stdoutOnly else .merged

end Config

end Offspring.Run
