import Offspring.Run.Session

/-!
# The command line

`main` runs one session on a machine of its own: the files that the arguments name are put on the machine,
the session is run, and what its consoles hold is written. The session itself is pure; only the files, the
output and the exit code are exchanged with the world outside.
-/

namespace Offspring.Run

/-- The environment that sessions have. -/
def usualEnvironment : List OsString :=
  [OsString.ofString "PATH=/usr/local/bin:/usr/bin:/bin"]

/-- The path that an argument may name: what comes after an equals sign, or all of it. -/
def pathIn (arg : String) : String :=
  match arg.toList.dropWhile (· ≠ '=') with
  | _ :: path => String.ofList path
  | [] => arg

/-- What a session leaves to be written, and the code that it ends with. -/
structure Outcome where
  output : String
  errors : String
  code : UInt8

/-- Runs a session to its end. A session that ends itself ends with 128 and its signal. -/
def outcome (args env : List OsString) (w : World) : Outcome :=
  let (consoles, w) := openConsoles w
  let (ending, w) := session args env w
  let shown (sink : Sink) : String := Text.lossy (w.sinks.get sink)
  let complaint := ending.complaint
  { output := shown consoles.output ++ ending.output
    errors := shown consoles.errors ++ (if complaint.isEmpty then "" else complaint ++ "\n")
    code := UInt8.ofNat ((ending.exitStatus?.getD (128 + abortSignal)) % 256).toNat }

/-- The part of a path up to its last slash. -/
def directoryOf (path : String) : String :=
  String.ofList (path.toList.reverse.dropWhile (· ≠ '/')).reverse

/-- Puts a file on a machine with the directories above it. A file that cannot be made is left out. -/
def withFile (path : String) (octets : ByteArray) (w : World) : World :=
  let made := do
    let w ← w.provideDirectory (OsString.ofString (directoryOf path))
    w.provide (OsString.ofString path) (.regular octets) 0o644
  made.toOption.getD w

/-- Puts a file on a machine, if it can be read. -/
def provideFile (w : World) (path : String) : IO World := do
  try
    return withFile path (← IO.FS.readBinFile path) w
  catch _ => return w

end Offspring.Run

open Offspring in
/-- Runs a session with the arguments of the program. -/
def main (args : List String) : IO UInt32 := do
  let w ← (args.map Run.pathIn).foldlM Run.provideFile World.initial
  let outcome := Run.outcome (args.map OsString.ofString) Run.usualEnvironment w
  (← IO.getStdout).putStr outcome.output
  (← IO.getStderr).putStr outcome.errors
  return outcome.code.toUInt32
