import Offspring.Machine.Conditions
import Offspring.Posix.Launch
import Offspring.Run.Execute
import Offspring.Run.Search

/-!
# A session of the command line on a machine

The client of a machine reads its arguments, finds its program or its run file, executes the run and says
how that ended. Its output and its error stream are consoles, which the child inherits.
-/

namespace Offspring.Run

open Machine (client)

/-- How a session ends. -/
inductive Ending where
  | version
  | help
  | usage (e : UsageError)
  | failed (failure : Failure)
  | reported (report : Report)
  /-- The client has ended itself. -/
  | aborted

/-- The name and number of the program. -/
def versionLine : String := "sprout 0.1.0\n"

/-- What the program is for. -/
def purpose : String := "Spawn a child process and report how it ended"

/-- The code that a session ends with, if no signal ends it. -/
def Ending.exitStatus? : Ending → Option Int
  | .version | .help => some 0
  | .usage _ => some 2
  | .failed _ => some 1
  | .reported report => some report.exitStatus
  | .aborted => none

/-- The signal that a process ends itself with. -/
def abortSignal : Nat := 6

/-- What a session writes at its end. -/
def Ending.output : Ending → String
  | .version => versionLine
  | .help => purpose ++ "\n"
  | .reported report => report.text ++ "\n"
  | _ => ""

/-- What a session complains about at its end, without an end of line. Of a refusal of arguments only the
first line is told. -/
def Ending.complaint : Ending → String
  | .usage e => String.ofList (("error: " ++ e.message).toList.takeWhile (· ≠ '\n'))
  | .failed failure =>
    let (text, cause) := failure.message
    "Error: " ++ text ++
      (match cause with
       | some cause => "\n\nCaused by:\n    " ++ cause
       | none => "")
  | _ => ""

/-- A machine as a host of runs. -/
def host : Host World Posix.Child where
  backend := Posix.backend World.kernel
  now w := w.now
  rest := World.rest
  looks deadline w := (deadline - w.now) / pollInterval + 2
  newSink w :=
    let (sink, sinks) := w.sinks.fresh
    (sink, { w with sinks })
  contents sink w := w.sinks.get sink

/-- The value of a variable in an environment. -/
def variableOf (env : List OsString) (name : String) : Option OsString :=
  let start := (name ++ "=").toUTF8.toList
  env.findSome? fun entry =>
    if start.isPrefixOf entry.toList then some (entry.extract start.length entry.size) else none

/-- The whole content of a file, read by the client. -/
def readFile (path : OsString) (w : World) : Except IoError ByteArray × World :=
  match w.openFile client path .read true with
  | (.error e, w) => (.error (.os e), w)
  | (.ok fd, w) =>
    let size := (w.tree.nodes.map fun n =>
      match n.content with
      | .regular octets => octets.size
      | _ => 0).foldl max 0
    match w.read client fd (size + 1) with
    | (.done octets, w) => (.ok octets, w.close client fd)
    | (.failed e, w) => (.error (.os e), w.close client fd)
    | (.blocked, w) => (.error (.os .ioFailure), w.close client fd)

/-- Reads a run file. -/
def loadConfig (path : OsString) (w : World) : Except Failure Config × World :=
  match readFile path w with
  | (.error cause, w) => (.error (.unreadable path cause), w)
  | (.ok octets, w) =>
    match Text.strict? octets with
    | none => (.error (.unreadable path .notText), w)
    | some text => ((Config.ofJson text).mapError (.malformed path), w)

/-- Whether a path names a regular file, seen from the client. -/
def isFile (w : World) (path : OsString) : Bool :=
  match w.tree.locate w.workingDirectory path with
  | .ok (_, node) => node.isFile
  | .error _ => false

/-- The configuration that a request stands for. -/
def configOf (env : List OsString) (request : Request) (w : World) : Except Failure Config × World :=
  match request with
  | .run request =>
    let program := findProgram (isFile w) (variableOf env "PATH") (.ofString request.program)
    (.ok (.ofRequest request program), w)
  | .exec file =>
    match file.orElse fun _ => variableOf env "SPROUT_CONFIG" with
    | none => (.error .noRunFile, w)
    | some path => loadConfig path w

/-- Whether the client can look at its standard streams when it starts; if it cannot, and not only for
the moment, it ends itself. -/
def startsUp (w : World) : Bool :=
  match w.refusal? client .awaitInput with
  | none => true
  | some e => e = .invalid || e = .tryAgain || e = .outOfMemory

/-- A session with arguments and an environment. -/
def session (args env : List OsString) (w : World) : Ending × World :=
  if !startsUp w then (.aborted, { w with aborted := true })
  else
    match Request.ofArguments args with
    | .error (.usage e) => (.usage e, w)
    | .error .help => (.help, w)
    | .error .version => (.version, w)
    | .ok request =>
      match configOf env request w with
      | (.error failure, w) => (.failed failure, w)
      | (.ok config, w) =>
        let (answer, w) := execute host env config w
        if w.aborted then (.aborted, w)
        else
          match answer with
          | .error failure => (.failed failure, w)
          | .ok report => (.reported report, w)

/-- The consoles of a session. -/
structure Consoles where
  output : Sink
  errors : Sink

/-- Gives the client consoles for its output and its error stream. -/
def openConsoles (w : World) : Consoles × World :=
  let (output, sinks) := w.sinks.fresh
  let (errors, sinks) := sinks.fresh
  let file (sink : Sink) : Machine.OpenFile := ⟨.console sink, false, true, true, 0⟩
  let w := { w with sinks }
  let w := (w.close client 1).close client 2
  let (_, w) := w.install client (file output) false
  let (_, w) := w.install client (file errors) false
  (⟨output, errors⟩, w)

end Offspring.Run
