import Offspring.Machine.Threads
import Offspring.Shell.Step
import Offspring.Utility.Worker

/-!
# Work on a machine

Processes other than the client run while the client waits. Time goes on by a small step each time every
process and every thread has had a turn; when none has anything to do it jumps to the next time that one
waits for. `waitFor` goes on until what the client waits for has come true, or until a given time.
-/

namespace Offspring

open Posix (Fd Pid)

namespace Machine

/-- What a process works on. -/
inductive Task where
  /-- Whatever calls are made for it from outside. -/
  | client
  | shell (s : Shell.State)
  | worker (w : Utility.Worker)

end Machine

/-- A machine at work. -/
abbrev World := Machine Machine.Task

namespace World

open Machine (Task Tool)

/-- How a program ends whose libraries cannot be opened. -/
def libraryFailure (argv : List OsString) (e : Errno) : Utility.Worker :=
  { name := argv.headD .empty
    status := 127
    jobs := [Utility.Worker.complaint (argv.headD .empty)
      ("error while loading shared libraries: libc.so.6: cannot open shared object file: " ++ e.text)] }

/-- A process starts to run a tool. A shell wants to hear of its children whatever its parent wanted. -/
def startTool (pid : Pid) (tool : Tool) (argv environment : List OsString) (w : World) : World :=
  let w :=
    if tool = .shell then
      w.modifyProcess pid fun p => { p with ignored := p.ignored.filter (· ≠ Machine.Signal.child) }
    else w
  let task : Task :=
    match w.refusal? pid .openFile, tool with
    | some e, _ => .worker (libraryFailure argv e)
    | none, .shell => .shell (Shell.start pid argv environment w)
    | none, tool => .worker (Utility.Worker.start tool argv environment w.now)
  w.modifyProcess pid fun p => { p with task }

/-- A process has another task. -/
def setTask (pid : Pid) (task : Task) (w : World) : World :=
  w.modifyProcess pid fun p => { p with task }

/-- What one turn has brought: whether anything was done, and the next time that something waits for. -/
structure Turn where
  done : Bool := false
  wake : Option Nat := none

/-- Two turns one after the other. -/
def Turn.and (a b : Turn) : Turn :=
  { done := a.done || b.done
    wake :=
      match a.wake, b.wake with
      | some x, some y => some (min x y)
      | some x, none => some x
      | none, y => y }

/-- The turn of a process. -/
def runProcess (pid : Pid) (w : World) : Turn × World :=
  match w.process? pid with
  | none => ({}, w)
  | some p =>
    if p.life ≠ .running then ({}, w)
    else
      match p.task with
      | .client => ({}, w)
      | .shell s =>
        match Shell.step .shell pid s w with
        | (.goesOn s, w) => ({ done := true }, setTask pid (.shell s) w)
        | (.blocked, w) => ({}, w)
        | (.becomes tool argv environment, w) =>
          ({ done := true }, startTool pid tool argv environment w)
        | (.ended, w) => ({ done := true }, w)
      | .worker k =>
        match Utility.Worker.step pid k w with
        | (.goesOn k, w) => ({ done := true }, setTask pid (.worker k) w)
        | (.blocked wake, w) => ({ wake }, w)
        | (.becomes tool argv environment, w) =>
          ({ done := true }, startTool pid tool argv environment w)
        | (.ended, w) => ({ done := true }, w)

/-- A turn of every process and every thread. -/
def round (w : World) : Turn × World :=
  let (turn, w) := w.processes.size.fold (fun pid _ (acc : Turn × World) =>
    let (turn, w) := runProcess pid acc.2
    (acc.1.and turn, w)) ({}, w)
  w.threads.size.fold (fun id _ (acc : Turn × World) =>
    let (done, w) := acc.2.runThread id
    (acc.1.and { done }, w)) (turn, w)

/-- How long a round takes, in microseconds. -/
def roundTime : Nat := 20

/-- Rounds until a goal is reached or a time has come, so many at most. -/
def waitRounds (goal : World → Bool) (deadline : Nat) : Nat → World → World
  | 0, w => w
  | fuel + 1, w =>
    if goal w || deadline ≤ w.now then w
    else
      let (turn, w) := round w
      let soon := w.now + roundTime
      if turn.done then waitRounds goal deadline fuel { w with now := min soon deadline }
      else
        match turn.wake with
        | some time => waitRounds goal deadline fuel { w with now := min (max soon time) deadline }
        | none => if goal w then w else { w with now := deadline }

/-- Waits until a goal is reached, or so many microseconds at most. -/
def waitFor (goal : World → Bool) (time : Nat) (w : World) : World :=
  waitRounds goal (w.now + time) (time / roundTime + 1) w

/-- How long the client waits for something that has to happen: a day. -/
def patience : Nat := 86400000000

/-- Waits so many microseconds. -/
def rest (time : Nat) (w : World) : World :=
  waitFor (fun _ => false) time w

end World

end Offspring
