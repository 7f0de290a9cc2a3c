import Offspring.Machine.Schedule

/-!
# The calls of a machine

The system calls of the backend, made by the client of a machine and by its children before they run
a program. No call of the client is interrupted here.
-/

namespace Offspring.World

open Posix (Fd Pid Remains)
open Machine (client)

/-- Makes a call that may have to wait, again and again while something happens, so often at most. -/
def insisting {α : Type} (ready : World → Bool) (call : World → Machine.Answer α × World) (w : World) :
    Except Errno α × World :=
  match call w with
  | (.done value, w) => (.ok value, w)
  | (.failed e, w) => (.error e, w)
  | (.blocked, w) =>
    match call (waitFor ready patience w) with
    | (.done value, w) => (.ok value, w)
    | (.failed e, w) => (.error e, w)
    | (.blocked, w) => (.error .ioFailure, w)

/-- Whether a child of the client has ended, or is none. -/
def isOver (child : Pid) (w : World) : Bool :=
  (w.process? child).all fun p => p.parent ≠ client || p.life.hasEnded

/-- Reaps a child of the client if it has ended. -/
def pollChild (child : Pid) (w : World) : Except Errno (Option Remains) × World :=
  match w.reap client child with
  | (.done remains, w) => (.ok (some remains), w)
  | (.failed e, w) => (.error e, w)
  | (.blocked, w) => (.ok none, w)

/-- Starts a thread that gathers what a descriptor gives. -/
def startCollector (fd : Fd) (sink : Sink) (w : World) : Except IoError Nat × World :=
  match w.startThread (.collector fd sink none) with
  | (.ok id, w) => (.ok id, w)
  | (.error cause, w) => (.error cause, w.close client fd)

/-- Tells a collecting thread to stop, and waits until it has. -/
def finishCollector (id : Nat) (w : World) : World :=
  waitFor (·.threadHasEnded id) patience (w.tellToStop id)

/-- Starts a thread that waits for a child. -/
def startReaper (child : Pid) (collector : Option Nat) (w : World) : Except IoError Unit × World :=
  match w.startThread (.reaper child collector) with
  | (.ok _, w) => (.ok (), w)
  | (.error cause, w) => (.error cause, w)

/-- A child of the client turns into a program. -/
def execChild (child : Pid) (program : OsString) (argv environment : List OsString) (w : World) :
    Except Errno Unit × World :=
  match w.exec child program argv environment with
  | (.ok (tool, argv), w) => (.ok (), startTool child tool argv environment w)
  | (.error e, w) => (.error e, w)

/-- The system calls of a machine. -/
def kernel : Posix.Kernel World where
  interruptions _ := 0
  openRead path w := w.openFile client path .read true
  create path w := w.openFile client path .write true
  makePipe w := w.makePipe client
  close fd w := w.close client fd
  read fd count w := insisting (·.clientCanRead fd) (Machine.read client fd count) w
  fork w := w.fork client .client
  await child w := insisting (isOver child) (Machine.reap client child) w
  poll := pollChild
  hasEnded child w := w.peek client child
  kill child signal w := w.sendFrom client child signal
  startCollector := startCollector
  finishCollector := finishCollector
  startReaper := startReaper
  abort w := { w with aborted := true }
  note := Machine.note
  newSession child w := w.newSession child
  setUmask child mask w := w.setUmask child mask
  keepOnExec child fd w := w.keepOnExec child fd
  duplicate child fd target w := w.duplicate child fd target
  changeDirectory child path w := w.changeDirectory child path
  exec := execChild
  write child fd octets w := (w.write child fd octets).2
  exit child code w := w.exit child code

end Offspring.World
