import Offspring.Machine.Setup

/-!
# Conditions of a client

What can be set for the client of a machine before it works on, and what can be asked about the processes
beside it.
-/

namespace Offspring.World

open Posix (Pid)
open Machine (Descriptors client)

/-- Sets whether the client wants to hear of the ends of its children. -/
def ignoreChildren (on : Bool) (w : World) : World :=
  w.modifyProcess client fun p =>
    let others := p.ignored.filter (· ≠ Machine.Signal.child)
    { p with ignored := if on then Machine.Signal.child :: others else others }

/-- The limit on descriptors without which any number can be had. -/
def usualLimit : Nat := 1024

/-- The least limit that leaves so many numbers free. -/
def limitFor (d : Descriptors) (more : Nat) : Nat :=
  let free := (List.range (more + d.slots.length + 1)).filter fun n => (d.get? n).isNone
  free.getD more 0

/-- Lets the client open so many more descriptors, or as many as usual. -/
def allowDescriptors (more : Option Nat) (w : World) : World :=
  w.modifyProcess client fun p =>
    { p with fdLimit := more.elim usualLimit (limitFor p.fds) }

/-- Makes the client fail in calls. -/
def refuse (refusals : Machine.Refusals) (w : World) : World :=
  w.modifyProcess client fun p => { p with refusals }

/-- Whether there is a process with a number; the number -1 stands for any. -/
def hasProcess (pid : Int) (w : World) : Bool :=
  pid = -1 || (0 ≤ pid && (w.process? pid.toNat).isSome)

/-- Whether a process has ended and not been reaped. -/
def isUnreaped (pid : Int) (w : World) : Bool :=
  0 ≤ pid && (w.process? pid.toNat).any (·.life.hasEnded)

/-- Whether a path names a file, seen from the client. -/
def hasFile (path : OsString) (w : World) : Bool :=
  w.tree.exists? w.workingDirectory path

/-- Makes an empty file, unless there is one. -/
def touch (path : OsString) (w : World) : Except Errno World :=
  if w.hasFile path then .ok w else w.provide path (.regular .empty) 0o644

end Offspring.World
