import Offspring.Posix.Kernel

/-!
# Descriptors of a process

A process knows its open files by small numbers. Several numbers, in one process or in many, can stand
for the same open file; a number can be marked to be closed when the process turns into another program.
A new number is the least one that is free.
-/

namespace Offspring.Machine

open Posix (Fd)

/-- What one number stands for. -/
structure Slot where
  /-- The open file. -/
  file : Nat
  closeOnExec : Bool
  deriving DecidableEq

/-- The open files of a process by their numbers. -/
structure Descriptors where
  slots : List (Fd × Slot) := []

namespace Descriptors

/-- What a number stands for. -/
def get? (d : Descriptors) (fd : Fd) : Option Slot :=
  d.slots.lookup fd

/-- The least free number from `start` on. -/
def lowestFree (d : Descriptors) (start : Fd) : Fd :=
  ((List.range (d.slots.length + 1)).find? fun n => (d.get? (start + n)).isNone).elim start (start + ·)

/-- Makes a number free. -/
def erase (d : Descriptors) (fd : Fd) : Descriptors :=
  ⟨d.slots.filter (·.1 != fd)⟩

/-- Gives a number a meaning, whatever it stood for. -/
def insert (d : Descriptors) (fd : Fd) (slot : Slot) : Descriptors :=
  ⟨(fd, slot) :: (d.erase fd).slots⟩

/-- What is left when the process turns into another program. -/
def onExec (d : Descriptors) : Descriptors :=
  ⟨d.slots.filter (!·.2.closeOnExec)⟩

/-- Whether a number stands for an open file. -/
def refersTo (d : Descriptors) (file : Nat) : Bool :=
  d.slots.any (·.2.file = file)

end Descriptors

end Offspring.Machine
