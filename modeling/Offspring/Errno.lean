import Offspring.Errno.Table

/-!
# System errors

`Errno` is the number a system call fails with. `Errno.text` is the system's text for it,
`Errno.described` the symbol with its own wording.
-/

namespace Offspring

/-- The number of a system error. -/
structure Errno where
  number : Int
  deriving DecidableEq, Inhabited

namespace Errno

/-- Operation not permitted. -/
def perm : Errno := ⟨1⟩
/-- No such file or directory. -/
def noEntry : Errno := ⟨2⟩
/-- No such process. -/
def noProcess : Errno := ⟨3⟩
/-- The call was interrupted by a signal. -/
def interrupted : Errno := ⟨4⟩
/-- Input or output failed. -/
def ioFailure : Errno := ⟨5⟩
/-- The arguments and the environment are too long. -/
def tooBig : Errno := ⟨7⟩
/-- The file is not in a format that can be executed. -/
def notExecutable : Errno := ⟨8⟩
/-- No such descriptor. -/
def badDescriptor : Errno := ⟨9⟩
/-- There is no such child. -/
def noChild : Errno := ⟨10⟩
/-- Resources are short for the moment. -/
def tryAgain : Errno := ⟨11⟩
/-- There is not enough memory. -/
def outOfMemory : Errno := ⟨12⟩
/-- Permission denied. -/
def accessDenied : Errno := ⟨13⟩
/-- The file exists. -/
def alreadyThere : Errno := ⟨17⟩
/-- A component of the path is not a directory. -/
def notDirectory : Errno := ⟨20⟩
/-- The path is a directory. -/
def isDirectory : Errno := ⟨21⟩
/-- Invalid argument. -/
def invalid : Errno := ⟨22⟩
/-- The process has too many open descriptors. -/
def tooManyFiles : Errno := ⟨24⟩
/-- The program's file is being written. -/
def busyText : Errno := ⟨26⟩
/-- No space is left on the device. -/
def noSpace : Errno := ⟨28⟩
/-- Nobody reads the pipe any more. -/
def brokenPipe : Errno := ⟨32⟩
/-- A name of the path, or the whole of it, is too long. -/
def nameTooLong : Errno := ⟨36⟩
/-- The directory is not empty. -/
def notEmpty : Errno := ⟨39⟩
/-- Too many symbolic links. -/
def tooManyLinks : Errno := ⟨40⟩

/-- The row of the table with an error's number. -/
def row? (e : Errno) : Option ErrnoRow :=
  errnoTable.find? fun row => (row.number : Int) = e.number

/-- The system's text for an error. -/
def text (e : Errno) : String :=
  match e.row? with
  | some row => row.text
  | none => if e.number = 0 then "Success" else "Unknown error " ++ toString e.number

/-- The symbol of an error with its wording. -/
def described (e : Errno) : String :=
  match e.row? with
  | some row => row.symbol ++ ": " ++ row.wording
  | none => "UnknownErrno: Unknown errno"

end Errno

end Offspring
