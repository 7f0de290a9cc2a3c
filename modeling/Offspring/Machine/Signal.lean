/-!
# Signals

What a signal does to a process that neither ignores nor catches it, and the names that programs give
signals by.
-/

namespace Offspring.Machine

/-- The effect of a signal. -/
inductive SignalEffect where
  /-- The process ends. -/
  | ends
  /-- The process stops until it is told to go on. -/
  | stops
  /-- A stopped process goes on. -/
  | resumes
  | nothing
  deriving DecidableEq

namespace Signal

/-- Ends a process whatever it does. -/
def kill : Nat := 9
/-- Nobody reads a pipe that was written to. -/
def pipe : Nat := 13
/-- A child has ended. -/
def child : Nat := 17
/-- Makes a stopped process go on. -/
def goOn : Nat := 18
/-- Stops a process whatever it does. -/
def stop : Nat := 19

/-- The names of the signals, without the letters `SIG` in front. -/
def names : List (String × Nat) := [
  ("HUP", 1), ("INT", 2), ("QUIT", 3), ("ILL", 4), ("TRAP", 5), ("ABRT", 6), ("BUS", 7), ("FPE", 8),
  ("KILL", 9), ("USR1", 10), ("SEGV", 11), ("USR2", 12), ("PIPE", 13), ("ALRM", 14), ("TERM", 15),
  ("STKFLT", 16), ("CHLD", 17), ("CONT", 18), ("STOP", 19), ("TSTP", 20), ("TTIN", 21), ("TTOU", 22),
  ("URG", 23), ("XCPU", 24), ("XFSZ", 25), ("VTALRM", 26), ("PROF", 27), ("WINCH", 28), ("POLL", 29),
  ("PWR", 30), ("SYS", 31)]

/-- The greatest number of a signal. -/
def last : Nat := 64

/-- The signal with a name or a number. -/
def named? (name : String) : Option Nat :=
  match names.lookup name with
  | some n => some n
  | none => name.toNat?.filter (· ≤ last)

/-- What a signal does to a process that has not asked for anything else. -/
def effect (signal : Nat) : SignalEffect :=
  if signal = child ∨ signal = 23 ∨ signal = 28 then .nothing
  else if signal = goOn then .resumes
  else if 19 ≤ signal ∧ signal ≤ 22 then .stops
  else .ends

/-- How the end by a signal is told. -/
def description (signal : Nat) : String :=
  match signal with
  | 1 => "Hangup"
  | 2 => "Interrupt"
  | 3 => "Quit"
  | 4 => "Illegal instruction"
  | 5 => "Trace/breakpoint trap"
  | 6 => "Aborted"
  | 7 => "Bus error"
  | 8 => "Floating point exception"
  | 9 => "Killed"
  | 10 => "User defined signal 1"
  | 11 => "Segmentation fault"
  | 12 => "User defined signal 2"
  | 13 => "Broken pipe"
  | 14 => "Alarm clock"
  | 15 => "Terminated"
  | 16 => "Stack fault"
  | 24 => "CPU time limit exceeded"
  | 25 => "File size limit exceeded"
  | 26 => "Virtual timer expired"
  | 27 => "Profiling timer expired"
  | 29 => "I/O possible"
  | 30 => "Power failure"
  | 31 => "Bad system call"
  | n => "Unknown signal " ++ toString n

/-- Whether a process can ignore or catch a signal. -/
def isCatchable (signal : Nat) : Bool :=
  signal ≠ kill && signal ≠ stop

end Signal

end Offspring.Machine
