import Offspring.Shell.State

/-!
# Redirections of a running shell

A redirection gives a descriptor of the shell's process another meaning; what it meant before is kept
under a number that scripts do not use, so that it can mean that again.
-/

namespace Offspring.Shell

open Posix (Fd Pid)
open Machine (OpenMode)

variable {T : Type}

/-- Where the meanings of descriptors are kept; those that were free have none. -/
abbrev Saved := List (Fd × Option Fd)

/-- The least number under which a meaning is kept. -/
def firstKept : Fd := 10

/-- Keeps the meaning of a descriptor, which programs do not get to see. -/
def keep (pid : Pid) (fd : Fd) (m : Machine T) : Option Fd × Machine T :=
  match m.process? pid with
  | none => (none, m)
  | some p =>
    match p.fds.get? fd with
    | none => (none, m)
    | some slot =>
      let kept := p.fds.lowestFree firstKept
      (some kept, m.modifyProcess pid fun p =>
        { p with fds := p.fds.insert kept { slot with closeOnExec := true } })

/-- The wording of a failure to open or make a file. -/
def openMessage (makes : Bool) (path : List Char) (e : Errno) : List Char :=
  let reason :=
    if e = .noEntry || e = .notDirectory then (if makes then "Directory nonexistent" else "No such file")
    else e.text
  (if makes then "cannot create " else "cannot open ").toList ++ path ++ ": ".toList ++ reason.toList

/-- How a file is opened for a redirection. -/
def openModeOf : RedirectionKind → OpenMode
  | .read | .duplicate => .read
  | .write => .write
  | .append => .append
  | .readWrite => .readWrite

/-- Gives a descriptor the meaning of another one that has just been opened for it. -/
def moveTo (pid : Pid) (opened fd : Fd) (m : Machine T) : Except Errno Unit × Machine T :=
  if opened = fd then (.ok (), m)
  else
    match m.duplicate pid opened fd with
    | (answer, m) => (answer, m.close pid opened)

/-- Makes one redirection. -/
def redirectOne (pid : Pid) (fd : Fd) (kind : RedirectionKind) (target : List Char) (m : Machine T) :
    Except (List Char) Unit × Machine T :=
  match kind with
  | .duplicate =>
    if target = ['-'] then (.ok (), m.close pid fd)
    else if target.isEmpty || !target.all Char.isDigit then
      (.error "Syntax error: Bad fd number".toList, m)
    else
      match m.duplicate pid (Text.decimal target) fd with
      | (.ok (), m) => (.ok (), m)
      | (.error e, m) => (.error (target ++ ": ".toList ++ e.text.toList), m)
  | kind =>
    let mode := openModeOf kind
    match m.openFile pid (Text.octets target) mode false with
    | (.error e, m) => (.error (openMessage mode.makes target e), m)
    | (.ok opened, m) =>
      match moveTo pid opened fd m with
      | (.ok (), m) => (.ok (), m)
      | (.error e, m) => (.error ((toString fd).toList ++ ": ".toList ++ e.text.toList), m)

/-- Makes redirections one after the other. What the descriptors meant is told latest first, also if one
of the redirections fails. -/
def redirectAll (pid : Pid) (saved : Saved) :
    List (Fd × RedirectionKind × List Char) → Machine T → (Except (List Char) Unit × Saved) × Machine T
  | [], m => ((.ok (), saved), m)
  | (fd, kind, target) :: rest, m =>
    let (kept, m) := keep pid fd m
    let saved := (fd, kept) :: saved
    match redirectOne pid fd kind target m with
    | (.ok (), m) => redirectAll pid saved rest m
    | (failed, m) => ((failed, saved), m)

/-- Forgets what descriptors meant. -/
def forget (pid : Pid) (saved : Saved) (m : Machine T) : Machine T :=
  saved.foldl (fun m (_, kept) => kept.toList.foldl (fun m fd => m.close pid fd) m) m

/-- Gives a descriptor of a process the meaning of another one, which is then free. -/
def moveBack (pid : Pid) (kept fd : Fd) (m : Machine T) : Machine T :=
  m.modifyProcess pid fun p =>
    match p.fds.get? kept with
    | some slot => { p with fds := (p.fds.erase kept).insert fd { slot with closeOnExec := false } }
    | none => p

/-- Gives descriptors their meanings back, the latest first. -/
def restore (pid : Pid) (saved : Saved) (m : Machine T) : Machine T :=
  saved.foldl (fun m (fd, kept) =>
    match kept with
    | some kept => moveBack pid kept fd m
    | none => m.close pid fd) m

end Offspring.Shell
