import Offspring.Machine.Files

/-!
# Calls on processes

Making processes, turning them into other programs, signals, and reaping. A process that ends closes its
descriptors and stays until its parent reaps it; it goes at once if nobody would: if its parent is gone,
or does not want to hear of children.
-/

namespace Offspring.Machine

open Posix (Fd Pid)

variable {T : Type}

/-- Makes a child that shares the open files of its parent and works on a task of its own. -/
def fork (pid : Pid) (task : T) (m : Machine T) : Except Errno Pid × Machine T :=
  match m.process? pid, m.refusal? pid .fork with
  | none, _ => (.error .noProcess, m)
  | _, some e => (.error e, m)
  | some p, none =>
    let child : Process T := { p with parent := pid, arrived := [], held := [], task }
    (.ok m.processes.size, { m with processes := m.processes.push (some child) })

/-- Makes a process the leader of a new session and of a new group. A process that leads a group cannot. -/
def newSession (pid : Pid) (m : Machine T) : Except Errno Unit × Machine T :=
  match m.process? pid, m.refusal? pid .newSession with
  | none, _ => (.error .noProcess, m)
  | _, some e => (.error e, m)
  | some p, none =>
    if p.group = pid then (.error .perm, m)
    else (.ok (), m.modifyProcess pid fun p => { p with session := pid, group := pid })

/-- Sets the bits that a process's new files lack. -/
def setUmask (pid : Pid) (mask : Nat) (m : Machine T) : Machine T :=
  m.modifyProcess pid fun p => { p with umask := mask % 0o1000 }

/-! ### Turning into another program -/

/-- The longest argument or environment entry, its end included. -/
def stringLimit : Nat := 131072

/-- The most octets of all arguments and environment entries, with their ends and references. -/
def stringsLimit : Nat := 2097152

/-- Whether arguments and environment entries are too long. -/
def areTooLong (strings : List OsString) : Bool :=
  strings.any (stringLimit ≤ ·.size) || stringsLimit < (strings.map (·.size + 9)).foldr (· + ·) 0

/-- How often an interpreter can itself be interpreted. -/
def interpreterLimit : Nat := 5

/-- How much of a file tells its interpreter. -/
def interpreterLine : Nat := 256

/-- Whether an octet is a blank or a tab. -/
def isBlank (b : UInt8) : Bool :=
  b = 0x20 || b = 0x09

/-- The interpreter that the first line of a file names after `#!`, and the one argument there. -/
def interpreter? (octets : ByteArray) : Option (OsString × Option OsString) :=
  match (octets.extract 0 interpreterLine).toList with
  | 0x23 :: 0x21 :: rest =>
    let line := (rest.takeWhile (· != 0x0A)).dropWhile isBlank
    let line := (line.reverse.dropWhile isBlank).reverse
    let name := line.takeWhile (!isBlank ·)
    let argument := (line.dropWhile (!isBlank ·)).dropWhile isBlank
    if name.isEmpty then none
    else
      some (⟨name.toArray⟩, if argument.isEmpty then none else some ⟨argument.toArray⟩)
  | _ => none

/-- Whether a process has a node open for writing. -/
def isBeingWritten (m : Machine T) (id : NodeId) : Bool :=
  m.processes.any fun p => p.any fun p => p.fds.slots.any fun (_, slot) =>
    (m.files[slot.file]?).any fun f => f.writable && f.channel = .node id

/-- The tool that runs a program, with its argument vector. -/
def findTool (m : Machine T) (cwd : NodeId) : Nat → OsString → List OsString →
    Except Errno (Tool × List OsString)
  | 0, _, _ => .error .tooManyLinks
  | fuel + 1, path, argv => do
    let (id, node) ← m.tree.locate cwd path
    if !node.isFile || !node.allows .execute then .error .accessDenied
    else if m.isBeingWritten id then .error .busyText
    else
      match node.content with
      | .tool tool => .ok (tool, argv)
      | .regular octets =>
        match interpreter? octets with
        | none => .error .notExecutable
        | some (interpreter, argument) =>
          m.findTool cwd fuel interpreter (interpreter :: argument.toList ++ path :: argv.tail)
      | _ => .error .accessDenied

/-- How many octets of a program's name a process is known by. -/
def shortNameLimit : Nat := 15

/-- Turns a process into another program, unless that is not possible; then it goes on. The answer is
the tool that runs the program, with its argument vector. -/
def exec (pid : Pid) (path : OsString) (argv envp : List OsString) (m : Machine T) :
    Except Errno (Tool × List OsString) × Machine T :=
  match m.process? pid, m.refusal? pid .exec with
  | none, _ => (.error .noProcess, m)
  | _, some e => (.error e, m)
  | some p, none =>
    match FileTree.checkPath path, areTooLong (argv ++ envp) with
    | .error e, _ => (.error e, m)
    | _, true => (.error .tooBig, m)
    | .ok (), false =>
      match m.findTool p.cwd interpreterLimit path argv with
      | .error e => (.error e, m)
      | .ok (tool, argv) =>
        let name := ((FileTree.names path).getLastD .empty).extract 0 shortNameLimit
        (.ok (tool, argv), m.modifyProcess pid fun p =>
          { p with fds := p.fds.onExec, caught := [], argv, name })

/-! ### Ends and signals -/

/-- Whether nobody reaps the children of a process. -/
def leavesChildren (m : Machine T) (parent : Pid) : Bool :=
  match m.process? parent with
  | some p => p.ignored.contains Signal.child || p.life.hasEnded
  | none => true

/-- Hands the children of an ended process to nobody: those that have ended go, the others go once they
end. -/
def orphan (pid : Pid) (m : Machine T) : Machine T :=
  { m with processes := m.processes.map fun p => p.bind fun p =>
      if p.parent ≠ pid then some p
      else if p.life.hasEnded then none
      else some { p with parent := init } }

/-- Ends a process with a status word. -/
def finish (pid : Pid) (status : UInt32) (m : Machine T) : Machine T :=
  match m.process? pid with
  | none => m
  | some p =>
    if p.life.hasEnded then m
    else
      let m := m.orphan pid
      if m.leavesChildren p.parent then { m with processes := m.processes.modify pid fun _ => none }
      else m.modifyProcess pid fun p => { p with life := .ended status, fds := {} }

/-- Ends a process by itself. -/
def exit (pid : Pid) (code : Nat) (m : Machine T) : Machine T :=
  m.finish pid ((code % 0x100) * 0x100).toUInt32

/-- A signal takes effect on a process. -/
def deliver (pid : Pid) (signal : Nat) (m : Machine T) : Machine T :=
  match m.process? pid with
  | none => m
  | some p =>
    if p.life.hasEnded then m
    else if signal = Signal.kill then m.finish pid signal.toUInt32
    else if p.life = .stopped && signal ≠ Signal.stop && signal ≠ Signal.goOn then
      m.modifyProcess pid fun p => { p with held := p.held ++ [signal] }
    else if p.ignored.contains signal then m
    else if p.caught.contains signal then
      m.modifyProcess pid fun p => { p with arrived := p.arrived ++ [signal] }
    else
      match Signal.effect signal with
      | .nothing | .resumes => m
      | .stops => m.modifyProcess pid fun p => { p with life := .stopped }
      | .ends => m.finish pid signal.toUInt32

/-- Makes a stopped process go on; what was held back takes effect. -/
def resume (pid : Pid) (m : Machine T) : Machine T :=
  match m.process? pid with
  | some p =>
    if p.life = .stopped then
      let m := m.modifyProcess pid fun p => { p with life := .running, held := [] }
      p.held.foldl (fun m signal => m.deliver pid signal) m
    else m
  | none => m

/-- Sends a signal to a process, seen from outside. -/
def send (pid : Pid) (signal : Nat) (m : Machine T) : Except Errno Unit × Machine T :=
  match m.process? pid with
  | none => (.error .noProcess, m)
  | some _ =>
    if signal = 0 then (.ok (), m)
    else
      let m := if signal = Signal.goOn then m.resume pid else m
      (.ok (), m.deliver pid signal)

/-- The processes of a group. -/
def members (m : Machine T) (group : Pid) : List Pid :=
  (List.range m.processes.size).filter fun pid => (m.process? pid).any (·.group = group)

/-- A process sends a signal: to a process, to its own group for 0, and to a group for a negative
number. -/
def sendFrom (pid : Pid) (target : Int) (signal : Nat) (m : Machine T) : Except Errno Unit × Machine T :=
  match m.process? pid, m.refusal? pid .kill with
  | none, _ => (.error .noProcess, m)
  | _, some e => (.error e, m)
  | some p, none =>
    if 0 < target then m.send target.toNat signal
    else
      let group := if target = 0 then p.group else target.natAbs
      match m.members group with
      | [] => (.error .noProcess, m)
      | targets => (.ok (), targets.foldl (fun m target => (m.send target signal).2) m)

/-- A process gets a signal for a call it has made. -/
def raise (pid : Pid) (signal : Nat) (m : Machine T) : Machine T :=
  m.deliver pid signal

/-! ### Reaping -/

/-- The peak memory that every process is found to have had, in kilobytes. -/
def peakMemory : Int := 2048

/-- Reaps a child if it has ended. -/
def reap (pid child : Pid) (m : Machine T) : Answer Posix.Remains × Machine T :=
  match m.refusal? pid .await, m.process? child with
  | some e, _ => (.failed e, m)
  | none, none => (.failed .noChild, m)
  | none, some p =>
    if p.parent ≠ pid then (.failed .noChild, m)
    else
      match p.life with
      | .ended status =>
        (.done ⟨status, peakMemory⟩, { m with processes := m.processes.modify child fun _ => none })
      | _ => (.blocked, m)

/-- Whether a child has ended; it stays to be reaped. -/
def peek (pid child : Pid) (m : Machine T) : Except Errno Bool × Machine T :=
  match m.refusal? pid .peek, m.process? child with
  | some e, _ => (.error e, m)
  | none, none => (.error .noChild, m)
  | none, some p =>
    if p.parent ≠ pid then (.error .noChild, m) else (.ok (p.life.hasEnded), m)

end Offspring.Machine
