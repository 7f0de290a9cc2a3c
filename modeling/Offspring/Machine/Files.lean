import Offspring.Machine.Basic

/-!
# Calls on files

Opening, reading, writing and closing by descriptor, as a process does them. A call that would have to
wait answers `blocked` and changes nothing, so that it can be made again.
-/

namespace Offspring.Machine

open Posix (Fd Pid)

variable {T : Type}

/-- The answer of a call that may have to wait. -/
inductive Answer (α : Type) where
  | done (value : α)
  | failed (cause : Errno)
  | blocked

/-- What a file is opened for. -/
inductive OpenMode where
  | read
  /-- The file is made if it is missing, and emptied. -/
  | write
  /-- The file is made if it is missing, and written at its end. -/
  | append
  /-- The file is made if it is missing. -/
  | readWrite
  deriving DecidableEq

/-- Whether a missing file is made. -/
def OpenMode.makes (mode : OpenMode) : Bool :=
  mode ≠ .read

/-- Whether the open file can be read. -/
def OpenMode.reads (mode : OpenMode) : Bool :=
  mode = .read || mode = .readWrite

/-- Whether the open file can be written. -/
def OpenMode.writes (mode : OpenMode) : Bool :=
  mode ≠ .read

/-- The permissions that opening a file takes. -/
def OpenMode.permissions : OpenMode → List Permission
  | .read => [.read]
  | .write | .append => [.write]
  | .readWrite => [.read, .write]

/-- What the machine tells a process about itself. -/
def selfReport (m : Machine T) (pid : Pid) (report : SelfReport) : ByteArray :=
  match m.process? pid with
  | none => .empty
  | some p =>
    match report with
    | .arguments => p.argv.foldl (fun octets arg => (octets ++ arg).push 0) .empty
    | .stat =>
      let words := ["R", toString p.parent, toString p.group, toString p.session] ++
        "0 -1 4194304 0 0 0 0 0 0 0 0 20 0 1 0\n".splitOn " "
      OsString.ofString (toString pid ++ " (") ++ p.name ++
        OsString.ofString (") " ++ " ".intercalate words)

/-- A node that is opened for what it is itself, with what has to change first. -/
def openItself (m : Machine T) (pid : Pid) (id : NodeId) (node : Node) (mode : OpenMode) :
    Except Errno (Channel × FileTree) :=
  if node.isDirectory && mode.makes then .error .isDirectory
  else if !mode.permissions.all node.allows then .error .accessDenied
  else
    match node.content with
    | .selfReport report => .ok (.text (m.selfReport pid report), m.tree)
    | .regular _ =>
      .ok (.node id, if mode = .write then m.tree.modifyOctets id fun _ => .empty else m.tree)
    | _ => .ok (.node id, m.tree)

/-- What a process has open under a number. -/
def channelOf? (m : Machine T) (p : Process T) (fd : Fd) : Option Channel := do
  let slot ← p.fds.get? fd
  let file ← m.files[slot.file]?
  some file.channel

/-- A node that is opened, with what has to change first. What a process has open already is opened once
more, of a pipe the end that the mode asks for. -/
def openNode (m : Machine T) (pid : Pid) (id : NodeId) (node : Node) (mode : OpenMode) :
    Except Errno (Channel × FileTree) :=
  match node.content with
  | .descriptor fd =>
    match (m.process? pid).bind (m.channelOf? · fd) with
    | none => .error .noEntry
    | some (.node other) =>
      match m.tree.node? other with
      | some node => m.openItself pid other node mode
      | none => .error .noEntry
    | some (.reader pipe) | some (.writer pipe) =>
      .ok (if mode.writes then .writer pipe else .reader pipe, m.tree)
    | some channel => .ok (channel, m.tree)
  | _ => m.openItself pid id node mode

/-- Finds or makes the file that a path names. -/
def openPath (m : Machine T) (pid : Pid) (p : Process T) (path : OsString) (mode : OpenMode) :
    Except Errno (Channel × FileTree) := do
  if mode.makes && FileTree.endsInSlash path then
    match ← m.tree.resolveSteps p.cwd path true (FileTree.names path).dropLast with
    | .missing .. => .error .noEntry
    | .found _ _ dir =>
      match m.tree.node? dir with
      | some node => if node.isDirectory then .error .isDirectory else .error .notDirectory
      | none => .error .noEntry
  else
    match ← m.tree.resolve p.cwd path true with
    | .found _ _ id =>
      match m.tree.node? id with
      | some node => m.openNode pid id node mode
      | none => .error .noEntry
    | .missing dir name =>
      if !mode.makes then .error .noEntry
      else if !(m.tree.node? dir).any (·.allows .write) then .error .accessDenied
      else
        let mode := 0o666 - (0o666 &&& p.umask)
        let (id, tree) := m.tree.make dir name ⟨.regular .empty, mode, true⟩
        .ok (.node id, tree)

/-- Gives a process the lowest free descriptor for an open file. -/
def install (m : Machine T) (pid : Pid) (file : OpenFile) (closeOnExec : Bool) :
    Except Errno Fd × Machine T :=
  match m.process? pid with
  | none => (.error .noProcess, m)
  | some p =>
    let fd := p.fds.lowestFree 0
    if p.fdLimit ≤ fd then (.error .tooManyFiles, m)
    else
      let slot : Slot := ⟨m.files.size, closeOnExec⟩
      (.ok fd, { m with files := m.files.push file }.modifyProcess pid fun p =>
        { p with fds := p.fds.insert fd slot })

/-- Opens a file. A process that has no descriptor left does not come to make the file. -/
def openFile (pid : Pid) (path : OsString) (mode : OpenMode) (closeOnExec : Bool) (m : Machine T) :
    Except Errno Fd × Machine T :=
  match m.process? pid, m.refusal? pid .openFile with
  | none, _ => (.error .noProcess, m)
  | _, some e => (.error e, m)
  | some p, none =>
    if p.fdLimit ≤ p.fds.lowestFree 0 then (.error .tooManyFiles, m)
    else
      match m.openPath pid p path mode with
      | .error e => (.error e, m)
      | .ok (channel, tree) =>
        { m with tree }.install pid
          { channel
            readable := mode.reads
            writable := mode.writes
            atEnd := decide (mode = OpenMode.append) } closeOnExec

/-- Closes a descriptor. -/
def close (pid : Pid) (fd : Fd) (m : Machine T) : Machine T :=
  m.modifyProcess pid fun p => { p with fds := p.fds.erase fd }

/-- Makes a pipe: the descriptor to read and the one to write. -/
def makePipe (pid : Pid) (m : Machine T) : Except Errno (Fd × Fd) × Machine T :=
  match m.refusal? pid .makePipe with
  | some e => (.error e, m)
  | none =>
    let pipe := m.pipes.size
    let opened := { m with pipes := m.pipes.push .empty }
    match opened.install pid ⟨.reader pipe, true, false, false, 0⟩ true with
    | (.error e, _) => (.error e, m)
    | (.ok reader, opened) =>
      match opened.install pid ⟨.writer pipe, false, true, false, 0⟩ true with
      | (.error e, opened) => (.error e, opened.close pid reader)
      | (.ok writer, opened) => (.ok (reader, writer), opened)

/-- Makes a descriptor stand for what another one stands for. -/
def duplicate (pid : Pid) (fd target : Fd) (m : Machine T) : Except Errno Unit × Machine T :=
  match m.refusal? pid .duplicate, m.process? pid with
  | some e, _ => (.error e, m)
  | _, none => (.error .noProcess, m)
  | none, some p =>
    match p.fds.get? fd with
    | none => (.error .badDescriptor, m)
    | some slot =>
      if p.fdLimit ≤ target then (.error .badDescriptor, m)
      else if fd = target then (.ok (), m)
      else
        (.ok (), m.modifyProcess pid fun p =>
          { p with fds := p.fds.insert target { slot with closeOnExec := false } })

/-- Keeps a descriptor open when the process turns into another program. -/
def keepOnExec (pid : Pid) (fd : Fd) (m : Machine T) : Except Errno Unit × Machine T :=
  match (m.process? pid).bind (·.fds.get? fd) with
  | none => (.error .badDescriptor, m)
  | some slot =>
    (.ok (), m.modifyProcess pid fun p =>
      { p with fds := p.fds.insert fd { slot with closeOnExec := false } })

/-- Moves the place in an open file where the next read or write begins. -/
def advance (m : Machine T) (file : Nat) (offset : Nat) : Machine T :=
  { m with files := m.files.modify file fun f => { f with offset } }

/-- So many zeros. -/
def zeros (count : Nat) : ByteArray :=
  ⟨Array.replicate count 0⟩

/-- Whether a read would not have to wait. -/
def isReadable (m : Machine T) (channel : Channel) : Bool :=
  match channel with
  | .reader pipe => (m.pipes.getD pipe .empty).size ≠ 0 || !m.isOpen (.writer pipe)
  | _ => true

/-- Reads from a channel at a place. -/
def readChannel (m : Machine T) (file : Nat) (f : OpenFile) (count : Nat) :
    Answer ByteArray × Machine T :=
  let part (octets : ByteArray) : Answer ByteArray × Machine T :=
    let given := octets.extract f.offset (f.offset + count)
    (.done given, m.advance file (f.offset + given.size))
  match f.channel with
  | .text octets => part octets
  | .reader pipe =>
    if !m.isReadable f.channel then (.blocked, m)
    else
      let octets := m.pipes.getD pipe .empty
      let given := octets.extract 0 count
      let left := octets.extract given.size octets.size
      (.done given, { m with pipes := m.pipes.modify pipe fun _ => left })
  | .node id =>
    match m.tree.content? id with
    | some (.regular octets) => part octets
    | some (.directory ..) => (.failed .isDirectory, m)
    | some (.device .zero) | some (.device .full) => (.done (zeros count), m)
    | _ => (.done .empty, m)
  | .writer _ | .console _ => (.failed .badDescriptor, m)

/-- Reads at most so many octets. -/
def read (pid : Pid) (fd : Fd) (count : Nat) (m : Machine T) : Answer ByteArray × Machine T :=
  match if count = 4 then m.refusal? pid .readFour else none with
  | some e => (.failed e, m)
  | none =>
    match m.fileOf? pid fd with
    | some (file, f) => if f.readable then m.readChannel file f count else (.failed .badDescriptor, m)
    | none => (.failed .badDescriptor, m)

/-- Octets with others put over them from a place on. -/
def overlay (octets : ByteArray) (offset : Nat) (new : ByteArray) : ByteArray :=
  if octets.size ≤ offset then octets ++ zeros (offset - octets.size) ++ new
  else octets.extract 0 offset ++ new ++ octets.extract (offset + new.size) octets.size

/-- Writes to a channel at a place; the answer is how much was written. A pipe without a reader fails with
`Errno.brokenPipe`. -/
def writeChannel (m : Machine T) (file : Nat) (f : OpenFile) (octets : ByteArray) :
    Answer Nat × Machine T :=
  match f.channel with
  | .console sink => (.done octets.size, { m with sinks := m.sinks.append sink octets })
  | .writer pipe =>
    if !m.isOpen (.reader pipe) then (.failed .brokenPipe, m)
    else
      let room := pipeCapacity - (m.pipes.getD pipe .empty).size
      if room = 0 || (octets.size ≤ pipeUnit && room < octets.size) then (.blocked, m)
      else
        let given := octets.extract 0 room
        (.done given.size, { m with pipes := m.pipes.modify pipe (· ++ given) })
  | .node id =>
    match m.tree.content? id with
    | some (.regular old) =>
      let offset := if f.atEnd then old.size else f.offset
      let size := octets.size
      let tree := m.tree.modifyOctets id fun old => overlay old offset octets
      (.done size, { m with tree }.advance file (offset + size))
    | some (.device .full) => (.failed .noSpace, m)
    | some (.device _) => (.done octets.size, m)
    | _ => (.failed .invalid, m)
  | .text _ | .reader _ => (.failed .badDescriptor, m)

/-- Writes octets, as many as can be taken at once. -/
def write (pid : Pid) (fd : Fd) (octets : ByteArray) (m : Machine T) : Answer Nat × Machine T :=
  match m.fileOf? pid fd with
  | some (file, f) => if f.writable then m.writeChannel file f octets else (.failed .badDescriptor, m)
  | none => (.failed .badDescriptor, m)

/-- Changes the working directory of a process. -/
def changeDirectory (pid : Pid) (path : OsString) (m : Machine T) : Except Errno Unit × Machine T :=
  match m.process? pid, m.refusal? pid .changeDirectory with
  | none, _ => (.error .noProcess, m)
  | _, some e => (.error e, m)
  | some p, none =>
    match m.tree.locate p.cwd path with
    | .error e => (.error e, m)
    | .ok (id, node) =>
      if !node.isDirectory then (.error .notDirectory, m)
      else if !node.allows .execute then (.error .accessDenied, m)
      else (.ok (), m.modifyProcess pid fun p => { p with cwd := id })

/-- Makes a directory. -/
def makeDirectory (pid : Pid) (path : OsString) (m : Machine T) : Except Errno Unit × Machine T :=
  match m.process? pid with
  | none => (.error .noProcess, m)
  | some p =>
    match m.tree.resolveSteps p.cwd path false (FileTree.names path) with
    | .error e => (.error e, m)
    | .ok (.found ..) => (.error .alreadyThere, m)
    | .ok (.missing dir name) =>
      if !(m.tree.node? dir).any (·.allows .write) then (.error .accessDenied, m)
      else
        let (_, tree) := m.tree.makeDirectory dir name (0o777 - (0o777 &&& p.umask)) true
        (.ok (), { m with tree })

/-- Removes a file that is no directory. -/
def removeFile (pid : Pid) (path : OsString) (m : Machine T) : Except Errno Unit × Machine T :=
  match m.process? pid with
  | none => (.error .noProcess, m)
  | some p =>
    match m.tree.resolve p.cwd path false with
    | .error e => (.error e, m)
    | .ok (.missing ..) => (.error .noEntry, m)
    | .ok (.found dir name id) =>
      if (m.tree.node? id).any (·.isDirectory) then (.error .isDirectory, m)
      else if !(m.tree.node? dir).any (·.allows .write) then (.error .accessDenied, m)
      else (.ok (), { m with tree := m.tree.removeEntry dir name })

end Offspring.Machine
