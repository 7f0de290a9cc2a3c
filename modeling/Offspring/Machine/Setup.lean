import Offspring.Machine.Kernel

/-!
# A machine to start with

A machine with the usual directories, devices and tools, a client without children, and an empty directory
of the user's own in which the client works.
-/

namespace Offspring.World

open Machine (FileTree Node NodeId Tool Content client)

/-- A node that belongs to somebody else. -/
def foreign (content : Content) (mode : Nat) : Node :=
  ⟨content, mode, false⟩

/-- The tools by their names. -/
def tools : List (String × Tool) := [
  ("sh", .shell), ("dash", .shell), ("cat", .cat), ("echo", .echo), ("env", .env), ("false", .ends 1),
  ("head", .headOf), ("mkdir", .makeDirectory), ("printf", .printf), ("pwd", .printDirectory),
  ("rm", .remove), ("sleep", .sleep), ("test", .test), ("[", .test), ("touch", .touch), ("true", .ends 0),
  ("yes", .yes)]

/-- Adds a directory that belongs to somebody else. -/
def addDirectory (dir : NodeId) (name : String) (mode : Nat) (t : FileTree) : NodeId × FileTree :=
  t.makeDirectory dir (.ofString name) mode false

/-- Adds nodes of a directory that belong to somebody else. -/
def addNodes (dir : NodeId) (nodes : List (String × Content × Nat)) (t : FileTree) : FileTree :=
  nodes.foldl (fun t (name, content, mode) => (t.make dir (.ofString name) (foreign content mode)).2) t

/-- The files that are there before any other, and the user's directory. -/
def firstFiles : NodeId × FileTree :=
  let t := FileTree.empty
  let (usr, t) := addDirectory FileTree.root "usr" 0o755 t
  let (bin, t) := addDirectory usr "bin" 0o755 t
  let (_, t) := addDirectory usr "lib" 0o755 t
  let (_, t) := addDirectory usr "sbin" 0o755 t
  let t := addNodes bin (tools.map fun (name, tool) => (name, .tool tool, 0o755)) t
  let link (target : String) : Content := .link (.ofString target)
  let t := addNodes FileTree.root [("bin", link "usr/bin", 0o777), ("lib", link "usr/lib", 0o777),
    ("sbin", link "usr/sbin", 0o777)] t
  let (dev, t) := addDirectory FileTree.root "dev" 0o755 t
  let t := addNodes dev [("null", .device .null, 0o666), ("zero", .device .zero, 0o666),
    ("full", .device .full, 0o666)] t
  let (proc, t) := addDirectory FileTree.root "proc" 0o555 t
  let (self, t) := addDirectory proc "self" 0o555 t
  let t := addNodes self [("stat", .selfReport .stat, 0o444), ("cmdline", .selfReport .arguments, 0o444)] t
  let (fd, t) := addDirectory self "fd" 0o555 t
  let t := addNodes fd ((List.range 10).map fun n => (toString n, .descriptor n, 0o777)) t
  let t := addNodes dev [("fd", link "/proc/self/fd", 0o777), ("stdin", link "/proc/self/fd/0", 0o777),
    ("stdout", link "/proc/self/fd/1", 0o777), ("stderr", link "/proc/self/fd/2", 0o777)] t
  let (_, t) := addDirectory FileTree.root "root" 0o700 t
  let t := ["etc", "home", "opt", "run", "srv", "var"].foldl
    (fun t name => (addDirectory FileTree.root name 0o755 t).2) t
  let (tmp, t) := addDirectory FileTree.root "tmp" 0o1777 t
  t.makeDirectory tmp (.ofString "work") 0o755 true

/-- A machine with its client, whose standard streams go nowhere. -/
def initial : World :=
  let (cwd, tree) := firstFiles
  let nowhere := (tree.locate FileTree.root (.ofString "/dev/null")).toOption.map (·.1)
  let file : Machine.OpenFile := ⟨.node (nowhere.getD 0), true, true, false, 0⟩
  let process : Machine.Process Machine.Task := {
    parent := Machine.init
    group := Machine.init
    session := Machine.init
    fds := ⟨[(0, ⟨0, false⟩), (1, ⟨0, false⟩), (2, ⟨0, false⟩)]⟩
    cwd
    name := .ofString "client"
    argv := []
    task := .client }
  { tree, files := #[file], processes := #[none, none, some process] }

/-- The directory in which the client works. -/
def workingDirectory (w : World) : NodeId :=
  ((w.process? client).map (·.cwd)).getD FileTree.root

/-- Adds a node of the user's to a directory, if the user may write there. -/
def addOwn (dir : NodeId) (name : OsString) (content : Content) (mode : Nat) (t : FileTree) :
    Except Errno (NodeId × FileTree) :=
  if (t.node? dir).any (·.allows .write) then .ok (t.make dir name ⟨content, mode, true⟩)
  else .error .accessDenied

/-- Makes a directory of the user's with those above it that are missing, name by name. -/
def provideDirectory (path : OsString) (w : World) : Except Errno World := do
  let enter (acc : NodeId × FileTree) (name : OsString) : Except Errno (NodeId × FileTree) := do
    let (dir, t) := acc
    match ← t.resolve dir name true with
    | .found _ _ id =>
      if (t.node? id).any (·.isDirectory) then .ok (id, t) else .error .alreadyThere
    | .missing dir name => addOwn dir name (.directory dir []) 0o755 t
  let start := if FileTree.isAbsolute path then FileTree.root else w.workingDirectory
  let (_, tree) ← (FileTree.names path).foldlM enter (start, w.tree)
  .ok { w with tree }

/-- Makes a node of the user's at a path. The directories above it have to be there. -/
def provide (path : OsString) (content : Content) (mode : Nat) (w : World) : Except Errno World := do
  match ← w.tree.resolve w.workingDirectory path false with
  | .missing dir name =>
    let (_, tree) ← addOwn dir name content mode w.tree
    .ok { w with tree }
  | .found _ _ id =>
    -- Only a file is written anew, and only over a file of the user's own.
    match content, w.tree.node? id with
    | .regular _, some node@⟨.regular _, _, true⟩ =>
      if node.allows .write then
        .ok { w with tree := ⟨w.tree.nodes.modify id fun _ => ⟨content, mode, true⟩⟩ }
      else .error .accessDenied
    | _, _ => .error .alreadyThere

/-- The regular files below a directory with their paths, down to so many levels. -/
def filesBelow (t : FileTree) : Nat → NodeId → OsString → List (OsString × Node)
  | 0, _, _ => []
  | fuel + 1, dir, above =>
    match t.content? dir with
    | some (.directory _ entries) =>
      entries.flatMap fun (name, id) =>
        let path := if above.isEmpty then name else above ++ .ofString "/" ++ name
        match t.node? id with
        | some ⟨.directory .., _, _⟩ => filesBelow t fuel id path
        | some node@⟨.regular _, _, _⟩ => [(path, node)]
        | _ => []
    | _ => []

/-- The user's files, with their paths from the directory in which the client works. -/
def ownFiles (w : World) : List (OsString × Node) :=
  filesBelow w.tree w.tree.nodes.size w.workingDirectory .empty

end Offspring.World
