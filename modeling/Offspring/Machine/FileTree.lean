import Offspring.Errno
import Offspring.OsString

/-!
# A tree of files

Files are nodes in an array; a directory lists the numbers of its entries, and knows the directory above
it. All processes run as one user, so a node only records whether that user owns it.

`resolve` walks a path. A link is followed wherever more of the path comes after it, and at the end if
the caller says so; a walk that meets too many links ends with an error.
-/

namespace Offspring.Machine

/-- The number of a node. -/
abbrev NodeId := Nat

/-- A device without a medium. -/
inductive Device where
  /-- Empty to read, and takes everything. -/
  | null
  /-- An endless row of zeros, and takes everything. -/
  | zero
  /-- An endless row of zeros, and takes nothing. -/
  | full
  deriving DecidableEq

/-- The programs that come with the machine. -/
inductive Tool where
  | shell
  | cat
  | echo
  | env
  | headOf
  | makeDirectory
  | printf
  | printDirectory
  | remove
  | sleep
  | test
  | touch
  /-- It only ends, with a code. -/
  | ends (code : Nat)
  | yes
  deriving DecidableEq

/-- What the machine tells a process about itself in the form of a file. -/
inductive SelfReport where
  | stat
  | arguments
  deriving DecidableEq

/-- What a node holds. -/
inductive Content where
  | directory (parent : NodeId) (entries : List (OsString × NodeId))
  | regular (octets : ByteArray)
  | link (target : OsString)
  | device (device : Device)
  | tool (tool : Tool)
  | selfReport (report : SelfReport)
  /-- What a process that looks has open under a number. -/
  | descriptor (number : Nat)

/-- A file of any kind. -/
structure Node where
  content : Content
  /-- The permission bits. -/
  mode : Nat
  /-- Whether the user owns it. -/
  owned : Bool

/-- A permission. -/
inductive Permission where
  | read
  | write
  | execute
  deriving DecidableEq

/-- The bit of a permission among the three of one class of users. -/
def Permission.bit : Permission → Nat
  | .read => 4
  | .write => 2
  | .execute => 1

/-- Whether the user has a permission on a node. -/
def Node.allows (n : Node) (p : Permission) : Bool :=
  let bits := if n.owned then n.mode / 64 % 8 else n.mode % 8
  bits / p.bit % 2 = 1

/-- Whether a node is a directory. -/
def Node.isDirectory (n : Node) : Bool :=
  match n.content with
  | .directory .. => true
  | _ => false

/-- Whether a node is a file that is neither a directory nor a link nor a device. -/
def Node.isFile (n : Node) : Bool :=
  match n.content with
  | .regular _ | .tool _ | .selfReport _ => true
  | _ => false

/-- All files, by the number of their node. -/
structure FileTree where
  nodes : Array Node

namespace FileTree

/-- The number of the root directory. -/
def root : NodeId := 0

/-- A tree that holds an empty root directory only. -/
def empty : FileTree :=
  ⟨#[⟨.directory root [], 0o755, false⟩]⟩

/-- The node with a number. -/
def node? (t : FileTree) (id : NodeId) : Option Node :=
  t.nodes[id]?

/-- What the node with a number holds. -/
def content? (t : FileTree) (id : NodeId) : Option Content :=
  (t.node? id).map (·.content)

/-- The octets of a regular file. -/
def octets (t : FileTree) (id : NodeId) : ByteArray :=
  match t.node? id with
  | some ⟨.regular octets, _, _⟩ => octets
  | _ => .empty

/-- Replaces the octets of a regular file by what a function makes of them. -/
def modifyOctets (t : FileTree) (id : NodeId) (f : ByteArray → ByteArray) : FileTree :=
  ⟨t.nodes.modify id fun n =>
    match n with
    | ⟨.regular octets, mode, owned⟩ => ⟨.regular (f octets), mode, owned⟩
    | other => other⟩

/-- The entry of a directory with a name. -/
def entry? (t : FileTree) (dir : NodeId) (name : OsString) : Option NodeId :=
  match t.node? dir with
  | some ⟨.directory _ entries, _, _⟩ => entries.lookup name
  | _ => none

/-- Adds an entry to a directory. -/
def addEntry (t : FileTree) (dir : NodeId) (name : OsString) (id : NodeId) : FileTree :=
  ⟨t.nodes.modify dir fun n =>
    match n with
    | ⟨.directory parent entries, mode, owned⟩ =>
      ⟨.directory parent (entries ++ [(name, id)]), mode, owned⟩
    | other => other⟩

/-- Removes the entry of a directory with a name. -/
def removeEntry (t : FileTree) (dir : NodeId) (name : OsString) : FileTree :=
  ⟨t.nodes.modify dir fun n =>
    match n with
    | ⟨.directory parent entries, mode, owned⟩ =>
      ⟨.directory parent (entries.filter (·.1 != name)), mode, owned⟩
    | other => other⟩

/-- Makes a node and its entry in a directory. -/
def make (t : FileTree) (dir : NodeId) (name : OsString) (node : Node) : NodeId × FileTree :=
  let id := t.nodes.size
  (id, FileTree.addEntry ⟨t.nodes.push node⟩ dir name id)

/-- Makes an empty directory. -/
def makeDirectory (t : FileTree) (dir : NodeId) (name : OsString) (mode : Nat) (owned : Bool) :
    NodeId × FileTree :=
  t.make dir name ⟨.directory dir [], mode, owned⟩

/-! ### Paths -/

/-- The slash between the names of a path. -/
def slash : UInt8 := 0x2F

/-- The parts of octets between slashes. -/
def splitSlashes : List UInt8 → List (List UInt8)
  | [] => [[]]
  | b :: rest =>
    if b = slash then [] :: splitSlashes rest
    else
      match splitSlashes rest with
      | [] => [[b]]
      | part :: parts => (b :: part) :: parts

/-- The name of a directory in itself. -/
def dot : OsString := .ofString "."

/-- The name of the directory above one. -/
def dotDot : OsString := .ofString ".."

/-- The names of a path, those that are empty left out. -/
def names (path : OsString) : List OsString :=
  ((splitSlashes path.toList).filter (!·.isEmpty)).map fun part => ⟨part.toArray⟩

/-- Whether a path starts at the root. -/
def isAbsolute (path : OsString) : Bool :=
  path.toList.head? = some slash

/-- Whether a path ends in a slash, so that it can only name a directory. -/
def endsInSlash (path : OsString) : Bool :=
  path.toList.getLast? = some slash

/-- The names of a path with one more for a slash at the end. -/
def steps (path : OsString) : List OsString :=
  if endsInSlash path then names path ++ [dot] else names path

/-- The longest path that a call takes, and one more. -/
def pathLimit : Nat := 4096

/-- The longest name of an entry. -/
def nameLimit : Nat := 255

/-- How many links one walk follows. -/
def linkLimit : Nat := 40

/-- Where a walk ends. -/
inductive Place where
  | found (dir : NodeId) (name : OsString) (node : NodeId)
  /-- All directories are there, the last name is not. -/
  | missing (dir : NodeId) (name : OsString)

/-- How far a walk comes without following a link. -/
inductive Stretch where
  | arrived (place : Place)
  | link (dir : NodeId) (target : OsString) (rest : List OsString)

/-- The node that one name leads to, and the link there if it is one. -/
def enter (t : FileTree) (dir : NodeId) (name : OsString) :
    Except Errno (Option (NodeId × Option OsString)) :=
  match t.node? dir with
  | some node@⟨.directory parent entries, _, _⟩ =>
    if !node.allows .execute then .error .accessDenied
    else if name = dot then .ok (some (dir, none))
    else if name = dotDot then .ok (some (parent, none))
    else if nameLimit < name.size then .error .nameTooLong
    else
      match entries.lookup name with
      | none => .ok none
      | some id =>
        match t.node? id with
        | some ⟨.link target, _, _⟩ => .ok (some (id, some target))
        | _ => .ok (some (id, none))
  | _ => .error .notDirectory

/-- Walks up to the first link that has to be followed. -/
def stretch (t : FileTree) (follow : Bool) (dir : NodeId) :
    List OsString → Except Errno Stretch
  | [] => .ok (.arrived (.found dir dot dir))
  | name :: rest => do
    match ← t.enter dir name with
    | none => if rest.isEmpty then .ok (.arrived (.missing dir name)) else .error .noEntry
    | some (id, some target) =>
      if follow || !rest.isEmpty then .ok (.link dir target rest)
      else .ok (.arrived (.found dir name id))
    | some (id, none) =>
      if rest.isEmpty then .ok (.arrived (.found dir name id)) else t.stretch follow id rest

/-- Walks over so many links at most. -/
def walk (t : FileTree) (follow : Bool) : Nat → NodeId → List OsString → Except Errno Place
  | links, dir, path => do
    match ← t.stretch follow dir path with
    | .arrived place => .ok place
    | .link dir target rest =>
      match links with
      | 0 => .error .tooManyLinks
      | links + 1 =>
        if target.isEmpty then .error .noEntry
        else t.walk follow links (if isAbsolute target then root else dir) (steps target ++ rest)

/-- Refuses a path that no call takes. -/
def checkPath (path : OsString) : Except Errno Unit :=
  if path.isEmpty then .error .noEntry
  else if pathLimit ≤ path.size then .error .nameTooLong
  else .ok ()

/-- Walks the names of a path from a directory, or from the root. -/
def resolveSteps (t : FileTree) (cwd : NodeId) (path : OsString) (follow : Bool)
    (way : List OsString) : Except Errno Place := do
  checkPath path
  t.walk follow linkLimit (if isAbsolute path then root else cwd) way

/-- Walks a path from a directory. -/
def resolve (t : FileTree) (cwd : NodeId) (path : OsString) (follow : Bool) : Except Errno Place :=
  t.resolveSteps cwd path follow (steps path)

/-- The node that a path names. -/
def locate (t : FileTree) (cwd : NodeId) (path : OsString) : Except Errno (NodeId × Node) := do
  match ← t.resolve cwd path true with
  | .missing .. => .error .noEntry
  | .found _ _ id =>
    match t.node? id with
    | some node => .ok (id, node)
    | none => .error .noEntry

/-- Whether a path names a file. -/
def exists? (t : FileTree) (cwd : NodeId) (path : OsString) : Bool :=
  (t.locate cwd path).toOption.isSome

/-- The names on the way from the root to a directory, found upwards in so many steps at most. -/
def wayTo (t : FileTree) : Nat → NodeId → List OsString → List OsString
  | 0, _, way => way
  | fuel + 1, id, way =>
    match t.node? id with
    | some ⟨.directory parent _, _, _⟩ =>
      if parent = id then way
      else
        match t.node? parent with
        | some ⟨.directory _ entries, _, _⟩ =>
          match entries.find? (·.2 = id) with
          | some (name, _) => t.wayTo fuel parent (name :: way)
          | none => way
        | _ => way
    | _ => way

/-- A path from names, from the root. -/
def absolute (way : List OsString) : OsString :=
  if way.isEmpty then .ofString "/"
  else way.foldl (fun path name => path ++ .ofString "/" ++ name) .empty

/-- The path of a directory. -/
def pathOf (t : FileTree) (id : NodeId) : OsString :=
  absolute (t.wayTo t.nodes.size id [])

end FileTree

end Offspring.Machine
