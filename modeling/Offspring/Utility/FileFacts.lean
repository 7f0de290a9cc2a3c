import Offspring.Machine.Files
import Offspring.Utility.Test

/-!
# Conditions on the files of a machine

What `Condition.holds` asks for about a file, answered for a process of a machine.
-/

namespace Offspring.Condition

open Machine (Process Node NodeId)

variable {T : Type}

/-- The node that a path names, seen from a process. A number under which it has a file open stands for
that file. -/
def locate (m : Machine T) (p : Process T) (path : OsString) : Except Errno (NodeId × Node) := do
  let (id, node) ← m.tree.locate p.cwd path
  match node.content with
  | .descriptor fd =>
    match m.channelOf? p fd with
    | none => .error .noEntry
    | some (.node other) => .ok (other, (m.tree.node? other).getD node)
    | some _ => .ok (id, node)
  | _ => .ok (id, node)

/-- What a file is to a condition. -/
def fileFacts (m : Machine T) (p : Process T) (letter : Char) (path : List Char) : Bool :=
  let path := Text.octets path
  let isLink : Bool :=
    match m.tree.resolve p.cwd path false with
    | .ok (.found _ _ id) =>
      match m.tree.content? id with
      | some (.link _) => true
      | _ => false
    | _ => false
  match letter, locate m p path with
  | 'h', _ | 'L', _ => isLink
  | _, .error _ => false
  | 'd', .ok (_, node) => node.isDirectory
  | 'f', .ok (_, node) => node.isFile
  | 'c', .ok (_, node) =>
    match node.content with
    | .device _ => true
    | _ => false
  | 'p', .ok (_, node) =>
    match node.content with
    | .descriptor _ => true
    | _ => false
  | 'e', .ok _ => true
  | 'r', .ok (_, node) => node.allows .read
  | 'w', .ok (_, node) => node.allows .write
  | 'x', .ok (_, node) => node.allows .execute
  | 's', .ok (id, _) => (m.tree.octets id).size ≠ 0
  | 'O', .ok (_, node) | 'G', .ok (_, node) => node.owned
  | _, .ok _ => false

end Offspring.Condition
