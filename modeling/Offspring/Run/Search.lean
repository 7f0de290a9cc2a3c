import Offspring.OsString

/-!
# Looking for a program

A name without a directory is looked for in the directories of a search path; the first regular file
counts, whether or not it can be run. Anything else, and a name that is not found, stands for itself.
-/

namespace Offspring.Run

/-- The slash between the parts of a path. -/
def slash : UInt8 := 0x2F

/-- The octets between separators. -/
def splitOctets (separator : UInt8) : List UInt8 → List (List UInt8)
  | [] => [[]]
  | b :: rest =>
    if b = separator then [] :: splitOctets separator rest
    else
      match splitOctets separator rest with
      | [] => [[b]]
      | part :: parts => (b :: part) :: parts

/-- The parts of a path that lead somewhere. Two slashes count as one, and a dot leads nowhere unless it is
at the start. -/
def pathParts (path : OsString) : List (List UInt8) :=
  match splitOctets slash path.toList with
  | [] => []
  | first :: rest => (first :: rest.filter (· ≠ [0x2E])).filter (!·.isEmpty)

/-- Whether a path says where it is, so that no search is made for it. -/
def hasDirectory (path : OsString) : Bool :=
  path.toList.head? = some slash || 1 < (pathParts path).length

/-- A name in a directory. -/
def joinPath (dir name : OsString) : OsString :=
  if dir.isEmpty || dir.toList.getLast? = some slash then dir ++ name
  else dir.push slash ++ name

/-- The program that a name stands for, given the search path. -/
def findProgram (isFile : OsString → Bool) (search : Option OsString) (program : OsString) : OsString :=
  if hasDirectory program then program
  else
    let places := (search.map fun path =>
      (splitOctets 0x3A path.toList).map fun dir => joinPath ⟨dir.toArray⟩ program).getD []
    (places.find? isFile).getD program

end Offspring.Run
