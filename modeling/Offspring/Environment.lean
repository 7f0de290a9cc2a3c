import Offspring.OsString

/-!
# Environment entries

An environment is a list of entries `NAME=VALUE`. An equals sign at the very front belongs to the name,
because per-drive directories are kept in entries such as `=C:=C:\`; the first one after that divides
the entry. `splitEntry` cuts a text entry, `inherited` lists what a process finds in its own
environment, where an entry that is not divided is no variable.
-/

namespace Offspring.Environment

/-- The characters before the first equals sign and, if there is one, those after it. -/
def cut : List Char → List Char × Option (List Char)
  | [] => ([], none)
  | c :: rest =>
    if c = '=' then ([], some rest)
    else
      let (name, value) := cut rest
      (c :: name, value)

/-- The name of an entry and its value, if the entry is divided. The first character belongs to the
name whatever it is. -/
def divide : List Char → List Char × Option (List Char)
  | [] => ([], none)
  | c :: rest =>
    if c = '=' then
      let (name, value) := cut rest
      (c :: name, value)
    else cut (c :: rest)

/-- The name and the value of an entry; an entry that is not divided has an empty value. -/
def splitEntry (entry : String) : String × String :=
  let (name, value) := divide entry.toList
  (String.ofList name, String.ofList (value.getD []))

/-- The name of an entry. -/
def entryName (entry : String) : String :=
  (splitEntry entry).1

/-- An entry of a name and a value. -/
def entryOf (name value : String) : String :=
  name ++ "=" ++ value

/-- The octets before the first equals sign after the first octet, and those after it. -/
def divideOctets : List UInt8 → Option (List UInt8 × List UInt8)
  | [] => none
  | b :: rest =>
    let name := rest.takeWhile (· != 0x3D)
    match rest.dropWhile (· != 0x3D) with
    | [] => none
    | _ :: value => some (b :: name, value)

/-- The variables of a process whose environment holds these entries, each as an entry again. Octets
that are not text are replaced. -/
def inherited (entries : List OsString) : List String :=
  entries.filterMap fun entry =>
    (divideOctets entry.toList).map fun (name, value) =>
      entryOf (Text.lossy ⟨name.toArray⟩) (Text.lossy ⟨value.toArray⟩)

end Offspring.Environment
