import Offspring.Environment
import Offspring.Error
import Offspring.Text.Uppercase
import Offspring.Text.Utf16

/-!
# Environments as one block of units

A block holds the entries one after the other in 16-bit units, each ended by a zero unit, and one more
zero unit at the end; an empty environment is two zero units. The entries are sorted by the uppercase of
their names, and entries with one uppercased name keep their order. `readBlock` is the reader: it takes
entries up to the first empty one.

`wideNul` is the like encoding of one path.
-/

namespace Offspring

/-- The key by which an entry is sorted. -/
def EnvironmentBlock.sortKey (entry : String) : List Char :=
  Text.uppercase (Environment.entryName entry).toList

/-- The entries in the order of a block. -/
def EnvironmentBlock.sorted (env : List String) : List String :=
  let keyed := env.map fun entry => (EnvironmentBlock.sortKey entry, entry)
  (keyed.mergeSort fun a b => Text.codePointLe a.1 b.1).map (·.2)

/-- The units of one entry with its end. -/
def EnvironmentBlock.entryUnits (entry : String) : List UInt16 :=
  Text.utf16 entry ++ [0]

/-- The block of an environment. An entry with a NUL character has no place in a block. -/
def environmentBlock (env : List String) : Except LaunchError (List UInt16) :=
  if env.any fun entry => entry.toList.contains '\x00' then
    .error (.invalidArgument "environment entry contains a NUL character")
  else
    let units := (EnvironmentBlock.sorted env).flatMap EnvironmentBlock.entryUnits
    .ok ((if units.isEmpty then [0] else units) ++ [0])

/-- The units up to the first zero and, if there is one, those after it. -/
def EnvironmentBlock.firstEntry : List UInt16 → List UInt16 × Option (List UInt16)
  | [] => ([], none)
  | u :: rest =>
    if u = 0 then ([], some rest)
    else
      let (entry, rest) := EnvironmentBlock.firstEntry rest
      (u :: entry, rest)

/-- The entries that a reader of a block finds, up to the first empty one, and the units it has not
passed over. -/
def EnvironmentBlock.readFrom : Nat → List UInt16 → Option (List (List Char) × List UInt16)
  | 0, _ => none
  | fuel + 1, units =>
    match EnvironmentBlock.firstEntry units with
    | (_, none) => none
    | ([], some rest) => some ([], rest)
    | (entry, some rest) => do
      let entry ← Text.decodeUtf16 entry
      let (entries, rest) ← EnvironmentBlock.readFrom fuel rest
      some (entry :: entries, rest)

/-- The entries that a reader of a block finds, and the units it has not passed over. -/
def readBlock (units : List UInt16) : Option (List (List Char) × List UInt16) :=
  EnvironmentBlock.readFrom (units.length + 1) units

/-- The units of octets that are text, ended by a zero unit; `what` names them in a refusal. -/
def wideNul (value : OsString) (what : String) : Except LaunchError (List UInt16) :=
  match Text.strict? value with
  | none => .error (.invalidArgument (what ++ " is not valid unicode"))
  | some text =>
    if text.toList.contains '\x00' then
      .error (.invalidArgument (what ++ " contains a NUL character"))
    else .ok (Text.utf16 text ++ [0])

end Offspring
