import Offspring.Shell.Arithmetic
import Offspring.Posix.Kernel

/-!
# Variables and parameters

What the names and signs after a dollar sign stand for while a script runs.
-/

namespace Offspring.Shell

open Posix (Pid)

/-- A variable. It can be marked for programs without having a value. -/
structure Variable where
  value : Option (List Char)
  isExported : Bool

/-- The variables and parameters of a script. -/
structure Scope where
  bindings : List (List Char × Variable) := []
  /-- The parameters `$1`, `$2` and so on. -/
  positional : List (List Char) := []
  /-- What the script is called, `$0`. -/
  name : List Char
  /-- How the last command ended. -/
  status : Nat := 0
  /-- The number of the process that the script was started in. -/
  pid : Pid
  /-- The last process that was started in the background. -/
  lastBackground : Option Pid := none

namespace Scope

/-- The value of a variable. -/
def get? (s : Scope) (name : List Char) : Option (List Char) :=
  (s.bindings.lookup name).bind (·.value)

/-- The variables with one changed or added at the end. -/
def changed (name : List Char) (f : Option Variable → Variable) :
    List (List Char × Variable) → List (List Char × Variable)
  | [] => [(name, f none)]
  | (other, v) :: rest =>
    if other = name then (name, f (some v)) :: rest else (other, v) :: changed name f rest

/-- Gives a variable a value. -/
def set (s : Scope) (name value : List Char) : Scope :=
  { s with bindings := changed name (fun old => ⟨some value, old.any (·.isExported)⟩) s.bindings }

/-- Marks a variable for programs. -/
def markExported (s : Scope) (name : List Char) : Scope :=
  { s with bindings := changed name (fun old => ⟨old.bind (·.value), true⟩) s.bindings }

/-- Forgets a variable. -/
def unset (s : Scope) (name : List Char) : Scope :=
  { s with bindings := s.bindings.filter (·.1 ≠ name) }

/-- How many rows the table has that programs are given the variables from. -/
def rowCount : Nat := 39

/-- The row of a name in that table. -/
def row (name : List Char) : Nat :=
  match name with
  | c :: _ => (c.toNat * 16 + (name.map Char.toNat).foldr (· + ·) 0) % rowCount
  | [] => 0

/-- The environment of a program: the marked variables, row by row. -/
def environment (s : Scope) : List (List Char) :=
  let marked := s.bindings.filterMap fun (name, v) =>
    if v.isExported then v.value.map fun value => (name, value) else none
  (marked.mergeSort fun a b => row a.1 ≤ row b.1).map fun (name, value) => name ++ '=' :: value

/-- Where programs are looked for by default. -/
def standardPath : String :=
  "/usr/local/sbin:/usr/local/bin:/usr/sbin:/usr/bin:/sbin:/bin"

/-- Takes an entry of an environment as a marked variable, if its name is one. -/
def import? (s : Scope) (entry : List Char) : Scope :=
  let name := entry.takeWhile (· ≠ '=')
  match entry.dropWhile (· ≠ '=') with
  | _ :: value => if isName name then (s.set name value).markExported name else s
  | [] => s

/-- The scope of a script that starts with an environment in a directory. -/
def initial (name : List Char) (positional : List (List Char)) (pid : Pid) (env : List (List Char))
    (cwd : List Char) : Scope :=
  let s : Scope := { name, positional, pid }
  let s := s.set "PATH".toList standardPath.toList
  let s := s.set "IFS".toList " \t\n".toList
  let s := s.set "OPTIND".toList "1".toList
  let s := env.foldl import? s
  (s.set "PWD".toList cwd).markExported "PWD".toList

/-- The characters that divide fields. -/
def separators (s : Scope) : List Char :=
  (s.get? "IFS".toList).getD " \t\n".toList

/-- The value of a parameter that is not a list. -/
def parameter? (s : Scope) (name : List Char) : Option (List Char) :=
  match name with
  | ['#'] => some (toString s.positional.length).toList
  | ['?'] => some (toString s.status).toList
  | ['$'] => some (toString s.pid).toList
  | ['!'] => s.lastBackground.map fun pid => (toString pid).toList
  | ['-'] => some []
  | ['0'] => some s.name
  | name =>
    if name.all Char.isDigit then s.positional[Text.decimal name - 1]? else s.get? name

/-- The number that a variable stands for in arithmetic. -/
def number (s : Scope) (name : List Char) : Except ArithFault Int :=
  Arith.valueOf ((s.get? name).getD [])

end Scope

end Offspring.Shell
