import Offspring.Environment

/-!
# What to run

A `LaunchSpec` is a program with its arguments, environment and working directory. Nothing in it is
expanded: the program is a path as it stands, the environment is the child's whole environment, and an
empty directory means the parent's.
-/

namespace Offspring

/-- A program with its arguments, environment and working directory. -/
structure LaunchSpec where
  /-- The path of the program. -/
  program : OsString
  /-- The whole argument vector, the program's name included. -/
  args : List String := []
  /-- The child's environment, as entries. -/
  env : List String := []
  /-- The child's working directory; empty for the parent's. -/
  cwd : OsString := .empty
  deriving DecidableEq, Inhabited

namespace LaunchSpec

/-- A spec for a program alone. -/
def ofProgram (program : OsString) : LaunchSpec :=
  { program }

/-- The argument vector handed to the operating system: the program's path stands in for an empty one. -/
def argv (spec : LaunchSpec) : List String :=
  if spec.args.isEmpty then [spec.program.shown] else spec.args

/-- Adds arguments at the end. -/
def addArgs (spec : LaunchSpec) (args : List String) : LaunchSpec :=
  { spec with args := spec.args ++ args }

/-- Adds one environment entry at the end. -/
def addEnv (spec : LaunchSpec) (name value : String) : LaunchSpec :=
  { spec with env := spec.env ++ [Environment.entryOf name value] }

/-- Adds the variables of a parent whose environment holds the given entries. -/
def inheritEnv (spec : LaunchSpec) (parent : List OsString) : LaunchSpec :=
  { spec with env := spec.env ++ Environment.inherited parent }

/-- Replaces the working directory. -/
def withCwd (spec : LaunchSpec) (cwd : OsString) : LaunchSpec :=
  { spec with cwd }

/-- Puts the variables of a parent below the entries that the spec sets itself: a parent's variable is
kept only if no entry of the spec has its name, and all kept ones come first. -/
def mergeParent (spec : LaunchSpec) (parent : List OsString) : LaunchSpec :=
  let explicit := spec.env.map Environment.entryName
  let inherited := (Environment.inherited parent).filter fun entry =>
    !explicit.contains (Environment.entryName entry)
  { spec with env := inherited ++ spec.env }

end LaunchSpec

end Offspring
