import Offspring.Json.Reader
import Offspring.Json.Value
import Offspring.LaunchSpec

/-!
# The JSON form of a launch spec

A spec is an object with the members `program`, `args`, `env` and `cwd`. It can be written only if its
two paths are text. When it is read, all members but `program` may be left out, members with other names
are skipped, and an array of the four values in that order will do.
-/

namespace Offspring.LaunchSpec

/-- The value of a spec whose paths are text. -/
def toJson? (spec : LaunchSpec) : Option Json.Value := do
  let program ← Text.strict? spec.program
  let cwd ← Text.strict? spec.cwd
  some (.object [
    ("program", .string program),
    ("args", .list (spec.args.map .string)),
    ("env", .list (spec.env.map .string)),
    ("cwd", .string cwd)])

/-- Reads a path, which must be text. -/
def readPath : Json.Scan OsString := fun text => do
  let (s, rest) ← Json.readText "path string" text
  .ok (.ofString s, rest)

/-- Reads a list of texts. -/
def readTexts : Json.Scan (List String) :=
  Json.readList (Json.readText "a string")

/-- The record form of a spec. -/
def record : Json.Record LaunchSpec where
  name := "LaunchSpec"
  empty := ofProgram .empty
  fields := [
    ⟨"program", true, fun spec text => do
      let (program, rest) ← readPath text
      .ok ({ spec with program }, rest)⟩,
    ⟨"args", false, fun spec text => do
      let (args, rest) ← readTexts text
      .ok ({ spec with args }, rest)⟩,
    ⟨"env", false, fun spec text => do
      let (env, rest) ← readTexts text
      .ok ({ spec with env }, rest)⟩,
    ⟨"cwd", false, fun spec text => do
      let (cwd, rest) ← readPath text
      .ok ({ spec with cwd }, rest)⟩]

/-- Reads a spec from a whole text. -/
def ofJson (text : String) : Except Json.Error LaunchSpec :=
  Json.readWhole record.read text

end Offspring.LaunchSpec
