import Offspring.LaunchSpec.Json
import Offspring.Proofs.Json.Reading

/-!
# A written launch spec is read back

A spec can be written exactly if its two paths are text, and both written forms are read back to it, whatever
characters its strings have. The two forms differ in their blanks only: `record_read_members` reads the four
members in order with any blanks around them.
-/

namespace Offspring.LaunchSpec

open Json

/-- Octets are text if they are UTF-8 throughout. -/
theorem isSome_strict? (octets : OsString) : (Text.strict? octets).isSome ↔ octets.IsValidUTF8 := by
  rw [Text.strict?, String.fromUTF8?]
  split <;> simp_all

/-- Text gives back the octets that it was read from. -/
theorem ofString_of_strict? {octets : OsString} {s : String} (h : Text.strict? octets = some s) :
    OsString.ofString s = octets := by
  rw [Text.strict?, String.fromUTF8?] at h
  split at h <;> cases h
  rfl

/-- A written path is read back, behind blanks. -/
theorem readPath_writeString {gap : List Char} (hgap : Blank gap) (s : String) (rest : List Char) :
    readPath (gap ++ (writeString s ++ rest)) = .ok (.ofString s, rest) := by
  simp only [readPath, readText_writeString hgap, bind, Except.bind]

section Members

variable {lead after close program args env cwd : List Char} {spec : LaunchSpec}

/-- The four members of a spec in order, with blanks before each of them, after each colon and at the end. -/
def spaced (lead after close program args env cwd : List Char) : List Char :=
  commas ([("program", program), ("args", args), ("env", env), ("cwd", cwd)].map fun member =>
    lead ++ (writeString member.1 ++ ':' :: (after ++ member.2))) ++ (close ++ ['\x7d'])

/-- The members are read back if their values are. -/
theorem record_read_spaced (hlead : Blank lead) (hclose : Blank close)
    (hprogram : ∀ rest, readPath (after ++ (program ++ rest)) = .ok (spec.program, rest))
    (hargs : ∀ rest, readTexts (after ++ (args ++ rest)) = .ok (spec.args, rest))
    (henv : ∀ rest, readTexts (after ++ (env ++ rest)) = .ok (spec.env, rest))
    (hcwd : ∀ rest, readPath (after ++ (cwd ++ rest)) = .ok (spec.cwd, rest)) :
    record.read ('\x7b' :: spaced lead after close program args env cwd) = .ok (spec, []) := by
  have hmembers : ∀ fuel, record.readMembers (fuel + 5) true [] record.empty
      (spaced lead after close program args env cwd) =
      .ok (["cwd", "env", "args", "program"], spec, ['\x7d']) := by
    intro fuel
    simp only [spaced, List.map_cons, List.map_nil, commas_cons, List.flatMap_cons, List.flatMap_nil,
      List.cons_append, List.append_assoc, List.append_nil]
    rw [record.readMembers_member _ (nextMember_first hlead "program" _) rfl (by simp)
      (by simp only [hprogram, bind, Except.bind]; rfl)]
    rw [record.readMembers_member _ (nextMember_more hlead "args" _) rfl (by simp)
      (by simp only [hargs, bind, Except.bind]; rfl)]
    rw [record.readMembers_member _ (nextMember_more hlead "env" _) rfl (by simp)
      (by simp only [henv, bind, Except.bind]; rfl)]
    rw [record.readMembers_member _ (nextMember_more hlead "cwd" _) rfl (by simp)
      (by simp only [hcwd, bind, Except.bind]; rfl)]
    simp only [Record.readMembers, nextMember_end hclose, bind, Except.bind]
    rfl
  have hopen : ∀ text, skipBlanks ('\x7b' :: text) = '\x7b' :: text := fun _ => rfl
  have hlength : 5 ≤ (spaced lead after close program args env cwd).length + 1 := by
    simp only [spaced, List.map_cons, List.map_nil, commas_cons, List.flatMap_cons, List.length_append,
      List.length_cons]
    omega
  obtain ⟨fuel, hfuel⟩ := Nat.exists_eq_add_of_le' hlength
  have hnone : record.missing? ["cwd", "env", "args", "program"] = none := by decide
  have hend : endMembers ['\x7d'] = .ok [] := rfl
  rw [Record.read, hopen]
  simp only [hfuel, hmembers, hnone, hend, bind, Except.bind]

/-- Nothing follows the members in a whole text. -/
theorem ofJson_of_read {text : String} (h : record.read text.toList = .ok (spec, [])) : ofJson text = .ok spec := by
  simp only [ofJson, readWhole, h, bind, Except.bind]
  rfl

end Members

section Forms

variable (program cwd : String) (args env : List String)

/-- The value of a spec whose paths are text. -/
def valueOf (program cwd : String) (args env : List String) : Value :=
  .object [("program", .string program), ("args", .list (args.map .string)),
    ("env", .list (env.map .string)), ("cwd", .string cwd)]

/-- The one-line form is read back. -/
theorem ofJson_compact : ofJson (valueOf program cwd args env).compact =
    .ok ⟨.ofString program, args, env, .ofString cwd⟩ := by
  refine ofJson_of_read ?_
  have hform : (valueOf program cwd args env).compact.toList = '\x7b' :: spaced [] [] []
      (writeString program) (Value.list (args.map .string)).write (Value.list (env.map .string)).write
      (writeString cwd) := by
    simp [valueOf, Value.compact, Value.write, writeMembers_eq, spaced]
  rw [hform]
  exact record_read_spaced blank_nil blank_nil (readPath_writeString blank_nil program)
    (readList_write "a string" args) (readList_write "a string" env) (readPath_writeString blank_nil cwd)

/-- The form over several lines is read back. -/
theorem ofJson_pretty : ofJson (valueOf program cwd args env).pretty =
    .ok ⟨.ofString program, args, env, .ofString cwd⟩ := by
  refine ofJson_of_read ?_
  have hform : (valueOf program cwd args env).pretty.toList = '\x7b' :: spaced (newLine 1) [' '] (newLine 0)
      (writeString program) ((Value.list (args.map .string)).layOut 1) ((Value.list (env.map .string)).layOut 1)
      (writeString cwd) := by
    have hstring : ∀ level s, (Value.string s).layOut level = writeString s := fun _ _ => by rw [Value.layOut]
    have hobject : (valueOf program cwd args env).layOut 0 = '\x7b' :: layOutMembers 1
        [("program", .string program), ("args", .list (args.map .string)), ("env", .list (env.map .string)),
          ("cwd", .string cwd)] ++ newLine 0 ++ ['\x7d'] := by
      rw [valueOf, Value.layOut]
      simp
    rw [Value.pretty, String.toList_ofList, hobject, layOutMembers_eq]
    simp [spaced, hstring]
  have hblank : Blank [' '] := by simp [Blank, isBlank]
  rw [hform]
  exact record_read_spaced (blank_newLine 1) (blank_newLine 0) (readPath_writeString hblank program)
    (readList_layOut hblank 1 "a string" args) (readList_layOut hblank 1 "a string" env)
    (readPath_writeString hblank cwd)

end Forms

/-- A spec is written exactly if its paths are UTF-8, and then both written forms are read back to it: no string
of the program, its arguments, its environment and its directory is changed, whatever characters it has. -/
theorem written_spec_read_back (spec : LaunchSpec) :
    (spec.toJson?.isSome ↔ spec.program.IsValidUTF8 ∧ spec.cwd.IsValidUTF8) ∧
    ∀ value, spec.toJson? = some value → ofJson value.compact = .ok spec ∧ ofJson value.pretty = .ok spec := by
  constructor
  · rw [← isSome_strict?, ← isSome_strict?, toJson?]
    cases Text.strict? spec.program <;> cases Text.strict? spec.cwd <;> simp
  · intro value hvalue
    rw [toJson?] at hvalue
    obtain ⟨program, hprogram, hvalue⟩ := Option.bind_eq_some_iff.mp hvalue
    obtain ⟨cwd, hcwd, hvalue⟩ := Option.bind_eq_some_iff.mp hvalue
    have hspec : spec = ⟨.ofString program, spec.args, spec.env, .ofString cwd⟩ := by
      rw [ofString_of_strict? hprogram, ofString_of_strict? hcwd]
    cases hvalue
    rw [hspec]
    exact ⟨ofJson_compact program cwd spec.args spec.env, ofJson_pretty program cwd spec.args spec.env⟩

end Offspring.LaunchSpec
