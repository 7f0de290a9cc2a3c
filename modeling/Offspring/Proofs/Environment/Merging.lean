import Mathlib.Data.List.TakeWhile
import Offspring.LaunchSpec
import Offspring.Proofs.Text.Lossy

/-!
# A parent's variables below a child's own entries

What a spec says about a name goes, and the parent is only asked where the spec says nothing. A parent's variable
is an entry by the time its name is looked at: its name and its value were read as text, joined, and the entry was
cut again. The cut gives back the name, because text has an equals sign only where the octets had one
(`entryName_entry`), so a variable is overridden by entries with its own name and by no others.
-/

namespace Offspring

namespace Environment

/-- A variable: the octets of its name and of its value. -/
structure Variable where
  name : OsString
  value : OsString
  deriving DecidableEq

/-- The variable of a name and a value. -/
def Variable.ofParts (parts : List UInt8 × List UInt8) : Variable :=
  ⟨⟨parts.1.toArray⟩, ⟨parts.2.toArray⟩⟩

/-- The variables of a process whose environment holds these entries. -/
def variablesOf (entries : List OsString) : List Variable :=
  entries.filterMap fun entry => (divideOctets entry.toList).map Variable.ofParts

/-- The entry of a variable. -/
def Variable.entry (v : Variable) : String :=
  entryOf v.name.shown v.value.shown

/-- The entries with a name, in the order that they have. -/
def named (name : String) (env : List String) : List String :=
  env.filter fun entry => entryName entry = name

/-- Inherited entries are those of the variables. -/
theorem inherited_eq (parent : List OsString) : inherited parent = (variablesOf parent).map Variable.entry := by
  rw [inherited, variablesOf, List.map_filterMap]
  simp only [Option.map_map]
  rfl

/-- A cut in front of which no equals sign stands. -/
theorem cut_append {name : List Char} (h : '=' ∉ name) (value : List Char) :
    cut (name ++ '=' :: value) = (name, some value) := by
  induction name with
  | nil => rfl
  | cons c name ih =>
    rw [List.mem_cons, not_or] at h
    rw [List.cons_append, cut, if_neg (Ne.symm h.1), ih h.2]

/-- An entry is cut where it was joined, if its name has no equals sign behind the first character. -/
theorem splitEntry_entryOf {name : String} {c : Char} {rest : List Char} (hname : name.toList = c :: rest)
    (hrest : '=' ∉ rest) (value : String) : splitEntry (entryOf name value) = (name, value) := by
  have hchars : (entryOf name value).toList = c :: (rest ++ '=' :: value.toList) := by
    rw [entryOf, String.toList_append, String.toList_append, hname]
    simp
  have hdivide : divide (c :: (rest ++ '=' :: value.toList)) = (c :: rest, some value.toList) := by
    rw [divide]
    split
    · rw [cut_append hrest]
    · rename_i hc
      rw [← List.cons_append, cut_append]
      simp only [List.mem_cons, not_or]
      exact ⟨Ne.symm hc, hrest⟩
  rw [splitEntry, hchars, hdivide]
  simp [← hname]

/-- Entries are divided behind a name that has octets, and equals signs at most as its first one. -/
theorem name_of_divideOctets {octets name value : List UInt8} (h : divideOctets octets = some (name, value)) :
    ∃ b rest, name = b :: rest ∧ 0x3D ∉ rest := by
  cases octets with
  | nil => cases h
  | cons b rest =>
    rw [divideOctets] at h
    split at h <;> cases h
    refine ⟨b, _, rfl, fun hequals => ?_⟩
    simpa using List.mem_takeWhile_imp hequals

/-- The name of a variable's entry is the variable's, read as text. -/
theorem entryName_entry {parent : List OsString} {v : Variable} (h : v ∈ variablesOf parent) :
    entryName v.entry = v.name.shown := by
  obtain ⟨entry, -, hentry⟩ := List.mem_filterMap.mp h
  obtain ⟨⟨name, value⟩, hdivide, rfl⟩ := Option.map_eq_some_iff.mp hentry
  obtain ⟨b, rest, rfl, hrest⟩ := name_of_divideOctets hdivide
  obtain ⟨c, text, htext, hclean⟩ := Text.lossy_tail b hrest
  rw [entryName, Variable.entry, Variable.ofParts, OsString.shown, splitEntry_entryOf htext hclean]

/-- The inherited entries with a name are those of the variables with the name. -/
theorem named_inherited (name : String) (parent : List OsString) :
    named name (inherited parent) = ((variablesOf parent).filter (·.name.shown = name)).map Variable.entry := by
  rw [named, inherited_eq, List.filter_map]
  refine congrArg (List.map Variable.entry) (List.filter_congr fun v hv => ?_)
  rw [Function.comp_apply, entryName_entry hv]

end Environment

namespace LaunchSpec

open Environment

variable (spec : LaunchSpec) (parent : List OsString)

/-- The entries of a parent that a spec leaves room for. -/
def kept (spec : LaunchSpec) (parent : List OsString) : List String :=
  (inherited parent).filter fun entry => ∀ own ∈ spec.env, entryName own ≠ entryName entry

/-- Merging puts the kept entries in front and changes nothing else. -/
theorem mergeParent_eq : spec.mergeParent parent = { spec with env := spec.kept parent ++ spec.env } := by
  have hkept : ∀ entry, (!(spec.env.map entryName).contains (entryName entry)) =
      decide (∀ own ∈ spec.env, entryName own ≠ entryName entry) := by
    intro entry
    rw [Bool.eq_iff_iff]
    simp
  simp only [mergeParent, kept, hkept]

/-- The kept entries with a name are all that the parent has, or none if the spec has one. -/
theorem named_kept (name : String) :
    named name (spec.kept parent) = if named name spec.env = [] then named name (inherited parent) else [] := by
  rw [named, kept, List.filter_filter]
  split_ifs with hfree
  · refine List.filter_congr fun entry _ => ?_
    rw [Bool.and_eq_left_iff_imp]
    intro hname
    rw [decide_eq_true_eq] at hname ⊢
    intro own hown hsame
    exact List.filter_eq_nil_iff.mp hfree own hown (decide_eq_true (hsame.trans hname))
  · obtain ⟨own, hown⟩ := List.exists_mem_of_ne_nil _ hfree
    obtain ⟨hmem, hname⟩ := List.mem_filter.mp hown
    refine List.filter_eq_nil_iff.mpr fun entry _ hboth => ?_
    simp only [Bool.and_eq_true, decide_eq_true_eq] at hboth hname
    exact hboth.2 own hmem (hname.trans hboth.1.symm)

/-- A spec that has been merged leaves no room for any entry of the parent. -/
theorem kept_mergeParent : (spec.mergeParent parent).kept parent = [] := by
  rw [mergeParent_eq, kept, List.filter_eq_nil_iff]
  intro entry hentry hfree
  rw [decide_eq_true_eq] at hfree
  by_cases hroom : ∀ own ∈ spec.env, entryName own ≠ entryName entry
  · -- The entry was kept by the first merge, and now stands in its own way.
    have hkept : entry ∈ spec.kept parent := List.mem_filter.mpr ⟨hentry, decide_eq_true hroom⟩
    exact hfree entry (List.mem_append_left _ hkept) rfl
  · exact hroom fun own hown => hfree own (List.mem_append_right _ hown)

/-- For every name, the merged environment has the entries of the spec with it if there are any, and those of
the parent's variables with it otherwise, in the order that they have there. All entries of the parent come
first, nothing but the environment changes, and merging once more has no effect. -/
theorem mergeParent_by_name (spec : LaunchSpec) (parent : List OsString) :
    let merged := spec.mergeParent parent
    (merged.program = spec.program ∧ merged.args = spec.args ∧ merged.cwd = spec.cwd) ∧
      (∀ name, named name merged.env =
        if ∃ own ∈ spec.env, entryName own = name then named name spec.env
        else ((variablesOf parent).filter (·.name.shown = name)).map Variable.entry) ∧
      (∃ kept, kept.Sublist ((variablesOf parent).map Variable.entry) ∧ merged.env = kept ++ spec.env) ∧
      merged.mergeParent parent = merged := by
  intro merged
  have hmerged : merged = { spec with env := spec.kept parent ++ spec.env } := mergeParent_eq spec parent
  refine ⟨by rw [hmerged]; exact ⟨rfl, rfl, rfl⟩, fun name => ?_, ⟨spec.kept parent, ?_, by rw [hmerged]⟩, ?_⟩
  · have hsplit : named name merged.env = named name (spec.kept parent) ++ named name spec.env := by
      rw [hmerged]
      exact List.filter_append _ _
    have hfree : named name spec.env = [] ↔ ¬∃ own ∈ spec.env, entryName own = name := by
      simp [named, List.filter_eq_nil_iff]
    rw [hsplit, named_kept, ← named_inherited]
    by_cases hown : ∃ own ∈ spec.env, entryName own = name
    · rw [if_neg fun hnil => hfree.mp hnil hown, if_pos hown, List.nil_append]
    · rw [if_pos (hfree.mpr hown), if_neg hown, hfree.mpr hown, List.append_nil]
  · rw [← inherited_eq]
    exact List.filter_sublist
  · rw [mergeParent_eq merged, kept_mergeParent, List.nil_append]

/-- What a spec says about a name goes, a variable it does not name stays, and the leading equals sign of a
per-drive directory belongs to its name. -/
example :
    (LaunchSpec.mergeParent { program := .ofString "a", env := ["PATH=/x", "=C:=D:", "PATH"] }
      [.ofString "PATH=/bin", .ofString "=C:=C:", .ofString "HOME=/h"]).env =
        ["HOME=/h", "PATH=/x", "=C:=D:", "PATH"] := by
  decide +kernel

end LaunchSpec

end Offspring
