import Offspring.Proofs.Environment.Block
import Offspring.Proofs.Environment.Merging

/-!
# Entries taken apart and put together

An entry is divided at the first equals sign behind its first character, so the two parts put together are the
entry again (`rejoin_divide`), and no name that comes out has an equals sign behind its first character. Names of
that form, and no others, come back out of the entries that are made with them.
-/

namespace Offspring.Environment

/-- What was divided: the name, and behind an equals sign the value, if there was one. -/
def rejoin (name : List Char) : Option (List Char) → List Char
  | none => name
  | some value => name ++ '=' :: value

/-- What comes before a cut has no equals sign. -/
theorem equals_not_mem_cut (text : List Char) : '=' ∉ (cut text).1 := by
  fun_induction cut text with
  | case1 => exact List.not_mem_nil
  | case2 => exact List.not_mem_nil
  | case3 c rest hc name value hcut ih =>
    rw [hcut] at ih
    simp only [List.mem_cons, not_or]
    exact ⟨Ne.symm hc, ih⟩

/-- The parts of a cut are the text. -/
theorem rejoin_cut (text : List Char) : rejoin (cut text).1 (cut text).2 = text := by
  fun_induction cut text with
  | case1 => rfl
  | case2 => rfl
  | case3 c rest _ name value hcut ih =>
    rw [hcut] at ih
    cases value <;> simpa [rejoin] using ih

/-- A name has no equals sign behind its first character. -/
theorem equals_not_mem_tail_divide (text : List Char) : '=' ∉ (divide text).1.tail := by
  fun_cases divide text with
  | case1 => exact List.not_mem_nil
  | case2 rest name value hcut =>
    have hname := equals_not_mem_cut rest
    rw [hcut] at hname
    exact hname
  | case3 c rest =>
    intro hequals
    exact equals_not_mem_cut (c :: rest) (List.mem_of_mem_tail hequals)

/-- The parts of an entry are the entry. -/
theorem rejoin_divide (text : List Char) : rejoin (divide text).1 (divide text).2 = text := by
  fun_cases divide text with
  | case1 => rfl
  | case2 rest name value hcut =>
    have hparts := rejoin_cut rest
    rw [hcut] at hparts
    cases value <;> simpa [rejoin] using hparts
  | case3 c rest => exact rejoin_cut (c :: rest)

/-- The parts of an entry, as texts. -/
theorem splitEntry_parts (entry : String) :
    (splitEntry entry).1.toList = (divide entry.toList).1 ∧
      (splitEntry entry).2.toList = (divide entry.toList).2.getD [] := by
  simp [splitEntry]

/-- An entry is its name, and behind an equals sign its value, unless there is no value. -/
theorem entry_eq_parts (entry : String) :
    entry = (splitEntry entry).1 ++ "=" ++ (splitEntry entry).2 ∨
      entry = (splitEntry entry).1 ∧ (splitEntry entry).2 = "" := by
  obtain ⟨hname, hvalue⟩ := splitEntry_parts entry
  have hparts := rejoin_divide entry.toList
  cases hdivide : (divide entry.toList).2 with
  | none =>
    right
    rw [hdivide] at hparts hvalue
    exact ⟨String.toList_inj.mp (hparts.symm.trans hname.symm), String.toList_eq_nil_iff.mp hvalue⟩
  | some value =>
    left
    rw [hdivide] at hparts hvalue
    apply String.toList_inj.mp
    simp only [String.toList_append, hname, hvalue, Option.getD_some]
    simpa [rejoin] using hparts.symm

/-- Taking entries apart and making them are inverse to each other.

Whatever an entry is, its name has no equals sign behind the first character, it is not empty unless the entry
is, and the parts are the entry, which has no value if there is nothing to divide it at. An entry that is added to
a spec gives back the name and the value that it was made with exactly if the name is of that form. -/
theorem splitEntry_inverts :
    (∀ entry name value : String, splitEntry entry = (name, value) →
      '=' ∉ name.toList.tail ∧ (entry = name ++ "=" ++ value ∨ entry = name ∧ value = "") ∧
        (name = "" → entry = "")) ∧
    ∀ (spec : LaunchSpec) (name value : String), ∃ entry,
      spec.addEnv name value = { spec with env := spec.env ++ [entry] } ∧
        (splitEntry entry = (name, value) ↔ name ≠ "" ∧ '=' ∉ name.toList.tail) := by
  have hapart : ∀ entry : String, '=' ∉ (splitEntry entry).1.toList.tail := by
    intro entry
    rw [(splitEntry_parts entry).1]
    exact equals_not_mem_tail_divide entry.toList
  constructor
  · intro entry name value hentry
    have hname := hapart entry
    have hparts := entry_eq_parts entry
    have hempty : (splitEntry entry).1 = "" → entry = "" :=
      (EnvironmentBlock.entryName_eq_empty_iff entry).mp
    rw [hentry] at hname hparts hempty
    exact ⟨hname, hparts, hempty⟩
  · intro spec name value
    refine ⟨entryOf name value, rfl, ?_, ?_⟩
    · intro hentry
      have hname := hapart (entryOf name value)
      rw [hentry] at hname
      refine ⟨fun hempty => ?_, hname⟩
      have hnothing : entryOf name value = "" :=
        (EnvironmentBlock.entryName_eq_empty_iff _).mp (by rw [entryName, hentry, hempty])
      simp [entryOf] at hnothing
    · rintro ⟨hname, hequals⟩
      cases hchars : name.toList with
      | nil => exact absurd (String.toList_eq_nil_iff.mp hchars) hname
      | cons c rest =>
        rw [hchars] at hequals
        exact splitEntry_entryOf hchars hequals value

/-- A leading equals sign belongs to the name, and so it does when the entry is made. -/
example :
    splitEntry "=C:=C:\\work" = ("=C:", "C:\\work") ∧ splitEntry (entryOf "" "v") = ("=v", "") := by
  decide +kernel

end Offspring.Environment
