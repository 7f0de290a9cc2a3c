import Offspring.EnvironmentBlock
import Offspring.Proofs.Text.Uppercase
import Offspring.Proofs.Text.Utf16

/-!
# A block read back

A block is sorted stably by the uppercased names of its entries, and its reader stops at the first empty
entry. Without an empty entry in the environment the reader finds exactly the sorted entries and uses the
block up to its last unit. An empty entry has the least key of all, so it comes first, looks like the end
of the block and hides the whole environment.
-/

namespace Offspring

namespace EnvironmentBlock

/-- One list is the stable sort of another one by the uppercased names. -/
structure StablySorts (listing env : List String) : Prop where
  perm : listing.Perm env
  ordered : listing.Pairwise fun a b => Text.codePointLe (sortKey a) (sortKey b)
  /-- Entries with one key stand in the order that they had. -/
  stable : ∀ key, (listing.filter fun entry => sortKey entry = key) =
    env.filter fun entry => sortKey entry = key

/-- What a reader gets from the block of an environment. -/
structure ReadsBack (env : List String) (block : List UInt16) : Prop where
  ends : ∃ before, block = before ++ [0, 0]
  /-- Without an empty entry all entries are found, and only an empty environment leaves a unit over. -/
  full : "" ∉ env →
    readBlock block = some ((sorted env).map String.toList, if env = [] then [0] else [])
  /-- An empty entry hides the whole environment. -/
  hidden : "" ∈ env → ∃ rest, readBlock block = some ([], rest)

section Sorting

/-- The order in which keyed entries are sorted. -/
def keyedLe (a b : List Char × String) : Bool :=
  Text.codePointLe a.1 b.1

/-- An entry with its key. -/
def keyed (entry : String) : List Char × String :=
  (sortKey entry, entry)

/-- The order of keyed entries is transitive. -/
theorem keyedLe_trans (a b c : List Char × String) (hab : keyedLe a b) (hbc : keyedLe b c) : keyedLe a c :=
  Text.codePointLe_trans a.1 b.1 c.1 hab hbc

/-- The order of keyed entries is total. -/
theorem keyedLe_total (a b : List Char × String) : keyedLe a b || keyedLe b a :=
  Text.codePointLe_total a.1 b.1

/-- Sorted entries carry their own keys. -/
theorem map_keyed_sorted (env : List String) :
    (sorted env).map keyed = (env.map keyed).mergeSort keyedLe := by
  have hown : ∀ pair ∈ (env.map keyed).mergeSort keyedLe, keyed pair.2 = pair := by
    intro pair hpair
    obtain ⟨entry, -, rfl⟩ := List.mem_map.mp ((List.mergeSort_perm _ _).mem_iff.mp hpair)
    rfl
  change (((env.map keyed).mergeSort keyedLe).map (·.2)).map keyed = _
  rw [List.map_map]
  exact (List.map_congr_left hown).trans (List.map_id _)

/-- Sorting keeps the entries, each as often as it occurs. -/
theorem sorted_perm (env : List String) : (sorted env).Perm env := by
  have hperm := ((List.mergeSort_perm (env.map keyed) keyedLe).map Prod.snd)
  rw [List.map_map] at hperm
  exact hperm.trans (by simp [Function.comp_def, keyed])

/-- Sorted entries stand in the order of their keys. -/
theorem sorted_pairwise (env : List String) :
    (sorted env).Pairwise fun a b => Text.codePointLe (sortKey a) (sortKey b) := by
  have hsorted := List.pairwise_mergeSort keyedLe_trans keyedLe_total (env.map keyed)
  rw [← map_keyed_sorted, List.pairwise_map] at hsorted
  simpa only [keyedLe, keyed] using hsorted

/-- Entries with one key keep their order. -/
theorem filter_sorted (env : List String) (key : List Char) :
    ((sorted env).filter fun entry => sortKey entry = key) =
      env.filter fun entry => sortKey entry = key := by
  have htied : ((env.filter fun entry => sortKey entry = key).map keyed).Pairwise fun a b => keyedLe a b := by
    rw [List.pairwise_map]
    refine List.pairwise_of_forall_mem_list fun a ha b hb => ?_
    have hkeys : sortKey a = sortKey b := by
      simp only [List.mem_filter, decide_eq_true_eq] at ha hb
      rw [ha.2, hb.2]
    simp [keyedLe, keyed, hkeys, Text.codePointLe_refl]
  -- The entries with the key are in order already, so sorting leaves them as a sublist.
  have hsub : (env.filter fun entry => sortKey entry = key).Sublist (sorted env) := by
    have hkeyed := List.sublist_mergeSort keyedLe_trans keyedLe_total htied (List.filter_sublist.map keyed)
    rw [← map_keyed_sorted] at hkeyed
    simpa [Function.comp_def, keyed] using hkeyed.map Prod.snd
  have hfiltered := hsub.filter fun entry => sortKey entry = key
  rw [List.filter_filter, List.filter_congr fun entry _ => Bool.and_self _] at hfiltered
  exact (hfiltered.eq_of_length ((sorted_perm env).filter _).length_eq.symm).symm

/-- The first of some ordered entries has the least key. -/
theorem head_le_of_mem {first entry : String} {rest : List String}
    (hordered : (first :: rest).Pairwise fun a b => Text.codePointLe (sortKey a) (sortKey b))
    (hentry : entry ∈ first :: rest) : Text.codePointLe (sortKey first) (sortKey entry) := by
  rcases List.mem_cons.mp hentry with rfl | hrest
  · exact Text.codePointLe_refl _
  · exact List.rel_of_pairwise_cons hordered hrest

/-- Two stable sorts of one list are equal. -/
theorem StablySorts.unique {listing other env : List String} (hlisting : StablySorts listing env)
    (hother : StablySorts other env) : listing = other := by
  have hperm : listing.Perm other := hlisting.perm.trans hother.perm.symm
  have htied : ∀ key, (listing.filter fun entry => sortKey entry = key) =
      other.filter fun entry => sortKey entry = key := fun key =>
    (hlisting.stable key).trans (hother.stable key).symm
  have hordered := hlisting.ordered
  have hordered' := hother.ordered
  clear hlisting hother
  induction listing generalizing other with
  | nil => exact hperm.nil_eq
  | cons first rest ih =>
    cases other with
    | nil => exact absurd hperm.symm.nil_eq (by simp)
    | cons first' rest' =>
      -- Both heads have the least key, and the first entry with it is the same in both lists.
      have hkey : sortKey first = sortKey first' :=
        Text.codePointLe_antisymm _ _
          (head_le_of_mem hordered (hperm.mem_iff.mpr List.mem_cons_self))
          (head_le_of_mem hordered' (hperm.mem_iff.mp List.mem_cons_self))
      have hheads := htied (sortKey first)
      simp only [hkey, decide_true, List.filter_cons_of_pos, List.cons.injEq] at hheads
      obtain ⟨rfl, -⟩ := hheads
      refine congrArg (first :: ·) (ih hperm.cons_inv (fun key => ?_) hordered.tail hordered'.tail)
      have hrests := htied key
      simp only [List.filter_cons] at hrests
      split at hrests
      · exact (List.cons.inj hrests).2
      · exact hrests

/-- The order of a block is the stable sort of the environment, and there is no other. -/
theorem stablySorts_iff (listing env : List String) : StablySorts listing env ↔ listing = sorted env := by
  have hsorted : StablySorts (sorted env) env := ⟨sorted_perm env, sorted_pairwise env, filter_sorted env⟩
  constructor
  · intro hlisting
    exact hlisting.unique hsorted
  · rintro rfl
    exact hsorted

end Sorting

section Names

/-- Every entry but the empty one has a name. -/
theorem entryName_eq_empty_iff (entry : String) : Environment.entryName entry = "" ↔ entry = "" := by
  have hdivide : ∀ c rest, (Environment.divide (c :: rest)).1 ≠ [] := by
    intro c rest
    rw [Environment.divide]
    split
    · simp
    · rename_i hc
      simp [Environment.cut, hc]
  rw [Environment.entryName, Environment.splitEntry, ← String.toList_eq_nil_iff, ← String.toList_eq_nil_iff,
    String.toList_ofList]
  cases hentry : entry.toList with
  | nil => simp [Environment.divide]
  | cons c rest => simp [hdivide]

/-- Only the empty entry has an empty key. -/
theorem sortKey_eq_nil_iff (entry : String) : sortKey entry = [] ↔ entry = "" := by
  rw [sortKey, Text.uppercase_eq_nil_iff, String.toList_eq_nil_iff, entryName_eq_empty_iff]

/-- An empty entry comes first. -/
theorem sorted_of_empty_mem {env : List String} (h : "" ∈ env) : ∃ rest, sorted env = "" :: rest := by
  have hmem : "" ∈ sorted env := (sorted_perm env).mem_iff.mpr h
  have hordered := sorted_pairwise env
  cases hsorted : sorted env with
  | nil => simp [hsorted] at hmem
  | cons first rest =>
    rw [hsorted] at hmem hordered
    have hle := head_le_of_mem hordered hmem
    rw [(sortKey_eq_nil_iff "").mpr rfl, Text.codePointLe_nil_iff, sortKey_eq_nil_iff] at hle
    exact ⟨rest, by rw [hle]⟩

end Names

section Reading

/-- The first entry is what stands before the first zero. -/
theorem firstEntry_append {entry : List UInt16} (hentry : 0 ∉ entry) (rest : List UInt16) :
    firstEntry (entry ++ 0 :: rest) = (entry, some rest) := by
  induction entry with
  | nil => rfl
  | cons u entry ih =>
    rw [List.mem_cons, not_or] at hentry
    rw [List.cons_append, firstEntry, if_neg (Ne.symm hentry.1), ih hentry.2]

/-- Written entries that are not empty are read back up to the zero that follows them. -/
theorem readFrom_entries {entries : List String} (hfull : ∀ entry ∈ entries, entry ≠ "")
    (hclean : ∀ entry ∈ entries, '\x00' ∉ entry.toList) (rest : List UInt16) {fuel : Nat}
    (hfuel : entries.length < fuel) :
    readFrom fuel (entries.flatMap entryUnits ++ 0 :: rest) = some (entries.map String.toList, rest) := by
  induction entries generalizing fuel with
  | nil =>
    obtain ⟨fuel, rfl⟩ := Nat.exists_eq_add_one.mpr hfuel
    rfl
  | cons entry entries ih =>
    obtain ⟨fuel, rfl⟩ := Nat.exists_eq_add_one.mpr (Nat.zero_lt_of_lt hfuel)
    rw [List.forall_mem_cons] at hfull hclean
    have hunits : ((entry :: entries).flatMap entryUnits ++ 0 :: rest) =
        Text.utf16 entry ++ 0 :: (entries.flatMap entryUnits ++ 0 :: rest) := by
      simp [entryUnits]
    rw [readFrom, hunits, firstEntry_append (Text.zero_not_mem_utf16 hclean.1)]
    cases hentry : Text.utf16 entry with
    | nil => exact absurd (Text.utf16_eq_nil hentry) hfull.1
    | cons u us =>
      have hdecoded := Text.decodeUtf16_utf16 entry
      rw [hentry] at hdecoded
      simp [hdecoded, ih hfull.2 hclean.2 (Nat.lt_of_succ_lt_succ hfuel)]

/-- There are at least as many units as entries. -/
theorem length_le_flatMap_entryUnits (entries : List String) :
    entries.length ≤ (entries.flatMap entryUnits).length := by
  induction entries with
  | nil => simp
  | cons entry entries ih =>
    rw [List.flatMap_cons, List.length_append, List.length_cons, entryUnits, List.length_append,
      List.length_singleton]
    omega

/-- A reader finds the entries before the first empty one and stops behind the zero that ends them. -/
theorem readBlock_entries {entries : List String} (hfull : ∀ entry ∈ entries, entry ≠ "")
    (hclean : ∀ entry ∈ entries, '\x00' ∉ entry.toList) (rest : List UInt16) :
    readBlock (entries.flatMap entryUnits ++ 0 :: rest) = some (entries.map String.toList, rest) := by
  have hlength := length_le_flatMap_entryUnits entries
  apply readFrom_entries hfull hclean rest
  rw [List.length_append]
  omega

/-- A reader finds nothing where a zero comes first. -/
theorem readBlock_zero (rest : List UInt16) : readBlock (0 :: rest) = some ([], rest) := rfl

end Reading

end EnvironmentBlock

open EnvironmentBlock

/-- An environment with a NUL character has no block. -/
theorem environmentBlock_of_nul {env : List String} {entry : String} (hentry : entry ∈ env)
    (hnul : '\x00' ∈ entry.toList) :
    environmentBlock env = .error (.invalidArgument "environment entry contains a NUL character") := by
  have hsome : env.any fun entry => entry.toList.contains '\x00' :=
    List.any_eq_true.mpr ⟨entry, hentry, by simpa using hnul⟩
  rw [environmentBlock, if_pos hsome]

/-- The block of an empty environment is two zeros. -/
theorem environmentBlock_nil : environmentBlock [] = .ok [0, 0] := by
  simp [environmentBlock, sorted]

/-- The block of any other environment without NUL holds its sorted entries and one more zero. -/
theorem environmentBlock_of_clean {env : List String} (hclean : ∀ entry ∈ env, '\x00' ∉ entry.toList)
    (hne : env ≠ []) : environmentBlock env = .ok ((sorted env).flatMap entryUnits ++ [0]) := by
  have hnone : ¬(env.any fun entry => entry.toList.contains '\x00') := by
    simpa using hclean
  have hunits : ¬((sorted env).flatMap entryUnits).isEmpty := by
    have hlength := length_le_flatMap_entryUnits (sorted env)
    rw [(sorted_perm env).length_eq] at hlength
    rw [List.isEmpty_iff_length_eq_zero]
    have hpos := List.length_pos_iff.mpr hne
    omega
  rw [environmentBlock, if_neg hnone]
  dsimp only
  rw [if_neg hunits]

/-- Entries end with the zero of the last one. -/
theorem flatMap_entryUnits_ends {entries : List String} (hne : entries ≠ []) :
    ∃ before, entries.flatMap entryUnits = before ++ [0] := by
  refine ⟨entries.dropLast.flatMap entryUnits ++ Text.utf16 (entries.getLast hne), ?_⟩
  calc entries.flatMap entryUnits
      = (entries.dropLast ++ [entries.getLast hne]).flatMap entryUnits := by
        rw [List.dropLast_concat_getLast hne]
    _ = entries.dropLast.flatMap entryUnits ++ Text.utf16 (entries.getLast hne) ++ [0] := by
        simp [entryUnits]

/-- The block of an empty environment is read back. -/
theorem readsBack_nil : ReadsBack [] [0, 0] where
  ends := ⟨[], rfl⟩
  full _ := by simpa [sorted] using readBlock_zero [0]
  hidden h := absurd h (by simp)

/-- The block of an environment without NUL is read back. -/
theorem readsBack_of_clean {env : List String} (hclean : ∀ entry ∈ env, '\x00' ∉ entry.toList)
    (hne : env ≠ []) : ReadsBack env ((sorted env).flatMap entryUnits ++ [0]) where
  ends := by
    have hsorted : sorted env ≠ [] := fun hnil => hne (List.nil_perm.mp (hnil ▸ sorted_perm env))
    obtain ⟨before, hbefore⟩ := flatMap_entryUnits_ends hsorted
    exact ⟨before, by rw [hbefore, List.append_assoc, List.singleton_append]⟩
  full hfull := by
    have hmem : ∀ {entry}, entry ∈ sorted env ↔ entry ∈ env := (sorted_perm env).mem_iff
    rw [if_neg hne]
    apply readBlock_entries
    · intro entry hentry hempty
      exact hfull (hempty ▸ hmem.mp hentry)
    · intro entry hentry
      exact hclean entry (hmem.mp hentry)
  hidden hempty := by
    obtain ⟨rest, hrest⟩ := sorted_of_empty_mem hempty
    -- The units of the empty entry are the zero that a reader stops at.
    rw [hrest, List.flatMap_cons, List.append_assoc]
    exact ⟨_, readBlock_zero _⟩

/-- An environment without NUL has a block, and that block is read back. -/
theorem environmentBlock_accepted {env : List String} (hclean : ∀ entry ∈ env, '\x00' ∉ entry.toList) :
    ∃ block, environmentBlock env = .ok block ∧ ReadsBack env block := by
  by_cases hne : env = []
  · subst hne
    exact ⟨_, environmentBlock_nil, readsBack_nil⟩
  · exact ⟨_, environmentBlock_of_clean hclean hne, readsBack_of_clean hclean hne⟩

/-- An environment is refused exactly for a NUL character. Any other one has a block that is read back
as its one stable sort by uppercased names. -/
theorem environmentBlock_read_back (env : List String) :
    (environmentBlock env = .error (.invalidArgument "environment entry contains a NUL character") ↔
      ∃ entry ∈ env, '\x00' ∈ entry.toList) ∧
    ((∀ entry ∈ env, '\x00' ∉ entry.toList) → ∃ block, environmentBlock env = .ok block ∧
      ReadsBack env block) ∧
    (∀ listing, StablySorts listing env ↔ listing = sorted env) := by
  refine ⟨⟨fun herror => ?_, fun ⟨entry, hentry, hnul⟩ => environmentBlock_of_nul hentry hnul⟩,
    environmentBlock_accepted, fun listing => stablySorts_iff listing env⟩
  by_cases hnone : ∃ entry ∈ env, '\x00' ∈ entry.toList
  · exact hnone
  · obtain ⟨block, hblock, -⟩ := environmentBlock_accepted fun entry hentry hnul =>
      hnone ⟨entry, hentry, hnul⟩
    rw [hblock] at herror
    cases herror

end Offspring
