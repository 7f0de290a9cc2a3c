import Offspring.Proofs.Environment.Block

/-!
# Which environments share a block

The block of an environment forgets the order of entries with different uppercased names, and nothing else. Two
environments have one stable sort exactly if for every name they have the same entries with it in the same order
(`sorted_eq_iff`), which is so exactly if one becomes the other by exchanges of neighbours with different names
(`reordered_iff`). A block without an empty entry can be read back, so a shared block is a shared sort.
-/

namespace Offspring

namespace EnvironmentBlock

/-- An environment whose block can be read back: no entry is empty, and none has a NUL character. -/
def Readable (env : List String) : Prop :=
  ∀ entry ∈ env, entry ≠ "" ∧ '\x00' ∉ entry.toList

instance Readable.decidable (env : List String) : Decidable (Readable env) :=
  inferInstanceAs (Decidable (∀ entry ∈ env, entry ≠ "" ∧ '\x00' ∉ entry.toList))

/-- Two environments have the same entries with each uppercased name, in the same order. -/
def SameByName (env other : List String) : Prop :=
  ∀ key, (env.filter fun entry => sortKey entry = key) = other.filter fun entry => sortKey entry = key

/-- One environment becomes another one by exchanges of neighbours with different uppercased names. -/
inductive Reordered : List String → List String → Prop
  | nil : Reordered [] []
  | cons (entry : String) {env other : List String} (h : Reordered env other) :
      Reordered (entry :: env) (entry :: other)
  | swap {a b : String} (hnames : sortKey a ≠ sortKey b) (rest : List String) :
      Reordered (a :: b :: rest) (b :: a :: rest)
  | trans {env middle other : List String} (h : Reordered env middle) (h' : Reordered middle other) :
      Reordered env other

section Reordering

variable {env other : List String}

theorem Reordered.refl (env : List String) : Reordered env env := by
  induction env with
  | nil => exact .nil
  | cons entry env ih => exact ih.cons entry

/-- Entries with one name stay in order when neighbours with different names are exchanged. -/
theorem Reordered.sameByName (h : Reordered env other) : SameByName env other := by
  intro key
  induction h with
  | nil => rfl
  | cons entry h ih => rw [List.filter_cons, List.filter_cons, ih]
  | @swap a b hnames rest =>
    by_cases ha : sortKey a = key
    · have hb : sortKey b ≠ key := fun hb => hnames (ha.trans hb.symm)
      simp [ha, hb]
    · simp [List.filter_cons, ha]
  | trans h h' ih ih' => exact ih.trans ih'

/-- An entry can be moved behind others that have different names. -/
theorem Reordered.move {entry : String} {passed : List String} (rest : List String)
    (hpassed : ∀ other ∈ passed, sortKey entry ≠ sortKey other) :
    Reordered (entry :: (passed ++ rest)) (passed ++ entry :: rest) := by
  induction passed with
  | nil => exact .refl _
  | cons first passed ih =>
    rw [List.forall_mem_cons] at hpassed
    exact (Reordered.swap hpassed.1 _).trans ((ih hpassed.2).cons first)

/-- The entries with the name of a first entry begin with it, so the other environment has it behind entries with
different names only. -/
theorem SameByName.split {entry : String} (h : SameByName (entry :: env) other) :
    ∃ passed rest, other = passed ++ entry :: rest ∧ (∀ a ∈ passed, sortKey entry ≠ sortKey a) ∧
      SameByName env (passed ++ rest) := by
  have hfirst := h (sortKey entry)
  rw [List.filter_cons_of_pos (by simp)] at hfirst
  obtain ⟨passed, rest, rfl, hpassed, -, -⟩ := List.filter_eq_cons_iff.mp hfirst.symm
  have hnames : ∀ a ∈ passed, sortKey entry ≠ sortKey a := fun a ha hsame =>
    hpassed a ha (decide_eq_true hsame.symm)
  refine ⟨passed, rest, rfl, hnames, fun key => ?_⟩
  have hkey := (h key).trans ((Reordered.move rest hnames).sameByName key).symm
  rw [List.filter_cons, List.filter_cons] at hkey
  split at hkey
  · exact (List.cons.inj hkey).2
  · exact hkey

/-- Exchanges of neighbours with different names reach every environment that has the same entries with each
name. -/
theorem reordered_iff (env other : List String) : Reordered env other ↔ SameByName env other := by
  refine ⟨Reordered.sameByName, fun h => ?_⟩
  induction env generalizing other with
  | nil =>
    cases other with
    | nil => exact .nil
    | cons entry other => simpa using h (sortKey entry)
  | cons entry env ih =>
    obtain ⟨passed, rest, rfl, hnames, hrest⟩ := h.split
    exact ((ih _ hrest).cons entry).trans (.move rest hnames)

/-- Reordering keeps the entries, each as often as it occurs. -/
theorem Reordered.perm (h : Reordered env other) : env.Perm other := by
  induction h with
  | nil => exact .nil
  | cons entry h ih => exact ih.cons entry
  | swap hnames rest => exact .swap _ _ rest
  | trans h h' ih ih' => exact ih.trans ih'

/-- Entries with different names can stand in any order. -/
theorem Reordered.of_perm (hnames : env.Pairwise fun a b => sortKey a ≠ sortKey b) (hperm : env.Perm other) :
    Reordered env other := by
  induction hperm with
  | nil => exact .nil
  | cons entry _ ih => exact (ih hnames.of_cons).cons entry
  | swap a b rest => exact .swap (List.rel_of_pairwise_cons hnames List.mem_cons_self) rest
  | trans h _ ih ih' => exact (ih hnames).trans (ih' (h.pairwise hnames fun hne => hne.symm))

/-- Environments are sorted alike exactly if they have the same entries with each name, in the same order. -/
theorem sorted_eq_iff (env other : List String) : sorted env = sorted other ↔ SameByName env other := by
  constructor
  · intro h key
    rw [← filter_sorted env, h, filter_sorted]
  · intro h
    have hperm : env.Perm other := ((reordered_iff env other).mpr h).perm
    exact (stablySorts_iff (sorted env) other).mp
      ⟨(sorted_perm env).trans hperm, sorted_pairwise env, fun key => (filter_sorted env key).trans (h key)⟩

end Reordering

/-- An environment that can be read back has a block, in which its reader finds the sorted entries. -/
theorem Readable.block {env : List String} (h : Readable env) :
    ∃ block rest, environmentBlock env = .ok block ∧
      readBlock block = some ((sorted env).map String.toList, rest) := by
  obtain ⟨block, hblock, hreads⟩ := environmentBlock_accepted fun entry hentry => (h entry hentry).2
  exact ⟨block, _, hblock, hreads.full fun hempty => (h "" hempty).1 rfl⟩

/-- The block depends on the sort alone. -/
theorem environmentBlock_congr {env other : List String} (h : sorted env = sorted other) :
    environmentBlock env = environmentBlock other := by
  have hperm : env.Perm other := (sorted_perm env).symm.trans (h ▸ sorted_perm other)
  have hany : (env.any fun entry => entry.toList.contains '\x00') =
      other.any fun entry => entry.toList.contains '\x00' := hperm.any_eq
  rw [environmentBlock, environmentBlock, hany, h]

end EnvironmentBlock

open EnvironmentBlock

/-- Environments that can be read back have one block exactly if they have the same entries with each uppercased
name, in the same order; that is, if they differ by exchanges of neighbours with different names. So entries with
different names can stand in any order, those with one name keep theirs in the block, and environments that
differ in any entry have different blocks. -/
theorem environmentBlock_eq_iff (env other : List String) (henv : Readable env) (hother : Readable other) :
    (environmentBlock env = environmentBlock other ↔
      ∀ key, (env.filter fun entry => sortKey entry = key) = other.filter fun entry => sortKey entry = key) ∧
    (environmentBlock env = environmentBlock other ↔ Reordered env other) ∧
    ((env.Pairwise fun a b => sortKey a ≠ sortKey b) → env.Perm other →
      environmentBlock env = environmentBlock other) ∧
    (∃ (block : List UInt16) (listing : List String) (rest : List UInt16),
      environmentBlock env = .ok block ∧
      readBlock block = some (listing.map String.toList, rest) ∧
      ∀ key, (listing.filter fun entry => sortKey entry = key) = env.filter fun entry => sortKey entry = key) ∧
    ((∃ entry, env.count entry ≠ other.count entry) → environmentBlock env ≠ environmentBlock other) := by
  obtain ⟨block, rest, hblock, hread⟩ := henv.block
  obtain ⟨block', rest', hblock', hread'⟩ := hother.block
  have hsame : environmentBlock env = environmentBlock other ↔ SameByName env other := by
    rw [← sorted_eq_iff]
    refine ⟨fun h => ?_, environmentBlock_congr⟩
    rw [hblock, hblock', Except.ok.injEq] at h
    rw [h, hread', Option.some.injEq, Prod.mk.injEq] at hread
    exact (List.map_inj_right fun _ _ => String.toList_inj.mp).mp hread.1.symm
  have hreordered := hsame.trans (reordered_iff env other).symm
  refine ⟨hsame, hreordered, fun hnames hperm => hreordered.mpr (.of_perm hnames hperm),
    ⟨block, sorted env, rest, hblock, hread, filter_sorted env⟩, ?_⟩
  rintro ⟨entry, hcount⟩ h
  exact hcount ((hreordered.mp h).perm.count_eq entry)

/-- An entry moves past one with another name, and not past one whose name differs in case only. -/
theorem environmentBlock_eq_across_names :
    let env := ["Path=1", "A=2", "PATH=3"]
    (Readable env ∧ Readable ["A=2", "Path=1", "PATH=3"] ∧ Readable ["PATH=3", "A=2", "Path=1"]) ∧
      environmentBlock env = environmentBlock ["A=2", "Path=1", "PATH=3"] ∧
      environmentBlock env ≠ environmentBlock ["PATH=3", "A=2", "Path=1"] := by
  intro env
  have henv : Readable env := by decide
  have hmoved : Readable ["A=2", "Path=1", "PATH=3"] := by decide
  have hswapped : Readable ["PATH=3", "A=2", "Path=1"] := by decide
  refine ⟨⟨henv, hmoved, hswapped⟩, ?_, fun h => ?_⟩
  · exact (environmentBlock_eq_iff env _ henv hmoved).2.1.mpr (.swap (by decide +kernel) _)
  · have hnames := (environmentBlock_eq_iff env _ henv hswapped).1.mp h "PATH".toList
    revert hnames
    decide +kernel

end Offspring
