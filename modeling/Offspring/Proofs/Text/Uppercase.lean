import Offspring.Text.Uppercase

/-!
# Uppercased texts and their order

Every character has an uppercase of at least one character, so only the empty text has an empty uppercase.
The order by code points is a total one.
-/

namespace Offspring.Text

/-- No character is lost in uppercase. -/
theorem uppercaseChar_ne_nil (c : Char) : uppercaseChar c ≠ [] := by
  have htable : ∀ entry ∈ caseExpansions, entry.2 ≠ [] := by decide
  unfold uppercaseChar
  split
  · rename_i first longer hfind
    simpa using htable _ (Array.mem_of_find?_eq_some hfind)
  · split <;> simp

/-- Only the empty text has an empty uppercase. -/
theorem uppercase_eq_nil_iff (s : List Char) : uppercase s = [] ↔ s = [] := by
  cases s with
  | nil => simp [uppercase]
  | cons c s => simp [uppercase, uppercaseChar_ne_nil]

/-- The order by code points is transitive. -/
theorem codePointLe_trans (a b c : List Char) (hab : codePointLe a b) (hbc : codePointLe b c) :
    codePointLe a c := by
  fun_induction codePointLe a b generalizing c with
  | case1 => simp [codePointLe]
  | case2 => simp at hab
  | case3 x r y s ih =>
    cases c with
    | nil => simp [codePointLe] at hbc
    | cons z t =>
      simp only [codePointLe, Bool.or_eq_true, Bool.and_eq_true, decide_eq_true_eq] at hab hbc ⊢
      rcases hab with hlt | ⟨heq, hrest⟩
      · left; omega
      · rcases hbc with hlt | ⟨heq', hrest'⟩
        · left; omega
        · exact .inr ⟨heq.trans heq', ih t hrest hrest'⟩

/-- The order by code points is total. -/
theorem codePointLe_total (a b : List Char) : codePointLe a b || codePointLe b a := by
  fun_induction codePointLe a b with
  | case1 => simp
  | case2 => simp [codePointLe]
  | case3 x r y s ih =>
    simp only [codePointLe, Bool.or_eq_true, Bool.and_eq_true, decide_eq_true_eq] at ih ⊢
    rcases Nat.lt_trichotomy x.toNat y.toNat with hlt | heq | hgt
    · simp [hlt]
    · simp [heq, ih]
    · simp [hgt]

/-- A text comes at or before itself. -/
theorem codePointLe_refl (a : List Char) : codePointLe a a := by
  simpa using codePointLe_total a a

/-- Two texts that come at or before each other are one. -/
theorem codePointLe_antisymm (a b : List Char) (hab : codePointLe a b) (hba : codePointLe b a) : a = b := by
  fun_induction codePointLe a b with
  | case1 b =>
    cases b with
    | nil => rfl
    | cons => simp [codePointLe] at hba
  | case2 => simp at hab
  | case3 x r y s ih =>
    simp only [codePointLe, Bool.or_eq_true, Bool.and_eq_true, decide_eq_true_eq] at hab hba
    have hnumber : x.toNat = y.toNat := by omega
    rw [Char.toNat_inj.mp hnumber, ih (hab.resolve_left (by omega)).2 (hba.resolve_left (by omega)).2]

/-- Nothing but the empty text comes at or before the empty text. -/
theorem codePointLe_nil_iff (a : List Char) : codePointLe a [] ↔ a = [] := by
  cases a <;> simp [codePointLe]

end Offspring.Text
