import Offspring.Proofs.CommandLine.RoundTrip

/-!
# The name of the program on a command line

The first token of a line is read by a rule of its own: quotes are dropped wherever they stand, and backslashes
are never doubled. The writer knows of no such rule. A name without quotes is read up to its end, and the tokens
behind it are read back; but if the name stands between quotes, its last backslashes were doubled for a reader who
halves them, and this one does not. A name with a quote cannot be read at all. `splitProgram_join_iff` puts both
together: these are the only names that are lost.
-/

namespace Offspring.CommandLine

/-- How many backslashes end a text in front of which there are so many. -/
def lastBackslashes : Nat → List Char → Nat
  | pending, [] => pending
  | pending, c :: rest => if c = '\\' then lastBackslashes (pending + 1) rest else lastBackslashes 0 rest

/-- A text ends in a backslash, or is empty behind some, if it is ended by any. -/
theorem lastBackslashes_eq_zero_iff (pending : Nat) (cs : List Char) :
    lastBackslashes pending cs = 0 ↔ (cs = [] → pending = 0) ∧ cs.getLast? ≠ some '\\' := by
  induction cs generalizing pending with
  | nil => simp [lastBackslashes]
  | cons c rest ih =>
    rw [lastBackslashes, List.getLast?_cons]
    by_cases hslash : c = '\\'
    · rw [if_pos hslash, ih]
      cases rest with
      | nil => simp [hslash]
      | cons d rest => simp [List.getLast?_cons]
    · rw [if_neg hslash, ih]
      cases rest with
      | nil => simp [hslash]
      | cons d rest => simp [List.getLast?_cons]

/-- Without a quote inside, only the last backslashes of a quoted argument are doubled. -/
theorem quotedRest_of_unquoted {arg : List Char} (hquote : '"' ∉ arg) (pending : Nat) :
    quotedRest pending arg =
      backslashes pending ++ (arg ++ (backslashes (lastBackslashes pending arg) ++ ['"'])) := by
  induction arg generalizing pending with
  | nil =>
    have hdouble : backslashes (pending * 2) = backslashes pending ++ backslashes pending := by
      rw [backslashes, backslashes, List.replicate_append_replicate, Nat.mul_two]
    rw [quotedRest, hdouble, lastBackslashes, List.nil_append, List.append_assoc]
  | cons c arg ih =>
    rw [List.mem_cons, not_or] at hquote
    rw [quotedRest, lastBackslashes]
    by_cases hslash : c = '\\'
    · rw [if_pos hslash, if_pos hslash, ih hquote.2, hslash, backslashes, List.replicate_succ']
      simp [backslashes]
    · rw [if_neg hslash, if_neg (Ne.symm hquote.1), if_neg hslash, ih hquote.2]
      simp [backslashes]

section Reader

/-- No quote is read as a part of the name. -/
theorem quote_not_mem_programToken (quoted : Bool) (cs : List Char) : '"' ∉ (programToken quoted cs).1 := by
  fun_induction programToken quoted cs with
  | case1 => exact List.not_mem_nil
  | case2 quoted rest ih => exact ih
  | case3 => exact List.not_mem_nil
  | case4 quoted c rest hquote hblank token left hread ih =>
    rw [hread] at ih
    exact List.not_mem_cons_of_ne_of_not_mem (Ne.symm hquote) ih

/-- Characters that neither toggle quotes nor end the name are read as they stand. -/
theorem programToken_append (quoted : Bool) {cs : List Char} (hquote : '"' ∉ cs)
    (hblank : ∀ c ∈ cs, isSeparator c → quoted = true) (rest : List Char) :
    programToken quoted (cs ++ rest) = (cs ++ (programToken quoted rest).1, (programToken quoted rest).2) := by
  induction cs with
  | nil => rfl
  | cons c cs ih =>
    rw [List.mem_cons, not_or] at hquote
    rw [List.forall_mem_cons] at hblank
    have hends : ¬(isSeparator c ∧ quoted = false) := fun ⟨hc, hquoted⟩ => by
      rw [hblank.1 hc] at hquoted
      cases hquoted
    rw [List.cons_append, programToken, if_neg (Ne.symm hquote.1), if_neg hends, ih hquote.2 hblank.2]
    rfl

/-- A quote toggles quoting and is dropped. -/
theorem programToken_quote (quoted : Bool) (rest : List Char) :
    programToken quoted ('"' :: rest) = programToken (!quoted) rest := by
  rw [programToken, if_pos rfl]

/-- The name ends where the other arguments follow. -/
theorem programToken_following (args : List (List Char)) :
    programToken false (following args) = ([], writeArgs args) := by
  cases args with
  | nil => rfl
  | cons arg args => rfl

end Reader

/-- How many backslashes a writer adds at the end of an argument that it puts between quotes. -/
def addedBackslashes (arg : List Char) : Nat :=
  if needsQuotes arg then lastBackslashes 0 arg else 0

/-- A name without quotes is read with the backslashes that were added at its end, and the other arguments stand
behind it. -/
theorem programToken_writeArgs {program : List Char} (hquote : '"' ∉ program) (args : List (List Char)) :
    programToken false (writeArgs (program :: args)) =
      (program ++ backslashes (addedBackslashes program), writeArgs args) := by
  rw [writeArgs_cons, writeArg, addedBackslashes]
  by_cases hneeds : needsQuotes program
  · have hslashes : '"' ∉ backslashes (lastBackslashes 0 program) := by simp [backslashes]
    rw [if_pos hneeds, if_pos hneeds, List.cons_append, programToken_quote, quotedRest_of_unquoted hquote,
      List.append_assoc, List.append_assoc, List.append_assoc, backslashes, List.replicate_zero, List.nil_append,
      Bool.not_false, programToken_append true hquote fun _ _ _ => rfl,
      programToken_append true hslashes fun _ _ _ => rfl, List.singleton_append, programToken_quote,
      Bool.not_true, programToken_following, List.append_nil]
  · have hplain : ∀ c ∈ program, isSeparator c → false = true := by
      have hall : program ≠ [] ∧ ∀ c ∈ program, forcesQuotes c = false := by simpa [needsQuotes] using hneeds
      intro c hc hblank
      rw [(ne_quote_of_plain (hall.2 c hc)).2] at hblank
      exact hblank
    rw [if_neg hneeds, if_neg hneeds, programToken_append false hquote hplain, programToken_following]
    simp [backslashes]

/-- No backslashes are added at the end of a name that has none there, or that needs no quotes. -/
theorem addedBackslashes_eq_zero_iff {arg : List Char} (hquote : '"' ∉ arg) :
    addedBackslashes arg = 0 ↔
      ¬((∃ c ∈ arg, c = ' ' ∨ c = '\t' ∨ c = '\n' ∨ c = '\x0b') ∧ arg.getLast? = some '\\') := by
  have hneeds : needsQuotes arg = true ↔
      arg = [] ∨ ∃ c ∈ arg, c = ' ' ∨ c = '\t' ∨ c = '\n' ∨ c = '\x0b' := by
    have hforces : ∀ c ∈ arg,
        (forcesQuotes c = true ↔ c = ' ' ∨ c = '\t' ∨ c = '\n' ∨ c = '\x0b') := by
      intro c hc
      have hplain : c ≠ '"' := fun h => hquote (h ▸ hc)
      simp [forcesQuotes, hplain, or_assoc]
    rw [needsQuotes, Bool.or_eq_true, List.isEmpty_iff, List.any_eq_true]
    exact or_congr_right (exists_congr fun c => and_congr_right fun hc => hforces c hc)
  rw [addedBackslashes]
  split
  · rename_i hquoted
    rw [lastBackslashes_eq_zero_iff]
    rcases hneeds.mp hquoted with rfl | hblank
    · simp
    · simp [hblank]
  · rename_i hplain
    rw [hneeds, not_or] at hplain
    simp [hplain.2]

/-- A line is read back, with the rule for the program's name for its first token, exactly if the name has no
quote, and does not end in a backslash when it has a blank that puts it between quotes. -/
theorem splitProgram_join_iff (doubled : DoubledQuote) (program : String) (args : List String) :
    splitProgram doubled (join (program :: args)) = program :: args ↔
      '"' ∉ program.toList ∧
        ¬((∃ c ∈ program.toList, c = ' ' ∨ c = '\t' ∨ c = '\n' ∨ c = '\x0b') ∧
          program.toList.getLast? = some '\\') := by
  by_cases hquote : '"' ∈ program.toList
  · refine iff_of_false (fun h => ?_) fun h => h.1 hquote
    -- The token that is read has no quote.
    have hfirst := congrArg String.toList (List.cons.inj h).1
    rw [String.toList_ofList] at hfirst
    exact quote_not_mem_programToken _ _ (hfirst ▸ hquote)
  · have hread : splitProgram doubled (join (program :: args)) =
        String.ofList (program.toList ++ backslashes (addedBackslashes program.toList)) :: args := by
      rw [splitProgram, join, String.toList_ofList, List.map_cons, programToken_writeArgs hquote]
      simp [splitFrom_writeArgs, Function.comp_def]
    rw [hread, ← addedBackslashes_eq_zero_iff hquote, List.cons.injEq, and_iff_left rfl, and_iff_right hquote,
      ← String.toList_inj, String.toList_ofList, List.append_right_eq_self, backslashes,
      List.replicate_eq_nil_iff]

/-- A directory with a blank and a backslash at its end is read with one backslash more. -/
example : splitProgram .literal (join ["C:\\my dir\\", "a b\\"]) = ["C:\\my dir\\\\", "a b\\"] := by
  decide +kernel

end Offspring.CommandLine
