import Offspring.CommandLine

/-!
# Arguments survive a command line

A reader of a line holds back a run of backslashes until it sees what follows them, as the writer does.
The rules of the reader for a run are stated one by one: before a quote the run is halved, and an odd run
makes the quote literal; before anything else it is literal. The writer doubles exactly the runs that the
reader will halve, so reading what was written gives the arguments back, whatever they hold and whatever a
doubled quote means to the reader: a written line has none inside of a quoted part.
-/

namespace Offspring.CommandLine

section Reader

variable (doubled : DoubledQuote) (place : Place) (rest : List Char)

/-- A run of backslashes is held back. -/
theorem splitFrom_backslashes (pending n : Nat) :
    splitFrom doubled place pending (backslashes n ++ rest) = splitFrom doubled place (pending + n) rest := by
  induction n generalizing pending with
  | zero => rfl
  | succ n ih =>
    have hcons : backslashes (n + 1) ++ rest = '\\' :: (backslashes n ++ rest) := rfl
    have hheld : splitFrom doubled place pending ('\\' :: (backslashes n ++ rest)) =
        splitFrom doubled place (pending + 1) (backslashes n ++ rest) := by
      rw [splitFrom.eq_def]
      simp
    rw [hcons, hheld, ih, Nat.add_right_comm, Nat.add_assoc]

/-- An odd run before a quote is halved, and the quote is literal. -/
theorem splitFrom_literal_quote (n : Nat) :
    splitFrom doubled place 0 (backslashes (n * 2 + 1) ++ '"' :: rest) =
      splitFrom doubled (.inside place.isQuoted ('"' :: (backslashes n ++ place.read))) 0 rest := by
  have hhalf : (n * 2 + 1) / 2 = n := by omega
  have hodd : (n * 2 + 1) % 2 = 1 := by omega
  rw [splitFrom_backslashes, Nat.zero_add, splitFrom.eq_def]
  simp [hhalf, hodd]

/-- A quote begins a quoted part. -/
theorem splitFrom_opening_quote (hplace : place.isQuoted = false) :
    splitFrom doubled place 0 ('"' :: rest) = splitFrom doubled (.inside true place.read) 0 rest := by
  rw [splitFrom.eq_def]
  cases doubled <;> simp [hplace, backslashes]

/-- An even run before a quote is halved, and the quote ends a quoted part unless another one follows. -/
theorem splitFrom_closing_quote (read : List Char) (n : Nat) (hrest : rest.head? ≠ some '"') :
    splitFrom doubled (.inside true read) 0 (backslashes (n * 2) ++ '"' :: rest) =
      splitFrom doubled (.inside false (backslashes n ++ read)) 0 rest := by
  have hhalf : n * 2 / 2 = n := by omega
  rw [splitFrom_backslashes, Nat.zero_add, splitFrom.eq_def]
  cases doubled with
  | reopens => simp [Place.isQuoted, Place.read, hhalf]
  | literal =>
    cases rest with
    | nil => simp [Place.isQuoted, Place.read, hhalf]
    | cons c rest =>
      have hc : c ≠ '"' := by simpa using hrest
      simp [Place.isQuoted, Place.read, hhalf, hc]

/-- A run before an ordinary character is literal, and so is the character. -/
theorem splitFrom_char (pending : Nat) (c : Char) (hslash : c ≠ '\\') (hquote : c ≠ '"')
    (hblank : isSeparator c → place.isQuoted) :
    splitFrom doubled place pending (c :: rest) =
      splitFrom doubled (.inside place.isQuoted (c :: (backslashes pending ++ place.read))) 0 rest := by
  have hinside : ¬(isSeparator c ∧ place.isQuoted = false) := by simpa using hblank
  rw [splitFrom.eq_def]
  simp only [hslash, hquote, hinside, if_false]

end Reader

/-- What follows an argument in a line: nothing after the last one, or a blank and the others. -/
def following : List (List Char) → List Char
  | [] => []
  | arg :: args => ' ' :: writeArgs (arg :: args)

/-- The line of some arguments is the first one and what follows it. -/
theorem writeArgs_cons (arg : List Char) (args : List (List Char)) :
    writeArgs (arg :: args) = writeArg arg ++ following args := by
  cases args <;> simp [writeArgs, following]

/-- What follows an argument begins with no quote. -/
theorem head?_following (args : List (List Char)) : (following args).head? ≠ some '"' := by
  cases args <;> simp [following]

section Argument

variable (doubled : DoubledQuote) (args : List (List Char))

/-- An argument that has been begun ends where the others follow. -/
theorem splitFrom_following (place : Place) (pending : Nat) (hplace : place.isQuoted = false)
    (hbegun : place ≠ .between ∨ pending ≠ 0) :
    splitFrom doubled place pending (following args) =
      (backslashes pending ++ place.read).reverse :: splitFrom doubled .between 0 (writeArgs args) := by
  cases args with
  | nil =>
    rw [following, splitFrom.eq_def]
    cases place <;> cases pending <;> simp_all [writeArgs, splitFrom, Place.finished, Place.read, backslashes]
  | cons arg args =>
    rw [following, splitFrom.eq_def]
    cases place <;> cases pending <;> simp_all [isSeparator, Place.isQuoted]

/-- A character that forces no quotes is neither a quote nor a separator. -/
theorem ne_quote_of_plain {c : Char} (h : forcesQuotes c = false) : c ≠ '"' ∧ isSeparator c = false := by
  simp only [forcesQuotes, Bool.or_eq_false_iff, decide_eq_false_iff_not] at h
  simp [isSeparator, h]

/-- An argument without blanks and quotes is read as it stands, its last backslashes included. -/
theorem splitFrom_plain (arg : List Char) (place : Place) (pending : Nat) (hplace : place.isQuoted = false)
    (hbegun : arg ≠ [] ∨ place ≠ .between ∨ pending ≠ 0) (hplain : ∀ c ∈ arg, forcesQuotes c = false) :
    splitFrom doubled place pending (arg ++ following args) =
      ((backslashes pending ++ place.read).reverse ++ arg) ::
        splitFrom doubled .between 0 (writeArgs args) := by
  induction arg generalizing place pending with
  | nil => simpa using splitFrom_following doubled args place pending hplace (by simpa using hbegun)
  | cons c arg ih =>
    have hrest : ∀ c ∈ arg, forcesQuotes c = false := fun c hc => hplain c (List.mem_cons_of_mem _ hc)
    by_cases hslash : c = '\\'
    · subst hslash
      have hheld := splitFrom_backslashes doubled place (arg ++ following args) pending 1
      rw [List.cons_append]
      refine hheld.trans ?_
      rw [ih place (pending + 1) hplace (by simp) hrest]
      simp [backslashes, List.replicate_succ]
    · obtain ⟨hquote, hblank⟩ := ne_quote_of_plain (hplain c List.mem_cons_self)
      rw [List.cons_append, splitFrom_char doubled place _ pending c hslash hquote (by simp [hblank]), hplace,
        ih (.inside false _) 0 rfl (by simp) hrest]
      simp [backslashes, Place.read]

/-- The inside of a quoted argument is read back, and the quoted part ended. -/
theorem splitFrom_quotedRest (arg : List Char) (pending : Nat) (read rest : List Char)
    (hrest : rest.head? ≠ some '"') :
    splitFrom doubled (.inside true read) 0 (quotedRest pending arg ++ rest) =
      splitFrom doubled (.inside false (arg.reverse ++ (backslashes pending ++ read))) 0 rest := by
  induction arg generalizing pending read with
  | nil =>
    rw [quotedRest, List.append_assoc]
    exact splitFrom_closing_quote doubled rest read pending hrest
  | cons c arg ih =>
    by_cases hslash : c = '\\'
    · subst hslash
      rw [quotedRest, if_pos rfl, ih]
      simp [backslashes, List.replicate_succ]
    · by_cases hquote : c = '"'
      · subst hquote
        rw [quotedRest, if_neg (by decide), if_pos rfl, List.append_assoc, List.cons_append,
          splitFrom_literal_quote, Place.isQuoted, ih]
        simp [backslashes, Place.read]
      · rw [quotedRest, if_neg hslash, if_neg hquote, List.append_assoc, List.cons_append,
          splitFrom_backslashes, splitFrom_char doubled _ _ _ c hslash hquote (fun _ => rfl), Place.isQuoted, ih]
        simp [backslashes, Place.read]

/-- A written argument is read back, and reading goes on with the others. -/
theorem splitFrom_writeArg (arg : List Char) :
    splitFrom doubled .between 0 (writeArg arg ++ following args) =
      arg :: splitFrom doubled .between 0 (writeArgs args) := by
  by_cases hneeds : needsQuotes arg
  · rw [writeArg, if_pos hneeds, List.cons_append, splitFrom_opening_quote doubled _ _ rfl,
      splitFrom_quotedRest doubled arg 0 _ _ (head?_following args),
      splitFrom_following doubled args _ 0 rfl (by simp)]
    simp [backslashes, Place.read]
  · rw [writeArg, if_neg hneeds]
    obtain ⟨hnonempty, hplain⟩ : arg ≠ [] ∧ ∀ c ∈ arg, forcesQuotes c = false := by
      simpa [needsQuotes] using hneeds
    rw [splitFrom_plain doubled args arg .between 0 rfl (.inl hnonempty) hplain]
    simp [backslashes, Place.read]

end Argument

/-- The written arguments are read back. -/
theorem splitFrom_writeArgs (doubled : DoubledQuote) (args : List (List Char)) :
    splitFrom doubled .between 0 (writeArgs args) = args := by
  induction args with
  | nil => rfl
  | cons arg args ih => rw [writeArgs_cons, splitFrom_writeArg, ih]

/-- Reading the line of any arguments gives them back, whatever a doubled quote means to the reader; so
the lines of different arguments differ. -/
theorem split_join :
    (∀ doubled args, split doubled (join args) = args) ∧ Function.Injective join := by
  have hsplit : ∀ doubled args, split doubled (join args) = args := by
    intro doubled args
    rw [split, join, String.toList_ofList, splitFrom_writeArgs, List.map_map]
    simp [Function.comp_def]
  exact ⟨hsplit, Function.LeftInverse.injective (hsplit .literal)⟩

end Offspring.CommandLine
