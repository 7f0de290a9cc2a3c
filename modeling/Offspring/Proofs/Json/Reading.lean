import Mathlib.Tactic.SplitIfs
import Offspring.Json.Reader
import Offspring.Json.Value

/-!
# What is written is read back

Blanks may stand in front of every token. `scanString_escaped` says that a written string is read back
whatever characters it has, and `readList_texts` the same of a list of strings. For a record
`Record.readMembers_member` reads one member off the front of an object; the members may come in any order.
-/

namespace Offspring.Json

/-- Nothing but blanks. -/
def Blank (gap : List Char) : Prop :=
  ∀ c ∈ gap, isBlank c

theorem blank_nil : Blank [] := nofun

/-- A new line at any level is blank. -/
theorem blank_newLine (level : Nat) : Blank (newLine level) := by
  intro c hc
  rcases List.mem_cons.mp hc with rfl | hspace
  · rfl
  · rw [List.eq_of_mem_replicate hspace]
    rfl

/-- Blanks are passed up to a character that is none. -/
theorem skipBlanks_append {gap rest : List Char} {c : Char} (hgap : Blank gap) (hc : isBlank c = false) :
    skipBlanks (gap ++ c :: rest) = c :: rest := by
  rw [skipBlanks, List.dropWhile_append_of_pos hgap, List.dropWhile_cons_of_neg (by simp [hc])]

/-! ### Strings -/

/-- The two digits of a control character's code are read back. -/
theorem hexValue?_digitChar : ∀ n < 16, hexValue? (Nat.digitChar n) = some n := by
  decide

/-- The code of a control character is read back. -/
theorem hexEscape_control {c : Char} (hc : c.toNat < 0x20) (rest : List Char) :
    hexEscape ('0' :: '0' :: Nat.digitChar (c.toNat / 16) :: Nat.digitChar (c.toNat % 16) :: rest) =
      .ok (c.toNat, rest) := by
  have hhigh := hexValue?_digitChar (c.toNat / 16) (by omega)
  have hlow := hexValue?_digitChar (c.toNat % 16) (by omega)
  have hzero : hexValue? '0' = some 0 := rfl
  have hcode : ((0 * 16 + 0) * 16 + c.toNat / 16) * 16 + c.toNat % 16 = c.toNat := by omega
  simp only [hexEscape, hzero, hhigh, hlow, hcode]

/-- A written character is read back: it takes one turn of the reader. -/
theorem stringBody_escapeChar (fuel : Nat) (read : List Char) (c : Char) (rest : List Char) :
    stringBody (fuel + 1) read (escapeChar c ++ rest) = stringBody fuel (c :: read) rest := by
  unfold escapeChar
  split_ifs with hquote hslash hb hf hn hr ht hcontrol
  · subst hquote; rfl
  · subst hslash; rfl
  · subst hb; rfl
  · subst hf; rfl
  · subst hn; rfl
  · subst hr; rfl
  · subst ht; rfl
  · have hescape : unicodeEscape ('0' :: '0' :: Nat.digitChar (c.toNat / 16) ::
        Nat.digitChar (c.toNat % 16) :: rest) = .ok (c, rest) := by
      have hno : ¬(0xDC00 ≤ c.toNat ∧ c.toNat ≤ 0xDFFF) := by omega
      have hlow : c.toNat < 0xD800 ∨ 0xDBFF < c.toNat := by omega
      simp only [unicodeEscape, hexEscape_control hcontrol, bind, Except.bind, hno, hlow, if_true, if_false,
        Char.ofNat_toNat]
    simp only [List.cons_append, List.nil_append, stringBody, hescape]
    rfl
  · simp only [List.cons_append, List.nil_append]
    rw [stringBody.eq_def]
    simp [hslash, hcontrol]

/-- No digit of a code ends a string or begins an escape. -/
theorem digitChar_plain : ∀ n < 16, Nat.digitChar n ≠ '"' ∧ Nat.digitChar n ≠ '\\' := by
  decide

/-- Each written character counts with its length. -/
theorem stringExtent_escapeChar (count : Nat) (c : Char) (rest : List Char) :
    stringExtent count (escapeChar c ++ rest) = stringExtent (count + (escapeChar c).length) rest := by
  unfold escapeChar
  split_ifs with hquote hslash hb hf hn hr ht hcontrol
  iterate 7 rfl
  · have hhigh := digitChar_plain (c.toNat / 16) (by omega)
    have hlow := digitChar_plain (c.toNat % 16) (by omega)
    simp [stringExtent, hhigh, hlow]
  · simp [stringExtent, hslash]

/-- A written string is not longer than the reader expects. -/
theorem lt_stringExtent (s : List Char) (count : Nat) (rest : List Char) :
    count + s.length < stringExtent count (s.flatMap escapeChar ++ '"' :: rest) := by
  induction s generalizing count with
  | nil => exact Nat.lt_succ_self count
  | cons c s ih =>
    have hrest := ih (count + (escapeChar c).length)
    have hsome : 0 < (escapeChar c).length := by
      unfold escapeChar
      split_ifs <;> simp
    rw [List.flatMap_cons, List.append_assoc, stringExtent_escapeChar, List.length_cons]
    omega

/-- A written string is read back, and what follows its closing quote is left. -/
theorem scanString_escaped (s : String) (rest : List Char) :
    scanString (s.toList.flatMap escapeChar ++ '"' :: rest) = .ok (s, rest) := by
  have hbody : ∀ (cs read : List Char) (fuel : Nat), cs.length < fuel →
      stringBody fuel read (cs.flatMap escapeChar ++ '"' :: rest) =
        .ok (String.ofList (read.reverse ++ cs), rest) := by
    intro cs
    induction cs with
    | nil =>
      intro read fuel hfuel
      obtain ⟨fuel, rfl⟩ := Nat.exists_eq_succ_of_ne_zero (Nat.ne_of_gt hfuel)
      simp [stringBody]
    | cons c cs ih =>
      intro read fuel hfuel
      obtain ⟨fuel, rfl⟩ := Nat.exists_eq_succ_of_ne_zero (Nat.ne_of_gt (Nat.zero_lt_of_lt hfuel))
      rw [List.flatMap_cons, List.append_assoc, stringBody_escapeChar,
        ih (c :: read) fuel (Nat.lt_of_succ_lt_succ hfuel)]
      simp
  have hfuel := lt_stringExtent s.toList 1 rest
  rw [scanString, hbody s.toList [] _ (by omega)]
  simp

/-- A written string begins with its opening quote. -/
theorem writeString_append (s : String) (rest : List Char) :
    writeString s ++ rest = '"' :: (s.toList.flatMap escapeChar ++ '"' :: rest) := by
  simp [writeString]

/-- A written string is read as a text, behind blanks. -/
theorem readText_writeString {gap : List Char} (hgap : Blank gap) (expected s : String) (rest : List Char) :
    readText expected (gap ++ (writeString s ++ rest)) = .ok (s, rest) := by
  rw [readText, writeString_append, skipBlanks_append hgap rfl]
  exact scanString_escaped s rest

/-! ### Lists -/

section Items

variable {gap lead : List Char} (hgap : Blank gap)
include hgap

/-- The first string of a list follows the list's opening. -/
theorem nextItem_first (s : String) (rest : List Char) :
    nextItem true (gap ++ (writeString s ++ rest)) = .ok (true, writeString s ++ rest) := by
  rw [writeString_append, nextItem, skipBlanks_append hgap rfl]
  rfl

/-- Every other string follows a comma. -/
theorem nextItem_more (hlead : Blank lead) (s : String) (rest : List Char) :
    nextItem false (gap ++ ',' :: (lead ++ (writeString s ++ rest))) = .ok (true, writeString s ++ rest) := by
  have hquote : isBlank '"' = false := rfl
  rw [writeString_append, nextItem, skipBlanks_append hgap rfl]
  simp [skipBlanks_append hlead hquote]

/-- Behind the last item the list ends. -/
theorem nextItem_end (atFirst : Bool) (rest : List Char) :
    nextItem atFirst (gap ++ ']' :: rest) = .ok (false, ']' :: rest) := by
  rw [nextItem, skipBlanks_append hgap rfl]
  rfl

end Items

/-- One item is read, and the others behind it. -/
theorem readItems_item {α : Type} {read : Scan α} {atFirst : Bool} {text item rest end' : List Char} {x : α}
    {xs : List α} {fuel : Nat} (hnext : nextItem atFirst text = .ok (true, item))
    (hread : read item = .ok (x, rest)) (hrest : readItems read fuel false rest = .ok (xs, end')) :
    readItems read (fuel + 1) atFirst text = .ok (x :: xs, end') := by
  simp only [readItems, hnext, hread, hrest, bind, Except.bind, if_true]

/-- The pieces of a list or an object, with commas between them. -/
def commas (pieces : List (List Char)) : List Char :=
  [','].intercalate pieces

/-- The first piece has no comma in front, every other piece has one. -/
theorem commas_cons (piece : List Char) (pieces : List (List Char)) :
    commas (piece :: pieces) = piece ++ pieces.flatMap (',' :: ·) := by
  induction pieces generalizing piece with
  | nil => simp [commas]
  | cons next pieces ih =>
    rw [commas, List.intercalate_cons_cons, ← commas, ih]
    simp

/-- There are no more pieces than characters, if no piece is empty. -/
theorem length_le_commas {pieces : List (List Char)} (hsome : ∀ piece ∈ pieces, piece ≠ []) :
    pieces.length ≤ (commas pieces).length := by
  induction pieces with
  | nil => exact Nat.le_refl 0
  | cons piece pieces ih =>
    obtain ⟨hpiece, hpieces⟩ := List.forall_mem_cons.mp hsome
    have hless := ih hpieces
    have hpos : 1 ≤ piece.length := List.length_pos_iff.mpr hpiece
    cases pieces with
    | nil => simpa [commas] using hpos
    | cons next pieces =>
      rw [commas, List.intercalate_cons_cons, ← commas, List.length_append, List.length_append, List.length_cons]
      omega

/-- On one line the items are written without blanks. -/
theorem writeItems_eq : ∀ items : List Value, writeItems items = commas (items.map Value.write)
  | [] => rfl
  | [v] => by simp [writeItems, commas]
  | v :: v' :: items => by
    rw [writeItems, writeItems_eq (v' :: items)]
    · simp [commas, List.intercalate_cons_cons]
    · simp

/-- Over several lines each item has its own. -/
theorem layOutItems_eq (level : Nat) : ∀ items : List Value,
    layOutItems level items = commas (items.map fun v => newLine level ++ v.layOut level)
  | [] => rfl
  | [v] => by simp [layOutItems, commas]
  | v :: v' :: items => by
    rw [layOutItems, layOutItems_eq level (v' :: items)]
    · simp [commas, List.intercalate_cons_cons]
    · simp

section Texts

variable {lead close : List Char} (hlead : Blank lead) (hclose : Blank close) (expected : String)
include hlead hclose

/-- The strings behind the first one are read back, up to the list's end. -/
theorem readItems_more (texts : List String) (rest : List Char) (fuel : Nat) (hfuel : texts.length < fuel) :
    readItems (readText expected) fuel false
        ((texts.map (lead ++ writeString ·)).flatMap (',' :: ·) ++ (close ++ ']' :: rest)) =
      .ok (texts, ']' :: rest) := by
  induction texts generalizing fuel with
  | nil =>
    obtain ⟨fuel, rfl⟩ := Nat.exists_eq_succ_of_ne_zero (Nat.ne_of_gt hfuel)
    simp only [List.map_nil, List.flatMap_nil, List.nil_append, readItems, nextItem_end hclose]
    rfl
  | cons s texts ih =>
    obtain ⟨fuel, rfl⟩ := Nat.exists_eq_succ_of_ne_zero (Nat.ne_of_gt (Nat.zero_lt_of_lt hfuel))
    simp only [List.map_cons, List.flatMap_cons, List.cons_append, List.append_assoc]
    exact readItems_item (nextItem_more blank_nil hlead s _) (readText_writeString blank_nil expected s _)
      (ih fuel (Nat.lt_of_succ_lt_succ hfuel))

/-- A list of strings is read back. -/
theorem readList_texts {gap : List Char} (hgap : Blank gap) (texts : List String) (rest : List Char) :
    readList (readText expected)
        (gap ++ ('[' :: (commas (texts.map (lead ++ writeString ·)) ++ (close ++ ']' :: rest)))) =
      .ok (texts, rest) := by
  have hitems : ∀ fuel, texts.length < fuel → readItems (readText expected) fuel true
      (commas (texts.map (lead ++ writeString ·)) ++ (close ++ ']' :: rest)) = .ok (texts, ']' :: rest) := by
    intro fuel hfuel
    obtain ⟨fuel, rfl⟩ := Nat.exists_eq_succ_of_ne_zero (Nat.ne_of_gt (Nat.zero_lt_of_lt hfuel))
    cases texts with
    | nil =>
      simp only [List.map_nil, commas, List.intercalate_nil, List.nil_append, readItems, nextItem_end hclose]
      rfl
    | cons s texts =>
      simp only [List.map_cons, commas_cons, List.append_assoc]
      exact readItems_item (nextItem_first hlead s _) (readText_writeString blank_nil expected s _)
        (readItems_more hlead hclose expected texts rest fuel (Nat.lt_of_succ_lt_succ hfuel))
  have hfuel : texts.length <
      (commas (texts.map (lead ++ writeString ·)) ++ (close ++ ']' :: rest)).length + 1 := by
    have hsome : ∀ piece ∈ texts.map (lead ++ writeString ·), piece ≠ [] := by simp [writeString]
    have hless := length_le_commas hsome
    rw [List.length_map] at hless
    rw [List.length_append]
    omega
  have hend : endItems (']' :: rest) = .ok rest := rfl
  rw [readList, skipBlanks_append hgap rfl]
  simp only [hitems _ hfuel, bind, Except.bind, hend]

end Texts

/-- A list of strings on one line is read back. -/
theorem readList_write (expected : String) (texts : List String) (rest : List Char) :
    readList (readText expected) ((Value.list (texts.map .string)).write ++ rest) = .ok (texts, rest) := by
  have hread := readList_texts blank_nil blank_nil expected blank_nil texts rest
  simpa [Value.write, writeItems_eq, Function.comp_def] using hread

/-- A list of strings over several lines is read back, behind blanks. -/
theorem readList_layOut {gap : List Char} (hgap : Blank gap) (level : Nat) (expected : String)
    (texts : List String) (rest : List Char) :
    readList (readText expected) (gap ++ ((Value.list (texts.map .string)).layOut level ++ rest)) =
      .ok (texts, rest) := by
  cases texts with
  | nil => exact readList_texts (blank_newLine level) blank_nil expected hgap [] rest
  | cons s texts =>
    have hread := readList_texts (blank_newLine (level + 1)) (blank_newLine level) expected hgap (s :: texts) rest
    simpa [Value.layOut, layOutItems_eq, Function.comp_def] using hread

/-! ### Objects -/

/-- On one line the members are written without blanks. -/
theorem writeMembers_eq : ∀ members : List (String × Value),
    writeMembers members = commas (members.map fun member => writeString member.1 ++ ':' :: member.2.write)
  | [] => rfl
  | [(name, v)] => by simp [writeMembers, commas]
  | (name, v) :: member :: members => by
    rw [writeMembers, writeMembers_eq (member :: members)]
    · simp [commas, List.intercalate_cons_cons]
    · simp

/-- Over several lines each member has its own, and a blank after the colon. -/
theorem layOutMembers_eq (level : Nat) : ∀ members : List (String × Value),
    layOutMembers level members = commas (members.map fun member =>
      newLine level ++ writeString member.1 ++ ':' :: ' ' :: member.2.layOut level)
  | [] => rfl
  | [(name, v)] => by simp [layOutMembers, commas]
  | (name, v) :: member :: members => by
    rw [layOutMembers, layOutMembers_eq level (member :: members)]
    · simp [commas, List.intercalate_cons_cons]
    · simp

section Members

variable {gap : List Char} (hgap : Blank gap) (name : String) (rest : List Char)
include hgap

/-- The first member follows the object's opening. -/
theorem nextMember_first :
    nextMember true (gap ++ (writeString name ++ rest)) =
      .ok (true, name.toList.flatMap escapeChar ++ '"' :: rest) := by
  rw [writeString_append, nextMember, skipBlanks_append hgap rfl]
  rfl

/-- Every other member follows a comma. -/
theorem nextMember_more :
    nextMember false (',' :: (gap ++ (writeString name ++ rest))) =
      .ok (true, name.toList.flatMap escapeChar ++ '"' :: rest) := by
  have hquote : isBlank '"' = false := rfl
  have hcomma : ∀ text, skipBlanks (',' :: text) = ',' :: text := fun _ => rfl
  rw [nextMember, hcomma, writeString_append]
  simp [skipBlanks_append hgap hquote]

/-- Behind the last member the object ends. -/
theorem nextMember_end (atFirst : Bool) :
    nextMember atFirst (gap ++ '\x7d' :: rest) = .ok (false, '\x7d' :: rest) := by
  rw [nextMember, skipBlanks_append hgap rfl]
  rfl

end Members

/-- One member of an object fills its field, which must not have been filled before. -/
theorem Record.readMembers_member {σ : Type} (r : Record σ) {atFirst : Bool} {seen : List String}
    {filled filled' : σ} {text value rest : List Char} {name : String} {field : Field σ} (fuel : Nat)
    (hnext : nextMember atFirst text = .ok (true, name.toList.flatMap escapeChar ++ '"' :: ':' :: value))
    (hfield : r.fields.find? (·.name = name) = some field) (hseen : name ∉ seen)
    (hread : field.read filled value = .ok (filled', rest)) :
    r.readMembers (fuel + 1) atFirst seen filled text =
      r.readMembers fuel false (name :: seen) filled' rest := by
  have hcolon : passColon (':' :: value) = .ok value := rfl
  simp [Record.readMembers, hnext, scanString_escaped, hfield, hseen, hcolon, hread, bind, Except.bind]

end Offspring.Json
