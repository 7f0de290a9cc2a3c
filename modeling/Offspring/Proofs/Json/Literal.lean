import Offspring.Proofs.Json.Grammar
import Offspring.Proofs.Text.Utf16

/-!
# The spellings of a text

A text can be written in many ways: a character stands for itself or is escaped, by a letter or by its code units
in either case of the digits. `Spells` lists the ways, and `readText_literal` says that all are read as the text.
What is written is one of them (`literal_writeString`).
-/

namespace Offspring.Json

/-- What stands between the quotes, and the characters that it spells. A character beyond U+FFFF is escaped by its
two surrogates; a surrogate without its partner spells nothing. -/
inductive Spells : List Char → List Char → Prop
  | nil : Spells [] []
  | plain {c : Char} {body cs : List Char} : IsPlain c → Spells body cs → Spells (c :: body) (c :: cs)
  | short {e c : Char} {body cs : List Char} : (e, c) ∈ shortEscapes → Spells body cs →
      Spells ('\\' :: e :: body) (c :: cs)
  | code {c : Char} {digits body cs : List Char} : Code c.toNat digits → Spells body cs →
      Spells ('\\' :: 'u' :: (digits ++ body)) (c :: cs)
  | pair {c : Char} {high low body cs : List Char} : 0x10000 ≤ c.toNat →
      Code (0xD800 + (c.toNat - 0x10000) / 0x400) high → Code (0xDC00 + (c.toNat - 0x10000) % 0x400) low →
      Spells body cs → Spells ('\\' :: 'u' :: (high ++ '\\' :: 'u' :: (low ++ body))) (c :: cs)

/-- A string literal of a text. -/
def Literal (s : String) (text : List Char) : Prop :=
  ∃ body, Spells body s.toList ∧ text = '"' :: (body ++ ['"'])

/-- A spelling is the body of a string. -/
theorem Spells.body {body cs : List Char} (h : Spells body cs) : Body body := by
  induction h with
  | nil => exact .nil
  | plain hc _ ih => exact .plain hc ih
  | short he _ ih => exact .short he ih
  | code hcode _ ih => exact .code hcode ih
  | pair _ hhigh hlow _ ih => exact .code hhigh (.code hlow ih)

/-- A plain character is kept. -/
theorem stringBody_plain (fuel : Nat) (read : List Char) {c : Char} (h : IsPlain c) (rest : List Char) :
    stringBody (fuel + 1) read (c :: rest) = stringBody fuel (c :: read) rest := by
  obtain ⟨hquote, hslash, hcontrol⟩ := h
  rw [stringBody.eq_def]
  simp [hslash, Nat.not_lt.mpr hcontrol]

/-- A short escape is read as its character. -/
theorem stringBody_short (fuel : Nat) (read rest : List Char) : ∀ p ∈ shortEscapes,
    stringBody (fuel + 1) read ('\\' :: p.1 :: rest) = stringBody fuel (p.2 :: read) rest := by
  simp [shortEscapes, stringBody, letterEscape?]

/-- The code of a character is read as the character. -/
theorem unicodeEscape_code {c : Char} {digits : List Char} (h : Code c.toNat digits) (rest : List Char) :
    unicodeEscape (digits ++ rest) = .ok (c, rest) := by
  obtain ⟨hranges, -⟩ := Text.toNat_ranges c
  have hsecond : ¬(0xDC00 ≤ c.toNat ∧ c.toNat ≤ 0xDFFF) := by omega
  have hfirst : c.toNat < 0xD800 ∨ 0xDBFF < c.toNat := by omega
  simp only [unicodeEscape, hexEscape_code h, bind, Except.bind, if_neg hsecond, if_pos hfirst, Char.ofNat_toNat]

/-- A pair of surrogates is read as its character. -/
theorem unicodeEscape_pair {c : Char} {high low : List Char} (hc : 0x10000 ≤ c.toNat)
    (hhigh : Code (0xD800 + (c.toNat - 0x10000) / 0x400) high)
    (hlow : Code (0xDC00 + (c.toNat - 0x10000) % 0x400) low) (rest : List Char) :
    unicodeEscape (high ++ '\\' :: 'u' :: (low ++ rest)) = .ok (c, rest) := by
  obtain ⟨-, hbound⟩ := Text.toNat_ranges c
  have hsecond : ¬(0xDC00 ≤ 0xD800 + (c.toNat - 0x10000) / 0x400 ∧ 0xD800 + (c.toNat - 0x10000) / 0x400 ≤ 0xDFFF) := by
    omega
  have hfirst : ¬(0xD800 + (c.toNat - 0x10000) / 0x400 < 0xD800 ∨ 0xDBFF < 0xD800 + (c.toNat - 0x10000) / 0x400) := by
    omega
  have hpartner : ¬(0xDC00 + (c.toNat - 0x10000) % 0x400 < 0xDC00 ∨
      0xDFFF < 0xDC00 + (c.toNat - 0x10000) % 0x400) := by omega
  have hnumber : 0x10000 + (0xD800 + (c.toNat - 0x10000) / 0x400 - 0xD800) * 0x400 +
      (0xDC00 + (c.toNat - 0x10000) % 0x400 - 0xDC00) = c.toNat := by omega
  simp only [unicodeEscape, hexEscape_code hhigh, hexEscape_code hlow, bind, Except.bind, if_neg hsecond,
    if_neg hfirst, if_neg hpartner, hnumber, Char.ofNat_toNat]

/-- A spelling is read as the characters that it spells. -/
theorem stringBody_spells {body cs : List Char} (h : Spells body cs) (rest read : List Char) (fuel : Nat)
    (hfuel : body.length < fuel) :
    stringBody fuel read (body ++ '"' :: rest) = .ok (String.ofList (read.reverse ++ cs), rest) := by
  induction h generalizing read fuel with
  | nil =>
    obtain ⟨fuel, rfl⟩ := Nat.exists_eq_succ_of_ne_zero (Nat.ne_of_gt hfuel)
    simp [stringBody]
  | @plain c body cs hc _ ih =>
    obtain ⟨fuel, rfl⟩ := Nat.exists_eq_succ_of_ne_zero (Nat.ne_of_gt (Nat.zero_lt_of_lt hfuel))
    rw [List.length_cons] at hfuel
    rw [List.cons_append, stringBody_plain fuel read hc, ih (c :: read) fuel (by omega)]
    simp
  | @short e c body cs he _ ih =>
    obtain ⟨fuel, rfl⟩ := Nat.exists_eq_succ_of_ne_zero (Nat.ne_of_gt (Nat.zero_lt_of_lt hfuel))
    rw [List.length_cons, List.length_cons] at hfuel
    rw [List.cons_append, List.cons_append, stringBody_short fuel read _ _ he, ih (c :: read) fuel (by omega)]
    simp
  | @code c digits body cs hcode _ ih =>
    obtain ⟨fuel, rfl⟩ := Nat.exists_eq_succ_of_ne_zero (Nat.ne_of_gt (Nat.zero_lt_of_lt hfuel))
    simp only [List.length_cons, List.length_append] at hfuel
    simp only [List.cons_append, List.append_assoc, stringBody, unicodeEscape_code hcode, bind, Except.bind]
    rw [ih (c :: read) fuel (by omega)]
    simp
  | @pair c high low body cs hc hhigh hlow _ ih =>
    obtain ⟨fuel, rfl⟩ := Nat.exists_eq_succ_of_ne_zero (Nat.ne_of_gt (Nat.zero_lt_of_lt hfuel))
    simp only [List.length_cons, List.length_append] at hfuel
    simp only [List.cons_append, List.append_assoc, stringBody, unicodeEscape_pair hc hhigh hlow, bind, Except.bind]
    rw [ih (c :: read) fuel (by omega)]
    simp

/-- A spelling is read as the text. -/
theorem scanString_spells {body : List Char} {s : String} (h : Spells body s.toList) (rest : List Char) :
    scanString (body ++ '"' :: rest) = .ok (s, rest) := by
  rw [scanString, stringExtent_body h.body, stringBody_spells h rest [] _ (by omega)]
  simp

/-- A literal is read as its text, behind blanks. -/
theorem readText_literal {s : String} {text lead : List Char} (h : Literal s text) (hlead : Blank lead)
    (expected : String) (rest : List Char) : readText expected (lead ++ (text ++ rest)) = .ok (s, rest) := by
  obtain ⟨body, hspells, rfl⟩ := h
  rw [List.cons_append, List.append_assoc, readText, skipBlanks_append hlead rfl]
  exact scanString_spells hspells rest

/-- What is written for a character spells it. -/
theorem Spells.escapeChar (c : Char) {body cs : List Char} (h : Spells body cs) :
    Spells (Json.escapeChar c ++ body) (c :: cs) := by
  have hlow : ∀ n < 0x20, Code n ['0', '0', Nat.digitChar (n / 16), Nat.digitChar (n % 16)] := by
    intro n hn
    have hcode : Code (((0 * 16 + 0) * 16 + n / 16) * 16 + n % 16) _ :=
      .digits ⟨by omega, .inl rfl⟩ ⟨by omega, .inl rfl⟩ ⟨by omega, .inl rfl⟩ ⟨by omega, .inl rfl⟩
    rwa [show ((0 * 16 + 0) * 16 + n / 16) * 16 + n % 16 = n by omega] at hcode
  unfold Json.escapeChar
  split_ifs with hquote hslash hb hf hn hr ht hcontrol
  iterate 7
    apply Spells.short _ h
    subst_vars
    decide
  · exact .code (hlow c.toNat hcontrol) h
  · exact .plain ⟨hquote, hslash, Nat.not_lt.mp hcontrol⟩ h

/-- What is written for a text is one of its literals. -/
theorem literal_writeString (s : String) : Literal s (writeString s) := by
  have hspells : ∀ cs : List Char, Spells (cs.flatMap Json.escapeChar) cs := by
    intro cs
    induction cs with
    | nil => exact .nil
    | cons c cs ih => exact ih.escapeChar c
  exact ⟨_, hspells s.toList, rfl⟩

end Offspring.Json
