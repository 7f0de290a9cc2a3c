import Mathlib.Data.List.DropRight
import Offspring.Proofs.Json.Reading

/-!
# The grammar of values

`Phrase` is the grammar of the format: a value of any shape, the items of a list and the members of an object,
with blanks around every token and lists and objects in one another to any depth. `skipValue_phrase` says that
every value is passed over as a whole and nothing behind it is.
-/

namespace Offspring.Json

/-! ### Strings -/

/-- A hexadecimal digit, in either case, and its value. -/
def HexDigit (c : Char) (n : Nat) : Prop :=
  n < 16 ∧ (c = n.digitChar ∨ c = n.digitChar.toUpper)

/-- Four hexadecimal digits and the number they make. -/
inductive Code : Nat → List Char → Prop
  | digits {a b c d : Char} {i j k l : Nat} : HexDigit a i → HexDigit b j → HexDigit c k → HexDigit d l →
      Code (((i * 16 + j) * 16 + k) * 16 + l) [a, b, c, d]

/-- The letters of the short escapes, each with its character. -/
def shortEscapes : List (Char × Char) :=
  [('"', '"'), ('\\', '\\'), ('/', '/'), ('b', '\x08'), ('f', '\x0c'), ('n', '\n'), ('r', '\r'), ('t', '\t')]

/-- A character that stands for itself in a string. -/
def IsPlain (c : Char) : Prop :=
  c ≠ '"' ∧ c ≠ '\\' ∧ 0x20 ≤ c.toNat

/-- What may stand between the quotes of a string. -/
inductive Body : List Char → Prop
  | nil : Body []
  | plain {c : Char} {body : List Char} : IsPlain c → Body body → Body (c :: body)
  | short {e c : Char} {body : List Char} : (e, c) ∈ shortEscapes → Body body → Body ('\\' :: e :: body)
  | code {n : Nat} {digits body : List Char} : Code n digits → Body body →
      Body ('\\' :: 'u' :: (digits ++ body))

/-- The large digits of a code are read back, like the small ones. -/
theorem hexValue?_toUpper : ∀ n < 16, hexValue? n.digitChar.toUpper = some n := by
  decide

/-- A digit of either case has its value. -/
theorem hexValue?_of_hexDigit {c : Char} {n : Nat} (h : HexDigit c n) : hexValue? c = some n := by
  obtain ⟨hn, rfl | rfl⟩ := h
  · exact hexValue?_digitChar n hn
  · exact hexValue?_toUpper n hn

/-- No digit of either case ends a string or begins an escape. -/
theorem HexDigit.plain {c : Char} {n : Nat} (h : HexDigit c n) : c ≠ '"' ∧ c ≠ '\\' := by
  have hupper : ∀ n < 16, n.digitChar.toUpper ≠ '"' ∧ n.digitChar.toUpper ≠ '\\' := by decide
  obtain ⟨hn, rfl | rfl⟩ := h
  · exact digitChar_plain n hn
  · exact hupper n hn

/-- Four digits are read. -/
theorem hexEscape_code {n : Nat} {digits : List Char} (h : Code n digits) (rest : List Char) :
    hexEscape (digits ++ rest) = .ok (n, rest) := by
  cases h with
  | digits ha hb hc hd =>
    simp only [List.cons_append, List.nil_append, hexEscape, hexValue?_of_hexDigit ha, hexValue?_of_hexDigit hb,
      hexValue?_of_hexDigit hc, hexValue?_of_hexDigit hd]

/-- A character that is neither a quote nor a backslash counts once. -/
theorem stringExtent_plain (count : Nat) {c : Char} (rest : List Char) (h : c ≠ '"' ∧ c ≠ '\\') :
    stringExtent count (c :: rest) = stringExtent (count + 1) rest := by
  rw [stringExtent.eq_def]
  simp [h]

/-- The extent of a string is what stands between its quotes, with the closing one. -/
theorem stringExtent_body {body : List Char} (h : Body body) (count : Nat) (rest : List Char) :
    stringExtent count (body ++ '"' :: rest) = count + body.length + 1 := by
  induction h generalizing count with
  | nil => rfl
  | plain hc _ ih =>
    rw [List.cons_append, stringExtent_plain count _ ⟨hc.1, hc.2.1⟩, ih, List.length_cons]
    omega
  | short _ _ ih =>
    rw [List.cons_append, List.cons_append, stringExtent, ih, List.length_cons, List.length_cons]
    omega
  | code hcode _ ih =>
    cases hcode with
    | digits ha hb hc hd =>
      simp only [List.cons_append, List.nil_append, stringExtent, stringExtent_plain _ _ ha.plain,
        stringExtent_plain _ _ hb.plain, stringExtent_plain _ _ hc.plain, stringExtent_plain _ _ hd.plain, ih,
        List.length_cons]
      omega

/-- A plain character is passed over. -/
theorem skipStringBody_plain (fuel : Nat) {c : Char} (h : IsPlain c) (rest : List Char) :
    skipStringBody (fuel + 1) (c :: rest) = skipStringBody fuel rest := by
  obtain ⟨hquote, hslash, hcontrol⟩ := h
  rw [skipStringBody.eq_def]
  simp [hslash, Nat.not_lt.mpr hcontrol]

/-- A short escape is passed over. -/
theorem skipStringBody_short (fuel : Nat) (rest : List Char) : ∀ p ∈ shortEscapes,
    skipStringBody (fuel + 1) ('\\' :: p.1 :: rest) = skipStringBody fuel rest := by
  simp [shortEscapes, skipStringBody, letterEscape?]

/-- A string is passed over up to its closing quote. -/
theorem skipStringBody_body {body : List Char} (h : Body body) (rest : List Char) (fuel : Nat)
    (hfuel : body.length < fuel) : skipStringBody fuel (body ++ '"' :: rest) = .ok rest := by
  induction h generalizing fuel with
  | nil =>
    obtain ⟨fuel, rfl⟩ := Nat.exists_eq_succ_of_ne_zero (Nat.ne_of_gt hfuel)
    rfl
  | plain hc _ ih =>
    obtain ⟨fuel, rfl⟩ := Nat.exists_eq_succ_of_ne_zero (Nat.ne_of_gt (Nat.zero_lt_of_lt hfuel))
    rw [List.cons_append, skipStringBody_plain fuel hc]
    apply ih
    rw [List.length_cons] at hfuel
    omega
  | short he _ ih =>
    obtain ⟨fuel, rfl⟩ := Nat.exists_eq_succ_of_ne_zero (Nat.ne_of_gt (Nat.zero_lt_of_lt hfuel))
    rw [List.cons_append, List.cons_append, skipStringBody_short fuel _ _ he]
    apply ih
    rw [List.length_cons, List.length_cons] at hfuel
    omega
  | code hcode _ ih =>
    obtain ⟨fuel, rfl⟩ := Nat.exists_eq_succ_of_ne_zero (Nat.ne_of_gt (Nat.zero_lt_of_lt hfuel))
    simp only [List.cons_append, List.append_assoc, skipStringBody, hexEscape_code hcode, bind, Except.bind]
    apply ih
    simp only [List.length_cons, List.length_append] at hfuel
    omega

/-- A string is passed over as a whole. -/
theorem skipString_body {body : List Char} (h : Body body) (rest : List Char) :
    skipString (body ++ '"' :: rest) = .ok rest := by
  rw [skipString, stringExtent_body h]
  exact skipStringBody_body h rest _ (by omega)

/-! ### Numbers -/

/-- One digit or more. -/
def Digits (digits : List Char) : Prop :=
  digits ≠ [] ∧ ∀ c ∈ digits, c.isDigit

/-- The whole part of a number has no leading zeros. -/
inductive Whole : List Char → Prop
  | zero : Whole ['0']
  | more {c : Char} {digits : List Char} : c.isDigit → c ≠ '0' → (∀ d ∈ digits, d.isDigit) → Whole (c :: digits)

/-- The places behind the point, if any. -/
inductive Fraction : List Char → Prop
  | none : Fraction []
  | places {digits : List Char} : Digits digits → Fraction ('.' :: digits)

/-- The power of ten, if any. -/
inductive Exponent : List Char → Prop
  | none : Exponent []
  | unsigned {e : Char} {digits : List Char} : e ∈ ['e', 'E'] → Digits digits → Exponent (e :: digits)
  | signed {e sign : Char} {digits : List Char} : e ∈ ['e', 'E'] → sign ∈ ['+', '-'] → Digits digits →
      Exponent (e :: sign :: digits)

/-- A number without its sign. -/
inductive Numeral : List Char → Prop
  | parts {whole fraction exponent : List Char} : Whole whole → Fraction fraction → Exponent exponent →
      Numeral (whole ++ (fraction ++ exponent))

/-- The text stops a number: it is at its end, or at a token that may follow a value. -/
def Stops : List Char → Prop
  | [] => True
  | c :: _ => isBlank c ∨ c ∈ [',', ']', '\x7d']

/-- The text does not go on with a digit. -/
def NoDigit (text : List Char) : Prop :=
  ∀ c ∈ text.head?, c.isDigit = false

/-- A text that stops a number does not go on with any part of one. -/
theorem Stops.not_part {c : Char} {rest : List Char} (h : Stops (c :: rest)) :
    c.isDigit = false ∧ c ≠ '.' ∧ c ≠ 'e' ∧ c ≠ 'E' := by
  simp only [Stops, isBlank, Bool.or_eq_true, decide_eq_true_eq, List.mem_cons, List.not_mem_nil, or_false] at h
  obtain (((rfl | rfl) | rfl) | rfl) | rfl | rfl | rfl := h
  all_goals decide

/-- A text that stops a number does not go on with a digit. -/
theorem Stops.noDigit {text : List Char} (h : Stops text) : NoDigit text := by
  cases text with
  | nil => exact nofun
  | cons c rest =>
    intro d hd
    cases hd
    exact h.not_part.1

/-- A power of ten does not begin with a digit. -/
theorem Exponent.noDigit {exponent rest : List Char} (h : Exponent exponent) (hrest : Stops rest) :
    NoDigit (exponent ++ rest) := by
  have hletter : ∀ e ∈ ['e', 'E'], e.isDigit = false :=
    List.forall_mem_cons.mpr ⟨rfl, List.forall_mem_singleton.mpr rfl⟩
  cases h with
  | none => exact hrest.noDigit
  | unsigned he | signed he =>
    intro d hd
    cases hd
    exact hletter _ he

/-- A power of ten does not begin with a point. -/
theorem Exponent.noPoint {exponent rest : List Char} (h : Exponent exponent) (hrest : Stops rest) :
    '.' ∉ (exponent ++ rest).head? := by
  have hletter : '.' ∉ ['e', 'E'] := by decide
  cases h with
  | none =>
    cases rest with
    | nil => exact nofun
    | cons c rest =>
      intro hhead
      cases hhead
      exact hrest.not_part.2.1 rfl
  | unsigned he | signed he =>
    intro hhead
    cases hhead
    exact hletter he

/-- The places do not begin with a digit. -/
theorem Fraction.noDigit {fraction after : List Char} (h : Fraction fraction) (hafter : NoDigit after) :
    NoDigit (fraction ++ after) := by
  cases h with
  | none => exact hafter
  | places =>
    intro d hd
    cases hd
    rfl

/-- Digits are passed over up to a text that does not go on with them. -/
theorem dropWhile_digits {digits rest : List Char} (hdigits : ∀ c ∈ digits, c.isDigit) (hrest : NoDigit rest) :
    (digits ++ rest).dropWhile Char.isDigit = rest := by
  rw [List.dropWhile_append_of_pos hdigits]
  cases rest with
  | nil => rfl
  | cons c rest => exact List.dropWhile_cons_of_neg (by simp [hrest c rfl])

/-- The digits of a power of ten are passed over. -/
theorem skipExponent_digits {digits rest : List Char} (h : Digits digits) (hrest : NoDigit rest) :
    skipExponent (digits ++ rest) = .ok rest := by
  obtain ⟨hsome, hall⟩ := h
  obtain ⟨c, digits, rfl⟩ := List.exists_cons_of_ne_nil hsome
  obtain ⟨hc, hdigits⟩ := List.forall_mem_cons.mp hall
  have hplus : c ≠ '+' := by rintro rfl; cases hc
  have hminus : c ≠ '-' := by rintro rfl; cases hc
  rw [skipExponent.eq_def]
  simp [hplus, hminus, hc, dropWhile_digits hdigits hrest]

/-- A sign in front of them is passed over with them. -/
theorem skipExponent_signed {sign : Char} {text rest : List Char} (hsign : sign ∈ ['+', '-']) (h : Digits text)
    (hrest : NoDigit rest) : skipExponent (sign :: (text ++ rest)) = .ok rest := by
  obtain ⟨hsome, hall⟩ := h
  obtain ⟨c, digits, rfl⟩ := List.exists_cons_of_ne_nil hsome
  obtain ⟨hc, hdigits⟩ := List.forall_mem_cons.mp hall
  have hpassed : ∀ s ∈ ['+', '-'], skipExponent (s :: (c :: digits ++ rest)) =
      .ok ((digits ++ rest).dropWhile Char.isDigit) := by simp [skipExponent, hc]
  rw [hpassed sign hsign, dropWhile_digits hdigits hrest]

/-- Neither places nor a power of ten follow. -/
theorem skipFraction_other {c : Char} {rest : List Char} (hpoint : c ≠ '.') (he : c ≠ 'e') (hE : c ≠ 'E') :
    skipFraction (c :: rest) = .ok (c :: rest) := by
  rw [skipFraction.eq_def]
  simp [hpoint, he, hE]

/-- Behind the whole part, or the places, the power of ten is passed over. -/
theorem skipFraction_exponent {exponent rest : List Char} (h : Exponent exponent) (hrest : Stops rest) :
    skipFraction (exponent ++ rest) = .ok rest := by
  have hletter : ∀ e ∈ ['e', 'E'], ∀ text, skipFraction (e :: text) = skipExponent text := by simp [skipFraction]
  cases h with
  | none =>
    cases rest with
    | nil => rfl
    | cons c rest =>
      obtain ⟨-, hpoint, he, hE⟩ := hrest.not_part
      exact skipFraction_other hpoint he hE
  | unsigned he hdigits =>
    rw [List.cons_append, hletter _ he]
    exact skipExponent_digits hdigits hrest.noDigit
  | signed he hsign hdigits =>
    rw [List.cons_append, List.cons_append, hletter _ he]
    exact skipExponent_signed hsign hdigits hrest.noDigit

/-- The places are passed over if there are any. -/
theorem skipFraction_places {digits after : List Char} (h : Digits digits) (hafter : NoDigit after)
    (hpoint : '.' ∉ after.head?) : skipFraction ('.' :: (digits ++ after)) = skipFraction after := by
  obtain ⟨hsome, hall⟩ := h
  have hlength : 0 < digits.length := List.length_pos_iff.mpr hsome
  have hless : after.length ≠ (digits ++ after).length := by
    rw [List.length_append]
    omega
  rw [skipFraction.eq_def]
  simp only [dropWhile_digits hall hafter, hless, if_false]
  cases after with
  | nil => rfl
  | cons c rest =>
    have hc : c ≠ '.' := fun hsame => hpoint (congrArg some hsame)
    by_cases he : c = 'e'
    · rw [he]
      rfl
    by_cases hE : c = 'E'
    · rw [hE]
      rfl
    · simp [skipFraction_other hc he hE, he, hE]

/-- What follows the whole part is passed over. -/
theorem skipFraction_parts {fraction exponent rest : List Char} (hfraction : Fraction fraction)
    (hexponent : Exponent exponent) (hrest : Stops rest) :
    skipFraction (fraction ++ (exponent ++ rest)) = .ok rest := by
  cases hfraction with
  | none => exact skipFraction_exponent hexponent hrest
  | places hdigits =>
    rw [List.cons_append, skipFraction_places hdigits (hexponent.noDigit hrest) (hexponent.noPoint hrest)]
    exact skipFraction_exponent hexponent hrest

/-- The whole part is passed over. -/
theorem skipNumber_whole {whole after : List Char} (h : Whole whole) (hafter : NoDigit after) :
    skipNumber (whole ++ after) = skipFraction after := by
  cases h with
  | zero =>
    cases after with
    | nil => rfl
    | cons c rest => simp [skipNumber, hafter c rfl]
  | more hc hzero hdigits =>
    rw [List.cons_append, skipNumber.eq_def]
    simp [hc, dropWhile_digits hdigits hafter]

/-- A number is passed over as a whole. -/
theorem skipNumber_numeral {text rest : List Char} (h : Numeral text) (hrest : Stops rest) :
    skipNumber (text ++ rest) = .ok rest := by
  cases h with
  | parts hwhole hfraction hexponent =>
    rw [List.append_assoc, List.append_assoc,
      skipNumber_whole hwhole (hfraction.noDigit (hexponent.noDigit hrest))]
    exact skipFraction_parts hfraction hexponent hrest

/-! ### Values -/

/-- What a phrase of the grammar is. An element is a value with the blanks around it. -/
inductive Kind
  | value
  | element
  | items
  | member
  | members

/-- The values that are words. -/
def words : List (List Char) :=
  [['n', 'u', 'l', 'l'], ['t', 'r', 'u', 'e'], ['f', 'a', 'l', 's', 'e']]

/-- The grammar of the format. -/
inductive Phrase : Kind → List Char → Prop
  | word {word : List Char} : word ∈ words → Phrase .value word
  | number {text : List Char} : Numeral text → Phrase .value text
  | negative {text : List Char} : Numeral text → Phrase .value ('-' :: text)
  | string {body : List Char} : Body body → Phrase .value ('"' :: (body ++ ['"']))
  | noItems {gap : List Char} : Blank gap → Phrase .value ('[' :: (gap ++ [']']))
  | list {items : List Char} : Phrase .items items → Phrase .value ('[' :: (items ++ [']']))
  | noMembers {gap : List Char} : Blank gap → Phrase .value ('\x7b' :: (gap ++ ['\x7d']))
  | object {members : List Char} : Phrase .members members → Phrase .value ('\x7b' :: (members ++ ['\x7d']))
  | element {lead value close : List Char} : Blank lead → Phrase .value value → Blank close →
      Phrase .element (lead ++ (value ++ close))
  | lastItem {element : List Char} : Phrase .element element → Phrase .items element
  | item {element items : List Char} : Phrase .element element → Phrase .items items →
      Phrase .items (element ++ ',' :: items)
  | member {lead name gap element : List Char} : Blank lead → Body name → Blank gap → Phrase .element element →
      Phrase .member (lead ++ '"' :: (name ++ '"' :: (gap ++ ':' :: element)))
  | lastMember {member : List Char} : Phrase .member member → Phrase .members member
  | moreMembers {member members : List Char} : Phrase .member member → Phrase .members members →
      Phrase .members (member ++ ',' :: members)

/-- A digit is not blank, and no other beginning of a value, nor the end of a list. -/
theorem digit_begins {c : Char} (h : c.isDigit) :
    isBlank c = false ∧ c ≠ ']' ∧ c ≠ 'n' ∧ c ≠ 't' ∧ c ≠ 'f' ∧ c ≠ '"' ∧ c ≠ '-' ∧ c ≠ '[' ∧
      c ≠ '\x7b' := by
  have hother : ∀ d : Char, d.isDigit = false → c ≠ d := by
    intro d hd hsame
    rw [hsame, hd] at h
    cases h
  have hblank : isBlank c = false := by
    simp [isBlank, hother ' ' rfl, hother '\n' rfl, hother '\t' rfl, hother '\r' rfl]
  exact ⟨hblank, hother _ rfl, hother _ rfl, hother _ rfl, hother _ rfl, hother _ rfl, hother _ rfl, hother _ rfl,
    hother _ rfl⟩

/-- A number begins with a digit. -/
theorem Numeral.begins {text : List Char} (h : Numeral text) : ∃ c tail, text = c :: tail ∧ c.isDigit := by
  obtain ⟨hwhole, -, -⟩ := h
  cases hwhole with
  | zero => exact ⟨_, _, rfl, rfl⟩
  | more hc => exact ⟨_, _, rfl, hc⟩

/-- The text begins with a character that is neither blank nor the end of a list. -/
def Begins (text : List Char) : Prop :=
  ∃ c tail, text = c :: tail ∧ isBlank c = false ∧ c ≠ ']'

/-- A value begins with none of its surroundings. -/
theorem Phrase.value_begins {text : List Char} (h : Phrase .value text) : Begins text := by
  cases h with
  | word hword =>
    simp only [words, List.mem_cons, List.not_mem_nil, or_false] at hword
    obtain rfl | rfl | rfl := hword
    all_goals exact ⟨_, _, rfl, rfl, by decide⟩
  | number hnumber =>
    obtain ⟨c, tail, htext, hc⟩ := hnumber.begins
    obtain ⟨hblank, hend, -⟩ := digit_begins hc
    exact ⟨c, tail, htext, hblank, hend⟩
  | negative | string | noItems | list | noMembers | object => exact ⟨_, _, rfl, rfl, by decide⟩

/-- Items begin with a value, behind blanks. -/
theorem Phrase.items_begin {text : List Char} (h : Phrase .items text) (rest : List Char) :
    ∃ c tail, skipBlanks (text ++ rest) = c :: tail ∧ c ≠ ']' := by
  have helement : ∀ element, Phrase .element element → ∀ rest,
      ∃ c tail, skipBlanks (element ++ rest) = c :: tail ∧ c ≠ ']' := by
    intro element helement rest
    cases helement with
    | element hlead hvalue =>
      obtain ⟨c, tail, rfl, hblank, hend⟩ := hvalue.value_begins
      rw [List.append_assoc, List.cons_append, List.cons_append, skipBlanks_append hlead hblank]
      exact ⟨c, _, rfl, hend⟩
  cases h with
  | lastItem hlast => exact helement _ hlast rest
  | item hfirst _ =>
    rw [List.append_assoc]
    exact helement _ hfirst _

/-- Members begin with a quote, behind blanks. -/
theorem Phrase.members_begin {text : List Char} (h : Phrase .members text) (rest : List Char) :
    ∃ tail, skipBlanks (text ++ rest) = '"' :: tail := by
  have hmember : ∀ member, Phrase .member member → ∀ rest, ∃ tail, skipBlanks (member ++ rest) = '"' :: tail := by
    intro member hmember rest
    cases hmember with
    | member hlead =>
      rw [List.append_assoc, List.cons_append, skipBlanks_append hlead rfl]
      exact ⟨_, rfl⟩
  cases h with
  | lastMember hlast => exact hmember _ hlast rest
  | moreMembers hfirst _ =>
    rw [List.append_assoc]
    exact hmember _ hfirst _

/-- Blanks that have been passed make no difference to a value. -/
theorem skipValueIn_skipBlanks (fuel : Nat) (text : List Char) :
    skipValueIn fuel (skipBlanks text) = skipValueIn fuel text := by
  cases fuel with
  | zero => rfl
  | succ fuel => rw [skipValueIn, skipValueIn, skipBlanks, skipBlanks, List.dropWhile_idempotent]

/-- Blanks that have been passed make no difference to a member. -/
theorem skipMember_skipBlanks (fuel : Nat) (text : List Char) :
    skipMember fuel (skipBlanks text) = skipMember fuel text := by
  cases fuel with
  | zero => rfl
  | succ fuel => rw [skipMember, skipMember, skipBlanks, skipBlanks, List.dropWhile_idempotent]

/-- The first item is passed over, and the others behind it. -/
theorem skipItems_first {text tail : List Char} {c : Char} (fuel : Nat) (htext : skipBlanks text = c :: tail)
    (hc : c ≠ ']') :
    skipItems (fuel + 1) true text = (skipValueIn fuel text).bind (skipItems fuel false) := by
  rw [← skipValueIn_skipBlanks, skipItems, htext]
  simp [bind]

/-- Every other item follows a comma. -/
theorem skipItems_more {gap : List Char} (hgap : Blank gap) (fuel : Nat) (text : List Char) :
    skipItems (fuel + 1) false (gap ++ ',' :: text) = (skipValueIn fuel text).bind (skipItems fuel false) := by
  rw [skipItems, skipBlanks_append hgap rfl]
  rfl

/-- Behind the last item the list ends. -/
theorem skipItems_end {gap : List Char} (hgap : Blank gap) (fuel : Nat) (atFirst : Bool) (rest : List Char) :
    skipItems (fuel + 1) atFirst (gap ++ ']' :: rest) = .ok rest := by
  rw [skipItems, skipBlanks_append hgap rfl]
  rfl

/-- The first member is passed over with the others. -/
theorem skipMembers_first {text tail : List Char} (fuel : Nat) (htext : skipBlanks text = '"' :: tail) :
    skipMembers (fuel + 1) true text = skipMember fuel text := by
  rw [← skipMember_skipBlanks, skipMembers, htext]
  rfl

/-- Every other member follows a comma. -/
theorem skipMembers_more {gap : List Char} (hgap : Blank gap) (fuel : Nat) (text : List Char) :
    skipMembers (fuel + 1) false (gap ++ ',' :: text) = skipMember fuel text := by
  rw [skipMembers, skipBlanks_append hgap rfl]
  rfl

/-- Behind the last member the object ends. -/
theorem skipMembers_end {gap : List Char} (hgap : Blank gap) (fuel : Nat) (atFirst : Bool) (rest : List Char) :
    skipMembers (fuel + 1) atFirst (gap ++ '\x7d' :: rest) = .ok rest := by
  rw [skipMembers, skipBlanks_append hgap rfl]
  rfl

/-- Blanks in front of a text that stops a number stop it too. -/
theorem Stops.behind {gap rest : List Char} (h : Stops rest) (hgap : Blank gap) : Stops (gap ++ rest) := by
  cases gap with
  | nil => exact h
  | cons c gap => exact Or.inl (hgap c List.mem_cons_self)

/-- A phrase is passed over as a whole, with the fuel that its length allows. -/
def Passed : Kind → List Char → Prop
  | .value, text => ∀ rest, Stops rest → ∀ fuel, 3 * text.length ≤ fuel → ∀ lead, Blank lead →
      skipValueIn (fuel + 1) (lead ++ (text ++ rest)) = .ok rest
  | .element, text => ∀ rest, Stops rest → ∃ close, Blank close ∧ ∀ fuel, 3 * text.length ≤ fuel →
      skipValueIn (fuel + 1) (text ++ rest) = .ok (close ++ rest)
  | .items, text => ∀ rest fuel, 3 * text.length ≤ fuel →
      (skipValueIn (fuel + 1) (text ++ ']' :: rest)).bind (skipItems (fuel + 1) false) = .ok rest
  | .member, text => ∀ rest, Stops rest → ∃ close, Blank close ∧ ∀ fuel, 3 * text.length ≤ fuel →
      skipMember (fuel + 1) (text ++ rest) = skipMembers fuel false (close ++ rest)
  | .members, text => ∀ rest fuel, 3 * text.length < fuel →
      skipMember (fuel + 1) (text ++ '\x7d' :: rest) = .ok rest

/-- One of the words is passed over. -/
theorem skipValueIn_word {word lead : List Char} (hword : word ∈ words) (hlead : Blank lead) (fuel : Nat)
    (rest : List Char) : skipValueIn (fuel + 1) (lead ++ (word ++ rest)) = .ok rest := by
  simp only [words, List.mem_cons, List.not_mem_nil, or_false] at hword
  obtain rfl | rfl | rfl := hword
  all_goals
    rw [List.cons_append, skipValueIn, skipBlanks_append hlead rfl]
    rfl

/-- A number without a sign is passed over. -/
theorem skipValueIn_numeral {text lead rest : List Char} (h : Numeral text) (hlead : Blank lead) (fuel : Nat)
    (hrest : Stops rest) : skipValueIn (fuel + 1) (lead ++ (text ++ rest)) = .ok rest := by
  have hnumber := skipNumber_numeral h hrest
  obtain ⟨c, tail, rfl, hc⟩ := h.begins
  obtain ⟨hblank, -, hn, ht, hf, hquote, hminus, hlist, hobject⟩ := digit_begins hc
  rw [List.cons_append, skipValueIn, skipBlanks_append hlead hblank]
  simpa [hn, ht, hf, hquote, hminus, hlist, hobject, hc] using hnumber

/-- A number with a sign is passed over. -/
theorem skipValueIn_negative {text lead rest : List Char} (h : Numeral text) (hlead : Blank lead) (fuel : Nat)
    (hrest : Stops rest) : skipValueIn (fuel + 1) (lead ++ ('-' :: text ++ rest)) = .ok rest := by
  rw [List.cons_append, skipValueIn, skipBlanks_append hlead rfl]
  exact skipNumber_numeral h hrest

/-- A string is passed over. -/
theorem skipValueIn_string {body lead : List Char} (h : Body body) (hlead : Blank lead) (fuel : Nat)
    (rest : List Char) : skipValueIn (fuel + 1) (lead ++ ('"' :: (body ++ ['"']) ++ rest)) = .ok rest := by
  rw [List.cons_append, List.append_assoc, skipValueIn, skipBlanks_append hlead rfl]
  exact skipString_body h rest

/-- Behind its opening a list is passed over like its items. -/
theorem skipValueIn_list {lead : List Char} (hlead : Blank lead) (fuel : Nat) (text rest : List Char) :
    skipValueIn (fuel + 1) (lead ++ ('[' :: (text ++ [']']) ++ rest)) =
      skipItems fuel true (text ++ ']' :: rest) := by
  rw [List.cons_append, List.append_assoc, skipValueIn, skipBlanks_append hlead rfl]
  rfl

/-- Behind its opening an object is passed over like its members. -/
theorem skipValueIn_object {lead : List Char} (hlead : Blank lead) (fuel : Nat) (text rest : List Char) :
    skipValueIn (fuel + 1) (lead ++ ('\x7b' :: (text ++ ['\x7d']) ++ rest)) =
      skipMembers fuel true (text ++ '\x7d' :: rest) := by
  rw [List.cons_append, List.append_assoc, skipValueIn, skipBlanks_append hlead rfl]
  rfl

/-- A member is passed over like its value. -/
theorem skipMember_name {lead name gap : List Char} (hlead : Blank lead) (hname : Body name) (hgap : Blank gap)
    (fuel : Nat) (text : List Char) :
    skipMember (fuel + 1) (lead ++ '"' :: (name ++ '"' :: (gap ++ ':' :: text))) =
      (skipValueIn fuel text).bind (skipMembers fuel false) := by
  rw [skipMember, skipBlanks_append hlead rfl]
  simp only [skipString_body hname, bind, Except.bind, skipBlanks_append hgap (show isBlank ':' = false from rfl)]

/-- Every phrase is passed over. -/
theorem Phrase.passed {kind : Kind} {text : List Char} (h : Phrase kind text) : Passed kind text := by
  have hcomma : ∀ text, Stops (',' :: text) := fun _ => Or.inr (by decide)
  induction h with
  | word hword => exact fun rest _ fuel _ lead hlead => skipValueIn_word hword hlead fuel rest
  | number hnumber => exact fun rest hrest fuel _ lead hlead => skipValueIn_numeral hnumber hlead fuel hrest
  | negative hnumber => exact fun rest hrest fuel _ lead hlead => skipValueIn_negative hnumber hlead fuel hrest
  | string hbody => exact fun rest _ fuel _ lead hlead => skipValueIn_string hbody hlead fuel rest
  | noItems hgap =>
    intro rest _ fuel hfuel lead hlead
    obtain ⟨fuel, rfl⟩ := Nat.exists_eq_add_of_le' (show 1 ≤ fuel by rw [List.length_cons] at hfuel; omega)
    rw [skipValueIn_list hlead]
    exact skipItems_end hgap fuel true rest
  | @list items hitems ih =>
    intro rest _ fuel hfuel lead hlead
    simp only [List.length_cons, List.length_append] at hfuel
    obtain ⟨fuel, rfl⟩ := Nat.exists_eq_add_of_le' (show 2 ≤ fuel by omega)
    obtain ⟨c, tail, hbegins, hc⟩ := hitems.items_begin (']' :: rest)
    rw [skipValueIn_list hlead, skipItems_first _ hbegins hc]
    exact ih rest fuel (by omega)
  | noMembers hgap =>
    intro rest _ fuel hfuel lead hlead
    obtain ⟨fuel, rfl⟩ := Nat.exists_eq_add_of_le' (show 1 ≤ fuel by rw [List.length_cons] at hfuel; omega)
    rw [skipValueIn_object hlead]
    exact skipMembers_end hgap fuel true rest
  | @object members hmembers ih =>
    intro rest _ fuel hfuel lead hlead
    simp only [List.length_cons, List.length_append] at hfuel
    obtain ⟨fuel, rfl⟩ := Nat.exists_eq_add_of_le' (show 2 ≤ fuel by omega)
    obtain ⟨tail, hbegins⟩ := hmembers.members_begin ('\x7d' :: rest)
    rw [skipValueIn_object hlead, skipMembers_first _ hbegins]
    exact ih rest fuel (by omega)
  | @element lead value close hlead _ hclose ih =>
    intro rest hrest
    apply Exists.intro close
    apply And.intro hclose
    intro fuel hfuel
    simp only [List.length_append] at hfuel
    rw [List.append_assoc, List.append_assoc]
    exact ih _ (hrest.behind hclose) fuel (by omega) lead hlead
  | lastItem _ ih =>
    intro rest fuel hfuel
    obtain ⟨close, hclose, hpassed⟩ := ih (']' :: rest) (Or.inr (by decide))
    rw [hpassed fuel hfuel]
    exact skipItems_end hclose fuel false rest
  | @item element items _ _ ihElement ihItems =>
    intro rest fuel hfuel
    simp only [List.length_append, List.length_cons] at hfuel
    obtain ⟨close, hclose, hpassed⟩ := ihElement (',' :: (items ++ ']' :: rest)) (hcomma _)
    obtain ⟨fuel, rfl⟩ := Nat.exists_eq_add_of_le' (show 1 ≤ fuel by omega)
    rw [List.append_assoc, List.cons_append, hpassed _ (by omega), Except.bind, skipItems_more hclose]
    exact ihItems rest fuel (by omega)
  | @member lead name gap element hlead hname hgap _ ih =>
    intro rest hrest
    obtain ⟨close, hclose, hpassed⟩ := ih rest hrest
    apply Exists.intro close
    apply And.intro hclose
    intro fuel hfuel
    simp only [List.length_append, List.length_cons] at hfuel
    have hform : lead ++ '"' :: (name ++ '"' :: (gap ++ ':' :: element)) ++ rest =
        lead ++ '"' :: (name ++ '"' :: (gap ++ ':' :: (element ++ rest))) := by simp
    obtain ⟨fuel, rfl⟩ := Nat.exists_eq_add_of_le' (show 1 ≤ fuel by omega)
    rw [hform, skipMember_name hlead hname hgap, hpassed fuel (by omega), Except.bind]
  | lastMember _ ih =>
    intro rest fuel hfuel
    obtain ⟨close, hclose, hpassed⟩ := ih ('\x7d' :: rest) (Or.inr (by decide))
    obtain ⟨fuel, rfl⟩ := Nat.exists_eq_add_of_le' (show 1 ≤ fuel by omega)
    rw [hpassed _ (by omega)]
    exact skipMembers_end hclose fuel false rest
  | @moreMembers member members _ _ ihMember ihMembers =>
    intro rest fuel hfuel
    simp only [List.length_append, List.length_cons] at hfuel
    obtain ⟨close, hclose, hpassed⟩ := ihMember (',' :: (members ++ '\x7d' :: rest)) (hcomma _)
    obtain ⟨fuel, rfl⟩ := Nat.exists_eq_add_of_le' (show 2 ≤ fuel by omega)
    rw [List.append_assoc, List.cons_append, hpassed _ (by omega), skipMembers_more hclose]
    exact ihMembers rest fuel (by omega)

/-- A value is passed over as a whole, behind blanks. -/
theorem skipValue_phrase {text lead rest : List Char} (h : Phrase .value text) (hlead : Blank lead)
    (hrest : Stops rest) : skipValue (lead ++ (text ++ rest)) = .ok rest := by
  apply h.passed rest hrest _ _ lead hlead
  rw [List.length_append, List.length_append]
  omega

end Offspring.Json
