import Mathlib.Data.Nat.Digits.Defs
import Mathlib.Tactic.Ring
import Mathlib.Tactic.SplitIfs
import Offspring.Run.Number

/-!
# Numerals

A `Numeral` is what a number on the command line has to look like: an optional plus sign and digits of a base, at
least one, with any number of zeros in front. Its value is the sum of its digits, each with the weight of its place.
`readNumber_eq_ok_iff` says that exactly the numerals with values below the bound are read, as their values: the
bound is checked digit by digit, but values only grow from digit to digit, so the first one that is too large means
that the last one is. Digits are those of the bases up to ten.
-/

namespace Offspring.Run

variable {base bound : Nat}

/-- An optional plus sign and digits of a base, the first one with the greatest weight. -/
structure Numeral (base : Nat) where
  signed : Bool
  digits : List (Fin base)
  nonempty : digits ≠ []

/-- Digits as they are written. -/
def digitText (digits : List (Fin base)) : List Char :=
  digits.map fun d => d.val.digitChar

namespace Numeral

/-- A numeral as it is written. -/
def text (numeral : Numeral base) : List Char :=
  (if numeral.signed then ['+'] else []) ++ digitText numeral.digits

/-- The number that a numeral stands for. -/
def value (numeral : Numeral base) : Nat :=
  Nat.ofDigits base (numeral.digits.map Fin.val).reverse

end Numeral

/-- A digit that is read has been written as itself. -/
theorem eq_digitChar_of_digitOf? {c : Char} {d : Nat} (h : digitOf? base c = some d) :
    d < base ∧ c = d.digitChar := by
  rw [digitOf?, Option.ite_none_right_eq_some, Bool.and_eq_true, decide_eq_true_eq] at h
  obtain ⟨⟨hdigit, hbase⟩, hvalue⟩ := h
  cases hvalue
  refine ⟨hbase, Char.toNat_inj.mp ?_⟩
  have hrange := Char.isDigit_iff_toNat.mp hdigit
  simp only [Char.reduceToNat] at hrange ⊢
  rw [Nat.toNat_digitChar_of_lt_ten (by omega)]
  omega

section Digits

variable (hbase : base ≤ 10)
include hbase

/-- A digit is read as itself. -/
theorem digitOf?_digitChar (d : Fin base) : digitOf? base d.val.digitChar = some d.val := by
  have hten : d.val < 10 := by omega
  have hvalue : d.val.digitChar.toNat - '0'.toNat = d.val := Nat.toNat_digitChar_sub_48_of_lt_ten hten
  rw [digitOf?, Nat.isDigit_digitChar, hvalue]
  simp [hten]

/-- Written digits are digits. -/
theorem isDigit_of_mem {digits : List (Fin base)} {c : Char} (h : c ∈ digitText digits) : c.isDigit = true := by
  obtain ⟨d, -, rfl⟩ := List.mem_map.mp h
  rw [Nat.isDigit_digitChar, decide_eq_true_eq]
  omega

/-- Digits are read behind a value as far as all of them together stay below the bound.

The induction is on the digits. The value after the first one is at most the value after all of them, so a digit
that comes out too large is refused for the right reason. -/
theorem readDigits_digitText (n : Nat) (digits : List (Fin base)) (hn : n < bound) :
    let value := n * base ^ digits.length + Nat.ofDigits base (digits.map Fin.val).reverse
    readDigits base bound n (digitText digits) = if value < bound then .ok value else .error .tooLarge := by
  induction digits generalizing n with
  | nil => simp [digitText, readDigits, hn]
  | cons d digits ih =>
    intro value
    have hvalue : value =
        (n * base + d.val) * base ^ digits.length + Nat.ofDigits base (digits.map Fin.val).reverse := by
      simp only [value, List.length_cons, List.map_cons, List.reverse_cons, Nat.ofDigits_append,
        Nat.ofDigits_singleton, List.length_reverse, List.length_map]
      ring
    have hgrows : n * base + d.val ≤ value := by
      have hweight : 0 < base ^ digits.length := Nat.pow_pos d.pos
      rw [hvalue]
      exact (Nat.le_mul_of_pos_right _ hweight).trans (Nat.le_add_right _ _)
    rw [digitText, List.map_cons, readDigits, digitOf?_digitChar hbase]
    simp only
    split_ifs with hfits hvalueFits hvalueFits
    · rw [← digitText, ih _ hfits, ← hvalue, if_pos hvalueFits]
    · rw [← digitText, ih _ hfits, ← hvalue, if_neg hvalueFits]
    · omega
    · rfl

end Digits

/-- All that is read is digits. -/
theorem exists_digits_of_readDigits {n m : Nat} {text : List Char} (h : readDigits base bound n text = .ok m) :
    ∃ digits : List (Fin base), digitText digits = text := by
  induction text generalizing n with
  | nil => exact ⟨[], rfl⟩
  | cons c text ih =>
    rw [readDigits] at h
    split at h
    · cases h
    · rename_i d hd
      obtain ⟨hless, rfl⟩ := eq_digitChar_of_digitOf? hd
      split_ifs at h
      obtain ⟨digits, rfl⟩ := ih h
      exact ⟨⟨d, hless⟩ :: digits, rfl⟩

/-- Without a sign in front, digits are all that is read. -/
theorem readNumber_unsigned {c : Char} (text : List Char) (hc : c ≠ '+') :
    readNumber base bound (c :: text) = readDigits base bound 0 (c :: text) := by
  unfold readNumber
  split <;> simp_all

/-- A numeral is read as its value, if that is below the bound. -/
theorem readNumber_numeral (hbase : base ≤ 10) (hbound : 0 < bound) (numeral : Numeral base) :
    readNumber base bound numeral.text =
      if numeral.value < bound then .ok numeral.value else .error .tooLarge := by
  obtain ⟨signed, digits, hdigits⟩ := numeral
  have hread := readDigits_digitText hbase 0 digits hbound
  rw [Nat.zero_mul, Nat.zero_add] at hread
  obtain ⟨d, rest, rfl⟩ := List.exists_cons_of_ne_nil hdigits
  cases signed with
  | true => exact hread
  | false =>
    have hplain : d.val.digitChar ≠ '+' := Nat.digitChar_ne _ rfl
    exact (readNumber_unsigned (digitText rest) hplain).trans hread

/-- What is read as a number is a numeral. -/
theorem exists_numeral_of_readNumber {text : List Char} {n : Nat} (h : readNumber base bound text = .ok n) :
    ∃ numeral : Numeral base, numeral.text = text := by
  unfold readNumber at h
  split at h
  case h_1 => cases h
  case h_2 => cases h
  case h_3 digits hsome =>
    obtain ⟨ds, rfl⟩ := exists_digits_of_readDigits h
    exact ⟨⟨true, ds, fun hnil => hsome (by rw [hnil]; rfl)⟩, rfl⟩
  case h_4 hempty _ _ =>
    obtain ⟨ds, rfl⟩ := exists_digits_of_readDigits h
    exact ⟨⟨false, ds, fun hnil => hempty (by rw [hnil]; rfl)⟩, rfl⟩

/-- Exactly the numerals with values below the bound are read, as their values. -/
theorem readNumber_eq_ok_iff (hbase : base ≤ 10) (hbound : 0 < bound) {text : List Char} {n : Nat} :
    readNumber base bound text = .ok n ↔
      ∃ numeral : Numeral base, numeral.text = text ∧ numeral.value = n ∧ n < bound := by
  constructor
  · intro h
    obtain ⟨numeral, rfl⟩ := exists_numeral_of_readNumber h
    rw [readNumber_numeral hbase hbound] at h
    split_ifs at h with hfits
    cases h
    exact ⟨numeral, rfl, rfl, hfits⟩
  · rintro ⟨numeral, rfl, rfl, hfits⟩
    rw [readNumber_numeral hbase hbound, if_pos hfits]

/-- The digits of a number make a numeral of it. -/
theorem exists_digits_of_toDigits (hbase : 1 < base) (n : Nat) :
    ∃ digits : List (Fin base), digitText digits = Nat.toDigits base n ∧
      Nat.ofDigits base (digits.map Fin.val).reverse = n := by
  induction n using Nat.strongRecOn with
  | ind n ih =>
    rw [Nat.toDigits_eq_if hbase]
    split_ifs with hdigit
    · exact ⟨[⟨n, hdigit⟩], rfl, Nat.ofDigits_singleton⟩
    · obtain ⟨digits, htext, hvalue⟩ := ih (n / base) (Nat.div_lt_self (by omega) hbase)
      have hlast : n % base < base := Nat.mod_lt _ (by omega)
      refine ⟨digits ++ [⟨n % base, hlast⟩], ?_, ?_⟩
      · rw [← htext, digitText, List.map_append]
        rfl
      · rw [List.map_append, List.reverse_append, Nat.ofDigits_append, hvalue, List.map_singleton,
          List.reverse_singleton, Nat.ofDigits_singleton, List.length_singleton, pow_one]
        exact Nat.mod_add_div n base

/-- Every number has a numeral, which is how it is written. -/
theorem exists_numeral_of_toDigits (hbase : 1 < base) (n : Nat) :
    ∃ numeral : Numeral base, numeral.text = Nat.toDigits base n ∧ numeral.value = n := by
  obtain ⟨digits, htext, hvalue⟩ := exists_digits_of_toDigits hbase n
  have hsome : digits ≠ [] := by
    rintro rfl
    exact Nat.toDigits_ne_nil htext.symm
  exact ⟨⟨false, digits, hsome⟩, htext, hvalue⟩

end Offspring.Run
