import Offspring.Text.Utf16

/-!
# Units read back

The units of a text are decoded to the text: a character below U+10000 is no surrogate, so its one unit
stands for itself, and the two halves of any other character lie in the ranges that the decoder tells
apart. Only the character NUL has a zero unit.
-/

namespace Offspring.Text

/-- The range of first halves, in numbers. -/
theorem isHighSurrogate_iff (u : UInt16) : isHighSurrogate u ↔ 0xD800 ≤ u.toNat ∧ u.toNat < 0xDC00 := by
  simp [isHighSurrogate, UInt16.le_iff_toNat_le, UInt16.lt_iff_toNat_lt]

/-- The range of second halves, in numbers. -/
theorem isLowSurrogate_iff (u : UInt16) : isLowSurrogate u ↔ 0xDC00 ≤ u.toNat ∧ u.toNat < 0xE000 := by
  simp [isLowSurrogate, UInt16.le_iff_toNat_le, UInt16.lt_iff_toNat_lt]

/-- A character is no surrogate and lies below U+110000. -/
theorem toNat_ranges (c : Char) : (c.toNat < 0xD800 ∨ 0xDFFF < c.toNat) ∧ c.toNat < 0x110000 := by
  have hvalid : c.toNat < 0xD800 ∨ 0xDFFF < c.toNat ∧ c.toNat < 0x110000 := c.valid
  omega

/-- A number that fits is the number of its unit. -/
theorem toNat_toUInt16 {n : Nat} (h : n < 0x10000) : n.toUInt16.toNat = n :=
  UInt16.toNat_ofNat_of_lt' h

/-- A unit that is no half of a pair stands for itself. -/
theorem decodeUtf16_single (u : UInt16) (rest : List UInt16)
    (hunit : u.toNat < 0xD800 ∨ 0xDFFF < u.toNat) :
    decodeUtf16 (u :: rest) = (decodeUtf16 rest).map (Char.ofNat u.toNat :: ·) := by
  have hlow : ¬isLowSurrogate u := by
    rw [isLowSurrogate_iff]
    omega
  have hhigh : ¬isHighSurrogate u := by
    rw [isHighSurrogate_iff]
    omega
  rw [decodeUtf16.eq_def]
  simp [hlow, hhigh]

/-- Two halves of a pair stand for one character. -/
theorem decodeUtf16_pair (u v : UInt16) (rest : List UInt16) (hu : isHighSurrogate u)
    (hv : isLowSurrogate v) :
    decodeUtf16 (u :: v :: rest) = (decodeUtf16 rest).map
      (Char.ofNat (0x10000 + (u.toNat - 0xD800) * 0x400 + (v.toNat - 0xDC00)) :: ·) := by
  have hlow : ¬isLowSurrogate u := by
    rw [isLowSurrogate_iff]
    rw [isHighSurrogate_iff] at hu
    omega
  rw [decodeUtf16.eq_def]
  simp [hlow, hu, hv]

/-- The units of a character are decoded first. -/
theorem decodeUtf16_units (c : Char) (rest : List UInt16) :
    decodeUtf16 (units c ++ rest) = (decodeUtf16 rest).map (c :: ·) := by
  obtain ⟨hranges, hbound⟩ := toNat_ranges c
  rw [units]
  split
  · rename_i hc
    have hunit := toNat_toUInt16 hc
    rw [List.singleton_append, decodeUtf16_single _ rest (by rwa [hunit]), hunit, Char.ofNat_toNat]
  · have hfirst : (0xD800 + (c.toNat - 0x10000) / 0x400).toUInt16.toNat =
        0xD800 + (c.toNat - 0x10000) / 0x400 := toNat_toUInt16 (by omega)
    have hsecond : (0xDC00 + (c.toNat - 0x10000) % 0x400).toUInt16.toNat =
        0xDC00 + (c.toNat - 0x10000) % 0x400 := toNat_toUInt16 (by omega)
    have hbits : 0x10000 + (0xD800 + (c.toNat - 0x10000) / 0x400 - 0xD800) * 0x400 +
        (0xDC00 + (c.toNat - 0x10000) % 0x400 - 0xDC00) = c.toNat := by omega
    rw [List.cons_append, List.singleton_append, decodeUtf16_pair _ _ rest, hfirst, hsecond, hbits,
      Char.ofNat_toNat]
    · rw [isHighSurrogate_iff]
      omega
    · rw [isLowSurrogate_iff]
      omega

/-- Decoding the units of a text gives the text. -/
theorem decodeUtf16_utf16 (s : String) : decodeUtf16 (utf16 s) = some s.toList := by
  have hall : ∀ cs : List Char, decodeUtf16 (cs.flatMap units) = some cs := by
    intro cs
    induction cs with
    | nil => rfl
    | cons c cs ih => rw [List.flatMap_cons, decodeUtf16_units, ih, Option.map_some]
  exact hall s.toList

/-- A zero unit comes from the number zero. -/
theorem eq_zero_of_toUInt16 {n : Nat} (hbound : n < 0x10000) (h : 0 = n.toUInt16) : n = 0 := by
  rw [← toNat_toUInt16 hbound, ← h]
  rfl

/-- Only NUL has a zero unit. -/
theorem eq_nul_of_zero_mem {c : Char} (h : 0 ∈ units c) : c = '\x00' := by
  have hbound := (toNat_ranges c).2
  rw [units] at h
  split at h
  · rename_i hc
    rw [← Char.ofNat_toNat c, eq_zero_of_toUInt16 hc (List.mem_singleton.mp h)]
  · -- Both halves lie above the least surrogate.
    rw [List.mem_cons, List.mem_singleton] at h
    rcases h with hfirst | hsecond
    · have hzero := eq_zero_of_toUInt16 (by omega) hfirst
      omega
    · have hzero := eq_zero_of_toUInt16 (by omega) hsecond
      omega

/-- A text without NUL has no zero unit. -/
theorem zero_not_mem_utf16 {s : String} (h : '\x00' ∉ s.toList) : 0 ∉ utf16 s := by
  intro hzero
  obtain ⟨c, hc, hunits⟩ := List.mem_flatMap.mp hzero
  exact h (eq_nul_of_zero_mem hunits ▸ hc)

/-- Only the empty text has no units. -/
theorem utf16_eq_nil {s : String} (h : utf16 s = []) : s = "" := by
  have hdecoded := decodeUtf16_utf16 s
  rw [h] at hdecoded
  exact String.toList_eq_nil_iff.mp (Option.some.inj hdecoded).symm

end Offspring.Text
