import Mathlib.Logic.Basic
import Mathlib.Tactic.SplitIfs
import Offspring.Proofs.Text.Lossy
import Offspring.Proofs.Text.Utf16

/-!
# Which octets are text

`Encoded` lists the forms that the octets of one character can have: one to four octets, in ranges that leave out
every longer form than needed, the surrogates and what lies beyond U+10FFFF. They are exactly the octets of the
characters (`encoded_iff`), so octets are text exactly if they fall into such pieces (`strict?_eq_none_iff`).
-/

namespace Offspring.Text

/-- An octet that goes on with a character. -/
def Trails (b : UInt8) : Prop :=
  0x80 ≤ b ∧ b ≤ 0xBF

/-- The octets of one character, with the ranges of the standard. -/
inductive Encoded : List UInt8 → Prop
  | one {a : UInt8} : a ≤ 0x7F → Encoded [a]
  /-- Smaller first octets would encode what one octet does. -/
  | two {a b : UInt8} : 0xC2 ≤ a → a ≤ 0xDF → Trails b → Encoded [a, b]
  /-- `E0` must not encode what two octets do, and `ED` no surrogate. -/
  | three {a b c : UInt8} : 0xE0 ≤ a → a ≤ 0xEF → Trails b → Trails c → (a = 0xE0 → 0xA0 ≤ b) →
      (a = 0xED → b ≤ 0x9F) → Encoded [a, b, c]
  /-- `F0` must not encode what three octets do, and `F4` nothing beyond the last character. -/
  | four {a b c d : UInt8} : 0xF0 ≤ a → a ≤ 0xF4 → Trails b → Trails c → Trails d → (a = 0xF0 → 0x90 ≤ b) →
      (a = 0xF4 → b ≤ 0x8F) → Encoded [a, b, c, d]

/-- Octets that are characters one after the other. -/
def WellFormed (octets : List UInt8) : Prop :=
  ∃ pieces : List (List UInt8), (∀ piece ∈ pieces, Encoded piece) ∧ octets = pieces.flatten

section Character

variable {c : Char}

theorem encode_one (h : c.toNat ≤ 0x7F) : String.utf8EncodeChar c = [UInt8.ofNat c.toNat] :=
  if_pos h

theorem encode_two (h : 0x7F < c.toNat) (hless : c.toNat ≤ 0x7FF) :
    String.utf8EncodeChar c = [UInt8.ofNat (c.toNat / 64 % 32 + 192), UInt8.ofNat (c.toNat % 64 + 128)] :=
  (if_neg (Nat.not_le.mpr h)).trans (if_pos hless)

theorem encode_three (h : 0x7FF < c.toNat) (hless : c.toNat ≤ 0xFFFF) :
    String.utf8EncodeChar c = [UInt8.ofNat (c.toNat / 4096 % 16 + 224), UInt8.ofNat (c.toNat / 64 % 64 + 128),
      UInt8.ofNat (c.toNat % 64 + 128)] := by
  have hone : ¬c.toNat ≤ 0x7F := by omega
  exact (if_neg hone).trans ((if_neg (Nat.not_le.mpr h)).trans (if_pos hless))

theorem encode_four (h : 0xFFFF < c.toNat) :
    String.utf8EncodeChar c = [UInt8.ofNat (c.toNat / 262144 % 8 + 240), UInt8.ofNat (c.toNat / 4096 % 64 + 128),
      UInt8.ofNat (c.toNat / 64 % 64 + 128), UInt8.ofNat (c.toNat % 64 + 128)] := by
  have hone : ¬c.toNat ≤ 0x7F := by omega
  have htwo : ¬c.toNat ≤ 0x7FF := by omega
  exact (if_neg hone).trans ((if_neg htwo).trans (if_neg (Nat.not_le.mpr h)))

end Character

/-- Six bits make an octet that goes on. -/
theorem trails_low (n : Nat) : Trails (UInt8.ofNat (n % 64 + 128)) := by
  simp only [Trails, UInt8.le_iff_toNat_le, UInt8.toNat_ofNat', UInt8.reduceToNat]
  omega

/-- An octet is made from its number. -/
theorem ofNat_eq {b : UInt8} {n : Nat} (h : n = b.toNat) : UInt8.ofNat n = b := by
  rw [h, UInt8.ofNat_toNat]

/-- The octets of a character have one of the forms. -/
theorem encoded_encode (c : Char) : Encoded (String.utf8EncodeChar c) := by
  obtain ⟨hranges, hbound⟩ := toNat_ranges c
  by_cases hone : c.toNat ≤ 0x7F
  · rw [encode_one hone]
    apply Encoded.one
    simp only [UInt8.le_iff_toNat_le, UInt8.toNat_ofNat', UInt8.reduceToNat]
    omega
  by_cases htwo : c.toNat ≤ 0x7FF
  · rw [encode_two (by omega) htwo]
    apply Encoded.two _ _ (trails_low _)
    all_goals simp only [UInt8.le_iff_toNat_le, UInt8.toNat_ofNat', UInt8.reduceToNat]
    all_goals omega
  by_cases hthree : c.toNat ≤ 0xFFFF
  · rw [encode_three (by omega) hthree]
    apply Encoded.three _ _ (trails_low _) (trails_low _)
    all_goals simp only [← UInt8.toNat_inj, UInt8.le_iff_toNat_le, UInt8.toNat_ofNat', UInt8.reduceToNat]
    all_goals omega
  · rw [encode_four (by omega)]
    apply Encoded.four _ _ (trails_low _) (trails_low _) (trails_low _)
    all_goals simp only [← UInt8.toNat_inj, UInt8.le_iff_toNat_le, UInt8.toNat_ofNat', UInt8.reduceToNat]
    all_goals omega

/-- There is a character for every number that can be one. -/
theorem exists_char {n : Nat} (h : n < 0xD800 ∨ 0xDFFF < n ∧ n < 0x110000) : ∃ c : Char, c.toNat = n := by
  have hword : n < UInt32.size := by
    simp only [UInt32.size]
    omega
  exact ⟨⟨UInt32.ofNatLT n hword, h⟩, UInt32.toNat_ofNatLT⟩

/-- Octets of one of the forms are those of a character. -/
theorem exists_of_encoded {octets : List UInt8} (h : Encoded octets) :
    ∃ c : Char, String.utf8EncodeChar c = octets := by
  cases h with
  | @one a ha =>
    simp only [UInt8.le_iff_toNat_le, UInt8.reduceToNat] at ha
    obtain ⟨c, hc⟩ : ∃ c : Char, c.toNat = a.toNat := exists_char (by omega)
    exact ⟨c, by rw [encode_one (by omega), ofNat_eq hc]⟩
  | @two a b hlow hhigh hb =>
    simp only [Trails, UInt8.le_iff_toNat_le, UInt8.reduceToNat] at hlow hhigh hb
    obtain ⟨c, hc⟩ : ∃ c : Char, c.toNat = (a.toNat - 0xC0) * 64 + (b.toNat - 0x80) := exists_char (by omega)
    have hfirst : UInt8.ofNat (c.toNat / 64 % 32 + 192) = a := ofNat_eq (by omega)
    have hsecond : UInt8.ofNat (c.toNat % 64 + 128) = b := ofNat_eq (by omega)
    exact ⟨c, by rw [encode_two (by omega) (by omega), hfirst, hsecond]⟩
  | @three a b d hlow hhigh hb hd hfirst hsurrogate =>
    simp only [Trails, ← UInt8.toNat_inj, UInt8.le_iff_toNat_le, UInt8.reduceToNat] at *
    obtain ⟨c, hc⟩ : ∃ c : Char, c.toNat =
        (a.toNat - 0xE0) * 4096 + (b.toNat - 0x80) * 64 + (d.toNat - 0x80) := exists_char (by omega)
    have hone : UInt8.ofNat (c.toNat / 4096 % 16 + 224) = a := ofNat_eq (by omega)
    have htwo : UInt8.ofNat (c.toNat / 64 % 64 + 128) = b := ofNat_eq (by omega)
    have hthree : UInt8.ofNat (c.toNat % 64 + 128) = d := ofNat_eq (by omega)
    exact ⟨c, by rw [encode_three (by omega) (by omega), hone, htwo, hthree]⟩
  | @four a b d e hlow hhigh hb hd he hfirst hlast =>
    simp only [Trails, ← UInt8.toNat_inj, UInt8.le_iff_toNat_le, UInt8.reduceToNat] at *
    obtain ⟨c, hc⟩ : ∃ c : Char, c.toNat =
        (a.toNat - 0xF0) * 262144 + (b.toNat - 0x80) * 4096 + (d.toNat - 0x80) * 64 + (e.toNat - 0x80) :=
      exists_char (by omega)
    have hone : UInt8.ofNat (c.toNat / 262144 % 8 + 240) = a := ofNat_eq (by omega)
    have htwo : UInt8.ofNat (c.toNat / 4096 % 64 + 128) = b := ofNat_eq (by omega)
    have hthree : UInt8.ofNat (c.toNat / 64 % 64 + 128) = d := ofNat_eq (by omega)
    have hfour : UInt8.ofNat (c.toNat % 64 + 128) = e := ofNat_eq (by omega)
    exact ⟨c, by rw [encode_four (by omega), hone, htwo, hthree, hfour]⟩

/-- Octets are well-formed exactly if they are those of some characters. -/
theorem wellFormed_iff {octets : List UInt8} :
    WellFormed octets ↔ ∃ text : List Char, octets = text.flatMap String.utf8EncodeChar := by
  constructor
  · intro ⟨pieces, hpieces, hoctets⟩
    rw [hoctets]
    clear hoctets
    induction pieces with
    | nil => exact ⟨[], rfl⟩
    | cons piece pieces ih =>
      obtain ⟨c, hc⟩ := exists_of_encoded (hpieces piece List.mem_cons_self)
      obtain ⟨text, htext⟩ := ih fun other hother => hpieces other (List.mem_cons_of_mem piece hother)
      exact ⟨c :: text, by rw [List.flatten_cons, List.flatMap_cons, hc, htext]⟩
  · intro ⟨text, htext⟩
    refine ⟨text.map String.utf8EncodeChar, fun piece hpiece => ?_, htext⟩
    obtain ⟨c, -, rfl⟩ := List.mem_map.mp hpiece
    exact encoded_encode c

/-- Characters are read from the octets that they are written with. -/
theorem strict?_of_encoded {octets : ByteArray} {text : List Char}
    (h : octets.toList = text.flatMap String.utf8EncodeChar) : strict? octets = some (String.ofList text) := by
  have hoctets : octets = text.utf8Encode := by
    apply ByteArray.ext
    apply Array.toList_inj.mp
    rw [← toList_eq_data, h, List.utf8Encode, List.data_toByteArray]
  have hvalid : octets.IsValidUTF8 := ⟨text, hoctets⟩
  rw [strict?, String.fromUTF8?, dif_pos hvalid]
  apply congrArg some
  apply String.toByteArray_inj.mp
  rw [String.toByteArray_ofList]
  exact hoctets

/-- Octets are refused exactly if they are not well-formed. -/
theorem strict?_eq_none_iff {octets : ByteArray} : strict? octets = none ↔ ¬WellFormed octets.toList := by
  rw [wellFormed_iff]
  constructor
  · intro hnone ⟨text, htext⟩
    rw [strict?_of_encoded htext] at hnone
    cases hnone
  · intro hnot
    cases hread : strict? octets with
    | none => rfl
    | some text => exact absurd ⟨text.toList, toList_of_fromUTF8? hread⟩ hnot

/-- An octet of ASCII is a character by itself. -/
theorem singleton_of_encoded {octets : List UInt8} (h : Encoded octets) {o : UInt8} (hmem : o ∈ octets)
    (hlow : o ≤ 0x7F) : octets = [o] := by
  cases h with
  | one => rw [List.mem_singleton.mp hmem]
  -- The octets of all others have their first bit set.
  | two | three | four =>
    simp only [Trails, UInt8.le_iff_toNat_le, UInt8.reduceToNat, List.mem_cons, List.not_mem_nil, or_false,
      ← UInt8.toNat_inj] at *
    omega

/-- Only NUL is written with a zero octet. -/
theorem zero_mem_encode_iff {c : Char} : 0 ∈ String.utf8EncodeChar c ↔ c = '\x00' := by
  constructor
  · intro hmem
    have hsingle := singleton_of_encoded (encoded_encode c) hmem (by decide)
    revert hsingle
    fun_cases String.utf8EncodeChar c with
    | case1 v hone =>
      intro hsingle
      have hzero : (UInt8.ofNat v).toNat = 0 := congrArg UInt8.toNat (List.cons.inj hsingle).1
      rw [UInt8.toNat_ofNat'] at hzero
      rw [← Char.ofNat_toNat c]
      apply congrArg Char.ofNat
      change v = 0
      omega
    | case2 | case3 | case4 =>
      intro hsingle
      cases (List.cons.inj hsingle).2
  · intro hnul
    rw [hnul]
    decide

/-- Text has a zero octet exactly if it has a NUL character. -/
theorem zero_mem_encoded_iff {text : List Char} :
    0 ∈ text.flatMap String.utf8EncodeChar ↔ '\x00' ∈ text := by
  rw [List.mem_flatMap]
  constructor
  · intro ⟨c, hc, hzero⟩
    exact zero_mem_encode_iff.mp hzero ▸ hc
  · intro hnul
    exact ⟨'\x00', hnul, zero_mem_encode_iff.mpr rfl⟩

end Offspring.Text
