import Mathlib.Algebra.Group.Nat.Defs
import Mathlib.Logic.Basic
import Mathlib.Tactic.SplitIfs
import Offspring.Text.Lossy

/-!
# ASCII characters in replaced text

Octets that are not text are replaced, but no ASCII character is made up on the way: an equals sign stands in
the text only where its octet stood. A longer character is never ASCII, because the ranges of its octets leave
out all overlong forms; `Begun.IsLong` says so of a character that has begun.
-/

namespace Offspring.Text

/-- The octets of an array in a list. -/
theorem toList_eq_data (octets : ByteArray) : octets.toList = octets.data.toList := by
  suffices hloop : ∀ left i seen, octets.size - i = left →
      ByteArray.toList.loop octets i seen = seen.reverse ++ octets.data.toList.drop i from by
    simpa [ByteArray.toList] using hloop octets.size 0 [] rfl
  intro left
  induction left with
  | zero =>
    intro i seen hleft
    have hend : octets.size ≤ i := by omega
    rw [ByteArray.toList.loop, if_neg (Nat.not_lt.mpr hend), List.drop_eq_nil_of_le (by simpa using hend),
      List.append_nil]
  | succ left ih =>
    intro i seen hleft
    have hmore : i < octets.size := by omega
    have hdata : i < octets.data.toList.length := by simpa using hmore
    rw [ByteArray.toList.loop, if_pos hmore, ih (i + 1) _ (by omega), List.drop_eq_getElem_cons hdata]
    simp [ByteArray.get!, getElem!_pos octets.data i (by simpa using hmore)]

/-- Octets one behind the other. -/
theorem toList_append (a b : ByteArray) : (a ++ b).toList = a.toList ++ b.toList := by
  rw [toList_eq_data, toList_eq_data, toList_eq_data, ByteArray.toList_data_append]

/-- An array is known by its octets. -/
theorem toList_injective {a b : ByteArray} (h : a.toList = b.toList) : a = b := by
  rw [toList_eq_data, toList_eq_data] at h
  exact ByteArray.ext (Array.toList_inj.mp h)

/-- The octets of a text that was read strictly, character by character. -/
theorem toList_of_fromUTF8? {octets : ByteArray} {s : String} (h : String.fromUTF8? octets = some s) :
    octets.toList = s.toList.flatMap String.utf8EncodeChar := by
  rw [String.fromUTF8?] at h
  split at h <;> cases h
  rename_i hvalid
  have hencode := String.toByteArray_ofList (l := (String.fromUTF8 octets hvalid).toList)
  rw [String.ofList_toList] at hencode
  have hdata : octets.data = _ := congrArg ByteArray.data hencode
  rw [toList_eq_data, hdata, List.utf8Encode, List.data_toByteArray]

/-- The code of a longer character is beyond ASCII, whatever octets follow. -/
def Begun.IsLong (g : Begun) : Prop :=
  0x80 ≤ g.low ∧ 0x80 ≤ (g.bits * 64 + (g.low.toNat - 0x80)) * 64 ^ (g.owed - 1)

instance (g : Begun) : Decidable g.IsLong :=
  inferInstanceAs (Decidable (_ ∧ _))

/-- Only its own number makes the equals sign. -/
theorem number_of_equals {n : Nat} (h : Char.ofNat n = '=') : n = 0x3D := by
  by_cases hvalid : n.isValidChar
  · rw [Char.ofNat, dif_pos hvalid] at h
    exact congrArg Char.toNat h
  · rw [Char.ofNat, dif_neg hvalid] at h
    cases h

/-- An octet that is neither below a first one nor the first one itself is beyond it. -/
theorem toNat_lt_of_ne {b first : UInt8} (hnot : ¬b < first) (hne : ¬b = first) : first.toNat < b.toNat := by
  rw [UInt8.lt_iff_toNat_lt] at hnot
  have hother : b.toNat ≠ first.toNat := fun hsame => hne (UInt8.toNat_inj.mp hsame)
  omega

/-- A longer character that begins is none of ASCII. -/
theorem isLong_of_lead {b : UInt8} {g : Begun} (h : lead b = .begins g) : g.IsLong := by
  rw [lead] at h
  obtain ⟨-, ⟨⟩⟩ | ⟨-, h⟩ := ite_eq_iff.mp h
  obtain ⟨-, ⟨⟩⟩ | ⟨hstray, h⟩ := ite_eq_iff.mp h
  obtain ⟨-, ⟨⟩⟩ | ⟨htwo, h⟩ := ite_eq_iff.mp h
  · have hmore : 0xC2 ≤ b.toNat := Nat.not_lt.mp fun hless => hstray (UInt8.lt_iff_toNat_lt.mpr hless)
    simp only [Begun.IsLong, UInt8.le_refl, true_and, UInt8.reduceToNat, Nat.sub_self]
    omega
  obtain ⟨-, ⟨⟩⟩ | ⟨he0, h⟩ := ite_eq_iff.mp h
  · decide
  obtain ⟨-, ⟨⟩⟩ | ⟨-, h⟩ := ite_eq_iff.mp h
  · decide
  obtain ⟨-, ⟨⟩⟩ | ⟨hthree, h⟩ := ite_eq_iff.mp h
  · have hmore : 0xE0 < b.toNat := toNat_lt_of_ne htwo he0
    simp only [Begun.IsLong, UInt8.le_refl, true_and, UInt8.reduceToNat, Nat.sub_self]
    omega
  obtain ⟨-, ⟨⟩⟩ | ⟨hf0, h⟩ := ite_eq_iff.mp h
  · decide
  obtain ⟨-, ⟨⟩⟩ | ⟨-, h⟩ := ite_eq_iff.mp h
  · have hmore : 0xF0 < b.toNat := toNat_lt_of_ne hthree hf0
    simp only [Begun.IsLong, UInt8.le_refl, true_and, UInt8.reduceToNat, Nat.sub_self]
    omega
  obtain ⟨-, ⟨⟩⟩ | ⟨-, ⟨⟩⟩ := ite_eq_iff.mp h
  decide

/-- A character by itself has the number of its octet. -/
theorem whole_of_lead {b : UInt8} {c : Char} (h : lead b = .whole c) : c = Char.ofNat b.toNat := by
  rw [lead] at h
  obtain ⟨-, ⟨⟩⟩ | ⟨-, h⟩ := ite_eq_iff.mp h
  · rfl
  · -- All others begin a longer character, or none.
    iterate 8 obtain ⟨-, ⟨⟩⟩ | ⟨-, h⟩ := ite_eq_iff.mp h
    cases h

/-- No ASCII character comes out of the state without its octet. -/
def NotAscii (state : Option Begun) : Prop :=
  ∀ g, state = some g → g.IsLong

/-- A first octet writes one character at most, which is an equals sign only if the octet is. -/
theorem feedFirst_writes (b : UInt8) :
    (feedFirst b).1.length ≤ 1 ∧ ('=' ∈ (feedFirst b).1 → b = 0x3D) ∧ NotAscii (feedFirst b).2 := by
  rw [feedFirst]
  cases hlead : lead b with
  | whole c =>
    refine ⟨Nat.le_refl 1, fun hmem => ?_, nofun⟩
    rw [whole_of_lead hlead] at hmem
    exact UInt8.toNat_inj.mp (number_of_equals (List.mem_singleton.mp hmem).symm)
  | begins g =>
    refine ⟨Nat.zero_le 1, nofun, fun g' hg => ?_⟩
    cases hg
    exact isLong_of_lead hlead
  | stray => exact ⟨Nat.le_refl 1, by simp [replacement], nofun⟩

/-- An octet that continues a longer character leads to one that is no ASCII either. -/
theorem isLong_of_continued {g : Begun} {b : UInt8} (hg : g.IsLong) (hlow : g.low ≤ b) :
    (g.owed ≤ 1 → 0x80 ≤ g.bits * 64 + (b.toNat - 0x80)) ∧
      (1 < g.owed → Begun.IsLong ⟨g.owed - 1, 0x80, 0xBF, g.bits * 64 + (b.toNat - 0x80)⟩) := by
  obtain ⟨hrange, hlong⟩ := hg
  have hbits : g.bits * 64 + (g.low.toNat - 0x80) ≤ g.bits * 64 + (b.toNat - 0x80) := by
    have := UInt8.le_iff_toNat_le.mp hlow
    omega
  have hnext := Nat.le_trans hlong (Nat.mul_le_mul_right (64 ^ (g.owed - 1)) hbits)
  constructor
  · intro hlast
    rwa [Nat.sub_eq_zero_of_le hlast, Nat.pow_zero, Nat.mul_one] at hnext
  · intro hmore
    obtain ⟨owed, hsucc⟩ : ∃ owed, g.owed = owed + 2 := ⟨g.owed - 2, by omega⟩
    rw [hsucc, Nat.add_sub_assoc (by omega), Nat.pow_succ'] at hnext
    refine ⟨UInt8.le_refl _, ?_⟩
    simpa [hsucc, Nat.mul_assoc] using hnext

/-- An octet writes an equals sign only if it is one. -/
theorem feed_writes {state : Option Begun} (hstate : NotAscii state) (b : UInt8) :
    ('=' ∈ (feed state b).1 → b = 0x3D) ∧ NotAscii (feed state b).2 := by
  cases state with
  | none => exact (feedFirst_writes b).2
  | some g =>
    rw [feed]
    split_ifs with hcontinues hlast
    · obtain ⟨hwhole, -⟩ := isLong_of_continued (hstate g rfl) hcontinues.1
      refine ⟨fun hmem => ?_, nofun⟩
      have hnumber := number_of_equals (List.mem_singleton.mp hmem).symm
      have hlarge := hwhole hlast
      omega
    · obtain ⟨-, hmore⟩ := isLong_of_continued (hstate g rfl) hcontinues.1
      refine ⟨nofun, fun g' hg => ?_⟩
      cases hg
      exact hmore (by omega)
    · obtain ⟨-, hequals, hbegun⟩ := feedFirst_writes b
      refine ⟨fun hmem => hequals ?_, hbegun⟩
      simpa [replacement] using hmem

/-- Replaced text has an equals sign only if an octet is one. -/
theorem equals_mem_lossyFrom {state : Option Begun} (hstate : NotAscii state) {octets : List UInt8}
    (h : '=' ∈ lossyFrom state octets) : 0x3D ∈ octets := by
  induction octets generalizing state with
  | nil => cases state <;> simp [lossyFrom, replacement] at h
  | cons b rest ih =>
    obtain ⟨hequals, hnext⟩ := feed_writes hstate b
    rw [lossyFrom] at h
    rcases List.mem_append.mp h with hwritten | hrest
    · rw [hequals hwritten]
      exact List.mem_cons_self
    · exact List.mem_cons_of_mem b (ih hnext hrest)

/-- Once octets have been read there is some text. -/
theorem lossyFrom_ne_nil {state : Option Begun} {octets : List UInt8} (h : state.isSome ∨ octets ≠ []) :
    lossyFrom state octets ≠ [] := by
  induction octets generalizing state with
  | nil =>
    cases state with
    | none => simp at h
    | some g => simp [lossyFrom]
  | cons b rest ih =>
    have hnext : (feed state b).1 ≠ [] ∨ (feed state b).2.isSome := by
      have hfirst : (feedFirst b).1 ≠ [] ∨ (feedFirst b).2.isSome := by
        rw [feedFirst]
        cases lead b <;> simp
      cases state with
      | none => exact hfirst
      | some g =>
        rw [feed]
        split_ifs <;> simp
    rw [lossyFrom]
    rcases hnext with hwritten | hbegun
    · exact fun hnil => hwritten (List.append_eq_nil_iff.mp hnil).1
    · exact fun hnil => ih (.inl hbegun) (List.append_eq_nil_iff.mp hnil).2

/-- Octets are some text. -/
theorem lossy_ne_nil {octets : ByteArray} (h : octets.toList ≠ []) : (lossy octets).toList ≠ [] := by
  rw [lossy]
  cases hstrict : String.fromUTF8? octets with
  | some s =>
    intro hnil
    rw [toList_of_fromUTF8? hstrict, hnil] at h
    exact h rfl
  | none =>
    rw [String.toList_ofList]
    exact lossyFrom_ne_nil (.inr h)

/-- Behind its first character a text has an equals sign only if there is one behind the first octet. -/
theorem lossy_tail (b : UInt8) {rest : List UInt8} (hrest : 0x3D ∉ rest) :
    ∃ c text, (lossy ⟨(b :: rest).toArray⟩).toList = c :: text ∧ '=' ∉ text := by
  have htoList : ByteArray.toList ⟨(b :: rest).toArray⟩ = b :: rest := toList_eq_data _
  rw [lossy]
  cases hstrict : String.fromUTF8? ⟨(b :: rest).toArray⟩ with
  | some s =>
    have hoctets := toList_of_fromUTF8? hstrict
    rw [htoList] at hoctets
    cases htext : s.toList with
    | nil => simp [htext] at hoctets
    | cons c text =>
      refine ⟨c, text, rfl, fun hequals => hrest ?_⟩
      -- The first character has an octet of its own, so the others have theirs in the rest.
      obtain ⟨first, more, hfirst⟩ := List.exists_cons_of_ne_nil (String.utf8EncodeChar_ne_nil (c := c))
      rw [htext, List.flatMap_cons, hfirst, List.cons_append, List.cons.injEq] at hoctets
      rw [hoctets.2]
      exact List.mem_append_right _ (List.mem_flatMap.mpr ⟨'=', hequals, by decide⟩)
  | none =>
    obtain ⟨hshort, -, hbegun⟩ := feedFirst_writes b
    have hclean : '=' ∉ lossyFrom (feedFirst b).2 rest := fun hequals => hrest (equals_mem_lossyFrom hbegun hequals)
    have hsome : lossyFrom none (b :: rest) ≠ [] := lossyFrom_ne_nil (.inr (List.cons_ne_nil b rest))
    rw [String.toList_ofList, htoList]
    rw [show lossyFrom none (b :: rest) = (feedFirst b).1 ++ lossyFrom (feedFirst b).2 rest from rfl] at hsome ⊢
    rcases hwritten : (feedFirst b).1 with _ | ⟨c, _ | _⟩
    · rw [hwritten, List.nil_append] at hsome
      obtain ⟨c, text, htext⟩ := List.exists_cons_of_ne_nil hsome
      rw [List.nil_append, htext]
      refine ⟨c, text, rfl, fun hequals => hclean ?_⟩
      rw [htext]
      exact List.mem_cons_of_mem c hequals
    · exact ⟨c, _, rfl, hclean⟩
    · rw [hwritten] at hshort
      simp at hshort

end Offspring.Text
