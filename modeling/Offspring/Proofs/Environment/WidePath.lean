import Offspring.EnvironmentBlock
import Offspring.Proofs.Text.Utf8

/-!
# One wide path

A path is written in 16-bit units exactly if its octets are text without NUL. The units then end at their only
zero, and the units before it are decoded to the path, so that no two paths are written alike
(`wideNul_terminated`).
-/

namespace Offspring

open Text

section WidePath

variable {value : OsString} {what : String} {text : List Char}

/-- Octets that are no text are refused as such. -/
theorem wideNul_of_not_text (h : ¬WellFormed value.toList) :
    wideNul value what = .error (.invalidArgument (what ++ " is not valid unicode")) := by
  rw [wideNul, strict?_eq_none_iff.mpr h]

/-- Text with NUL is refused for it. -/
theorem wideNul_of_nul (h : value.toList = text.flatMap String.utf8EncodeChar) (hnul : '\x00' ∈ text) :
    wideNul value what = .error (.invalidArgument (what ++ " contains a NUL character")) := by
  have hcontains : (String.ofList text).toList.contains '\x00' = true := by
    rw [String.toList_ofList]
    exact List.contains_iff_mem.mpr hnul
  simp only [wideNul, strict?_of_encoded h]
  rw [if_pos hcontains]

/-- Text without NUL is written in its units. -/
theorem wideNul_of_text (h : value.toList = text.flatMap String.utf8EncodeChar) (hnul : '\x00' ∉ text) :
    wideNul value what = .ok (utf16 (String.ofList text) ++ [0]) := by
  have hcontains : ¬(String.ofList text).toList.contains '\x00' = true := by
    rw [String.toList_ofList]
    exact fun hmem => hnul (List.contains_iff_mem.mp hmem)
  simp only [wideNul, strict?_of_encoded h]
  rw [if_neg hcontains]

/-- What is written is text without NUL. -/
theorem text_of_wideNul {units : List UInt16} (h : wideNul value what = .ok units) :
    ∃ text : List Char, value.toList = text.flatMap String.utf8EncodeChar ∧ '\x00' ∉ text ∧
      units = utf16 (String.ofList text) ++ [0] := by
  by_cases hformed : WellFormed value.toList
  · obtain ⟨text, htext⟩ := wellFormed_iff.mp hformed
    by_cases hnul : '\x00' ∈ text
    · rw [wideNul_of_nul htext hnul] at h
      cases h
    · rw [wideNul_of_text htext hnul] at h
      exact ⟨text, htext, hnul, (Except.ok.inj h).symm⟩
  · rw [wideNul_of_not_text hformed] at h
    cases h

end WidePath

/-- A path is written exactly if it is text without NUL. What is written has its only zero unit at the end, and
the units before are decoded to the text of the path, so different paths are written differently. A path that is
no text is refused for that, whether it has a zero octet or not; any other path with one is refused for it. -/
theorem wideNul_terminated (value : OsString) (what : String) :
    ((∃ units, wideNul value what = .ok units) ↔ WellFormed value.toList ∧ 0 ∉ value.toList) ∧
    (∀ units, wideNul value what = .ok units → ∃ shown text, units = shown ++ [0] ∧ 0 ∉ shown ∧
      decodeUtf16 shown = some text ∧ text.flatMap String.utf8EncodeChar = value.toList) ∧
    (∀ other named units, wideNul value what = .ok units → wideNul other named = .ok units → value = other) ∧
    (¬WellFormed value.toList →
      wideNul value what = .error (.invalidArgument (what ++ " is not valid unicode"))) ∧
    (WellFormed value.toList → 0 ∈ value.toList →
      wideNul value what = .error (.invalidArgument (what ++ " contains a NUL character"))) := by
  refine ⟨⟨?written, ?writes⟩, ?decoded, ?apart, fun h => wideNul_of_not_text h, ?nul⟩
  case written =>
    intro ⟨units, hunits⟩
    obtain ⟨text, htext, hnul, -⟩ := text_of_wideNul hunits
    apply And.intro (wellFormed_iff.mpr ⟨text, htext⟩)
    rw [htext, zero_mem_encoded_iff]
    exact hnul
  case writes =>
    intro ⟨hformed, hzero⟩
    obtain ⟨text, htext⟩ := wellFormed_iff.mp hformed
    rw [htext, zero_mem_encoded_iff] at hzero
    exact ⟨_, wideNul_of_text htext hzero⟩
  case decoded =>
    intro units hunits
    obtain ⟨text, htext, hnul, hform⟩ := text_of_wideNul hunits
    have hshown : 0 ∉ utf16 (String.ofList text) := by
      apply zero_not_mem_utf16
      rwa [String.toList_ofList]
    have hdecoded : decodeUtf16 (utf16 (String.ofList text)) = some text := by
      rw [decodeUtf16_utf16, String.toList_ofList]
    exact ⟨_, text, hform, hshown, hdecoded, htext.symm⟩
  case apart =>
    intro other named units hvalue hother
    obtain ⟨text, htext, -, hform⟩ := text_of_wideNul hvalue
    obtain ⟨text', htext', -, hform'⟩ := text_of_wideNul hother
    have hunits : utf16 (String.ofList text) = utf16 (String.ofList text') :=
      List.append_cancel_right (hform.symm.trans hform')
    have hsame : text = text' := by
      have hdecoded := congrArg decodeUtf16 hunits
      rw [decodeUtf16_utf16, decodeUtf16_utf16, String.toList_ofList, String.toList_ofList] at hdecoded
      exact Option.some.inj hdecoded
    apply ByteArray.ext
    apply Array.toList_inj.mp
    rw [← toList_eq_data, ← toList_eq_data, htext, htext', hsame]
  case nul =>
    intro hformed hzero
    obtain ⟨text, htext⟩ := wellFormed_iff.mp hformed
    rw [htext, zero_mem_encoded_iff] at hzero
    exact wideNul_of_nul htext hzero

end Offspring
