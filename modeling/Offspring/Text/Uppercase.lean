import Offspring.Text.Uppercase.Table

/-!
# Full uppercase

`Text.uppercase` replaces every character by its full uppercase, which may be longer than one
character (`ß` becomes `SS`) and never depends on the neighbours. `Text.codePointLe` is the order in
which uppercased names are sorted: by code points, a beginning before all that it begins.
-/

namespace Offspring.Text

/-- Where the uppercase of a character in a run lies, if the run holds the character. -/
def CaseRun.upperOf? (run : CaseRun) (c : Nat) : Option Nat :=
  if run.first ≤ c ∧ c ≤ run.last ∧ (c - run.first) % run.stride = 0 then
    some (c + run.shift).toNat
  else none

/-- The full uppercase of one character. -/
def uppercaseChar (c : Char) : List Char :=
  match caseExpansions.find? (·.1 = c.toNat) with
  | some (_, longer) => longer.map Char.ofNat
  | none =>
    match caseRuns.findSome? (·.upperOf? c.toNat) with
    | some upper => [Char.ofNat upper]
    | none => [c]

/-- The full uppercase of a text, character by character. -/
def uppercase (s : List Char) : List Char :=
  s.flatMap uppercaseChar

/-- Whether one text comes at or before another in the order of code points. -/
def codePointLe : List Char → List Char → Bool
  | [], _ => true
  | _ :: _, [] => false
  | a :: r, b :: s => a.toNat < b.toNat || (a.toNat = b.toNat && codePointLe r s)

end Offspring.Text
