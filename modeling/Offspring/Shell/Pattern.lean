import Offspring.Shell.Token

/-!
# Patterns

A pattern is a text whose characters are each quoted or not; those that are not can stand for any
character, for one of a set, or for any text. Patterns choose among cases, cut values, and name files.
-/

namespace Offspring.Shell

/-- A character and whether it is quoted. -/
abbrev Marked := Char × Bool

/-- A piece of a pattern. -/
inductive PatternPiece where
  | only (c : Char)
  | anyChar
  | anyText
  /-- One character between two bounds, or any other one. -/
  | among (isNegated : Bool) (ranges : List (Char × Char))

namespace Pattern

/-- The ranges of a set up to its closing bracket, and the rest after it. A bracket right at the start is
a member. -/
def ranges : Nat → Bool → List Marked → Option (List (Char × Char) × List Marked)
  | 0, _, _ | _, _, [] => none
  | fuel + 1, atStart, (c, quoted) :: rest =>
    if c = ']' && !quoted && !atStart then some ([], rest)
    else
      match rest with
      | ('-', false) :: (d, _) :: after =>
        if d = ']' then do
          let (more, rest) ← ranges fuel false rest
          some ((c, c) :: more, rest)
        else do
          let (more, rest) ← ranges fuel false after
          some ((c, d) :: more, rest)
      | rest => do
        let (more, rest) ← ranges fuel false rest
        some ((c, c) :: more, rest)

/-- The pieces of a pattern of which so many characters are left at most. -/
def compile : Nat → List Marked → List PatternPiece
  | 0, _ | _, [] => []
  | fuel + 1, (c, true) :: rest => .only c :: compile fuel rest
  | fuel + 1, (c, false) :: rest =>
    if c = '*' then .anyText :: compile fuel rest
    else if c = '?' then .anyChar :: compile fuel rest
    else if c = '[' then
      let (isNegated, inner) : Bool × List Marked :=
        match rest with
        | ('!', false) :: rest | ('^', false) :: rest => (true, rest)
        | rest => (false, rest)
      match ranges (inner.length + 1) true inner with
      | some (found, rest) => .among isNegated found :: compile fuel rest
      | none => .only c :: compile fuel rest
    else .only c :: compile fuel rest

/-- All texts that come after some of a text's first characters. -/
def endings : List Char → List (List Char)
  | [] => [[]]
  | c :: rest => (c :: rest) :: endings rest

/-- Whether a text is one that a pattern stands for. -/
def matchesPieces : List PatternPiece → List Char → Bool
  | [], text => text.isEmpty
  | .anyText :: pieces, text => (endings text).any (matchesPieces pieces)
  | _ :: _, [] => false
  | .only d :: pieces, c :: text => c = d && matchesPieces pieces text
  | .anyChar :: pieces, _ :: text => matchesPieces pieces text
  | .among isNegated ranges :: pieces, c :: text =>
    (ranges.any fun (low, high) => low ≤ c && c ≤ high) != isNegated && matchesPieces pieces text

/-- Whether a pattern stands for a text. -/
def accepts (pattern : List Marked) (text : List Char) : Bool :=
  matchesPieces (compile pattern.length pattern) text

/-- Whether a text has a character that makes it more than itself as a pattern. -/
def isOpen (pattern : List Marked) : Bool :=
  pattern.any fun (c, quoted) => !quoted && "*?[".toList.contains c

/-- How many characters to cut off a text's front for a pattern: as few as possible, or as many. -/
def frontLength? (longest : Bool) (pattern : List Marked) (text : List Char) : Option Nat :=
  let lengths := List.range (text.length + 1)
  (if longest then lengths.reverse else lengths).find? fun n => accepts pattern (text.take n)

/-- How many characters to keep of a text whose end is cut off for a pattern. -/
def keptLength? (longest : Bool) (pattern : List Marked) (text : List Char) : Option Nat :=
  let lengths := List.range (text.length + 1)
  (if longest then lengths else lengths.reverse).find? fun n => accepts pattern (text.drop n)

end Pattern

end Offspring.Shell
