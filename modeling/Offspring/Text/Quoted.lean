import Offspring.Text.Quoted.Hidden

/-!
# Quoted text in messages

A text is quoted so that every character of it can be seen: the quote and the backslash take a
backslash, five controls have a letter, and every other character that does not show by itself is
written by its code point.
-/

namespace Offspring.Text

/-- Whether a character leaves no mark of its own. -/
def isHidden (c : Char) : Bool :=
  let v := c.toNat
  let table :=
    if v < 0x3000 then hiddenBelow3000 else if v < 0x10000 then hiddenBelow10000 else hiddenAbove
  table.any fun (first, last) => first ≤ v && v ≤ last

/-- The lower-case hexadecimal digits of a number, without leading zeros. -/
def hexDigits (n : Nat) : List Char :=
  Nat.toDigits 16 n

/-- One character between quotes. -/
def quoteChar (c : Char) : List Char :=
  if c = '\x00' then ['\\', '0']
  else if c = '\t' then ['\\', 't']
  else if c = '\r' then ['\\', 'r']
  else if c = '\n' then ['\\', 'n']
  else if c = '\\' then ['\\', '\\']
  else if c = '"' then ['\\', '"']
  else if ' ' ≤ c ∧ c ≤ '~' then [c]
  else if isHidden c then ['\\', 'u', '\x7b'] ++ hexDigits c.toNat ++ ['\x7d']
  else [c]

/-- A text between quotes, with all that does not show made visible. -/
def quoted (s : String) : String :=
  String.ofList ('"' :: s.toList.flatMap quoteChar ++ ['"'])

end Offspring.Text
