/-!
# JSON values and their two written forms

`Value.compact` writes a value on one line without blanks, `Value.pretty` over several lines with two
blanks per level. Both escape the same characters: the quote, the backslash and the controls, five of
which have a letter; all other characters stand for themselves.
-/

namespace Offspring.Json

/-- A JSON value; the members of an object keep their order. -/
inductive Value where
  | null
  | bool (b : Bool)
  | number (n : Int)
  | string (s : String)
  | list (items : List Value)
  | object (members : List (String × Value))

/-- One character of a string in its written form. -/
def escapeChar (c : Char) : List Char :=
  if c = '"' then ['\\', '"']
  else if c = '\\' then ['\\', '\\']
  else if c = '\x08' then ['\\', 'b']
  else if c = '\x0c' then ['\\', 'f']
  else if c = '\n' then ['\\', 'n']
  else if c = '\r' then ['\\', 'r']
  else if c = '\t' then ['\\', 't']
  else if c.toNat < 0x20 then
    ['\\', 'u', '0', '0'] ++ [Nat.digitChar (c.toNat / 16), Nat.digitChar (c.toNat % 16)]
  else [c]

/-- A string between quotes. -/
def writeString (s : String) : List Char :=
  '"' :: s.toList.flatMap escapeChar ++ ['"']

/-- A number in decimal. -/
def writeNumber (n : Int) : List Char :=
  if n < 0 then '-' :: Nat.toDigits 10 n.natAbs else Nat.toDigits 10 n.natAbs

/-- A truth value. -/
def writeBool (b : Bool) : List Char :=
  (if b then "true" else "false").toList

mutual

/-- A value on one line. -/
def Value.write : Value → List Char
  | .null => "null".toList
  | .bool b => writeBool b
  | .number n => writeNumber n
  | .string s => writeString s
  | .list items => '[' :: writeItems items ++ [']']
  | .object members => '\x7b' :: writeMembers members ++ ['\x7d']

/-- The items of a list with commas between them. -/
def writeItems : List Value → List Char
  | [] => []
  | [v] => v.write
  | v :: rest => v.write ++ ',' :: writeItems rest

/-- The members of an object with commas between them. -/
def writeMembers : List (String × Value) → List Char
  | [] => []
  | [(name, v)] => writeString name ++ ':' :: v.write
  | (name, v) :: rest => writeString name ++ ':' :: (v.write ++ ',' :: writeMembers rest)

end

/-- The one-line form. -/
def Value.compact (v : Value) : String :=
  String.ofList v.write

/-- A new line at a level of indentation. -/
def newLine (level : Nat) : List Char :=
  '\n' :: List.replicate (2 * level) ' '

mutual

/-- A value over several lines, at a level of indentation; empty lists and objects stay on one. -/
def Value.layOut (level : Nat) : Value → List Char
  | .list [] => ['[', ']']
  | .list items => '[' :: layOutItems (level + 1) items ++ newLine level ++ [']']
  | .object [] => ['\x7b', '\x7d']
  | .object members => '\x7b' :: layOutMembers (level + 1) members ++ newLine level ++ ['\x7d']
  | .null => "null".toList
  | .bool b => writeBool b
  | .number n => writeNumber n
  | .string s => writeString s

/-- The items of a list, one a line. -/
def layOutItems (level : Nat) : List Value → List Char
  | [] => []
  | [v] => newLine level ++ v.layOut level
  | v :: rest => newLine level ++ v.layOut level ++ ',' :: layOutItems level rest

/-- The members of an object, one a line. -/
def layOutMembers (level : Nat) : List (String × Value) → List Char
  | [] => []
  | [(name, v)] => newLine level ++ writeString name ++ ':' :: ' ' :: v.layOut level
  | (name, v) :: rest =>
    newLine level ++ writeString name ++ ':' :: ' ' :: (v.layOut level ++ ',' :: layOutMembers level rest)

end

/-- The form over several lines. -/
def Value.pretty (v : Value) : String :=
  String.ofList (v.layOut 0)

end Offspring.Json
