import Offspring.Text.Octets

/-!
# Names in complaints

Tools put a name into quotes when they complain about it: always, or only if a shell would not take the name
as it is. Octets that cannot be printed are written as escapes. `quoted` follows the quotes of a shell,
`escaped` always has the same quotes around a name.
-/

namespace Offspring.Utility

/-- When a name is put into quotes. -/
inductive Quoting where
  | always
  | ifNeeded
  deriving DecidableEq

namespace Quoting

/-- Whether an octet can be printed. -/
def isPrintable (c : Char) : Bool :=
  ' ' ≤ c && c ≤ '~'

/-- What follows the backslash of an escape. -/
def escape (c : Char) : List Char :=
  match c with
  | '\x07' => ['a']
  | '\x08' => ['b']
  | '\t' => ['t']
  | '\n' => ['n']
  | '\x0b' => ['v']
  | '\x0c' => ['f']
  | '\r' => ['r']
  | c =>
    let digits := Nat.toDigits 8 c.toNat
    List.replicate (3 - digits.length) '0' ++ digits

/-- The characters that a shell does not take as they are, wherever they stand. -/
def isSpecial (c : Char) : Bool :=
  " !\"$&'()*:;<=>?[\\^\x60|".toList.contains c || !isPrintable c

/-- Whether a shell would not take a name as it is. -/
def isNeeded (name : List Char) : Bool :=
  name.isEmpty || name = ['\x7b'] || name = ['\x7d'] || name.head? = some '#' || name.head? = some '~' ||
    name.any isSpecial

/-- Whether a character can stand in double quotes, whatever reads them. -/
def fitsDoubleQuotes (c : Char) : Bool :=
  c.isAlphanum || "%+,-./:]_\x7b\x7d '".toList.contains c

/-- Whether double quotes are the shorter way to quote a name. -/
def prefersDoubleQuotes (name : List Char) : Bool :=
  name.contains '\'' && (name.drop 1).all fitsDoubleQuotes &&
    name.head?.all fun c => fitsDoubleQuotes c || c = '#' || c = '~'

/-- A name within single quotes. `isEscaping` says whether an escape has just been written, whose quotes are
still open. -/
def inSingleQuotes (isEscaping : Bool) : List Char → List Char
  | [] => []
  | c :: rest =>
    if !isPrintable c then
      (if isEscaping then [] else "'$'".toList) ++ '\\' :: escape c ++ inSingleQuotes true rest
    else
      (if isEscaping then "''".toList else []) ++
        (if c = '\'' then "'\\''".toList else [c]) ++ inSingleQuotes false rest

end Quoting

/-- A name with the quotes of a shell. -/
def quoted (policy : Quoting) (name : List Char) : String :=
  if policy = .ifNeeded && !Quoting.isNeeded name then String.ofList name
  else if Quoting.prefersDoubleQuotes name then String.ofList ('"' :: name ++ ['"'])
  else String.ofList ('\'' :: Quoting.inSingleQuotes false name ++ ['\''])

/-- A name in single quotes, with a backslash in front of all that would not stand for itself. -/
def escaped (name : List Char) : String :=
  String.ofList ('\'' :: name.flatMap (fun c =>
    if c = '\'' || c = '\\' then ['\\', c]
    else if Quoting.isPrintable c then [c]
    else '\\' :: Quoting.escape c) ++ ['\''])

end Offspring.Utility
