import Offspring.OsString

/-!
# Octets as characters

Programs that work on octets read more easily as programs on characters. Here each octet is the
character with its number.
-/

namespace Offspring.Text

/-- The character of an octet. -/
def charOfOctet (b : UInt8) : Char :=
  Char.ofNat b.toNat

/-- The octet of a character; characters that stand for none lose what is above. -/
def octetOfChar (c : Char) : UInt8 :=
  c.toNat.toUInt8

/-- Octets as characters. -/
def chars (octets : ByteArray) : List Char :=
  octets.toList.map charOfOctet

/-- The octets that characters stand for. -/
def octets (text : List Char) : ByteArray :=
  ⟨(text.map octetOfChar).toArray⟩

/-- The characters for the octets of a text. -/
def charsOf (text : String) : List Char :=
  chars text.toUTF8

/-- The value of decimal digits. -/
def decimal (digits : List Char) : Nat :=
  digits.foldl (fun n c => n * 10 + (c.toNat - '0'.toNat)) 0

/-- The value of a digit in bases up to sixteen. -/
def digitValue? (c : Char) : Option Nat :=
  if c.isDigit then some (c.toNat - '0'.toNat)
  else if 'a' ≤ c && c ≤ 'f' then some (c.toNat - 'a'.toNat + 10)
  else if 'A' ≤ c && c ≤ 'F' then some (c.toNat - 'A'.toNat + 10)
  else none

/-- The value of the digits of a base at the front of a text, and the rest. -/
def leadingNumber (base : Nat) : Nat → List Char → Nat × List Char
  | n, [] => (n, [])
  | n, c :: rest =>
    match (digitValue? c).filter (· < base) with
    | some d => leadingNumber base (n * base + d) rest
    | none => (n, c :: rest)

end Offspring.Text
