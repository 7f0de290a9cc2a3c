/-!
# Reading octets as text

`Text.lossy` reads a sequence of octets as UTF-8 and never fails: every maximal part that cannot be
completed to a character becomes one U+FFFD. The reader is a machine fed one octet at a time. Between
characters it holds nothing; inside one it holds how many octets are still owed and which range the
next one must lie in, so the ranges of the standard (no overlong form, no surrogate, nothing above
U+10FFFF) are exactly the machine's transitions.

`Text.strict?` is the refusing reader: it answers only for octets that are UTF-8 throughout.
-/

namespace Offspring.Text

/-- A character that has begun: the octets still owed, the range of the next one, and the bits so far. -/
structure Begun where
  owed : Nat
  low : UInt8
  high : UInt8
  bits : Nat

/-- What a first octet says. -/
inductive Lead where
  /-- It is a character by itself. -/
  | whole (c : Char)
  /-- It begins a longer character. -/
  | begins (b : Begun)
  /-- No character begins with it. -/
  | stray

/-- The character that stands for octets that are not text. -/
def replacement : Char := '\uFFFD'

/-- The first octet of a character, by the ranges of the standard. -/
def lead (b : UInt8) : Lead :=
  if b < 0x80 then .whole (Char.ofNat b.toNat)
  else if b < 0xC2 then .stray
  else if b < 0xE0 then .begins ⟨1, 0x80, 0xBF, b.toNat - 0xC0⟩
  else if b = 0xE0 then .begins ⟨2, 0xA0, 0xBF, 0⟩
  else if b = 0xED then .begins ⟨2, 0x80, 0x9F, 0xD⟩
  else if b < 0xF0 then .begins ⟨2, 0x80, 0xBF, b.toNat - 0xE0⟩
  else if b = 0xF0 then .begins ⟨3, 0x90, 0xBF, 0⟩
  else if b < 0xF4 then .begins ⟨3, 0x80, 0xBF, b.toNat - 0xF0⟩
  else if b = 0xF4 then .begins ⟨3, 0x80, 0x8F, 4⟩
  else .stray

/-- An octet met between characters: what is written, and what has begun. -/
def feedFirst (b : UInt8) : List Char × Option Begun :=
  match lead b with
  | .whole c => ([c], none)
  | .begins g => ([], some g)
  | .stray => ([replacement], none)

/-- One octet. An octet that does not continue the character begun ends it with one replacement
and is then read as a first octet. -/
def feed : Option Begun → UInt8 → List Char × Option Begun
  | none, b => feedFirst b
  | some g, b =>
    if g.low ≤ b ∧ b ≤ g.high then
      let bits := g.bits * 64 + (b.toNat - 0x80)
      if g.owed ≤ 1 then ([Char.ofNat bits], none)
      else ([], some ⟨g.owed - 1, 0x80, 0xBF, bits⟩)
    else
      let (written, begun) := feedFirst b
      (replacement :: written, begun)

/-- All octets, from a given state; a character left unfinished is one replacement. -/
def lossyFrom : Option Begun → List UInt8 → List Char
  | none, [] => []
  | some _, [] => [replacement]
  | state, b :: rest =>
    let (written, begun) := feed state b
    written ++ lossyFrom begun rest

/-- Octets as text, one replacement character for each maximal part that is not. -/
def lossy (bytes : ByteArray) : String :=
  match String.fromUTF8? bytes with
  | some s => s
  | none => String.ofList (lossyFrom none bytes.toList)

/-- Octets as text, if they are UTF-8 throughout. -/
def strict? (bytes : ByteArray) : Option String :=
  String.fromUTF8? bytes

end Offspring.Text
