import Offspring.Text.Quoted

/-!
# Numbers on the command line

Digits of a base with an optional plus sign, read into a word. A character that is no digit is found before
the number is too large. Masks are octal and may carry the letters `0o` in front, any number of times.
-/

namespace Offspring.Run

/-- Why a text is no number. -/
inductive NumberFault where
  | empty
  | invalidDigit
  | tooLarge
  deriving DecidableEq

/-- The wording of a fault. -/
def NumberFault.message : NumberFault → String
  | .empty => "cannot parse integer from empty string"
  | .invalidDigit => "invalid digit found in string"
  | .tooLarge => "number too large to fit in target type"

/-- The value of a decimal digit, if it is one of a base. -/
def digitOf? (base : Nat) (c : Char) : Option Nat :=
  if c.isDigit && c.toNat - '0'.toNat < base then some (c.toNat - '0'.toNat) else none

/-- Reads digits behind a value that has been read, all values below a bound. -/
def readDigits (base bound : Nat) : Nat → List Char → Except NumberFault Nat
  | n, [] => .ok n
  | n, c :: rest =>
    match digitOf? base c with
    | none => .error .invalidDigit
    | some d =>
      if n * base + d < bound then readDigits base bound (n * base + d) rest else .error .tooLarge

/-- Reads a number below a bound. -/
def readNumber (base bound : Nat) (text : List Char) : Except NumberFault Nat :=
  match text with
  | [] => .error .empty
  | ['+'] => .error .invalidDigit
  | '+' :: digits => readDigits base bound 0 digits
  | digits => readDigits base bound 0 digits

/-- Reads a number of seconds: a word of 64 bits. -/
def readSeconds (text : String) : Except NumberFault Nat :=
  readNumber 10 0x10000000000000000 text.toList

/-- A text without the letters `0o` at its front. -/
def dropOctalMarks : List Char → List Char
  | '0' :: 'o' :: rest => dropOctalMarks rest
  | text => text

/-- Why a text is no mask. -/
inductive MaskFault where
  | noNumber (text : String) (fault : NumberFault)
  | outOfRange (text : String)
  deriving DecidableEq

/-- The wording of a fault. -/
def MaskFault.message : MaskFault → String
  | .noNumber text fault => "invalid octal umask " ++ Text.quoted text ++ ": " ++ fault.message
  | .outOfRange text => "umask " ++ text ++ " is out of range"

/-- The greatest mask. -/
def greatestMask : Nat := 0o777

/-- Reads a mask for new files. -/
def readMask (text : String) : Except MaskFault Nat :=
  match readNumber 8 0x100000000 (dropOctalMarks text.toList) with
  | .error fault => .error (.noNumber text fault)
  | .ok mask => if greatestMask < mask then .error (.outOfRange text) else .ok mask

/-- A mask as it is read. -/
def maskText (mask : Nat) : String :=
  String.ofList (Nat.toDigits 8 mask)

end Offspring.Run
