import Offspring.Json.Error

/-!
# Scanning JSON text

The lexical level: blanks, strings, numbers, and `skipValue`, which passes over one whole value without
keeping it. Every scanner takes the text that is left and gives back what follows. Of two faults the
one met first in the text is reported.

A skipped value is only scanned: lone surrogates and numbers of any size pass there, while a string or
a number that is read must denote a text or a double.
-/

namespace Offspring.Json

/-- A scanner of the text that is left, which may refuse it. -/
abbrev Scan (α : Type) := List Char → Except Error (α × List Char)

/-- Whether a character may stand between tokens. -/
def isBlank (c : Char) : Bool :=
  c = ' ' || c = '\n' || c = '\t' || c = '\r'

/-- The text after its leading blanks. -/
def skipBlanks (text : List Char) : List Char :=
  text.dropWhile isBlank

/-- The text after the given letters. -/
def expectWord : List Char → List Char → Except Error (List Char)
  | [], text => .ok text
  | _ :: _, [] => .error (.ends .value)
  | w :: word, c :: text => if w = c then expectWord word text else .error (.malformed .expectedIdent)

/-- The value of a hexadecimal digit. -/
def hexValue? (c : Char) : Option Nat :=
  if '0' ≤ c ∧ c ≤ '9' then some (c.toNat - '0'.toNat)
  else if 'a' ≤ c ∧ c ≤ 'f' then some (c.toNat - 'a'.toNat + 10)
  else if 'A' ≤ c ∧ c ≤ 'F' then some (c.toNat - 'A'.toNat + 10)
  else none

/-- Four hexadecimal digits. With fewer than four octets left the text has ended too early; else a
character that is no digit makes the escape invalid. -/
def hexEscape (text : List Char) : Except Error (Nat × List Char) :=
  match text with
  | a :: b :: c :: d :: rest =>
    match hexValue? a, hexValue? b, hexValue? c, hexValue? d with
    | some a, some b, some c, some d => .ok (((a * 16 + b) * 16 + c) * 16 + d, rest)
    | _, _, _, _ => .error (.malformed .invalidEscape)
  | short =>
    if (short.map Char.utf8Size).foldr (· + ·) 0 < 4 then .error (.ends .string)
    else .error (.malformed .invalidEscape)

/-- The character of an escape of one letter. -/
def letterEscape? (c : Char) : Option Char :=
  if c = '"' ∨ c = '\\' ∨ c = '/' then some c
  else if c = 'b' then some '\x08'
  else if c = 'f' then some '\x0c'
  else if c = 'n' then some '\n'
  else if c = 'r' then some '\r'
  else if c = 't' then some '\t'
  else none

/-- The rest of an escape by code units, after its letter: a pair of surrogates is one character, and
a surrogate without its partner is refused. -/
def unicodeEscape (text : List Char) : Except Error (Char × List Char) := do
  let (high, text) ← hexEscape text
  if 0xDC00 ≤ high ∧ high ≤ 0xDFFF then .error (.malformed .loneSurrogate)
  else if high < 0xD800 ∨ 0xDBFF < high then .ok (Char.ofNat high, text)
  else
    match text with
    | [] => .error (.ends .string)
    | '\\' :: [] => .error (.ends .string)
    | '\\' :: 'u' :: text =>
      let (low, text) ← hexEscape text
      if low < 0xDC00 ∨ 0xDFFF < low then .error (.malformed .loneSurrogate)
      else .ok (Char.ofNat (0x10000 + (high - 0xD800) * 0x400 + (low - 0xDC00)), text)
    | _ => .error (.malformed .unexpectedEndOfHexEscape)

/-- How many characters, besides those counted before, a string has after its opening quote, with the
closing one. -/
def stringExtent (count : Nat) : List Char → Nat
  | [] => count
  | '"' :: _ => count + 1
  | '\\' :: _ :: rest => stringExtent (count + 2) rest
  | _ :: rest => stringExtent (count + 1) rest

/-- The characters of a string after its opening quote, up to the closing one. -/
def stringBody : Nat → List Char → List Char → Except Error (String × List Char)
  | 0, _, _ => .error (.ends .string)
  | fuel + 1, read, text =>
    match text with
    | [] => .error (.ends .string)
    | '"' :: rest => .ok (String.ofList read.reverse, rest)
    | '\\' :: [] => .error (.ends .string)
    | '\\' :: 'u' :: rest => do
      let (c, rest) ← unicodeEscape rest
      stringBody fuel (c :: read) rest
    | '\\' :: e :: rest =>
      match letterEscape? e with
      | some c => stringBody fuel (c :: read) rest
      | none => .error (.malformed .invalidEscape)
    | c :: rest =>
      if c.toNat < 0x20 then .error (.malformed .controlCharacter)
      else stringBody fuel (c :: read) rest

/-- A string after its opening quote. -/
def scanString (text : List Char) : Except Error (String × List Char) :=
  stringBody (stringExtent 1 text) [] text

/-- Passes over a string after its opening quote; an escape by code units may be any. -/
def skipStringBody : Nat → List Char → Except Error (List Char)
  | 0, _ => .error (.ends .string)
  | fuel + 1, text =>
    match text with
    | [] => .error (.ends .string)
    | '"' :: rest => .ok rest
    | '\\' :: [] => .error (.ends .string)
    | '\\' :: 'u' :: rest => do
      let (_, rest) ← hexEscape rest
      skipStringBody fuel rest
    | '\\' :: e :: rest =>
      if (letterEscape? e).isSome then skipStringBody fuel rest
      else .error (.malformed .invalidEscape)
    | c :: rest =>
      if c.toNat < 0x20 then .error (.malformed .controlCharacter) else skipStringBody fuel rest

/-- Passes over a string after its opening quote. -/
def skipString (text : List Char) : Except Error (List Char) :=
  skipStringBody (stringExtent 1 text) text

/-- Passes over the digits of an exponent after its letter. -/
def skipExponent (text : List Char) : Except Error (List Char) :=
  let text := match text with
    | '+' :: rest => rest
    | '-' :: rest => rest
    | _ => text
  match text with
  | c :: rest =>
    if c.isDigit then .ok (rest.dropWhile Char.isDigit) else .error (.malformed .invalidNumber)
  | [] => .error (.malformed .invalidNumber)

/-- Passes over what may follow the whole part of a number. -/
def skipFraction (text : List Char) : Except Error (List Char) :=
  match text with
  | '.' :: rest =>
    let after := rest.dropWhile Char.isDigit
    if after.length = rest.length then .error (.malformed .invalidNumber)
    else
      match after with
      | 'e' :: rest => skipExponent rest
      | 'E' :: rest => skipExponent rest
      | _ => .ok after
  | 'e' :: rest => skipExponent rest
  | 'E' :: rest => skipExponent rest
  | _ => .ok text

/-- Passes over a number without its sign. -/
def skipNumber (text : List Char) : Except Error (List Char) :=
  match text with
  | '0' :: rest =>
    match rest with
    | c :: _ => if c.isDigit then .error (.malformed .invalidNumber) else skipFraction rest
    | [] => .ok []
  | c :: rest =>
    if c.isDigit then skipFraction (rest.dropWhile Char.isDigit)
    else .error (.malformed .invalidNumber)
  | [] => .error (.malformed .invalidNumber)

mutual

/-- Passes over one value. -/
def skipValueIn : Nat → List Char → Except Error (List Char)
  | 0, _ => .error (.ends .value)
  | fuel + 1, text =>
    match skipBlanks text with
    | [] => .error (.ends .value)
    | 'n' :: rest => expectWord "ull".toList rest
    | 't' :: rest => expectWord "rue".toList rest
    | 'f' :: rest => expectWord "alse".toList rest
    | '"' :: rest => skipString rest
    | '-' :: rest => skipNumber rest
    | '[' :: rest => skipItems fuel true rest
    | '\x7b' :: rest => skipMembers fuel true rest
    | c :: rest =>
      if c.isDigit then skipNumber (c :: rest) else .error (.malformed .expectedValue)

/-- Passes over the items of a list, up to and with its end. -/
def skipItems : Nat → Bool → List Char → Except Error (List Char)
  | 0, _, _ => .error (.ends .list)
  | fuel + 1, atFirst, text =>
    match skipBlanks text with
    | [] => .error (.ends .list)
    | ']' :: rest => .ok rest
    | c :: rest =>
      if atFirst then do
        let rest ← skipValueIn fuel (c :: rest)
        skipItems fuel false rest
      else if c = ',' then do
        let rest ← skipValueIn fuel rest
        skipItems fuel false rest
      else .error (.malformed .expectedListCommaOrEnd)

/-- Passes over the members of an object, up to and with its end. -/
def skipMembers : Nat → Bool → List Char → Except Error (List Char)
  | 0, _, _ => .error (.ends .object)
  | fuel + 1, atFirst, text =>
    match skipBlanks text with
    | [] => .error (.ends .object)
    | '\x7d' :: rest => .ok rest
    | c :: rest =>
      if atFirst then skipMember fuel (c :: rest)
      else if c = ',' then skipMember fuel rest
      else .error (.malformed .expectedObjectCommaOrEnd)

/-- Passes over one member and those after it. -/
def skipMember : Nat → List Char → Except Error (List Char)
  | 0, _ => .error (.ends .object)
  | fuel + 1, text =>
    match skipBlanks text with
    | [] => .error (.ends .object)
    | '"' :: rest => do
      let rest ← skipString rest
      match skipBlanks rest with
      | [] => .error (.ends .object)
      | ':' :: rest => do
        let rest ← skipValueIn fuel rest
        skipMembers fuel false rest
      | _ => .error (.malformed .expectedColon)
    | _ => .error (.malformed .keyMustBeString)

end

/-- Passes over one value. -/
def skipValue (text : List Char) : Except Error (List Char) :=
  skipValueIn (3 * text.length + 3) text

end Offspring.Json
