import Offspring.Json.Scan

/-!
# Numbers of a JSON text

Digits are gathered in an unsigned word of 64 bits for as long as they fit. A number without point and
exponent that fits is whole; every other one is a double, made from the gathered digits and a power of
ten by one multiplication or division, so that it can differ in the last bit from the nearest double.
Minus zero and what does not fit 64 bits are doubles too.
-/

namespace Offspring.Json

/-- The greatest unsigned word. -/
def wordMax : Nat := 0xFFFFFFFFFFFFFFFF

/-- The greatest exponent that can be gathered. -/
def exponentMax : Nat := 0x7FFFFFFF

/-- A power of ten as a double. -/
def tenTo (n : Nat) : Float :=
  Float.ofScientific 1 false n

/-- Scales a double by a power of ten, in steps of at most `10 ^ 308`. A double beyond the range is
refused. -/
def scaleBy : Nat → Float → Int → Except Error Float
  | 0, x, _ => .ok x
  | fuel + 1, x, exponent =>
    if exponent.natAbs ≤ 308 then
      if 0 ≤ exponent then
        let y := x * tenTo exponent.natAbs
        if y.isInf then .error (.malformed .numberOutOfRange) else .ok y
      else .ok (x / tenTo exponent.natAbs)
    else if x == 0.0 then .ok x
    else if 0 ≤ exponent then .error (.malformed .numberOutOfRange)
    else scaleBy fuel (x / 1e308) (exponent + 308)

/-- The double of some digits and a power of ten. -/
def makeReal (positive : Bool) (digits : Nat) (exponent : Int) : Except Error Float := do
  let x ← scaleBy 10 digits.toUInt64.toFloat exponent
  .ok (if positive then x else -x)

/-- Keeps an exponent within 32 bits. -/
def clampExponent (e : Int) : Int :=
  max (-0x80000000) (min 0x7FFFFFFF e)

/-- Gathers the digits of an exponent. It stops before a digit that would not fit. -/
def exponentDigits : Nat → List Char → Nat × List Char × Bool
  | e, [] => (e, [], true)
  | e, c :: rest =>
    if c.isDigit then
      let e' := e * 10 + (c.toNat - '0'.toNat)
      if e' ≤ exponentMax then exponentDigits e' rest else (e, rest, false)
    else (e, c :: rest, true)

/-- A double whose exponent's letter has been passed. -/
def scanExponent (positive : Bool) (digits : Nat) (start : Int) (text : List Char) :
    Except Error (Float × List Char) :=
  let (up, text) := match text with
    | '+' :: rest => (true, rest)
    | '-' :: rest => (false, rest)
    | _ => (true, text)
  match text with
  | [] => .error (.ends .value)
  | c :: rest =>
    if c.isDigit then
      let (e, rest, fits) := exponentDigits (c.toNat - '0'.toNat) rest
      if fits then do
        let x ← makeReal positive digits (clampExponent (if up then start + e else start - e))
        .ok (x, rest)
      else if digits ≠ 0 ∧ up then .error (.malformed .numberOutOfRange)
      else .ok (if positive then 0.0 else -0.0, rest.dropWhile Char.isDigit)
    else .error (.malformed .invalidNumber)

/-- Gathers digits after the point: the digits so far, how many were taken, and whether all fit. -/
def fractionDigits : Nat → Nat → List Char → Nat × Nat × List Char × Bool
  | digits, taken, [] => (digits, taken, [], true)
  | digits, taken, c :: rest =>
    if c.isDigit then
      let more := digits * 10 + (c.toNat - '0'.toNat)
      if more ≤ wordMax then fractionDigits more (taken + 1) rest
      else (digits, taken, c :: rest, false)
    else (digits, taken, c :: rest, true)

/-- A double whose point has been passed; `start` is the power of ten of the digits so far. -/
def scanFraction (positive : Bool) (digits : Nat) (start : Int) (text : List Char) :
    Except Error (Float × List Char) :=
  let (digits, taken, rest, fits) := fractionDigits digits 0 text
  let exponent := start - taken
  if fits ∧ taken = 0 then
    match rest with
    | [] => .error (.ends .value)
    | _ => .error (.malformed .invalidNumber)
  else
    let rest := if fits then rest else rest.dropWhile Char.isDigit
    match rest with
    | 'e' :: rest => scanExponent positive digits exponent rest
    | 'E' :: rest => scanExponent positive digits exponent rest
    | _ => do .ok (← makeReal positive digits exponent, rest)

/-- The rest of a number whose whole part does not fit: every further digit is a power of ten. -/
def scanLong (positive : Bool) (digits : Nat) (text : List Char) : Except Error (Float × List Char) :=
  let rest := text.dropWhile Char.isDigit
  let exponent : Int := text.length - rest.length
  match rest with
  | '.' :: rest => scanFraction positive digits exponent rest
  | 'e' :: rest => scanExponent positive digits exponent rest
  | 'E' :: rest => scanExponent positive digits exponent rest
  | _ => do .ok (← makeReal positive digits exponent, rest)

/-- A number whose whole part has been gathered. -/
def afterWhole (positive : Bool) (digits : Nat) (text : List Char) :
    Except Error (Number × List Char) :=
  match text with
  | '.' :: rest => do
    let (x, rest) ← scanFraction positive digits 0 rest
    .ok (.real x, rest)
  | 'e' :: rest => do
    let (x, rest) ← scanExponent positive digits 0 rest
    .ok (.real x, rest)
  | 'E' :: rest => do
    let (x, rest) ← scanExponent positive digits 0 rest
    .ok (.real x, rest)
  | _ =>
    if positive then .ok (.unsigned digits, text)
    else if digits = 0 ∨ 0x8000000000000000 < digits then
      .ok (.real (-digits.toUInt64.toFloat), text)
    else .ok (.negative (-(digits : Int)), text)

/-- Gathers the whole part of a number. -/
def wholeDigits (positive : Bool) : Nat → List Char → Except Error (Number × List Char)
  | digits, [] => afterWhole positive digits []
  | digits, c :: rest =>
    if c.isDigit then
      let more := digits * 10 + (c.toNat - '0'.toNat)
      if more ≤ wordMax then wholeDigits positive more rest
      else do
        let (x, rest) ← scanLong positive digits (c :: rest)
        .ok (.real x, rest)
    else afterWhole positive digits (c :: rest)

/-- A number without its sign. -/
def scanNumber (positive : Bool) (text : List Char) : Except Error (Number × List Char) :=
  match text with
  | [] => .error (.ends .value)
  | '0' :: rest =>
    match rest with
    | c :: _ => if c.isDigit then .error (.malformed .invalidNumber) else afterWhole positive 0 rest
    | [] => afterWhole positive 0 []
  | c :: rest =>
    if c.isDigit then wholeDigits positive (c.toNat - '0'.toNat) rest
    else .error (.malformed .invalidNumber)

end Offspring.Json
