import Offspring.Decimal.Shortest

/-!
# The text of a floating-point number in messages

The digits are the fewest that read back. A number from `10 ^ -5` up to `10 ^ 16` is written
positionally, with a point and at least one digit after it; any other has one digit before the point
and an exponent with its sign and at least two digits.
-/

namespace Offspring.Decimal

/-- How a number is laid out around its digits. -/
structure FloatLayout where
  /-- The least power of ten whose numbers are written positionally. -/
  leastPlain : Int
  /-- The greatest one. -/
  greatestPlain : Int
  /-- The least number of digits of an exponent. -/
  exponentWidth : Nat

/-- The layout of numbers in messages. -/
def messageLayout : FloatLayout := ⟨-5, 15, 2⟩

/-- Decimal digits with zeros in front up to a width. -/
def padded (width n : Nat) : List Char :=
  let ds := Nat.toDigits 10 n
  List.replicate (width - ds.length) '0' ++ ds

/-- The text of a positive decimal number. -/
def FloatLayout.write (l : FloatLayout) (d : Scaled) : List Char :=
  let ds := Nat.toDigits 10 d.digits
  let power : Int := d.scale + (ds.length : Int) - 1
  if d.digits = 0 then ['0', '.', '0']
  else if l.leastPlain ≤ power ∧ power ≤ l.greatestPlain then
    if power < 0 then '0' :: '.' :: List.replicate (-power - 1).toNat '0' ++ ds
    else if 0 ≤ d.scale then ds ++ List.replicate d.scale.toNat '0' ++ ['.', '0']
    else ds.take (power + 1).toNat ++ '.' :: ds.drop (power + 1).toNat
  else
    let fraction := ds.drop 1
    ds.take 1 ++ (if fraction.isEmpty then [] else '.' :: fraction) ++
      'e' :: (if power < 0 then '-' else '+') :: padded l.exponentWidth power.natAbs

/-- The text of a finite double. -/
def floatText (x : Float) : String :=
  let bits := x.toBits
  let sign := if bits ≥ 0x8000000000000000 then ['-'] else []
  String.ofList (sign ++ messageLayout.write (shortest (Binary.ofBits bits)))

end Offspring.Decimal
