/-!
# The fewest digits that read back

A finite double is `mantissa · 2 ^ exponent`, and the reals that round to it form an interval around
it, with the ends included exactly for an even mantissa. `Decimal.shortest` looks at the decimal grids
from coarse to fine and takes the first that has a point in the interval; of two such points it takes
the nearer. All comparisons are exact, over natural numbers.
-/

namespace Offspring.Decimal

/-- A positive finite double, exactly. -/
structure Binary where
  mantissa : Nat
  exponent : Int
  /-- The next double below lies only half as far as the next one above. -/
  narrowBelow : Bool

/-- The exact value of the positive finite double with these bits; the sign bit is ignored. -/
def Binary.ofBits (bits : UInt64) : Binary :=
  let fraction : Nat := bits.toNat % 0x10000000000000
  let biased : Nat := bits.toNat / 0x10000000000000 % 0x800
  if biased = 0 then ⟨fraction, -1074, false⟩
  else ⟨0x10000000000000 + fraction, (biased : Int) - 1075, fraction = 0 ∧ 1 < biased⟩

/-- A decimal number `digits · 10 ^ scale`. -/
structure Scaled where
  digits : Nat
  scale : Int
  deriving DecidableEq

/-- The powers of a base that move a number by an exponent: one for the numerator, one for the
denominator. -/
def powers (base : Nat) (exponent : Int) : Nat × Nat :=
  if 0 ≤ exponent then (base.pow exponent.toNat, 1) else (1, base.pow (-exponent).toNat)

/-- The interval of reals that round to a double, over one denominator, in quarters of its last bit. -/
structure Interval where
  low : Nat
  value : Nat
  high : Nat
  unit : Nat
  closed : Bool

/-- The interval of a double. -/
def Binary.interval (b : Binary) : Interval :=
  let (num, den) := powers 2 (b.exponent - 2)
  { low := (4 * b.mantissa - (if b.narrowBelow then 1 else 2)) * num
    value := 4 * b.mantissa * num
    high := (4 * b.mantissa + 2) * num
    unit := den
    closed := b.mantissa % 2 = 0 }

/-- Whether `digits · 10 ^ scale` rounds to the double. -/
def Interval.contains (i : Interval) (d : Scaled) : Bool :=
  let (num, den) := powers 10 d.scale
  let x := d.digits * num * i.unit
  if i.closed then i.low * den ≤ x && x ≤ i.high * den
  else i.low * den < x && x < i.high * den

/-- The double's distance from a decimal number, over a denominator that depends on the scale alone. -/
def Interval.distance (i : Interval) (d : Scaled) : Nat :=
  let (num, den) := powers 10 d.scale
  let x := d.digits * num * i.unit
  let v := i.value * den
  if x ≤ v then v - x else x - v

/-- The last point of a decimal grid at or below the double. -/
def Interval.below (i : Interval) (scale : Int) : Nat :=
  let (num, den) := powers 10 scale
  i.value * den / (num * i.unit)

/-- The best point of one decimal grid, if one lies in the interval. -/
def Interval.onGrid? (i : Interval) (scale : Int) : Option Scaled :=
  let down : Scaled := ⟨i.below scale, scale⟩
  let up : Scaled := ⟨i.below scale + 1, scale⟩
  match i.contains down, i.contains up with
  | false, false => none
  | true, false => some down
  | false, true => some up
  | true, true => some (if i.distance up < i.distance down then up else down)

/-- The first of a number of grids, each ten times finer, that has a point in the interval. -/
def Interval.search (i : Interval) (scale : Int) : Nat → Scaled
  | 0 => ⟨i.below scale, scale⟩
  | n + 1 => (i.onGrid? scale).getD (i.search (scale - 1) n)

/-- Drops the final zeros of a decimal number; `fuel` bounds how many. -/
def Scaled.trim (d : Scaled) : Nat → Scaled
  | 0 => d
  | n + 1 => if d.digits ≠ 0 ∧ d.digits % 10 = 0 then trim ⟨d.digits / 10, d.scale + 1⟩ n else d

/-- The decimal number with the fewest digits that rounds to the double, the nearest of those. -/
def shortest (b : Binary) : Scaled :=
  if b.mantissa = 0 then ⟨0, 0⟩
  else
    let i := b.interval
    let whole := i.value / i.unit
    let start : Int := if whole = 0 then 0 else (Nat.toDigits 10 whole).length
    (i.search start 345).trim 400

end Offspring.Decimal
