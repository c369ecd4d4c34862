import XmlQuery.Number.Binary

/-!
# Shortest decimals

The decimal of a positive double is the one with the fewest digits among those that lie in the
interval of reals that round to it; of those with that many digits it is the nearest, and of two
equally near ones the greater.

## Main definitions

* `Decimal`: an integer times a power of ten
* `Interval`: the reals that round to a double
* `shortest`: the decimal of a double
-/

namespace XmlQuery.Number

/-- The number `digits * 10 ^ exponent`. -/
structure Decimal where
  /-- The digits, as a number. -/
  digits : Nat
  /-- The power of ten that the last digit counts. -/
  exponent : Int
  deriving DecidableEq

/-- A positive number and the reals that round to it, over a common denominator. -/
structure Interval where
  /-- The numerator of the lower end. -/
  low : Nat
  /-- The numerator of the number. -/
  value : Nat
  /-- The numerator of the upper end. -/
  high : Nat
  /-- The denominator. -/
  den : Nat
  /-- The ends round to the number too. -/
  closed : Bool
  deriving DecidableEq

/-- The reals that round to `mantissa * 2 ^ exponent`. Below a power of two doubles lie twice as
close, except at the least exponent. -/
def Interval.ofDouble (mantissa : Nat) (exponent : Int) : Interval :=
  let scale := Nat.pow 2 (exponent - 2).toNat
  let below := if mantissa = Nat.pow 2 52 ∧ leastExponent < exponent then 1 else 2
  ⟨(4 * mantissa - below) * scale, 4 * mantissa * scale, (4 * mantissa + 2) * scale,
    Nat.pow 2 (2 - exponent).toNat, mantissa % 2 = 0⟩

/-- The number `num / den` is in the interval. -/
def Interval.contains (i : Interval) (num den : Nat) : Bool :=
  if i.closed then i.low * den ≤ num * i.den && num * i.den ≤ i.high * den
  else i.low * den < num * i.den && num * i.den < i.high * den

/-- The number of decimal digits. -/
def digitCount (n : Nat) : Nat := (Nat.toDigits 10 n).length

/-- The greatest `e` with `10 ^ e ≤ num / den`, for positive `num` and `den`. -/
def floorLog10 (num den : Nat) : Int :=
  if den ≤ num then digitCount (num / den) - 1
  else -digitCount ((den + num - 1) / num - 1)

/-- The decimal on the grid of `10 ^ exponent` in the interval that is nearest to the number;
of two equally near ones the greater. -/
def Interval.onGrid? (i : Interval) (exponent : Int) : Option Decimal :=
  let up := Nat.pow 10 exponent.toNat
  let down := Nat.pow 10 (-exponent).toNat
  let floor := i.value * down / (i.den * up)
  let rest := i.value * down % (i.den * up)
  let inside (digits : Nat) := i.contains (digits * up) down
  if inside floor && (2 * rest < i.den * up || !inside (floor + 1)) then some ⟨floor, exponent⟩
  else if inside (floor + 1) then some ⟨floor + 1, exponent⟩
  else none

/-- The first hit on the grids of `exponent` and the next finer ones, at most `fuel` of them. -/
def Interval.search (i : Interval) : (fuel : Nat) → (exponent : Int) → Decimal
  | 0, exponent => ⟨i.value * Nat.pow 10 (-exponent).toNat / i.den, exponent⟩
  | fuel + 1, exponent =>
    match i.onGrid? exponent with
    | some d => d
    | none => i.search fuel (exponent - 1)

/-- The decimal of a positive double. Seventeen digits always suffice. -/
def shortest (mantissa : Nat) (exponent : Int) : Decimal :=
  let i := Interval.ofDouble mantissa exponent
  i.search 17 (floorLog10 i.value i.den)

end XmlQuery.Number
