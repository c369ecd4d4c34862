import XmlQuery.Number.Binary

/-!
# Arithmetic

## Main definitions

* `remainder`: the remainder of a division that is cut off towards zero
* `round`: the nearest integer, halves towards positive infinity
* `sum`: the sum of numbers from left to right
-/

namespace XmlQuery.Number

/-- Negative zero. -/
def negativeZero : Float := .ofBits 0x8000000000000000

/-- The remainder of a division that is cut off towards zero. It is exact, and has the sign of
the dividend. -/
def remainder (x y : Float) : Float :=
  match parts x, parts y with
  | .finite negative m e, .finite _ n f =>
    if n = 0 then nan
    else
      let least := min e f
      let r := (m * Nat.pow 2 (e - least).toNat) % (n * Nat.pow 2 (f - least).toNat)
      nearest negative (r * Nat.pow 2 least.toNat) (Nat.pow 2 (-least).toNat)
  | .finite _ _ _, .infinite _ => x
  | _, _ => nan

/-- The nearest integer; halves are rounded towards positive infinity, and numbers from minus a
half up to zero to negative zero. -/
def round (x : Float) : Float :=
  if x.isNaN || x.isInf || x == 0 then x
  else if (-0.5) ≤ x && x < 0 then negativeZero
  else if 0.5 ≤ x - x.floor then x.floor + 1
  else x.floor

/-- The sum of numbers, from left to right and starting from negative zero. -/
def sum (xs : List Float) : Float := xs.foldl (· + ·) negativeZero

end XmlQuery.Number
