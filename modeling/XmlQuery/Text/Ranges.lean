/-!
# Ranges and runs of code points

Properties of characters are given by ranges of code points, and mappings by runs: characters
that are all mapped to the same distance.

## Main definitions

* `inRanges`: a code point is in one of some ranges
* `Run`: characters with mappings at the same distance
* `Run.map?`: the mapping of a code point by runs
-/

namespace XmlQuery.Text

/-- The code point is in one of the ranges, whose ends belong to them. -/
def inRanges (ranges : List (Nat × Nat)) (n : Nat) : Bool :=
  ranges.any fun (first, last) => first ≤ n && n ≤ last

/-- Characters with mappings at the same distance. -/
structure Run where
  /-- The first character. -/
  first : Nat
  /-- The last character. -/
  last : Nat
  /-- The distance from one character of the run to the next. -/
  step : Nat
  /-- The distance from a character to its mapping. -/
  shift : Int
  deriving DecidableEq

/-- The mapping of a code point by some runs. -/
def Run.map? (runs : List Run) (n : Nat) : Option Nat :=
  (runs.find? fun r => r.first ≤ n && n ≤ r.last && (n - r.first) % r.step == 0).map fun r =>
    ((n : Int) + r.shift).toNat

end XmlQuery.Text
