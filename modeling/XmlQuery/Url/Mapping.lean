import XmlQuery.Text.Composition
import XmlQuery.Url.MappingTable

/-!
# Mapping of names

Names that look alike or differ in case only are mapped to the same characters: letters to lower
case, compatibility characters to what they stand for, and the full stops of several scripts to
dots. Some characters are left out, and some cannot stand in a name at all.

## Main definitions

* `mapChar`: what a character of a name is mapped to
* `mapName`: what a name is mapped to
-/

namespace XmlQuery.Url

open Text

/-- What a code point is mapped to by the targets of consecutive ones. -/
def target? {α : Type} (blocks : List (Nat × List α)) (n : Nat) : Option α :=
  blocks.findSome? fun (first, targets) => if first ≤ n then targets[n - first]? else none

/-- The single code point that a code point is mapped to. -/
def single? (n : Nat) : Option Nat :=
  Run.map? mappedRuns n <|> target? mappedSingly n <|> target? mappedIdeographs n <|>
    target? mappedSupplement n

/-- What a character of a name is mapped to; nothing if it cannot stand in a name. -/
def mapChar (c : Char) : Option (List Char) :=
  let n := c.toNat
  if n < 128 then some [c.toLower]
  else if inRanges disallowedRanges n then none
  else if inRanges ignoredRanges n then some []
  else
    match target? mappedSeverally n with
    | some codes => some (codes.map Char.ofNat)
    | none => some [((single? n).map Char.ofNat).getD c]

/-- What a name is mapped to, in composed form; nothing if one of its characters cannot stand in
a name. -/
def mapName (name : List Char) : Option (List Char) :=
  (name.mapM mapChar).map fun pieces => composed pieces.flatten

end XmlQuery.Url
