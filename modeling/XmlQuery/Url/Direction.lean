import XmlQuery.Text.Ranges
import XmlQuery.Url.LabelTable

/-!
# Directions of labels

If a name has a character that is written from right to left, every label of it has to be written
in one direction: it starts with a letter, whose direction is the direction of the label, it ends
with a letter or a digit, marks aside, and in between it has no letter of the other direction. A
label from right to left has digits of one kind only.

## Main definitions

* `Direction`: how a character is written
* `goesLeft`: a character makes its name one that has directions
* `fitsDirection`: a label is written in one direction
-/

namespace XmlQuery.Url

open Text

/-- How a character is written. -/
inductive Direction
  /-- From left to right. -/
  | right
  /-- From right to left. -/
  | left
  /-- As a digit of a European number. -/
  | european
  /-- As a digit of an Arabic number. -/
  | arabic
  /-- In the direction of its surroundings. -/
  | neutral
  /-- On the character in front of it. -/
  | mark
  deriving DecidableEq

/-- The character is a mark that takes no space. -/
def isSpacelessMark (c : Char) : Bool :=
  inRanges markRanges c.toNat && !inRanges spacingMarkRanges c.toNat

/-- How a character is written. -/
def Direction.of (c : Char) : Direction :=
  let n := c.toNat
  if n < 128 then
    if c.isAlpha then .right else if c.isDigit then .european else .neutral
  else if isSpacelessMark c then .mark
  else if inRanges rightToLeftRanges n then .left
  else if inRanges arabicNumberRanges n then .arabic
  else if inRanges europeanNumberRanges n then .european
  else if inRanges neutralRanges n then .neutral
  else .right

/-- The character is written from right to left, or among such characters. -/
def goesLeft (c : Char) : Bool :=
  Direction.of c == .left || Direction.of c == .arabic

/-- The directions behind the first one are those of a label from left to right. The last one
comes first, and marks at the end are left out. -/
def fitsRight : List Direction → Bool
  | [] => true
  | last :: others =>
    (last == .right || last == .european) && others.all fun d => d != .left && d != .arabic

/-- The directions behind the first one are those of a label from right to left. The last one
comes first, and marks at the end are left out. -/
def fitsLeft : List Direction → Bool
  | [] => true
  | last :: others =>
    last != .neutral && (last :: others).all (· != .right) &&
      !((last :: others).contains .european && (last :: others).contains .arabic)

/-- The label is written in one direction. -/
def fitsDirection (label : List Char) : Bool :=
  match label.map Direction.of with
  | [] => true
  | first :: rest =>
    let behind := rest.reverse.dropWhile (· == .mark)
    match first with
    | .right => fitsRight behind
    | .left => fitsLeft behind
    | _ => false

end XmlQuery.Url
