import XmlQuery.Text.Composition
import XmlQuery.Url.Address
import XmlQuery.Url.Direction
import XmlQuery.Url.Mapping
import XmlQuery.Url.Punycode

/-!
# Names of the network

A name is a sequence of labels with dots between them. It is mapped, its labels are checked, and
those that are not in ASCII are written in Punycode behind `xn--`. A label that is written so
already is checked as the label it stands for, which has to be what it is mapped to.

## Main definitions

* `isForbiddenInName`: a character of ASCII that names do not have
* `plainLabel?`: the label that a label stands for
* `isLabel`: a label may stand in a name
* `toAscii?`: a name in ASCII
-/

namespace XmlQuery.Url

open Text

/-- A control character of ASCII. -/
def isControl (c : Char) : Bool := c.toNat < 0x20 || c.toNat == 0x7F

/-- A character of ASCII that names do not have. -/
def isForbiddenInName (c : Char) : Bool := isControl c || c == ' ' || "%#/:<>?@[\\]^|".contains c

/-- A character of ASCII. -/
def isAscii (c : Char) : Bool := c.toNat < 128

/-! ## Labels -/

/-- The most characters of a label that is not in ASCII. -/
def longestLabel : Nat := 1000

/-- The most characters of code for a label. -/
def longestCode : Nat := 2000

/-- The label that a mapped label stands for. Code that is empty or ends in a hyphen is for no
character beyond ASCII, and no label is written so. -/
def plainLabel? : List Char → Option (List Char)
  | 'x' :: 'n' :: '-' :: '-' :: code =>
    if code.all isAscii ∧ code ≠ [] ∧ code.getLast? ≠ some '-' ∧ code.length ≤ longestCode then
      (Punycode.decode code).filter fun label => mapName label == some label
    else none
  | label => some label

/-- Joining passes over the character. -/
def isTransparent (c : Char) : Bool :=
  isSpacelessMark c || inRanges transparentRanges c.toNat

/-- The first character of a text that joining does not pass over is in one of some tables. -/
def joins (tables : List (List (Nat × Nat))) (text : List Char) : Bool :=
  (text.dropWhile isTransparent).head?.any fun c => tables.any (inRanges · c.toNat)

/-- The invisible characters that keep their neighbours apart or join them stand where they show:
behind a mark that cancels a vowel, or, if they keep apart, between letters that would join. Of
the text in front the last character comes first. -/
def joinersFit (before : List Char) : List Char → Bool
  | [] => true
  | c :: rest =>
    (if c = '\u200C' ∨ c = '\u200D' then
      before.head?.any (markClass · = 9) ||
        (c = '\u200C' && joins [leftJoiningRanges, dualJoiningRanges] before &&
          joins [rightJoiningRanges, dualJoiningRanges] rest)
    else true) && joinersFit (c :: before) rest

/-- The label may stand in a name. -/
def isLabel (label : List Char) : Bool :=
  !(label.head?.any fun c => inRanges markRanges c.toNat) && joinersFit [] label &&
    (label.all isAscii || label.length ≤ longestLabel)

/-- A label in ASCII. -/
def asciiLabel (label : List Char) : List Char :=
  if label.all isAscii then label else "xn--".toList ++ Punycode.encode label

/-! ## Names -/

/-- A name in ASCII; nothing if it is not a name. -/
def toAscii? (name : List Char) : Option (List Char) := do
  let mapped ← mapName name
  if mapped.any isForbiddenInName then none
  let labels ← (parts '.' mapped).mapM plainLabel?
  if labels.all isLabel && (!labels.any (·.any goesLeft) || labels.all fitsDirection) then
    some (['.'].intercalate (labels.map asciiLabel))
  else none

end XmlQuery.Url
