import XmlQuery.Text.CompositionTable
import XmlQuery.Text.Ranges

/-!
# Canonical composition

A letter with marks can be written in several ways. In the composed form the marks behind a letter
are in the order of their classes, and every mark that has a composed form with its letter is
composed with it. Characters that only stand for other ones, which composition never makes, are
left as they are.

## Main definitions

* `markClass`: the class of a mark
* `compose?`, `split?`: the composed form of two characters, and what a character is composed of
* `composed`: the composed form of a text
-/

namespace XmlQuery.Text

/-- The canonical combining class of a character, zero for all that are not reordered. -/
def markClass (c : Char) : Nat :=
  if c.toNat < 0x300 then 0
  else ((markClasses.find? fun (_, ranges) => inRanges ranges c.toNat).map (·.1)).getD 0

/-! ## Pairs -/

/-- The Hangul syllable of two letters, or of a syllable and a further letter. -/
def composeHangul? (first second : Nat) : Option Nat :=
  if 0x1100 ≤ first ∧ first < 0x1113 ∧ 0x1161 ≤ second ∧ second < 0x1176 then
    some (0xAC00 + ((first - 0x1100) * 21 + (second - 0x1161)) * 28)
  else if 0xAC00 ≤ first ∧ first < 0xD7A4 ∧ (first - 0xAC00) % 28 = 0 ∧
      0x11A7 < second ∧ second < 0x11C3 then
    some (first + (second - 0x11A7))
  else none

/-- What a Hangul syllable is composed of. -/
def splitHangul? (syllable : Nat) : Option (Nat × Nat) :=
  if 0xAC00 ≤ syllable ∧ syllable < 0xD7A4 then
    let place := syllable - 0xAC00
    if place % 28 = 0 then some (0x1100 + place / 588, 0x1161 + place % 588 / 28)
    else some (syllable - place % 28, 0x11A7 + place % 28)
  else none

/-- The composed form of two characters. -/
def compose? (first second : Char) : Option Char :=
  let code? : Option Nat :=
    composeHangul? first.toNat second.toNat <|>
      (compositions.lookup second.toNat).bind (List.lookup first.toNat)
  code?.map Char.ofNat

/-- The two characters that a character is composed of. -/
def split? (c : Char) : Option (Char × Char) :=
  let codes? : Option (Nat × Nat) :=
    if c.toNat < 0xC0 then none
    else
      splitHangul? c.toNat <|> compositions.findSome? fun (second, pairs) =>
        (pairs.find? (·.2 == c.toNat)).map fun (first, _) => (first, second)
  codes?.map fun (first, second) => (Char.ofNat first, Char.ofNat second)

/-! ## Texts -/

/-- What a character is composed of, in at most so many steps. -/
def splitAll : (steps : Nat) → Char → List Char
  | 0, c => [c]
  | steps + 1, c =>
    match split? c with
    | some (first, second) => splitAll steps first ++ [second]
    | none => [c]

/-- A text, the last character first, with a further character at its end, where it stands behind
the marks of its own class and of lower ones. -/
def insertMark (c : Char) : List Char → List Char
  | [] => [c]
  | d :: before =>
    if 0 < markClass c ∧ markClass c < markClass d then d :: insertMark c before
    else c :: d :: before

/-- A text with its marks in the order of their classes. -/
def orderMarks (text : List Char) : List Char :=
  (text.foldl (fun before c => insertMark c before) []).reverse

/-- The composed form of a text behind a character and marks that do not compose with it, the last
mark first. A mark of the same class is in the way of another one, and every mark is in the way
of what is no mark. -/
def composeAfter (start : Char) (marks : List Char) : List Char → List Char
  | [] => start :: marks.reverse
  | c :: rest =>
    let blocked := marks.head?.any fun m => markClass c = 0 ∨ markClass c ≤ markClass m
    match if blocked then none else compose? start c with
    | some whole => composeAfter whole marks rest
    | none =>
      if markClass c = 0 then start :: marks.reverse ++ composeAfter c [] rest
      else composeAfter start (c :: marks) rest

/-- The composed form of a text whose marks are in order. -/
def composeOrdered : List Char → List Char
  | [] => []
  | c :: rest => if markClass c = 0 then composeAfter c [] rest else c :: composeOrdered rest

/-- The composed form of a text. No character is composed in more than three steps. -/
def composed (text : List Char) : List Char :=
  composeOrdered (orderMarks (text.flatMap (splitAll 3)))

end XmlQuery.Text
