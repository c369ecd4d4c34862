import XmlQuery.Text.Blank
import XmlQuery.Text.Search

/-!
# Words and replacements

## Main definitions

* `words`: the parts of a text between blanks
* `normalizeSpace`: the words of a text with single spaces between them
* `translate`: a text with characters replaced one by one
* `before`, `after`: what stands around the first occurrence of a pattern
-/

namespace XmlQuery.Text

/-- A word in front of other ones, unless it is empty. -/
def consWord (word : List Char) (others : List (List Char)) : List (List Char) :=
  if word.isEmpty then others else word :: others

/-- The words of a text that goes on after `word`, whose characters are in reverse order. -/
def wordsFrom (word : List Char) : List Char → List (List Char)
  | [] => consWord word.reverse []
  | c :: rest =>
    if isBlank c then consWord word.reverse (wordsFrom [] rest) else wordsFrom (c :: word) rest

/-- The parts of a text between blanks. -/
def words (text : List Char) : List (List Char) := wordsFrom [] text

/-- The words of a text with single spaces between them. -/
def normalizeSpace (text : List Char) : List Char := [' '].intercalate (words text)

/-- The character that replaces `c`: the one that stands in `targets` where `c` first stands in
`sources`, or none if `targets` is too short. A character that is not in `sources` stays. -/
def replacement (sources targets : List Char) (c : Char) : Option Char :=
  match sources.findIdx? (· == c) with
  | some i => targets[i]?
  | none => some c

/-- A text whose characters are replaced one by one, or left out. -/
def translate (sources targets text : List Char) : List Char :=
  text.filterMap (replacement sources targets)

/-- The pattern occurs in the text. -/
def contains (text pattern : List Char) : Bool := (splitFirst? pattern text).isSome

/-- What stands in front of the first occurrence of a pattern, or nothing. -/
def before (text pattern : List Char) : List Char :=
  ((splitFirst? pattern text).map (·.1)).getD []

/-- What stands behind the first occurrence of a pattern, or nothing. -/
def after (text pattern : List Char) : List Char :=
  ((splitFirst? pattern text).map (·.2.drop pattern.length)).getD []

end XmlQuery.Text
