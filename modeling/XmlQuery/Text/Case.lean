import XmlQuery.Text.CaseTable

/-!
# Lower and upper case

Texts are converted by the full case mappings of the Unicode standard, without those of single
languages. One mapping looks at the surroundings: the Greek letter sigma has another lower-case
form at the end of a word.

## Main definitions

* `lower`, `upper`: a text in lower and in upper case
-/

namespace XmlQuery.Text

/-- The mapping of a character by a table of several characters and one of single ones. -/
def mapCase (special : List (Nat × List Nat)) (runs : List Run) (c : Char) : List Char :=
  match special.lookup c.toNat with
  | some codes => codes.map Char.ofNat
  | none =>
    match Run.map? runs c.toNat with
    | some n => [Char.ofNat n]
    | none => [c]

/-- The upper case of a character. -/
def upperChar (c : Char) : List Char :=
  if c.toNat < 128 then [c.toUpper] else mapCase upperSpecial upperRuns c

/-- The lower case of a character, wherever it stands. -/
def lowerChar (c : Char) : List Char :=
  if c.toNat < 128 then [c.toLower] else mapCase lowerSpecial lowerRuns c

/-- A text in upper case. -/
def upper (text : List Char) : List Char := text.flatMap upperChar

/-- The first character that is not ignored by conditions on case is a cased one. -/
def cased (text : List Char) : Bool :=
  (text.dropWhile fun c => inRanges caseIgnorableRanges c.toNat).head?.any fun c =>
    inRanges casedRanges c.toNat

/-- The Greek capital letter sigma. -/
def capitalSigma : Char := 'Σ'

/-- The lower case of a sigma between two texts, of which the first one is reversed. -/
def lowerSigma (before after : List Char) : Char :=
  if cased before && !cased after then 'ς' else 'σ'

/-- The lower case of a text behind another one, which is reversed. -/
def lowerAfter (before : List Char) : List Char → List Char
  | [] => []
  | c :: rest =>
    (if c = capitalSigma then [lowerSigma before rest] else lowerChar c) ++
      lowerAfter (c :: before) rest

/-- A text in lower case. -/
def lower (text : List Char) : List Char := lowerAfter [] text

end XmlQuery.Text
