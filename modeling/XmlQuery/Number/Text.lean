import XmlQuery.Number.Shortest
import XmlQuery.Text.Blank

/-!
# Numbers in writing

Numbers are written positionally, with the shortest digits that read back, and never with an
exponent. A double is read from much more, from exponents, infinities and signs of both kinds; a
text that is converted to a number is checked first, so that only digits with an optional fraction
and a minus sign are read.

## Main definitions

* `Decimal.positional`: the positional writing of a decimal
* `format`: the writing of a number as a value
* `formatLiteral`: the writing of a number literal in messages
* `ofText?`: the double that a text is written for
* `plainText?`: what is to be read of a text that is converted to a number
* `read`: the number that a text is converted to
-/

namespace XmlQuery.Number

/-- The decimal with its trailing zeros moved into the exponent, at most `fuel` of them. -/
def Decimal.stripZeros : (fuel : Nat) → Decimal → Decimal
  | 0, d => d
  | fuel + 1, d =>
    if d.digits ≠ 0 ∧ d.digits % 10 = 0 then stripZeros fuel ⟨d.digits / 10, d.exponent + 1⟩
    else d

/-- The positional writing of a decimal. -/
def Decimal.positional (d : Decimal) : List Char :=
  let d := d.stripZeros 20
  let digits := Nat.toDigits 10 d.digits
  match d.exponent with
  | .ofNat zeros => digits ++ List.replicate zeros '0'
  | .negSucc n =>
    let places := n + 1
    let padded := List.replicate (places + 1 - digits.length) '0' ++ digits
    let whole := padded.length - places
    padded.take whole ++ '.' :: padded.drop whole

/-- The spellings of numbers that have no digits. -/
structure Spelling where
  /-- The infinity. -/
  infinity : String
  /-- What stands in front of a negative zero. -/
  zeroSign : String

/-- The writing of a number. -/
def Spelling.write (s : Spelling) (x : Float) : String :=
  match parts x with
  | .nan => "NaN"
  | .infinite negative => (if negative then "-" else "") ++ s.infinity
  | .finite negative mantissa exponent =>
    if mantissa = 0 then (if negative then s.zeroSign else "") ++ "0"
    else
      (if negative then "-" else "") ++
        String.ofList (shortest mantissa exponent).positional

/-- The writing of a number as a value: both zeros are written alike. -/
def format (x : Float) : String := Spelling.write ⟨"Infinity", ""⟩ x

/-- The writing of a number literal in messages. -/
def formatLiteral (x : Float) : String := Spelling.write ⟨"inf", "-"⟩ x

/-- The character is a decimal digit. -/
def isDigit (c : Char) : Bool := '0' ≤ c && c ≤ '9'

/-- The number written with decimal digits. -/
def ofDigits (digits : List Char) : Nat :=
  digits.foldl (fun n c => n * 10 + (c.toNat - '0'.toNat)) 0

/-- The double nearest to a decimal, with a sign. -/
def Decimal.toFloat (negative : Bool) (d : Decimal) : Float :=
  match d.exponent with
  | .ofNat n => nearest negative (d.digits * Nat.pow 10 n) 1
  | .negSucc n => nearest negative d.digits (Nat.pow 10 (n + 1))

/-- Whether a text has a minus sign in front, and what is left of it without its sign. -/
def splitSign : List Char → Bool × List Char
  | '-' :: rest => (true, rest)
  | '+' :: rest => (false, rest)
  | text => (false, text)

/-- The exponent at the end of a number: nothing, or the letter `e`, a sign if any, and digits. -/
def exponent? : List Char → Option Int
  | [] => some 0
  | c :: rest =>
    let (negative, digits) := splitSign rest
    if c.toLower ≠ 'e' ∨ digits.isEmpty ∨ ¬ digits.all isDigit then none
    else some (if negative then -(ofDigits digits : Int) else ofDigits digits)

/-- Digits with a point in front of them, between them, behind them or nowhere, and an exponent. -/
def decimal? (text : List Char) : Option Decimal :=
  let whole := text.takeWhile isDigit
  let (fraction, rest) := match text.dropWhile isDigit with
    | '.' :: rest => (rest.takeWhile isDigit, rest.dropWhile isDigit)
    | rest => ([], rest)
  if whole.isEmpty ∧ fraction.isEmpty then none
  else (exponent? rest).map (⟨ofDigits (whole ++ fraction), · - fraction.length⟩)

/-- The double that a text is written for: after a sign, if any, an infinity, the word for what is
not a number, or a decimal with an exponent, in letters of either case. -/
def ofText? (text : List Char) : Option Float :=
  let (negative, unsigned) := splitSign text
  let word := unsigned.map Char.toLower
  if word = ['i', 'n', 'f'] ∨ word = ['i', 'n', 'f', 'i', 'n', 'i', 't', 'y'] then
    some (ofMagnitude negative infinityBits)
  else if word = ['n', 'a', 'n'] then some nan
  else (decimal? unsigned).map (·.toFloat negative)

/-- What is left of a text without a minus sign in front. -/
def stripMinus : List Char → List Char
  | '-' :: rest => rest
  | text => text

/-- The text is made of digits and at most one point, and it is neither empty nor a point. -/
def isPlain (text : List Char) : Bool :=
  !text.isEmpty && text != ['.'] && decide (text.count '.' ≤ 1) &&
    text.all fun c => isDigit c || c == '.'

/-- What is left of a text without the white space around it, if it is to be read as a double. -/
def plainText? (text : List Char) : Option (List Char) :=
  let trimmed := Text.trimBlank text
  if isPlain (stripMinus trimmed) then some trimmed else none

/-- The number that a text is converted to; most of what could be read as a double is no number
here. -/
def read (text : List Char) : Float :=
  match plainText? text with
  | some trimmed => (ofText? trimmed).getD nan
  | none => nan

end XmlQuery.Number
