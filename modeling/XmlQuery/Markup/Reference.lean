import XmlQuery.Markup.Char
import XmlQuery.Markup.Error
import XmlQuery.Text.Measure
import XmlQuery.Text.Search

/-!
# References and line ends

Character data is decoded in runs: a run without an ampersand has its line ends normalised, and
in an attribute value its white space replaced; a reference stands for one character, which is
not looked at again.

## Main definitions

* `normalizeNewlines`: line ends written as line feeds
* `resolveReference`: the character that a reference stands for
* `decode`: the characters that character data stands for
-/

namespace XmlQuery.Markup

open Text (utf8Length)

/-- Where character data stands. -/
inductive DataMode
  /-- In the content of an element. -/
  | text
  /-- In an attribute value. -/
  | attribute
  deriving DecidableEq

/-- A text whose line ends, written CR LF or CR, are single characters `newline`. -/
def replaceReturns (newline : Char) : List Char → List Char
  | [] => []
  | '\r' :: '\n' :: rest => newline :: replaceReturns newline rest
  | c :: rest => (if c = '\r' then newline else c) :: replaceReturns newline rest

/-- A text whose line ends are line feeds. -/
def normalizeNewlines (text : List Char) : List Char :=
  replaceReturns '\n' text

/-- Character data without references, as it is meant: line ends are line feeds, and in an
attribute value all white space is spaces. -/
def DataMode.normalize : DataMode → List Char → List Char
  | .text, run => normalizeNewlines run
  | .attribute, run =>
    (normalizeNewlines run).map fun c => if c = '\n' ∨ c = '\t' then ' ' else c

/-- The offset and the code of the first character that a document may not hold, counted from
`offset`. -/
def firstInvalid? : (offset : Nat) → List Char → Option Fault
  | _, [] => none
  | offset, c :: rest =>
    if isChar c then firstInvalid? (offset + c.utf8Size) rest
    else some ⟨offset, .invalidChar c.toNat⟩

/-- The character with a code that is read from digits. -/
def characterOfCode : Option Nat → Except ErrorKind Char
  | none => .error .malformedReference
  | some code =>
    if code < Nat.pow 2 32 then
      if h : code.isValidChar then
        let c := Char.ofNatAux code h
        if isChar c then .ok c else .error (.invalidChar code)
      else .error (.invalidChar code)
    else .error .malformedReference

/-- The character that the reference with this body, the text between `&` and `;`, stands for. -/
def resolveReference (body : List Char) : Except ErrorKind Char :=
  match body with
  | '#' :: 'x' :: digits => characterOfCode (Text.Hex.number? 16 digits)
  | '#' :: digits => characterOfCode (Text.Hex.number? 10 digits)
  | ['l', 't'] => .ok '<'
  | ['g', 't'] => .ok '>'
  | ['a', 'm', 'p'] => .ok '&'
  | ['q', 'u', 'o', 't'] => .ok '"'
  | ['a', 'p', 'o', 's'] => .ok '\''
  | _ =>
    if isNCName body then .error (.unknownEntity (String.ofList body))
    else .error .malformedReference

/-- Character data that starts at byte `offset`, of legal characters, decoded. -/
def decodeRuns (mode : DataMode) (offset : Nat) (raw : List Char) : Except Fault (List Char) :=
  let run := raw.takeWhile (· != '&')
  match _h₁ : raw.dropWhile (· != '&') with
  | [] => .ok (mode.normalize run)
  | _ :: after =>
    let start := offset + utf8Length run
    let body := after.takeWhile (· != ';')
    match _h₂ : after.dropWhile (· != ';') with
    | [] => .error ⟨start, .malformedReference⟩
    | _ :: rest =>
      match resolveReference body with
      | .error kind => .error ⟨start, kind⟩
      | .ok c =>
        match decodeRuns mode (start + utf8Length body + 2) rest with
        | .error fault => .error fault
        | .ok decoded => .ok (mode.normalize run ++ c :: decoded)
termination_by raw.length
decreasing_by
  have h₁ := congrArg List.length _h₁
  have h₂ := congrArg List.length _h₂
  have h₃ := (List.dropWhile_sublist (p := (· != '&')) (l := raw)).length_le
  have h₄ := (List.dropWhile_sublist (p := (· != ';')) (l := after)).length_le
  simp only [List.length_cons] at h₁ h₂
  omega

/-- The characters that character data at byte `offset` stands for. -/
def decode (mode : DataMode) (offset : Nat) (raw : List Char) : Except Fault (List Char) :=
  match firstInvalid? offset raw with
  | some fault => .error fault
  | none => decodeRuns mode offset raw

end XmlQuery.Markup
