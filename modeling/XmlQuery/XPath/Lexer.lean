import XmlQuery.Markup.Char
import XmlQuery.Number.Text
import XmlQuery.Text.Blank
import XmlQuery.Text.Cursor
import XmlQuery.XPath.Token

/-!
# Cutting expressions into tokens

An expression is cut from front to back. Whether an operand has just ended decides whether `*`,
`and`, `or`, `mod` and `div` are operators; what follows a name decides what kind of name it is.

## Main definitions

* `scan`: the token at a cursor that stands in front of no blank
* `tokenize`: the tokens of an expression, and how cutting ends

## Main results

* `passes_scan`: a token takes at least one character
-/

namespace XmlQuery.XPath

open Text (Cursor)

/-- A reason for which no token can be cut. -/
inductive LexicalFault
  /-- An exclamation mark is not followed by an equals sign. -/
  | loneExclamation
  /-- A string literal has no end. -/
  | unterminatedString
  /-- No token starts with the character. -/
  | unexpectedCharacter (c : Char)
  deriving DecidableEq

/-- The wording of a reason. -/
def LexicalFault.message : LexicalFault → String
  | .loneExclamation => "expected '=' after '!'"
  | .unterminatedString => "unterminated string literal"
  | .unexpectedCharacter c => "unexpected character '" ++ String.singleton c ++ "'"

/-- The sign at the front of a text, and its number of characters. -/
def sign? : List Char → Option (Token × Nat)
  | '/' :: '/' :: _ => some (.doubleSlash, 2)
  | '/' :: _ => some (.slash, 1)
  | '.' :: '.' :: _ => some (.doubleDot, 2)
  | '.' :: _ => some (.dot, 1)
  | '@' :: _ => some (.at, 1)
  | '|' :: _ => some (.pipe, 1)
  | '+' :: _ => some (.plus, 1)
  | '-' :: _ => some (.minus, 1)
  | '*' :: _ => some (.star, 1)
  | '=' :: _ => some (.eq, 1)
  | '!' :: '=' :: _ => some (.notEq, 2)
  | '<' :: '=' :: _ => some (.ltEq, 2)
  | '<' :: _ => some (.lt, 1)
  | '>' :: '=' :: _ => some (.gtEq, 2)
  | '>' :: _ => some (.gt, 1)
  | '(' :: _ => some (.leftParen, 1)
  | ')' :: _ => some (.rightParen, 1)
  | '[' :: _ => some (.leftBracket, 1)
  | ']' :: _ => some (.rightBracket, 1)
  | ',' :: _ => some (.comma, 1)
  | '$' :: _ => some (.dollar, 1)
  | ':' :: ':' :: _ => some (.doubleColon, 2)
  | _ => none

/-- A number literal starts at the front of a text. -/
def startsNumber : List Char → Bool
  | '.' :: c :: _ => Number.isDigit c
  | c :: _ => Number.isDigit c
  | [] => false

/-- The number literal at the front of a text: digits, and a point with digits unless two points
follow. -/
def numberText (text : List Char) : List Char :=
  let whole := text.takeWhile Number.isDigit
  match text.dropWhile Number.isDigit with
  | '.' :: '.' :: _ => whole
  | '.' :: rest => whole ++ '.' :: rest.takeWhile Number.isDigit
  | _ => whole

/-- The number literal at a cursor, and the place after it. -/
def scanNumber (c : Cursor) : Token × Cursor :=
  let text := numberText c.rest
  (.number ((Number.ofText? text).getD Number.nan), c.advance text.length)

/-- The string literal at a cursor, and the place after it. -/
def scanString (c : Cursor) (quote : Char) : Except LexicalFault (Token × Cursor) :=
  match (c.advance 1).upTo? (String.singleton quote) with
  | none => .error .unterminatedString
  | some (text, close) => .ok (.string (String.ofList text), close.advance 1)

/-- The operator that is spelled by a name. -/
def operatorName? : List Char → Option Token
  | ['a', 'n', 'd'] => some .and
  | ['o', 'r'] => some .or
  | ['m', 'o', 'd'] => some .mod
  | ['d', 'i', 'v'] => some .div
  | _ => none

/-- The name is that of a node type. -/
def isNodeType (name : String) : Bool :=
  name == "node" || name == "text" || name == "comment" || name == "processing-instruction"

/-- The place after blanks. -/
def skipBlanks (c : Cursor) : Cursor := c.skipWhile Text.isBlank

/-- The token of a name without a colon, which ends at a cursor. An opening parenthesis or two
colons may follow at a distance. -/
def simpleName (name : String) (c : Cursor) : Token × Cursor :=
  let next := skipBlanks c
  match next.rest with
  | ':' :: ':' :: _ => (.axis name, next)
  | '(' :: _ => (if isNodeType name then .nodeType name else .functionName name, next)
  | _ => (.name name, c)

/-- The token of a name with a prefix, which ends at a cursor. -/
def prefixedName (nsPrefix localPart : String) (c : Cursor) : Token × Cursor :=
  let next := skipBlanks c
  match next.rest with
  | '(' :: _ => (.functionName (nsPrefix ++ ":" ++ localPart), next)
  | _ => (.qname nsPrefix localPart, c)

/-- The token that starts with a name at a cursor, and the place after it. -/
def scanName (afterOperand : Bool) (c : Cursor) : Token × Cursor :=
  let name := c.rest.takeWhile Markup.isNCNameChar
  let next := c.skipWhile Markup.isNCNameChar
  match (if afterOperand then operatorName? name else none) with
  | some token => (token, next)
  | none =>
    match next.rest with
    | ':' :: '*' :: _ => (.prefixWildcard (String.ofList name), next.advance 2)
    | ':' :: first :: _ =>
      if Markup.isNCNameStart first then
        let second := next.advance 1
        prefixedName (String.ofList name)
          (String.ofList (second.rest.takeWhile Markup.isNCNameChar))
          (second.skipWhile Markup.isNCNameChar)
      else simpleName (String.ofList name) next
    | _ => simpleName (String.ofList name) next

/-- The token at a cursor that is in front of neither a blank nor the end, and the place after
it. -/
def scan (afterOperand : Bool) (c : Cursor) : Except LexicalFault (Token × Cursor) :=
  if startsNumber c.rest then .ok (scanNumber c)
  else
    match sign? c.rest with
    | some (token, n) => .ok (token, c.advance n)
    | none =>
      match c.rest with
      | [] => .error (.unexpectedCharacter ' ')
      | first :: _ =>
        if first = '!' then .error .loneExclamation
        else if first = '"' ∨ first = '\'' then scanString c first
        else if Markup.isNCNameStart first then .ok (scanName afterOperand c)
        else .error (.unexpectedCharacter first)

/-! ## Progress -/

theorem sign?_pos {text : List Char} {token : Token} {n : Nat}
    (h : sign? text = some (token, n)) : n ≠ 0 := by
  unfold sign? at h
  split at h <;> simp_all <;> omega

theorem passes_scanString {c d : Cursor} {quote : Char} {token : Token} (hne : c.rest ≠ [])
    (h : scanString c quote = .ok (token, d)) : c.Passes d := by
  unfold scanString at h
  split at h
  · cases h
  · next hu =>
    cases h
    exact (Cursor.passes_advance hne Nat.one_ne_zero).trans <|
      (Cursor.reaches_upTo? hu).trans (Cursor.reaches_advance _ 1)

theorem numberText_ne_nil {text : List Char} (h : startsNumber text = true) :
    numberText text ≠ [] := by
  have hd : Number.isDigit '.' = false := by decide
  match text, h with
  | '.' :: x :: rest, h =>
    have hx : x ≠ '.' := by
      rintro rfl
      simp [startsNumber, hd] at h
    simp only [numberText, List.takeWhile_cons, List.dropWhile_cons, hd, Bool.false_eq_true,
      ↓reduceIte]
    split <;> simp_all
  | ['.'], h => simp [startsNumber, hd] at h
  | x :: rest, h =>
    by_cases hx : x = '.'
    · subst hx
      cases rest with
      | nil => simp [startsNumber, hd] at h
      | cons y rest =>
        simp only [numberText, List.takeWhile_cons, List.dropWhile_cons, hd, Bool.false_eq_true,
          ↓reduceIte]
        split <;> simp_all [startsNumber]
    · have hx' : Number.isDigit x = true := by simpa [startsNumber, hx] using h
      simp only [numberText, List.takeWhile_cons, hx', ↓reduceIte]
      split <;> simp
  | [], h => cases h

theorem reaches_simpleName (name : String) (c : Cursor) : c.Reaches (simpleName name c).2 := by
  unfold simpleName
  dsimp only
  split
  · exact c.reaches_skipWhile _
  · exact c.reaches_skipWhile _
  · exact .refl c

theorem reaches_prefixedName (p l : String) (c : Cursor) : c.Reaches (prefixedName p l c).2 := by
  unfold prefixedName
  dsimp only
  split
  · exact c.reaches_skipWhile _
  · exact .refl c

theorem passes_scanName {c : Cursor} {first : Char} {rest : List Char} {afterOperand : Bool}
    (hc : c.rest = first :: rest) (hf : Markup.isNCNameStart first = true) :
    c.Passes (scanName afterOperand c).2 := by
  have hf' : Markup.isNCNameChar first = true := by
    simp_all [Markup.isNCNameStart, Markup.isNCNameChar, Markup.isNameChar]
  have hp := Cursor.passes_skipWhile hc hf'
  unfold scanName
  dsimp only
  split
  · exact hp
  · split
    · exact hp.trans (Cursor.reaches_advance _ 2)
    · split
      · exact hp.trans <| (Cursor.reaches_advance _ 1).trans <|
          (Cursor.reaches_skipWhile _ _).trans (reaches_prefixedName _ _ _)
      · exact hp.trans (reaches_simpleName _ _)
    · exact hp.trans (reaches_simpleName _ _)

/-- A token takes at least one character, from the front of what is left. -/
theorem passes_scan {c d : Cursor} {afterOperand : Bool} {token : Token}
    (h : scan afterOperand c = .ok (token, d)) : c.Passes d := by
  unfold scan at h
  split at h
  · next hs =>
    cases h
    have hne : c.rest ≠ [] := by
      intro hnil
      simp [hnil, startsNumber] at hs
    exact Cursor.passes_advance hne (by simpa using numberText_ne_nil hs)
  · split at h
    · next hs =>
      cases h
      have hne : c.rest ≠ [] := by
        intro hnil
        simp [hnil, sign?] at hs
      exact Cursor.passes_advance hne (sign?_pos hs)
    · split at h
      · cases h
      · next first rest hc =>
        split at h
        · cases h
        · split at h
          · exact passes_scanString (by simp [hc]) h
          · split at h
            · next hf =>
              obtain h := Except.ok.inj h
              have hp : c.Passes (scanName afterOperand c).2 := passes_scanName hc hf
              rwa [h] at hp
            · cases h

/-! ## Whole expressions -/

/-- The tokens of an expression, and how cutting ends: at a byte offset, or at one with a
fault. -/
structure Lexed where
  /-- The tokens, in order. -/
  lexemes : List Lexeme
  /-- The byte at which the expression ends, or at which no token starts. -/
  stop : Nat
  /-- Why no token starts there, unless it is the end. -/
  fault : Option LexicalFault

/-- The tokens from a cursor on, after those in `found`, the latest first. -/
def tokenizeFrom (found : List Lexeme) (afterOperand : Bool) (c : Cursor) : Lexed :=
  let start := skipBlanks c
  if start.rest.isEmpty then ⟨found.reverse, start.offset, none⟩
  else
    match _h : scan afterOperand start with
    | .error fault => ⟨found.reverse, start.offset, some fault⟩
    | .ok (token, next) =>
      tokenizeFrom (⟨start.offset, token⟩ :: found) (token.endsOperand afterOperand) next
termination_by c.rest.length
decreasing_by
  have h₁ := (passes_scan _h).length_lt
  have h₂ := (c.reaches_skipWhile Text.isBlank).length_le
  have h₃ : start = c.skipWhile Text.isBlank := rfl
  rw [h₃] at h₁
  omega

/-- The tokens of an expression. -/
def tokenize (text : List Char) : Lexed := tokenizeFrom [] false (.ofText text)

end XmlQuery.XPath
