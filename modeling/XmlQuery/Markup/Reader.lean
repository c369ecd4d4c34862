import XmlQuery.Markup.Event
import XmlQuery.Markup.Failure
import XmlQuery.Markup.Reference

/-!
# Reading events

A text is read from front to back, one event at a time. Each construct is checked as it is read:
its delimiters, names, characters and references. How tags nest and what prefixes mean is not
looked at here.

## Main definitions

* `readEvent`: the event at a cursor, and the place after it
* `readAll`: the events of a text, and how reading ends

## Main results

* `passes_readEvent`: an event takes at least one character, from the front of what is left
-/

namespace XmlQuery.Markup

open Text (Cursor utf8Length)

/-- Refuses characters that a document may not hold. -/
def checkChars (here : Cursor) (start : Nat) (text : List Char) : Except Failure Unit :=
  match firstInvalid? start text with
  | some fault => .error (failAt here fault.offset fault.kind)
  | none => .ok ()

/-- The offset of the first occurrence of a delimiter in a text that starts at byte `start`. -/
def offsetOf? (delimiter : String) (start : Nat) (text : List Char) : Option Nat :=
  (Text.splitFirst? delimiter.toList text).map fun (before, _) => start + utf8Length before

/-- Refuses a delimiter in a text that starts at byte `start`. -/
def refuse (here : Cursor) (delimiter : String) (kind : ErrorKind) (start : Nat)
    (text : List Char) : Except Failure Unit :=
  match offsetOf? delimiter start text with
  | some offset => .error (failAt here offset kind)
  | none => .ok ()

/-- Character data at byte `start`, decoded. -/
def decodeData (here : Cursor) (mode : DataMode) (start : Nat) (raw : List Char) :
    Except Failure String :=
  match decode mode start raw with
  | .ok text => .ok (String.ofList text)
  | .error fault => .error (failAt here fault.offset fault.kind)

/-- The name that has to come next. -/
def readName (c : Cursor) (what : Expected) : Except Failure (List Char × Cursor) :=
  match name? c with
  | some found => .ok found
  | none => .error (missing c what)

/-- A quoted attribute value, decoded. -/
def readValue (c : Cursor) : Except Failure (String × Cursor) :=
  match c.rest with
  | [] => .error (missing c .quotedValue)
  | quote :: _ =>
    if quote = '"' ∨ quote = '\'' then
      let inner := c.advance 1
      match inner.upTo? (String.singleton quote) with
      | none => .error (fail inner .unexpectedEof)
      | some (raw, close) => do
        refuse inner "<" .ltInAttributeValue inner.offset raw
        let value ← decodeData inner .attribute inner.offset raw
        .ok (value, close.advance 1)
    else .error (missing c .quotedValue)

/-- An attribute, which has to come next. -/
def readAttribute (c : Cursor) : Except Failure (Attribute × Cursor) :=
  match readName c .attributeName with
  | .error e => .error e
  | .ok (name, afterName) =>
    match expect (skipBlanks afterName) "=" .equalsSign with
    | .error e => .error e
    | .ok afterSign =>
      match readValue (skipBlanks afterSign) with
      | .error e => .error e
      | .ok (value, next) => .ok (⟨String.ofList name, value, c.offset⟩, next)

theorem takes_readName {c d : Cursor} {name : List Char} {what : Expected}
    (h : readName c what = .ok (name, d)) : c.Takes name d := by
  unfold readName at h
  split at h
  · next found hn =>
    cases h
    exact takes_name? hn
  · cases h

theorem passes_readName {c d : Cursor} {name : List Char} {what : Expected}
    (h : readName c what = .ok (name, d)) : c.Passes d := by
  refine ⟨name, ?_, takes_readName h⟩
  unfold readName at h
  split at h
  · next found hn =>
    cases h
    exact name?_ne_nil hn
  · cases h

theorem reaches_readValue {c d : Cursor} {value : String} (h : readValue c = .ok (value, d)) :
    c.Reaches d := by
  unfold readValue at h
  split at h
  · cases h
  · split at h
    · dsimp only at h
      split at h
      · cases h
      · next raw close hu =>
        simp only [bind, Except.bind] at h
        split at h
        · cases h
        · split at h
          · cases h
          · cases h
            exact (c.reaches_advance 1).trans <| (Cursor.reaches_upTo? hu).trans <|
              close.reaches_advance 1
    · cases h

theorem passes_readAttribute {c d : Cursor} {a : Attribute}
    (h : readAttribute c = .ok (a, d)) : c.Passes d := by
  unfold readAttribute at h
  split at h
  · cases h
  · next name afterName hn =>
    split at h
    · cases h
    · next afterSign hs =>
      split at h
      · cases h
      · next value next hv =>
        cases h
        exact (passes_readName hn).trans <| (Cursor.reaches_skipWhile _ _).trans <|
          (reaches_expect hs).trans <| (Cursor.reaches_skipWhile _ _).trans <|
          reaches_readValue hv

/-- The attributes of a tag up to its end, and whether the end closes the element too. -/
def readAttributes (c : Cursor) : Except Failure (List Attribute × Bool × Cursor) :=
  let inner := skipBlanks c
  match inner.rest with
  | [] => .error (fail inner .unexpectedEof)
  | '>' :: _ => .ok ([], false, inner.advance 1)
  | '/' :: _ =>
    match expect inner "/>" .emptyTagClose with
    | .error e => .error e
    | .ok next => .ok ([], true, next)
  | _ :: _ =>
    if atBlank c then
      match _h : readAttribute inner with
      | .error e => .error e
      | .ok (a, next) =>
        match readAttributes next with
        | .error e => .error e
        | .ok (others, isEmpty, after) => .ok (a :: others, isEmpty, after)
    else .error (fail inner (.expected .attributeBlank))
termination_by c.rest.length
decreasing_by
  have h₁ := (passes_readAttribute _h).length_lt
  have h₂ := (c.takes_skipWhile Text.isBlank).length_le
  have h₃ : inner = c.skipWhile Text.isBlank := rfl
  rw [h₃] at h₁
  omega

/-- A start tag, of which the opening sign comes next. -/
def readStartTag (c : Cursor) : Except Failure (Event × Cursor) := do
  let (name, afterName) ← readName (c.advance 1) .elementName
  let (attributes, isEmpty, next) ← readAttributes afterName
  .ok (.startTag (String.ofList name) attributes isEmpty, next)

/-- An end tag, of which the opening signs come next. -/
def readEndTag (c : Cursor) : Except Failure (Event × Cursor) := do
  let (name, afterName) ← readName (c.advance 2) .elementName
  let next ← expect (skipBlanks afterName) ">" .endTagClose
  .ok (.endTag (String.ofList name), next)

/-- The text up to the next tag or the end. -/
def readText (c : Cursor) : Except Failure (Event × Cursor) := do
  let raw := c.rest.takeWhile (· != '<')
  refuse c "]]>" .cdataEndInText c.offset raw
  let data ← decodeData c .text c.offset raw
  .ok (.text data, c.skipWhile (· != '<'))

/-- A comment, of which the opening delimiter comes next. -/
def readComment (c : Cursor) : Except Failure (Event × Cursor) :=
  let inner := c.advance 4
  match inner.upTo? "-->" with
  | none => .error (failAt inner c.offset .unexpectedEof)
  | some (content, close) => do
    refuse inner "--" .doubleHyphenInComment inner.offset content
    if content.getLast? = some '-' then
      throw (failAt inner (close.offset - 1) .doubleHyphenInComment)
    checkChars inner inner.offset content
    .ok (.comment (String.ofList (normalizeNewlines content)), close.advance 3)

/-- A CDATA section, of which the opening delimiter comes next. -/
def readCData (c : Cursor) : Except Failure (Event × Cursor) :=
  let inner := c.advance 9
  match inner.upTo? "]]>" with
  | none => .error (failAt inner c.offset .unexpectedEof)
  | some (content, close) => do
    checkChars inner inner.offset content
    .ok (.cdata (String.ofList (normalizeNewlines content)), close.advance 3)

/-- The content of a processing instruction, and the place of its end: nothing if the end follows
the target at once, else what follows white space. -/
def readInstructionContent (start : Nat) (c : Cursor) :
    Except Failure (List Char × Cursor × Cursor) :=
  if c.startsWith "?>" then .ok ([], c, c)
  else if atBlank c then
    let inner := skipBlanks c
    match inner.upTo? "?>" with
    | none => .error (failAt inner start .unexpectedEof)
    | some (content, close) => .ok (content, inner, close)
  else .error (missing c .instructionBlank)

/-- The target is that of the XML declaration up to case, but not exactly. -/
def isReservedTarget (target : List Char) : Bool :=
  target != ['x', 'm', 'l'] && target.map Char.toLower == ['x', 'm', 'l']

/-- A processing instruction or the XML declaration, of which the opening signs come next. -/
def readInstruction (c : Cursor) : Except Failure (Event × Cursor) := do
  let (target, afterTarget) ← readName (c.advance 2) .instructionTarget
  if target = ['x', 'm', 'l'] ∧ c.offset ≠ 0 then
    throw (failAt afterTarget c.offset .misplacedDeclaration)
  if isReservedTarget target then
    throw (failAt afterTarget (c.offset + 2) (.reservedInstructionTarget (String.ofList target)))
  let (content, inner, close) ← readInstructionContent c.offset afterTarget
  checkChars inner inner.offset content
  let next := close.advance 2
  if target = ['x', 'm', 'l'] then
    if "version".toList.isPrefixOf (content.dropWhile Text.isWhiteSpace) then
      .ok (.declaration (String.ofList (Text.trimEnd Text.isWhiteSpace content)), next)
    else throw (failAt next inner.offset (.expected .declarationVersion))
  else
    .ok (.instruction (String.ofList target) (String.ofList (normalizeNewlines content)), next)

/-- Why the end of a document type declaration is not found. -/
inductive DoctypeEnd
  /-- The text ends. -/
  | missing
  /-- The text ends in a comment that starts after so many bytes. -/
  | inComment (offset : Nat)
  deriving DecidableEq

/-- The number of characters of a document type declaration before its closing sign. Signs in
quoted literals, in comments and in the internal subset, which is in `depth` brackets, do not
close it. -/
def doctypeLength (quote : Option Char) (depth offset : Nat) : List Char → Except DoctypeEnd Nat
  | [] => .error .missing
  | c :: rest =>
    match quote with
    | some q =>
      (doctypeLength (if c = q then none else some q) depth (offset + c.utf8Size) rest).map (· + 1)
    | none =>
      if c = '>' ∧ depth = 0 then .ok 0
      else if c = '<' ∧ "!--".toList.isPrefixOf rest then
        match _h : Text.splitFirst? "-->".toList (rest.drop 3) with
        | none => .error (.inComment offset)
        | some (content, close) =>
          let comment := c :: rest.take 3 ++ content ++ close.take 3
          (doctypeLength none depth (offset + utf8Length comment) (close.drop 3)).map
            (· + comment.length)
      else
        let quote := if c = '"' ∨ c = '\'' then some c else none
        let depth := if c = '[' then depth + 1 else if c = ']' then depth - 1 else depth
        (doctypeLength quote depth (offset + c.utf8Size) rest).map (· + 1)
termination_by text => text.length
decreasing_by
  all_goals simp_wf
  have h := congrArg List.length (Text.append_of_splitFirst? _h)
  simp only [List.length_append, List.length_drop] at h
  omega

/-- A document type declaration, of which the keyword comes next after the opening signs. -/
def readDoctype (c : Cursor) : Except Failure (Event × Cursor) :=
  let start := c.advance 2
  let afterKeyword := start.advance 7
  if atBlank afterKeyword then
    let inner := skipBlanks afterKeyword
    match doctypeLength none 0 inner.offset inner.rest with
    | .error .missing => .error (failAt inner c.offset .unexpectedEof)
    | .error (.inComment offset) => .error (failAt inner offset .unexpectedEof)
    | .ok n => do
      let body := start.rest.take (start.rest.length - inner.rest.length + n)
      checkChars inner start.offset body
      .ok (.doctype (String.ofList body), inner.advance (n + 1))
  else .error (fail afterKeyword (.expected .doctypeBlank))

/-- The event at a cursor that is not at the end, and the place after it. -/
def readEvent (c : Cursor) : Except Failure (Event × Cursor) :=
  if ¬ c.startsWith "<" then readText c
  else if c.startsWith "<?" then readInstruction c
  else if c.startsWith "<!--" then readComment c
  else if c.startsWith "<![CDATA[" then readCData c
  else if c.startsWith "<!DOCTYPE" then readDoctype c
  else if c.startsWith "<!" then .error (fail c (.expected .exclamationMarkup))
  else if c.startsWith "</" then readEndTag c
  else readStartTag c

/-! ## Progress -/

theorem reaches_readAttributes {c d : Cursor} {attributes : List Attribute} {isEmpty : Bool}
    (h : readAttributes c = .ok (attributes, isEmpty, d)) : c.Reaches d := by
  fun_induction readAttributes c generalizing attributes isEmpty d with
  | case1 => cases h
  | case2 =>
    cases h
    exact (Cursor.reaches_skipWhile _ _).trans (Cursor.reaches_advance _ 1)
  | case3 => cases h
  | case4 =>
    rename_i hx
    cases h
    exact (Cursor.reaches_skipWhile _ _).trans (reaches_expect hx)
  | case5 => cases h
  | case6 => cases h
  | case7 =>
    rename_i ha _ _ _ hr ih
    cases h
    exact (Cursor.reaches_skipWhile _ _).trans <| (passes_readAttribute ha).reaches.trans (ih hr)
  | case8 => cases h

theorem passes_readStartTag {c d : Cursor} {e : Event} (hne : c.rest ≠ [])
    (h : readStartTag c = .ok (e, d)) : c.Passes d := by
  simp only [readStartTag, bind, Except.bind] at h
  split at h
  · cases h
  · next hn =>
    split at h
    · cases h
    · next ha =>
      cases h
      exact (Cursor.passes_advance hne Nat.one_ne_zero).trans <|
        (passes_readName hn).reaches.trans (reaches_readAttributes ha)

theorem passes_readEndTag {c d : Cursor} {e : Event} (hne : c.rest ≠ [])
    (h : readEndTag c = .ok (e, d)) : c.Passes d := by
  simp only [readEndTag, bind, Except.bind] at h
  split at h
  · cases h
  · next hn =>
    split at h
    · cases h
    · next hx =>
      cases h
      exact (Cursor.passes_advance hne (by decide)).trans <|
        (passes_readName hn).reaches.trans <| (Cursor.reaches_skipWhile _ _).trans
          (reaches_expect hx)

theorem passes_readText {c d : Cursor} {e : Event} (hne : c.rest ≠ [])
    (hlt : ¬ c.startsWith "<" = true) (h : readText c = .ok (e, d)) : c.Passes d := by
  simp only [readText, bind, Except.bind] at h
  split at h
  · cases h
  · split at h
    · cases h
    · cases h
      refine ⟨_, ?_, c.takes_skipWhile _⟩
      obtain ⟨_, rest⟩ := c
      cases rest with
      | nil => simp at hne
      | cons x rest =>
        have hx : x ≠ '<' := by
          rintro rfl
          exact hlt rfl
        simp [hx]

theorem passes_readComment {c d : Cursor} {e : Event} (hne : c.rest ≠ [])
    (h : readComment c = .ok (e, d)) : c.Passes d := by
  simp only [readComment] at h
  split at h
  · cases h
  · next hu =>
    simp only [bind, Except.bind, throw, throwThe, MonadExceptOf.throw] at h
    repeat' split at h
    all_goals cases h
    exact (Cursor.passes_advance hne (by decide)).trans <| (Cursor.reaches_upTo? hu).trans
      (Cursor.reaches_advance _ _)

theorem passes_readCData {c d : Cursor} {e : Event} (hne : c.rest ≠ [])
    (h : readCData c = .ok (e, d)) : c.Passes d := by
  simp only [readCData] at h
  split at h
  · cases h
  · next hu =>
    simp only [bind, Except.bind] at h
    split at h
    · cases h
    · cases h
      exact (Cursor.passes_advance hne (by decide)).trans <| (Cursor.reaches_upTo? hu).trans
        (Cursor.reaches_advance _ _)

theorem reaches_readInstructionContent {c inner close : Cursor} {start : Nat}
    {content : List Char} (h : readInstructionContent start c = .ok (content, inner, close)) :
    c.Reaches close := by
  unfold readInstructionContent at h
  split at h
  · cases h
    exact .refl _
  · split at h
    · dsimp only at h
      split at h
      · cases h
      · next hu =>
        cases h
        exact (c.reaches_skipWhile _).trans (Cursor.reaches_upTo? hu)
    · cases h

theorem passes_readInstruction {c d : Cursor} {e : Event} (hne : c.rest ≠ [])
    (h : readInstruction c = .ok (e, d)) : c.Passes d := by
  simp only [readInstruction, bind, Except.bind, throw, throwThe, MonadExceptOf.throw] at h
  split at h
  · cases h
  · next hn =>
    have hp := (Cursor.passes_advance hne (n := 2) (by decide)).trans (passes_readName hn).reaches
    split at h
    · cases h
    · split at h
      · cases h
      · split at h
        · cases h
        · next hc =>
          have := hp.trans ((reaches_readInstructionContent hc).trans (Cursor.reaches_advance _ 2))
          repeat' split at h
          all_goals cases h
          all_goals exact this

theorem passes_readDoctype {c d : Cursor} {e : Event} (hne : c.rest ≠ [])
    (h : readDoctype c = .ok (e, d)) : c.Passes d := by
  simp only [readDoctype] at h
  split at h
  · split at h
    · cases h
    · cases h
    · simp only [bind, Except.bind] at h
      split at h
      · cases h
      · cases h
        exact (Cursor.passes_advance hne (by decide)).trans <|
          (Cursor.reaches_advance _ _).trans <| (Cursor.reaches_skipWhile _ _).trans
            (Cursor.reaches_advance _ _)
  · cases h

/-- An event takes at least one character, from the front of what is left. -/
theorem passes_readEvent {c d : Cursor} {e : Event} (hne : c.rest ≠ [])
    (h : readEvent c = .ok (e, d)) : c.Passes d := by
  unfold readEvent at h
  split at h
  · next hlt => exact passes_readText hne hlt h
  · repeat' split at h
    · exact passes_readInstruction hne h
    · exact passes_readComment hne h
    · exact passes_readCData hne h
    · exact passes_readDoctype hne h
    · cases h
    · exact passes_readEndTag hne h
    · exact passes_readStartTag hne h

/-! ## Whole texts -/

/-- An event, where it starts and where it ends. -/
structure Placed where
  /-- The byte at which the event starts. -/
  offset : Nat
  /-- The event. -/
  event : Event
  /-- The byte after the event. -/
  next : Nat
  deriving DecidableEq

/-- The events of a text, and how reading ends: at a byte offset, or with a failure. -/
structure Reading where
  /-- The events, in order. -/
  events : List Placed
  /-- The end of the text, or what stopped the reader. -/
  outcome : Except Failure Nat

/-- The events from a cursor on. -/
def readFrom (c : Cursor) : Reading :=
  if _hne : c.rest = [] then ⟨[], .ok c.offset⟩
  else
    match _h : readEvent c with
    | .error failure => ⟨[], .error failure⟩
    | .ok (event, next) =>
      let others := readFrom next
      ⟨⟨c.offset, event, next.offset⟩ :: others.events, others.outcome⟩
termination_by c.rest.length
decreasing_by exact (passes_readEvent _hne _h).length_lt

/-- The events of a text. -/
def readAll (text : List Char) : Reading := readFrom (.ofText text)

end XmlQuery.Markup
