import XmlQuery.Proofs.Markup.ScannedData
import XmlQuery.Proofs.Markup.ScannedDoctype

/-!
# Events in bytes

Each construct is scanned as it is read: what is found between two delimiters is cut out of the text
at the offsets at which these were found, and the scanner goes on behind it by as many bytes as it
counts. At the offset of a cursor, a scanner finds what the reader finds at the cursor, and arrives
at the offset of the cursor at which the reader arrives.

## Main definitions

* `Scanner.readEvent`: the event at an offset, and the offset after it

## Main results

* `Scanner.attributeStep_progress`: an attribute takes at least one byte
* `Scanner.agree_readEvent`: **a scanner reads the event that the reader reads**, and never makes a
  bad slice
-/

namespace XmlQuery.Markup.Scanner

open Text (Cursor IsBoundary utf8Length utf8Length_append utf8Length_cons utf8Length_nil)
open Utf8 (IsAscii encode firstOf? indexOf?)

variable (text : List Char)

/-! ## What is found between delimiters -/

/-- Refuses characters that a document may not hold. -/
def checkChars (position start : Nat) (s : List Char) : Except Halt Unit :=
  match firstInvalid? start s with
  | some fault => .error (failAt position fault.offset fault.kind)
  | none => .ok ()

/-- Refuses a delimiter in characters that start at byte `start`. -/
def refuse (position : Nat) (delimiter : String) (kind : ErrorKind) (start : Nat)
    (s : List Char) : Except Halt Unit :=
  match indexOf? (encode delimiter.toList) (encode s) with
  | some i => .error (failAt position (start + i) kind)
  | none => .ok ()

/-- Character data at byte `start`, decoded. -/
def decodeData (position : Nat) (mode : DataMode) (start : Nat) (raw : List Char) :
    Except Halt String :=
  (decode position start mode raw).map String.ofList

/-! ## Tags -/

/-- A quoted attribute value, decoded. -/
def readValue (position : Nat) : Except Halt (String × Nat) :=
  match peek text position with
  | none => .error (missing text position .quotedValue)
  | some quote =>
    if quote = '"'.toUInt8 ∨ quote = '\''.toUInt8 then do
      let start := advance text position 1
      match ← findFirst text start [Char.ofUInt8 quote] with
      | none => .error (failAt start start .unexpectedEof)
      | some stop =>
        let raw ← slice text start stop
        refuse start "<" .ltInAttributeValue start raw
        let value ← decodeData start .attribute start raw
        .ok (value, advance text start (stop + 1 - start))
    else .error (missing text position .quotedValue)

/-- An attribute, which has to come next. -/
def readAttribute (position : Nat) : Except Halt (Attribute × Nat) := do
  let (name, afterName) ← readName text position .attributeName
  let afterSign ← expect text (skipBlanks text afterName) "=" .equalsSign
  let (value, next) ← readValue text (skipBlanks text afterSign)
  .ok (⟨String.ofList name, value, position⟩, next)

/-- What comes next in a tag: an attribute, or the end, which may close the element too. -/
def attributeStep (position : Nat) : Except Halt ((Attribute × Nat) ⊕ (Bool × Nat)) :=
  let inner := skipBlanks text position
  match peek text inner with
  | none => .error (failAt inner inner .unexpectedEof)
  | some b =>
    if b = '>'.toUInt8 then .ok (.inr (false, advance text inner 1))
    else if b = '/'.toUInt8 then do
      let next ← expect text inner "/>" .emptyTagClose
      .ok (.inr (true, next))
    else if position < inner then do
      let found ← readAttribute text inner
      .ok (.inl found)
    else .error (failAt inner inner (.expected .attributeBlank))

variable {text}

/-! ### Agreement -/

variable {c d inner close : Cursor} {delimiter : String} {kind : ErrorKind} {start : Nat}
  {s taken : List Char}

theorem agree_checkChars (hc : (Cursor.ofText text).Reaches c) (hs : OccursAt text start s) :
    Agree (Stops text) Eq (Markup.checkChars c start s) (checkChars c.offset start s) := by
  rw [Markup.checkChars, checkChars]
  cases hinvalid : firstInvalid? start s with
  | none => exact .ok rfl
  | some fault =>
    obtain ⟨front, tail, rfl, hoffset⟩ := firstInvalid?_fault hinvalid
    exact .error (stops_failAt hc (hoffset ▸ hs.isBoundary))

theorem agree_refuse (hc : (Cursor.ofText text).Reaches c) (hs : OccursAt text start s) :
    Agree (Stops text) Eq (Markup.refuse c delimiter kind start s)
      (refuse c.offset delimiter kind start s) := by
  rw [Markup.refuse, refuse, offsetOf?, Utf8.indexOf?_encode]
  cases hsplit : Text.splitFirst? delimiter.toList s with
  | none => exact .ok rfl
  | some parts =>
    obtain ⟨before, found⟩ := parts
    obtain rfl := Text.append_of_splitFirst? hsplit
    exact .error (stops_failAt hc hs.isBoundary)

/-- A delimiter that is found comes next at its place. -/
theorem startsWith_of_upTo? (h : inner.upTo? delimiter = some (taken, close)) :
    close.startsWith delimiter = true := by
  obtain ⟨⟨before, found⟩, hsplit, heq⟩ := Option.map_eq_some_iff.1 h
  cases heq
  exact List.isPrefixOf_iff_prefix.2 (Text.first_of_splitFirst? hsplit).1

/-- What stands in front of a delimiter that is found is cut out, and the scanner goes on behind the
delimiter by as many bytes as they both have. -/
theorem cut_of_upTo? (hinner : (Cursor.ofText text).Reaches inner)
    (h : inner.upTo? delimiter = some (taken, close)) :
    slice text inner.offset close.offset = .ok taken ∧ OccursAt text inner.offset taken ∧
      close.offset = inner.offset + utf8Length taken ∧
      Stands text (close.advance delimiter.length)
        (advance text inner.offset (utf8Length taken + utf8Length delimiter.toList)) := by
  have htakes := Cursor.takes_upTo? h
  obtain ⟨d, hd⟩ := Cursor.startsWith_iff.1 (startsWith_of_upTo? h)
  refine ⟨slice_eq hinner htakes, occursAt_of_takes hinner htakes, htakes.2, ?_, ?_⟩
  · rw [← utf8Length_append, advance_eq hinner (htakes.trans hd), ← String.length_toList,
      hd.advance_eq]
  · exact hinner.trans (Cursor.Reaches.trans ⟨taken, htakes⟩ (close.reaches_advance _))

theorem agree_readValue (hc : (Cursor.ofText text).Reaches c) :
    Agree (Stops text) (Lands text) (Markup.readValue c) (readValue text c.offset) := by
  rw [Markup.readValue, readValue, peek_eq hc]
  cases hrest : c.rest with
  | nil => exact .error (stops_missing hc)
  | cons quote rest =>
    obtain ⟨b, hb, hhead⟩ := Utf8.exists_head?_encode quote rest
    rw [hhead]
    dsimp only
    simp only [@Utf8.eq_toUInt8_iff _ '"' b (by decide) hb,
      @Utf8.eq_toUInt8_iff _ '\'' b (by decide) hb]
    refine .ite (fun hquote => ?_) fun _ => .error (stops_missing hc)
    have hascii : quote.toNat ≤ 0x7F := by rcases hquote with rfl | rfl <;> decide
    have hchar : Char.ofUInt8 b = quote := by
      rw [(Utf8.eq_toUInt8_iff hascii hb).2 rfl]
      rcases hquote with rfl | rfl <;> decide
    have hone : c.startsWith (String.singleton quote) = true := by
      rw [Cursor.startsWith_iff, String.toList_singleton]
      exact ⟨c.past [quote] rest, hrest, rfl⟩
    have hsize : utf8Length (String.singleton quote).toList = 1 := by
      rw [String.toList_singleton]
      rcases hquote with rfl | rfl <;> rfl
    have hadvance := advance_of_startsWith hc hone
    rw [hsize, String.length_singleton] at hadvance
    have hinner := hc.trans (c.reaches_advance 1)
    rw [hadvance, findFirst_eq (hchar ▸ hascii) hinner, ok_bind, hchar]
    cases hfound : (c.advance 1).upTo? (String.singleton quote) with
    | none => exact .error (stops_failAt hinner (isBoundary_offset hinner))
    | some found =>
      obtain ⟨raw, close⟩ := found
      obtain ⟨hslice, hraw, hclose, hend⟩ := cut_of_upTo? hinner hfound
      have hbytes : close.offset + 1 - (c.advance 1).offset = utf8Length raw + 1 := by omega
      rw [hsize, String.length_singleton] at hend
      dsimp only [Option.map_some]
      rw [hslice, ok_bind, hbytes]
      refine (agree_refuse hinner hraw).bind fun _ _ _ => ?_
      refine (agree_decode hinner hraw _).bind ?_
      rintro value _ rfl
      exact .ok (hend.lands value)

theorem Stands.skipBlanks {position : Nat} (h : Stands text c position) :
    Stands text (Markup.skipBlanks c) (skipBlanks text position) := by
  obtain ⟨rfl, hc⟩ := h
  exact ⟨skipBlanks_eq hc, hc.trans (c.reaches_skipWhile _)⟩

theorem agree_readAttribute (hc : (Cursor.ofText text).Reaches c) :
    Agree (Stops text) (Lands text) (Markup.readAttribute c) (readAttribute text c.offset) := by
  rw [readAttribute_eq, readAttribute]
  refine (agree_readName hc _).bind ?_
  rintro _ _ ⟨name, afterName, hafter⟩
  obtain ⟨hposition, hsign⟩ := Stands.skipBlanks ⟨rfl, hafter⟩
  dsimp only
  rw [hposition]
  refine (agree_expect hsign _ _).bind fun afterSign _ hstands => ?_
  obtain ⟨hposition', hvalue⟩ := hstands.skipBlanks
  rw [hposition']
  refine (agree_readValue hvalue).bind ?_
  rintro _ _ ⟨value, next, hnext⟩
  exact .ok (.intro _ _ hnext)

/-! ### Attributes -/

/-- A place between characters is that of a cursor. -/
theorem exists_cursor {position : Nat} (h : IsBoundary text position) :
    ∃ c, (Cursor.ofText text).Reaches c ∧ c.offset = position := by
  obtain ⟨before, after, rfl, rfl⟩ := h
  exact ⟨⟨utf8Length before, after⟩, ⟨before, rfl, (Nat.zero_add _).symm⟩, rfl⟩

theorem isBoundary_of_readAttribute {position next : Nat} {a : Attribute}
    (h : readAttribute text position = .ok (a, next)) : IsBoundary text position := by
  obtain ⟨found, hname, -⟩ := bind_eq_ok_iff.1 h
  obtain ⟨_, hname, -⟩ := bind_eq_ok_iff.1 hname
  obtain ⟨rest, hrest, -⟩ := bind_eq_ok_iff.1 hname
  exact (slice_isOk_iff.1 ⟨rest, hrest⟩).2.1

theorem lt_of_readAttribute {position next : Nat} {a : Attribute}
    (h : readAttribute text position = .ok (a, next)) : position < next := by
  obtain ⟨c, hc, rfl⟩ := exists_cursor (isBoundary_of_readAttribute h)
  rcases (agree_readAttribute hc).exists_eq with
    ⟨_, _, hleft, hright, hlands⟩ | ⟨_, _, -, hright, -⟩
  · rw [h] at hright
    cases hright
    cases hlands
    exact (passes_readAttribute hleft).offset_lt
  · rw [h] at hright
    cases hright

/-- **An attribute takes at least one byte.** -/
theorem attributeStep_progress {position next : Nat} {a : Attribute}
    (h : attributeStep text position = .ok (.inl (a, next))) :
    position < utf8Length text ∧ position < next := by
  unfold attributeStep at h
  dsimp only at h
  split at h
  · cases h
  · next b hb =>
    have hle : position ≤ skipBlanks text position := Nat.le_add_right _ _
    have hlt := (List.getElem?_eq_some_iff.1 hb).1
    rw [Utf8.length_encode] at hlt
    split at h
    · cases h
    split at h
    · obtain ⟨_, -, h⟩ := bind_eq_ok_iff.1 h
      cases h
    split at h
    · obtain ⟨found, hfound, h⟩ := bind_eq_ok_iff.1 h
      cases h
      have := lt_of_readAttribute hfound
      omega
    · cases h

/-- The attributes of a tag up to its end, behind those that are known, and whether the end closes
the element too. -/
def readAttributes (text : List Char) (position : Nat) (attributes : List Attribute) :
    Except Halt (List Attribute × Bool × Nat) :=
  match _h : attributeStep text position with
  | .error halt => .error halt
  | .ok (.inr (isEmpty, next)) => .ok (attributes, isEmpty, next)
  | .ok (.inl (a, next)) => readAttributes text next (attributes ++ [a])
termination_by utf8Length text - position
decreasing_by
  have := attributeStep_progress _h
  omega

/-- What comes next in a tag decides how it goes on. -/
theorem scanAttributes_eq (position : Nat) (attributes : List Attribute) :
    readAttributes text position attributes =
      match attributeStep text position with
      | .error halt => .error halt
      | .ok (.inr (isEmpty, next)) => .ok (attributes, isEmpty, next)
      | .ok (.inl (a, next)) => readAttributes text next (attributes ++ [a]) := by
  rw [readAttributes]
  split <;> next h => rw [h]

/-- What comes next in a tag, by what stands behind white space. -/
theorem attributeStep_eq (hc : (Cursor.ofText text).Reaches c) :
    attributeStep text c.offset =
      if (Markup.skipBlanks c).rest = [] then
        .error (failAt (Markup.skipBlanks c).offset (Markup.skipBlanks c).offset .unexpectedEof)
      else if (Markup.skipBlanks c).startsWith ">" then
        .ok (.inr (false, ((Markup.skipBlanks c).advance 1).offset))
      else if (Markup.skipBlanks c).startsWith "/" then
        (expect text (Markup.skipBlanks c).offset "/>" .emptyTagClose).map fun next =>
          .inr (true, next)
      else if atBlank c then (readAttribute text (Markup.skipBlanks c).offset).map .inl
      else .error (failAt (Markup.skipBlanks c).offset (Markup.skipBlanks c).offset
        (.expected .attributeBlank)) := by
  obtain ⟨-, hinner⟩ := Stands.skipBlanks ⟨rfl, hc⟩
  have hblank : c.offset < (Markup.skipBlanks c).offset ↔ atBlank c = true := by
    rw [← skipBlanks_eq hc]
    exact lt_skipBlanks_iff hc
  rw [attributeStep, skipBlanks_eq hc, peek_eq hinner]
  simp only [hblank]
  cases hrest : (Markup.skipBlanks c).rest with
  | nil => rfl
  | cons x rest =>
    obtain ⟨b, hb, hhead⟩ := Utf8.exists_head?_encode x rest
    have hstarts : ∀ (y : Char) (sign : String), y.toNat ≤ 0x7F → sign.toList = [y] →
        (b = y.toUInt8 ↔ (Markup.skipBlanks c).startsWith sign = true) := by
      intro y sign hy hsign
      rw [Utf8.eq_toUInt8_iff hy hb, Cursor.startsWith_of_cons hrest hsign, beq_iff_eq, eq_comm]
    rw [hhead, if_neg (List.cons_ne_nil _ _)]
    dsimp only
    simp only [hstarts '>' ">" (by decide) rfl, hstarts '/' "/" (by decide) rfl]
    by_cases hsign : (Markup.skipBlanks c).startsWith ">" = true
    · have hadvance : advance text (Markup.skipBlanks c).offset 1 =
          ((Markup.skipBlanks c).advance 1).offset := advance_of_startsWith hinner hsign
      rw [if_pos hsign, if_pos hsign, hadvance]
    rw [if_neg hsign, if_neg hsign]
    by_cases hslash : (Markup.skipBlanks c).startsWith "/" = true
    · rw [if_pos hslash, if_pos hslash]
      cases expect text (Markup.skipBlanks c).offset "/>" .emptyTagClose <;> rfl
    rw [if_neg hslash, if_neg hslash]
    by_cases hatBlank : atBlank c = true
    · rw [if_pos hatBlank, if_pos hatBlank]
      cases readAttribute text (Markup.skipBlanks c).offset <;> rfl
    · rw [if_neg hatBlank, if_neg hatBlank]

/-- The attributes of a tag are found behind those that are known, by induction on what is left. -/
theorem agree_readAttributes {c : Cursor} (hc : (Cursor.ofText text).Reaches c)
    (attributes : List Attribute) :
    Agree (Stops text)
      (fun found scanned => scanned.1 = attributes ++ found.1 ∧ scanned.2.1 = found.2.1 ∧
        Stands text found.2.2 scanned.2.2)
      (Markup.readAttributes c) (readAttributes text c.offset attributes) := by
  obtain ⟨-, hinner⟩ := Stands.skipBlanks ⟨rfl, hc⟩
  rw [scanAttributes_eq, attributeStep_eq hc, readAttributes_eq]
  by_cases hrest : (Markup.skipBlanks c).rest = []
  · rw [if_pos hrest, if_pos hrest]
    exact .error (stops_failAt hinner (isBoundary_offset hinner))
  rw [if_neg hrest, if_neg hrest]
  by_cases hsign : (Markup.skipBlanks c).startsWith ">" = true
  · rw [if_pos hsign, if_pos hsign]
    exact .ok ⟨(List.append_nil _).symm, rfl, rfl, hinner.trans (Cursor.reaches_advance _ 1)⟩
  rw [if_neg hsign, if_neg hsign]
  by_cases hslash : (Markup.skipBlanks c).startsWith "/" = true
  · rw [if_pos hslash, if_pos hslash]
    rcases (agree_expect hinner "/>" .emptyTagClose).exists_eq with
      ⟨next, _, hleft, hright, hnext⟩ | ⟨_, _, hleft, hright, hstops⟩
    · rw [hleft, hright]
      exact .ok ⟨(List.append_nil _).symm, rfl, hnext⟩
    · rw [hleft, hright]
      exact .error hstops
  rw [if_neg hslash, if_neg hslash]
  by_cases hatBlank : atBlank c = true
  case neg =>
    rw [if_neg hatBlank, if_neg hatBlank]
    exact .error (stops_failAt hinner (isBoundary_offset hinner))
  rw [if_pos hatBlank, if_pos hatBlank]
  rcases (agree_readAttribute hinner).exists_eq with
    ⟨_, _, hleft, hright, a, next, hreaches⟩ | ⟨_, _, hleft, hright, hstops⟩
  · -- An attribute takes a character, so less is left behind it.
    have hlt := (passes_readAttribute hleft).length_lt
    have hle : (Markup.skipBlanks c).rest.length ≤ c.rest.length := (c.takes_skipWhile _).length_le
    rw [hleft, hright]
    rcases (agree_readAttributes hreaches (attributes ++ [a])).exists_eq with
      ⟨⟨others, isEmpty, after⟩, ⟨_, _, _⟩, hleft', hright', hall, hempty, hafter⟩ |
      ⟨_, _, hleft', hright', hstops⟩
    · rw [ok_bind]
      dsimp only [Except.map]
      rw [hleft', hright']
      refine .ok ⟨?_, hempty, hafter⟩
      rw [hall, List.append_assoc]
      rfl
    · rw [ok_bind]
      dsimp only [Except.map]
      rw [hleft', hright']
      exact .error hstops
  · rw [hleft, hright]
    exact .error hstops
termination_by c.rest.length
decreasing_by exact hlt.trans_le hle

/-! ## Constructs -/

/-- A start tag, of which the opening sign comes next. -/
def readStartTag (text : List Char) (position : Nat) : Except Halt (Event × Nat) := do
  let (name, afterName) ← readName text (advance text position 1) .elementName
  let (attributes, isEmpty, next) ← readAttributes text afterName []
  .ok (.startTag (String.ofList name) attributes isEmpty, next)

/-- An end tag, of which the opening signs come next. -/
def readEndTag (text : List Char) (position : Nat) : Except Halt (Event × Nat) := do
  let (name, afterName) ← readName text (advance text position 2) .elementName
  let next ← expect text (skipBlanks text afterName) ">" .endTagClose
  .ok (.endTag (String.ofList name), next)

/-- The text up to the next tag or the end. -/
def readText (text : List Char) (position : Nat) : Except Halt (Event × Nat) := do
  let rest ← remaining text position
  let found ← findFirst text position ['<']
  let stop := found.getD (position + utf8Length rest)
  let raw ← slice text position stop
  refuse position "]]>" .cdataEndInText position raw
  let data ← decodeData position .text position raw
  .ok (.text data, advance text position (stop - position))

/-- A comment, of which the opening delimiter comes next. -/
def readComment (text : List Char) (position : Nat) : Except Halt (Event × Nat) := do
  let start := advance text position 4
  match ← find text start "-->" with
  | none => .error (failAt start position .unexpectedEof)
  | some stop => do
    let content ← slice text start stop
    refuse start "--" .doubleHyphenInComment start content
    if content.getLast? = some '-' then
      throw (failAt start (stop - 1) .doubleHyphenInComment)
    checkChars start start content
    .ok (.comment (String.ofList (normalizeNewlines content)),
      advance text start (stop + 3 - start))

/-- A CDATA section, of which the opening delimiter comes next. -/
def readCData (text : List Char) (position : Nat) : Except Halt (Event × Nat) := do
  let start := advance text position 9
  match ← find text start "]]>" with
  | none => .error (failAt start position .unexpectedEof)
  | some stop => do
    let content ← slice text start stop
    checkChars start start content
    .ok (.cdata (String.ofList (normalizeNewlines content)), advance text start (stop + 3 - start))

/-- The content of a processing instruction that starts at `start`, and the offset at which the
content starts. -/
def readInstructionContent (text : List Char) (start position : Nat) :
    Except Halt (List Char × Nat) := do
  if ← startsWith text position "?>" then .ok ([], position)
  else
    let inner := skipBlanks text position
    if position < inner then
      match ← find text inner "?>" with
      | none => .error (failAt inner start .unexpectedEof)
      | some stop => do
        let content ← slice text inner stop
        .ok (content, inner)
    else .error (missing text inner .instructionBlank)

/-- A processing instruction or the XML declaration, of which the opening signs come next. -/
def readInstruction (text : List Char) (position : Nat) : Except Halt (Event × Nat) := do
  let (target, afterTarget) ← readName text (advance text position 2) .instructionTarget
  if target = ['x', 'm', 'l'] ∧ position ≠ 0 then
    throw (failAt afterTarget position .misplacedDeclaration)
  if isReservedTarget target then
    throw (failAt afterTarget (position + 2)
      (.reservedInstructionTarget (String.ofList target)))
  let (content, inner) ← readInstructionContent text position afterTarget
  checkChars inner inner content
  let next := advance text inner (utf8Length content + 2)
  if target = ['x', 'm', 'l'] then
    if "version".toList.isPrefixOf (content.dropWhile Text.isWhiteSpace) then
      .ok (.declaration (String.ofList (Text.trimEnd Text.isWhiteSpace content)), next)
    else throw (failAt next inner (.expected .declarationVersion))
  else
    .ok (.instruction (String.ofList target) (String.ofList (normalizeNewlines content)), next)

/-- A document type declaration, of which the keyword comes next after the opening signs. -/
def readDoctype (text : List Char) (position : Nat) : Except Halt (Event × Nat) := do
  let start := advance text position 2
  let afterKeyword := advance text start 7
  let inner := skipBlanks text afterKeyword
  if afterKeyword < inner then do
    let rest ← remaining text inner
    let stop ← searchFrom inner position inner (encode rest) ⟨none, 0, 0⟩
    let body ← slice text start stop
    checkChars inner start body
    .ok (.doctype (String.ofList body), advance text inner (stop + 1 - inner))
  else .error (failAt inner inner (.expected .doctypeBlank))

/-- The event at an offset in front of the end, and the offset after it. -/
def readEvent (text : List Char) (position : Nat) : Except Halt (Event × Nat) := do
  if peek text position ≠ some '<'.toUInt8 then readText text position
  else if ← startsWith text position "<?" then readInstruction text position
  else if ← startsWith text position "<!--" then readComment text position
  else if ← startsWith text position "<![CDATA[" then readCData text position
  else if ← startsWith text position "<!DOCTYPE" then readDoctype text position
  else if ← startsWith text position "<!" then
    .error (failAt position position (.expected .exclamationMarkup))
  else if ← startsWith text position "</" then readEndTag text position
  else readStartTag text position

/-! ### Agreement -/

/-- Opening signs have as many bytes as characters. -/
theorem utf8Length_take_of_startsWith {n : Nat} {opening : String}
    (hopen : c.startsWith opening = true)
    (hn : n ≤ opening.toList.length ∧ utf8Length (opening.toList.take n) = n) :
    utf8Length (c.rest.take n) = n := by
  obtain ⟨d, hd⟩ := Cursor.startsWith_iff.1 hopen
  rw [hd.1, List.take_append_of_le_length hn.1, hn.2]

theorem stands_advance (hc : (Cursor.ofText text).Reaches c) {n : Nat} {opening : String}
    (hopen : c.startsWith opening = true)
    (hn : n ≤ opening.toList.length ∧ utf8Length (opening.toList.take n) = n) :
    Stands text (c.advance n) (advance text c.offset n) :=
  ⟨advance_length hc (utf8Length_take_of_startsWith hopen hn), hc.trans (c.reaches_advance n)⟩

theorem agree_readStartTag (hc : (Cursor.ofText text).Reaches c)
    (hopen : c.startsWith "<" = true) :
    Agree (Stops text) (Lands text) (Markup.readStartTag c) (readStartTag text c.offset) := by
  obtain ⟨hposition, hinner⟩ := @stands_advance _ _ hc 1 _ hopen (by decide)
  rw [Markup.readStartTag, readStartTag, hposition]
  refine (agree_readName hinner _).bind ?_
  rintro _ _ ⟨name, afterName, hafter⟩
  refine (agree_readAttributes hafter []).bind ?_
  rintro ⟨attributes, isEmpty, next⟩ ⟨_, _, _⟩ ⟨rfl, rfl, hnext⟩
  exact .ok (hnext.lands _)

theorem agree_readEndTag (hc : (Cursor.ofText text).Reaches c)
    (hopen : c.startsWith "</" = true) :
    Agree (Stops text) (Lands text) (Markup.readEndTag c) (readEndTag text c.offset) := by
  obtain ⟨hposition, hinner⟩ := @stands_advance _ _ hc 2 _ hopen (by decide)
  rw [Markup.readEndTag, readEndTag, hposition]
  refine (agree_readName hinner _).bind ?_
  rintro _ _ ⟨name, afterName, hafter⟩
  obtain ⟨hposition', hend⟩ := Stands.skipBlanks ⟨rfl, hafter⟩
  dsimp only
  rw [hposition']
  refine (agree_expect hend _ _).bind fun next _ hnext => ?_
  exact .ok (hnext.lands _)

/-- The next occurrence of a sign, or else the end, comes behind the characters that are not it. -/
theorem findFirst_getD {a : Char} (ha : a.toNat ≤ 0x7F) (hc : (Cursor.ofText text).Reaches c) :
    ∃ found, findFirst text c.offset [a] = .ok found ∧
      found.getD (c.offset + utf8Length c.rest) = (c.skipWhile (· != a)).offset := by
  have hascii : IsAscii [a] := List.forall_mem_singleton.2 ha
  obtain ⟨front, tail, hrest, hfront, htail⟩ := Text.exists_front [a] c.rest
  have hall : ∀ x ∈ front, (x != a) = true := fun x hx =>
    bne_iff_ne.2 fun heq => hfront x hx (List.mem_singleton.2 heq)
  rw [findFirst, remaining_eq hc, ok_bind, Cursor.skipWhile, hrest]
  rcases htail with rfl | ⟨x, hx, rest, rfl⟩
  · rw [List.append_nil, Utf8.firstOf?_eq_none hascii hfront, List.takeWhile_eq_self_iff.2 hall]
    exact ⟨_, rfl, rfl⟩
  · have hsign : ∀ y ∈ (x :: rest).head?, (y != a) = false := by
      rintro _ ⟨⟩
      exact bne_eq_false_iff_eq.2 (List.mem_singleton.1 hx)
    rw [Utf8.firstOf?_append_cons hascii hfront hx, (Text.takeWhile_dropWhile_append hall hsign).1]
    exact ⟨_, rfl, rfl⟩

theorem agree_readText (hc : (Cursor.ofText text).Reaches c) :
    Agree (Stops text) (Lands text) (Markup.readText c) (readText text c.offset) := by
  obtain ⟨found, hfound, hstop⟩ := @findFirst_getD text c '<' (by decide) hc
  have htakes := c.takes_skipWhile (· != '<')
  have hraw := occursAt_of_takes hc htakes
  have hadvance : advance text c.offset ((c.skipWhile (· != '<')).offset - c.offset) =
      (c.skipWhile (· != '<')).offset := by
    rw [htakes.2, Nat.add_sub_cancel_left, advance_eq hc htakes, htakes.2]
  rw [Markup.readText, readText, remaining_eq hc, ok_bind, hfound, ok_bind]
  dsimp only
  rw [hstop, slice_eq hc htakes, ok_bind, hadvance]
  refine (agree_refuse hc hraw).bind fun _ _ _ => ?_
  refine (agree_decode hc hraw _).bind ?_
  rintro data _ rfl
  exact .ok (.intro _ _ (hc.trans ⟨_, htakes⟩))

theorem agree_readComment (hc : (Cursor.ofText text).Reaches c)
    (hopen : c.startsWith "<!--" = true) :
    Agree (Stops text) (Lands text) (Markup.readComment c) (readComment text c.offset) := by
  obtain ⟨hposition, hinner⟩ := @stands_advance _ _ hc 4 _ hopen (by decide)
  rw [Markup.readComment, readComment]
  dsimp only
  rw [hposition, find_eq hinner, ok_bind]
  cases hfound : (c.advance 4).upTo? "-->" with
  | none => exact .error (stops_failAt hinner (isBoundary_offset hc))
  | some found =>
    obtain ⟨content, close⟩ := found
    obtain ⟨hslice, hcontent, hclose, hend⟩ := cut_of_upTo? hinner hfound
    have hbytes : close.offset + 3 - (c.advance 4).offset = utf8Length content + 3 := by omega
    dsimp only [Option.map_some]
    rw [hslice, ok_bind, hbytes]
    refine (agree_refuse hinner hcontent).bind fun _ _ _ => ?_
    by_cases hhyphen : content.getLast? = some '-'
    · rw [if_pos hhyphen, if_pos hhyphen]
      -- The hyphen is the byte in front of the closing delimiter.
      obtain ⟨front, rfl⟩ := List.getLast?_eq_some_iff.1 hhyphen
      have hoffset : close.offset - 1 = (c.advance 4).offset + utf8Length front := by
        rw [hclose, utf8Length_append]
        rfl
      exact .error (stops_failAt hinner (hoffset ▸ hcontent.isBoundary))
    · rw [if_neg hhyphen, if_neg hhyphen]
      refine (agree_checkChars hinner hcontent).bind fun _ _ _ => ?_
      exact .ok (hend.lands _)

theorem agree_readCData (hc : (Cursor.ofText text).Reaches c)
    (hopen : c.startsWith "<![CDATA[" = true) :
    Agree (Stops text) (Lands text) (Markup.readCData c) (readCData text c.offset) := by
  obtain ⟨hposition, hinner⟩ := @stands_advance _ _ hc 9 _ hopen (by decide)
  rw [Markup.readCData, readCData, hposition, find_eq hinner, ok_bind]
  cases hfound : (c.advance 9).upTo? "]]>" with
  | none => exact .error (stops_failAt hinner (isBoundary_offset hc))
  | some found =>
    obtain ⟨content, close⟩ := found
    obtain ⟨hslice, hcontent, hclose, hend⟩ := cut_of_upTo? hinner hfound
    have hbytes : close.offset + 3 - (c.advance 9).offset = utf8Length content + 3 := by omega
    dsimp only [Option.map_some]
    rw [hslice, ok_bind, hbytes]
    refine (agree_checkChars hinner hcontent).bind fun _ _ _ => ?_
    exact .ok (hend.lands _)

theorem skipBlanks_eq_self {position : Nat} (h : ¬ position < skipBlanks text position) :
    skipBlanks text position = position :=
  Nat.le_antisymm (Nat.le_of_not_lt h) (Nat.le_add_right _ _)

/-- The content of an instruction is the same, and the scanner goes on behind its end by as many
bytes as both have. -/
inductive FindsContent (text : List Char) : List Char × Cursor × Cursor → List Char × Nat → Prop
  /-- The content stands in the text. -/
  | intro (content : List Char) (inner close : Cursor) : (Cursor.ofText text).Reaches inner →
    OccursAt text inner.offset content →
    Stands text (close.advance 2) (advance text inner.offset (utf8Length content + 2)) →
    FindsContent text (content, inner, close) (content, inner.offset)

theorem agree_readInstructionContent (hc : (Cursor.ofText text).Reaches c)
    (hstart : IsBoundary text start) :
    Agree (Stops text) (FindsContent text) (Markup.readInstructionContent start c)
      (readInstructionContent text start c.offset) := by
  rw [Markup.readInstructionContent, readInstructionContent, startsWith_eq hc, ok_bind]
  refine .ite (fun hclose => ?_) fun _ => ?_
  · refine .ok (.intro [] c c hc (occursAt_of_takes hc ⟨rfl, rfl⟩) ?_)
    rw [utf8Length_nil, Nat.zero_add]
    exact stands_advance hc hclose (by decide)
  obtain ⟨hposition, hinner⟩ := Stands.skipBlanks ⟨rfl, hc⟩
  dsimp only
  by_cases hblank : atBlank c = true
  · rw [if_pos hblank, if_pos ((lt_skipBlanks_iff hc).2 hblank), hposition,
      find_eq hinner, ok_bind]
    cases hfound : (Markup.skipBlanks c).upTo? "?>" with
    | none => exact .error (stops_failAt hinner hstart)
    | some found =>
      obtain ⟨content, close⟩ := found
      obtain ⟨hslice, hcontent, -, hend⟩ := cut_of_upTo? hinner hfound
      dsimp only [Option.map_some]
      rw [hslice, ok_bind]
      exact .ok (.intro content _ close hinner hcontent hend)
  · have hnot := mt (lt_skipBlanks_iff hc).1 hblank
    rw [if_neg hblank, if_neg hnot, skipBlanks_eq_self hnot]
    exact .error (stops_missing hc)

theorem agree_readInstruction (hc : (Cursor.ofText text).Reaches c)
    (hopen : c.startsWith "<?" = true) :
    Agree (Stops text) (Lands text) (Markup.readInstruction c)
      (readInstruction text c.offset) := by
  obtain ⟨hposition, hinner⟩ := @stands_advance _ _ hc 2 _ hopen (by decide)
  have hstart : (c.advance 2).offset = c.offset + 2 :=
    congrArg (c.offset + ·) (utf8Length_take_of_startsWith hopen (by decide))
  rw [Markup.readInstruction, readInstruction, hposition]
  refine (agree_readName hinner _).bind ?_
  rintro _ _ ⟨target, afterTarget, hafter⟩
  dsimp only
  by_cases hmisplaced : target = ['x', 'm', 'l'] ∧ c.offset ≠ 0
  · rw [if_pos hmisplaced, if_pos hmisplaced]
    exact .error (stops_failAt hafter (isBoundary_offset hc))
  rw [if_neg hmisplaced, if_neg hmisplaced]
  refine .ite (fun _ => ?_) fun _ => ?_
  · exact .error (stops_failAt hafter (hstart ▸ isBoundary_offset hinner))
  refine (agree_readInstructionContent hafter (isBoundary_offset hc)).bind ?_
  rintro _ _ ⟨content, inner, close, hreaches, hcontent, hend⟩
  refine (agree_checkChars hreaches hcontent).bind fun _ _ _ => ?_
  refine .ite (fun _ => .ite (fun _ => .ok (hend.lands _)) fun _ => ?_) fun _ =>
    .ok (hend.lands _)
  obtain ⟨hnext, hreaches'⟩ := hend
  dsimp only
  rw [hnext]
  exact .error (stops_failAt hreaches' (isBoundary_offset hreaches))

theorem agree_readDoctype (hc : (Cursor.ofText text).Reaches c)
    (hopen : c.startsWith "<!DOCTYPE" = true) :
    Agree (Stops text) (Lands text) (Markup.readDoctype c) (readDoctype text c.offset) := by
  obtain ⟨next, hnext⟩ := Cursor.startsWith_iff.1 hopen
  obtain ⟨afterSigns, hsigns, hkeyword⟩ : ∃ d, c.Takes "<!".toList d ∧
      d.Takes "DOCTYPE".toList next := Cursor.takes_append_iff.1 hnext
  obtain ⟨hposition, hstart⟩ := @stands_advance _ _ hc 2 _ hopen (by decide)
  rw [← hsigns.advance_eq] at hkeyword
  obtain ⟨hposition', hafter⟩ := @stands_advance _ _ hstart 7 "DOCTYPE"
    (Cursor.startsWith_iff.2 ⟨next, hkeyword⟩) (by decide)
  obtain ⟨hposition'', hinner⟩ := Stands.skipBlanks ⟨rfl, hafter⟩
  rw [Markup.readDoctype, readDoctype, hposition, hposition']
  dsimp only
  by_cases hblank : atBlank ((c.advance 2).advance 7) = true
  case neg =>
    have hnot := mt (lt_skipBlanks_iff hafter).1 hblank
    rw [if_neg hblank, if_neg hnot, skipBlanks_eq_self hnot]
    exact .error (stops_failAt hafter (isBoundary_offset hafter))
  rw [if_pos hblank, if_pos ((lt_skipBlanks_iff hafter).2 hblank), hposition'', remaining_eq hinner,
    ok_bind]
  obtain ⟨before, hbefore⟩ : ∃ before,
      (c.advance 2).Takes before (Markup.skipBlanks ((c.advance 2).advance 7)) :=
    ⟨_, (Cursor.takes_advance _ _).trans (Cursor.takes_skipWhile _ _)⟩
  generalize Markup.skipBlanks ((c.advance 2).advance 7) = inner at hinner hbefore
  have hsearch := @agree_searchFrom inner.offset c.offset inner.offset none inner.offset
    (fun _ hq => absurd hq (Option.not_mem_none _)) 0 [] inner.rest rfl
  rcases hsearch.exists_eq with
    ⟨n, stop, hleft, hright, body, after, hrest, rfl, hstop⟩ | ⟨e, halt, hleft, hright, hfails⟩
  · have hright : searchFrom inner.offset c.offset inner.offset (encode inner.rest) ⟨none, 0, 0⟩ =
        .ok stop := hright
    rw [hleft, hright, ok_bind]
    have hbody : inner.Takes body ⟨stop, '>' :: after⟩ := ⟨hrest, hstop⟩
    have htaken := hbefore.trans hbody
    have htake : (c.advance 2).rest.take ((c.advance 2).rest.length - inner.rest.length +
        body.length) = before ++ body := by
      rw [hbefore.1, take_length_sub_add, hrest, List.take_left]
    have hend : Stands text (inner.advance (body.length + 1))
        (advance text inner.offset (stop + 1 - inner.offset)) := by
      have hsign : inner.Takes (body ++ ['>']) ⟨stop + 1, after⟩ :=
        ⟨by rw [hrest, List.append_assoc]; rfl,
          by rw [utf8Length_append, ← Nat.add_assoc, ← hstop]; rfl⟩
      have hbytes : stop + 1 - inner.offset = utf8Length (body ++ ['>']) := by
        have := hsign.2
        dsimp only at this
        omega
      have hcursor := hsign.advance_eq
      rw [List.length_append, List.length_singleton] at hcursor
      rw [hbytes, hcursor]
      exact ⟨advance_eq hinner hsign, hinner.trans ⟨_, hsign⟩⟩
    dsimp only
    rw [htake, slice_eq hstart htaken, ok_bind]
    refine (agree_checkChars hinner (occursAt_of_takes hstart htaken)).bind fun _ _ _ => ?_
    exact .ok (hend.lands _)
  · have hright : searchFrom inner.offset c.offset inner.offset (encode inner.rest) ⟨none, 0, 0⟩ =
        .error halt := hright
    rw [hleft, hright]
    cases hfails with
    | missing => exact .error (stops_failAt hinner (isBoundary_offset hc))
    | @inComment front behind hrest =>
      have hcomment : inner.Takes front ⟨inner.offset + utf8Length front, behind⟩ := ⟨hrest, rfl⟩
      exact .error (stops_failAt hinner (isBoundary_offset (hinner.trans ⟨_, hcomment⟩)))

/-- **A scanner reads the event that the reader reads**, and never makes a bad slice. -/
theorem agree_readEvent (hc : (Cursor.ofText text).Reaches c) :
    Agree (Stops text) (Lands text) (Markup.readEvent c) (readEvent text c.offset) := by
  have htext : peek text c.offset ≠ some '<'.toUInt8 ↔ ¬ c.startsWith "<" = true := by
    rw [peek_eq hc, ne_eq, Utf8.head?_encode_eq_some_iff (by decide)]
    cases hrest : c.rest with
    | nil => simp [Cursor.startsWith, hrest]
    | cons x rest =>
      rw [@Cursor.startsWith_of_cons _ _ x '<' "<" hrest rfl, List.head?_cons, beq_iff_eq,
        Option.some_inj, eq_comm]
  rw [Markup.readEvent, readEvent]
  simp only [startsWith_eq hc, ok_bind, htext]
  refine .ite (fun _ => agree_readText hc) fun hmarkup => ?_
  refine .ite (agree_readInstruction hc) fun _ => ?_
  refine .ite (agree_readComment hc) fun _ => ?_
  refine .ite (agree_readCData hc) fun _ => ?_
  refine .ite (agree_readDoctype hc) fun _ => ?_
  refine .ite (fun _ => .error (stops_failAt hc (isBoundary_offset hc))) fun _ => ?_
  refine .ite (agree_readEndTag hc) fun _ => ?_
  exact agree_readStartTag hc (Decidable.not_not.1 hmarkup)

end XmlQuery.Markup.Scanner
