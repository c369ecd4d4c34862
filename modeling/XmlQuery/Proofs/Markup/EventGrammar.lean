import XmlQuery.Proofs.Markup.DoctypeScan
import XmlQuery.Proofs.Text.Bytes

/-!
# The grammar of events

What the reader has read is written in the text by the production for its kind: the text of a
reading that comes to its end is the concatenation of what its events are written as. The XML
declaration is at the start of the text only.

## Main definitions

* `SpellsXmlDeclaration`: the XML declaration
* `SpellsEvent`: events of all kinds
* `SpellsEvents`: events one behind the other

## Main results

* `spellsEvent_of_readEvent`: one event
* `spellsEvents_of_readFrom`: **a text is made up of its events**
* `ne_declaration_of_readAll`: only the first event may be the XML declaration
-/

namespace XmlQuery.Markup

open Text (Cursor utf8Length)

variable {c d : Cursor} {e : Event} {offset : Nat} {written : List Char}

/-- The XML declaration: its content starts with the version. -/
inductive SpellsXmlDeclaration : List Char → Event → Prop
  /-- White space and content between the delimiters. -/
  | mk {between content : List Char} {data : String} : SpellsContent between content →
    (∀ x ∈ content, isChar x = true) →
    "version".toList <+: content.dropWhile Text.isWhiteSpace →
    data.toList = Text.trimEnd Text.isWhiteSpace content →
    SpellsXmlDeclaration ("<?xml".toList ++ (between ++ "?>".toList)) (.declaration data)

/-- An event that starts at byte `offset`. -/
inductive SpellsEvent (offset : Nat) : List Char → Event → Prop
  /-- The XML declaration, at the start of the text. -/
  | declaration {written : List Char} {e : Event} : offset = 0 → SpellsXmlDeclaration written e →
    SpellsEvent offset written e
  /-- A start tag, or the tag of an empty element. -/
  | startTag {written : List Char} {e : Event} : SpellsStartTag offset written e →
    SpellsEvent offset written e
  /-- An end tag. -/
  | endTag {written : List Char} {e : Event} : SpellsEndTag written e → SpellsEvent offset written e
  /-- Character data. -/
  | text {written : List Char} {e : Event} : SpellsText written e → SpellsEvent offset written e
  /-- A CDATA section. -/
  | cdata {written : List Char} {e : Event} : SpellsCData written e → SpellsEvent offset written e
  /-- A comment. -/
  | comment {written : List Char} {e : Event} : SpellsComment written e →
    SpellsEvent offset written e
  /-- A processing instruction. -/
  | instruction {written : List Char} {e : Event} : SpellsInstruction written e →
    SpellsEvent offset written e
  /-- A document type declaration. -/
  | doctype {written : List Char} {e : Event} : SpellsDoctype written e →
    SpellsEvent offset written e

/-- Events one behind the other, from byte `offset` on. -/
inductive SpellsEvents : (offset : Nat) → List Char → List Event → Prop
  /-- No event. -/
  | nil {offset : Nat} : SpellsEvents offset [] []
  /-- An event in front of others. -/
  | cons {offset : Nat} {written rest : List Char} {e : Event} {events : List Event} :
    written ≠ [] → SpellsEvent offset written e →
    SpellsEvents (offset + utf8Length written) rest events →
    SpellsEvents offset (written ++ rest) (e :: events)

/-- A start tag is written as one. -/
theorem SpellsEvent.startTag_of {name : String} {attributes : List Attribute} {isEmpty : Bool}
    (h : SpellsEvent offset written (.startTag name attributes isEmpty)) :
    SpellsStartTag offset written (.startTag name attributes isEmpty) := by
  cases h with
  | startTag h => exact h
  | declaration _ h | endTag h | text h | cdata h | comment h | instruction h | doctype h => cases h

theorem SpellsEvent.endTag_of {name : String} (h : SpellsEvent offset written (.endTag name)) :
    SpellsEndTag written (.endTag name) := by
  cases h with
  | endTag h => exact h
  | declaration _ h | startTag h | text h | cdata h | comment h | instruction h | doctype h =>
    cases h

/-- Where events stand one behind the other, those of a beginning stand in a beginning of the
text. -/
theorem SpellsEvents.exists_of_append {text : List Char} {front behind : List Event}
    (h : SpellsEvents offset text (front ++ behind)) :
    ∃ written rest, text = written ++ rest ∧ SpellsEvents offset written front ∧
      SpellsEvents (offset + utf8Length written) rest behind := by
  induction front generalizing offset text with
  | nil => exact ⟨[], text, rfl, .nil, h⟩
  | cons e front ih =>
    cases h with
    | @cons _ first others _ _ hne hspells hothers =>
      obtain ⟨written, rest, rfl, hfront, hbehind⟩ := ih hothers
      refine ⟨first ++ written, rest, (List.append_assoc ..).symm, .cons hne hspells hfront, ?_⟩
      rwa [Text.utf8Length_append, ← Nat.add_assoc]

/-- An instruction with the target of the XML declaration is that, at the start of the text. -/
theorem spells_of_readInstruction_xml {inner behind : Cursor} (hopen : c.Takes "<?".toList inner)
    (hname : readName inner .instructionTarget = .ok (['x', 'm', 'l'], behind))
    (h : readInstruction c = .ok (e, d)) :
    c.offset = 0 ∧ ∃ written, c.Takes written d ∧ SpellsXmlDeclaration written e := by
  have hadvance : c.advance 2 = inner := hopen.advance_eq
  obtain ⟨htarget, -, -⟩ := readName_eq_ok_iff.1 hname
  rw [readInstruction, hadvance, hname] at h
  dsimp only [bind, Except.bind] at h
  split at h
  case isTrue => cases h
  next hstart =>
  rw [if_neg (by decide)] at h
  obtain ⟨⟨content, inner', close⟩, hcontent, h⟩ := bind_eq_ok_iff.1 h
  obtain ⟨⟨⟩, hchars, h⟩ := bind_eq_ok_iff.1 h
  rw [if_pos rfl] at h
  split at h
  case isFalse => cases h
  next hversion =>
  cases h
  obtain ⟨between, hend, hbetween⟩ :=
    readInstructionContent_eq_ok_iff.1 ⟨inner', close, hcontent, rfl⟩
  refine ⟨not_not.1 fun hne => hstart ⟨rfl, hne⟩, _, hopen.trans (htarget.trans hend), ?_⟩
  exact .mk hbetween (checkChars_eq_ok_iff.1 hchars) (List.isPrefixOf_iff_prefix.1 hversion)
    String.toList_ofList

/-- What opens like an instruction is one, or it is the XML declaration. -/
theorem spellsEvent_of_readInstruction {inner : Cursor} (hopen : c.Takes "<?".toList inner)
    (h : readInstruction c = .ok (e, d)) :
    ∃ written, c.Takes written d ∧ SpellsEvent c.offset written e := by
  cases hname : readName inner .instructionTarget with
  | error failure =>
    have hadvance : c.advance 2 = inner := hopen.advance_eq
    rw [readInstruction, hadvance, hname] at h
    cases h
  | ok found =>
    obtain ⟨target, behind⟩ := found
    by_cases htarget : target = ['x', 'm', 'l']
    · subst htarget
      obtain ⟨hstart, written, htakes, hspells⟩ := spells_of_readInstruction_xml hopen hname h
      exact ⟨written, htakes, .declaration hstart hspells⟩
    · obtain ⟨written, htakes, hspells⟩ := (readInstruction_eq_ok_iff hopen hname htarget).1 h
      exact ⟨written, htakes, .instruction hspells⟩

/-- **An event is written by the production for its kind**, one case for each opening delimiter in
the order in which they are tried. -/
theorem spellsEvent_of_readEvent (h : readEvent c = .ok (e, d)) :
    ∃ written, c.Takes written d ∧ SpellsEvent c.offset written e := by
  rw [readEvent] at h
  split at h
  · exact ⟨_, (readText_eq_ok_iff.1 h).imp_right .text⟩
  next htag =>
  obtain ⟨inner, htag⟩ := Cursor.startsWith_iff.1 (not_not.1 htag)
  split at h
  · next hopen =>
    obtain ⟨inner, hopen⟩ := Cursor.startsWith_iff.1 hopen
    exact spellsEvent_of_readInstruction hopen h
  split at h
  · next hopen =>
    obtain ⟨inner, hopen⟩ := Cursor.startsWith_iff.1 hopen
    obtain ⟨written, htakes, hspells⟩ := (readComment_eq_ok_iff hopen).1 h
    exact ⟨written, htakes, .comment hspells⟩
  split at h
  · next hopen =>
    obtain ⟨inner, hopen⟩ := Cursor.startsWith_iff.1 hopen
    obtain ⟨written, htakes, hspells⟩ := (readCData_eq_ok_iff hopen).1 h
    exact ⟨written, htakes, .cdata hspells⟩
  split at h
  · next hopen =>
    obtain ⟨inner, hopen⟩ := Cursor.startsWith_iff.1 hopen
    obtain ⟨start, hsigns, hkeyword⟩ : ∃ start, c.Takes "<!".toList start ∧
      start.Takes "DOCTYPE".toList inner := Cursor.takes_append_iff.1 hopen
    obtain ⟨written, htakes, hspells⟩ :=
      (readDoctype_eq_ok_iff hsigns ⟨inner.rest, hkeyword.1.symm⟩).1 h
    exact ⟨written, htakes, .doctype hspells⟩
  split at h
  · cases h
  split at h
  · next hopen =>
    obtain ⟨inner, hopen⟩ := Cursor.startsWith_iff.1 hopen
    obtain ⟨written, htakes, hspells⟩ := (readEndTag_eq_ok_iff hopen).1 h
    exact ⟨written, htakes, .endTag hspells⟩
  · obtain ⟨written, htakes, hspells⟩ := (readStartTag_eq_ok_iff htag).1 h
    exact ⟨written, htakes, .startTag hspells⟩

/-- The XML declaration is read at the start of a text. -/
theorem offset_of_declaration {content : String} (h : readEvent c = .ok (.declaration content, d)) :
    c.offset = 0 := by
  obtain ⟨written, -, hspells⟩ := spellsEvent_of_readEvent h
  cases hspells with
  | declaration hstart => exact hstart
  | startTag h | endTag h | text h | cdata h | comment h | instruction h | doctype h => cases h

/-- Behind the start of a text there is no XML declaration, by induction on what is left. -/
theorem ne_declaration_of_readFrom {c : Cursor} (hstart : c.offset ≠ 0) :
    ∀ e ∈ (readFrom c).events, ∀ content, e.event ≠ .declaration content := by
  rw [readFrom]
  by_cases hrest : c.rest = []
  · rw [dif_pos hrest]
    rintro _ ⟨⟩
  rw [dif_neg hrest]
  cases hread : readEvent c with
  | error failure => rintro _ ⟨⟩
  | ok found =>
    obtain ⟨event, next⟩ := found
    have hpasses := passes_readEvent hrest hread
    have hlt := hpasses.length_lt
    refine List.forall_mem_cons.2 ⟨fun content hevent => hstart ?_, ?_⟩
    · have hevent : event = .declaration content := hevent
      exact offset_of_declaration (hevent ▸ hread)
    · exact ne_declaration_of_readFrom (Nat.ne_of_gt (Nat.zero_lt_of_lt hpasses.offset_lt))
termination_by c.rest.length

/-- Of the events of a text only the first one may be the XML declaration. -/
theorem ne_declaration_of_readAll (text : List Char) :
    ∀ e ∈ (readAll text).events.tail, ∀ content, e.event ≠ .declaration content := by
  rw [readAll, readFrom]
  by_cases hrest : (Cursor.ofText text).rest = []
  · rw [dif_pos hrest]
    rintro _ ⟨⟩
  rw [dif_neg hrest]
  cases hread : readEvent (.ofText text) with
  | error failure => rintro _ ⟨⟩
  | ok found =>
    have hpasses := passes_readEvent hrest hread
    exact ne_declaration_of_readFrom (Nat.ne_of_gt (Nat.zero_lt_of_lt hpasses.offset_lt))

/-- **A text is made up of its events**, if they are read to its end: by induction on what is
left. -/
theorem spellsEvents_of_readFrom {c : Cursor} {stop : Nat} (h : (readFrom c).outcome = .ok stop) :
    SpellsEvents c.offset c.rest ((readFrom c).events.map (·.event)) := by
  rw [readFrom] at h ⊢
  by_cases hrest : c.rest = []
  · rw [dif_pos hrest, hrest]
    exact .nil
  rw [dif_neg hrest] at h ⊢
  cases hread : readEvent c with
  | error failure =>
    rw [hread] at h
    cases h
  | ok found =>
    obtain ⟨event, next⟩ := found
    rw [hread] at h
    obtain ⟨written, htakes, hspells⟩ := spellsEvent_of_readEvent hread
    have hlt := (passes_readEvent hrest hread).length_lt
    have hne : written ≠ [] := by
      rintro rfl
      rw [htakes.1] at hlt
      exact absurd hlt (lt_irrefl _)
    have hothers := spellsEvents_of_readFrom h
    rw [htakes.2] at hothers
    rw [htakes.1]
    exact .cons hne hspells hothers
termination_by c.rest.length

end XmlQuery.Markup
