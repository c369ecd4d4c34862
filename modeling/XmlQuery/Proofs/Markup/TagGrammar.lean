import XmlQuery.Proofs.Markup.Decoding

/-!
# The grammar of tags

Start and end tags by the productions of XML, and what they say: names, attributes with the places
at which they start, and the values that are between their quotes. The reader goes over a tag with
blanks, names and delimiters one after the other and meets each production where it has to; what it
takes for a tag is one, and it takes every tag for what it is.

## Main definitions

* `Blanks`: white space, which may be nothing
* `SpellsValue`, `SpellsAttribute`, `SpellsAttributes`: quoted values, attributes and lists of them
* `SpellsTag`: start tags, tags of empty elements and end tags
* `Recognises`: the reader finds what is written by a grammar, and nothing else

## Main results

* `readName_eq_ok_iff`, `skipBlanks_eq_iff`, `expect_eq_ok_iff`: what single moves go over
* `readValue_eq_ok_iff`, `readAttribute_eq_ok_iff`, `readAttributes_eq_ok_iff`: reading by
  productions
* `readEvent_recognises_tags`: **tags are recognised exactly**
-/

namespace XmlQuery.Markup

open Text (Cursor utf8Length)

variable {c d : Cursor} {name raw : List Char}

/-! ## Moves -/

/-- White space, which may be nothing. -/
def Blanks (text : List Char) : Prop := ∀ x ∈ text, Text.isBlank x = true

instance (text : List Char) : Decidable (Blanks text) :=
  List.decidableBAll _ text

theorem blanks_nil : Blanks [] := nofun

theorem skipBlanks_eq_iff :
    skipBlanks c = d ↔
      ∃ space, c.Takes space d ∧ Blanks space ∧ ∀ x ∈ d.rest.head?, Text.isBlank x = false :=
  Cursor.skipWhile_eq_iff

theorem expect_eq_ok_iff {delimiter : String} {what : Expected} :
    expect c delimiter what = .ok d ↔ c.Takes delimiter.toList d := by
  rw [expect, ← String.length_toList]
  constructor
  · intro h
    split at h
    · next hstarts =>
      cases h
      obtain ⟨d, hd⟩ := Cursor.startsWith_iff.1 hstarts
      rw [hd.advance_eq]
      exact hd
    · cases h
  · intro h
    rw [if_pos (Cursor.startsWith_iff.2 ⟨d, h⟩), h.advance_eq]

/-- A name is taken up to the first character that does not belong to names. -/
theorem readName_eq_ok_iff {what : Expected} :
    readName c what = .ok (name, d) ↔
      c.Takes name d ∧ isName name = true ∧ ∀ x ∈ d.rest.head?, isNameChar x = false := by
  obtain ⟨offset, rest⟩ := c
  constructor
  · intro h
    refine ⟨takes_readName h, ?_⟩
    rw [readName, name?] at h
    cases rest with
    | nil => cases h
    | cons first others =>
      dsimp only at h
      by_cases hfirst : isNameStart first = true
      · rw [if_pos hfirst] at h
        cases h
        rw [isName, hfirst, Bool.true_and, List.all_takeWhile]
        obtain ⟨_, -, -, hhead⟩ := (Cursor.skipWhile_eq_iff (c := ⟨0, others⟩)).1 rfl
        exact ⟨rfl, hhead⟩
      · rw [if_neg hfirst] at h
        cases h
  · rintro ⟨⟨hrest, hoffset⟩, hname, hhead⟩
    obtain ⟨offset', behind⟩ := d
    dsimp only at hrest hoffset hhead
    subst hrest hoffset
    cases name with
    | nil => cases hname
    | cons first others =>
      rw [isName, Bool.and_eq_true, List.all_eq_true] at hname
      obtain ⟨htake, hdrop⟩ := Text.takeWhile_dropWhile_append hname.2 hhead
      rw [readName, name?, List.cons_append]
      dsimp only
      rw [if_pos hname.1, htake, hdrop]
      rfl

theorem refuse_eq_ok_iff {here : Cursor} {delimiter : String} {kind : ErrorKind} {start : Nat} :
    refuse here delimiter kind start raw = .ok () ↔ ¬ delimiter.toList <:+: raw := by
  rw [← Text.splitFirst?_eq_none_iff, refuse, offsetOf?]
  cases Text.splitFirst? delimiter.toList raw with
  | none => exact ⟨fun _ => rfl, fun _ => rfl⟩
  | some split => exact ⟨nofun, nofun⟩

theorem decodeData_eq_ok_iff {here : Cursor} {mode : DataMode} {start : Nat} {data : String} :
    decodeData here mode start raw = .ok data ↔ Decodes mode raw data.toList := by
  rw [← @decode_eq_ok_iff mode start raw, decodeData]
  cases decode mode start raw with
  | error fault =>
    constructor
    · intro h
      cases h
    · intro h
      cases h
  | ok text =>
    dsimp only
    rw [Except.ok.injEq, Except.ok.injEq]
    constructor
    · rintro rfl
      exact (String.toList_ofList).symm
    · rintro rfl
      exact String.ofList_toList

theorem singleton_isInfix_iff {x : Char} : [x] <:+: raw ↔ x ∈ raw := by
  refine ⟨fun h => h.mem List.mem_cons_self, fun h => ?_⟩
  obtain ⟨front, behind, rfl⟩ := List.append_of_mem h
  exact ⟨front, behind, by simp⟩

/-! ## Attributes -/

/-- A quoted value: characters and references without an opening sign, between quotes of one kind
that do not occur inside. -/
inductive SpellsValue : List Char → String → Prop
  /-- A value in single or double quotes. -/
  | quoted {quote : Char} {raw : List Char} {value : String} : quote = '"' ∨ quote = '\'' →
    quote ∉ raw → '<' ∉ raw → Decodes .attribute raw value.toList →
    SpellsValue (quote :: raw ++ [quote]) value

/-- An attribute that starts at byte `offset`: a name and a quoted value around an equals sign, with
white space around that. -/
inductive SpellsAttribute (offset : Nat) : List Char → Attribute → Prop
  /-- An attribute. -/
  | mk {name : String} {before behind quoted : List Char} {value : String} :
    isName name.toList = true → Blanks before → Blanks behind → SpellsValue quoted value →
    SpellsAttribute offset (name.toList ++ (before ++ '=' :: (behind ++ quoted)))
      ⟨name, value, offset⟩

/-- Attributes from byte `offset` on, with white space in front of each. -/
inductive SpellsAttributes : (offset : Nat) → List Char → List Attribute → Prop
  /-- No attribute. -/
  | nil {offset : Nat} : SpellsAttributes offset [] []
  /-- An attribute in front of others. -/
  | cons {offset : Nat} {space written others : List Char} {a : Attribute}
    {attributes : List Attribute} : space ≠ [] → Blanks space →
    SpellsAttribute (offset + utf8Length space) written a →
    SpellsAttributes (offset + utf8Length (space ++ written)) others attributes →
    SpellsAttributes offset (space ++ written ++ others) (a :: attributes)

/-- The end of a start tag. -/
def tagEnd (isEmpty : Bool) : List Char := if isEmpty then ['/', '>'] else ['>']

/-- A start tag, or the tag of an empty element, that starts at byte `offset`. -/
inductive SpellsStartTag (offset : Nat) : List Char → Event → Prop
  /-- A name, attributes, white space and the end of the tag. -/
  | mk {name : String} {written space : List Char} {attributes : List Attribute}
    {isEmpty : Bool} : isName name.toList = true →
    SpellsAttributes (offset + utf8Length ('<' :: name.toList)) written attributes → Blanks space →
    SpellsStartTag offset ('<' :: name.toList ++ (written ++ (space ++ tagEnd isEmpty)))
      (.startTag name attributes isEmpty)

/-- An end tag. -/
inductive SpellsEndTag : List Char → Event → Prop
  /-- A name, white space and the end of the tag. -/
  | mk {name : String} {space : List Char} : isName name.toList = true → Blanks space →
    SpellsEndTag ('<' :: '/' :: name.toList ++ (space ++ ['>'])) (.endTag name)

/-- A tag that starts at byte `offset`. -/
def SpellsTag (offset : Nat) (written : List Char) (e : Event) : Prop :=
  SpellsStartTag offset written e ∨ SpellsEndTag written e

theorem readValue_eq_ok_iff {value : String} :
    readValue c = .ok (value, d) ↔ ∃ written, c.Takes written d ∧ SpellsValue written value := by
  have hsingleton : ∀ x : Char, (String.singleton x).toList = [] ++ [x] := by simp
  constructor
  · intro h
    rw [readValue] at h
    split at h
    · cases h
    · next quote rest hrest =>
      have hopen : c.Takes [quote] (c.advance 1) := by
        have htakes := c.takes_advance 1
        rwa [hrest] at htakes
      split at h
      · next hquote =>
        dsimp only at h
        split at h
        · cases h
        · next raw close hupTo =>
          simp only [bind_eq_ok_iff] at h
          obtain ⟨⟨⟩, hless, value', hdata, h⟩ := h
          cases h
          rw [Cursor.upTo?_eq_some_iff (hsingleton quote) List.not_mem_nil, hsingleton,
            List.nil_append, singleton_isInfix_iff] at hupTo
          obtain ⟨hraw, ⟨behind, hbehind⟩, hmem⟩ := hupTo
          have hclose : close.Takes [quote] (close.advance 1) := by
            have htakes := close.takes_advance 1
            rwa [← hbehind] at htakes
          rw [refuse_eq_ok_iff] at hless
          exact ⟨_, hopen.trans (hraw.trans hclose), .quoted hquote hmem
            (fun h => hless (singleton_isInfix_iff.2 h)) (decodeData_eq_ok_iff.1 hdata)⟩
      · cases h
  · rintro ⟨written, htakes, hspells⟩
    cases hspells with
    | @quoted quote raw value hquote hmem hless hdecodes =>
      obtain ⟨inner, hopen, hinner⟩ :=
        (@Cursor.takes_append_iff c d [quote] (raw ++ [quote])).1 htakes
      obtain ⟨close, hraw, hclose⟩ := Cursor.takes_append_iff.1 hinner
      have hrest : c.rest = quote :: inner.rest := hopen.1
      have hupTo : inner.upTo? (String.singleton quote) = some (raw, close) := by
        rw [Cursor.upTo?_eq_some_iff (hsingleton quote) List.not_mem_nil, hsingleton,
          List.nil_append, singleton_isInfix_iff]
        exact ⟨hraw, ⟨d.rest, hclose.1.symm⟩, hmem⟩
      have hrefuse : ∀ kind start, refuse inner "<" kind start raw = .ok () := fun _ _ =>
        refuse_eq_ok_iff.2 fun h => hless (singleton_isInfix_iff.1 h)
      rw [readValue, hrest]
      dsimp only
      have hone : c.advance 1 = inner := hopen.advance_eq
      have hone' : close.advance 1 = d := hclose.advance_eq
      rw [if_pos hquote, hone, hupTo]
      dsimp only [bind, Except.bind]
      rw [hrefuse, decodeData_eq_ok_iff.2 hdecodes]
      dsimp only
      rw [hone']

/-- No character of names is a blank. -/
theorem isNameChar_of_isBlank {x : Char} (h : Text.isBlank x = true) : isNameChar x = false := by
  simp only [Text.isBlank, Bool.or_eq_true, beq_iff_eq] at h
  rcases h with ((rfl | rfl) | rfl) | rfl <;> decide

theorem isBlank_of_isNameStart {x : Char} (h : isNameStart x = true) : Text.isBlank x = false := by
  rw [Bool.eq_false_iff]
  intro hblank
  have hchar := isNameChar_of_isBlank hblank
  rw [isNameChar, h] at hchar
  cases hchar

theorem Blanks.not_isNameChar_head? {space rest : List Char} (hspace : Blanks space)
    (hrest : ∀ x ∈ rest.head?, isNameChar x = false) :
    ∀ x ∈ (space ++ rest).head?, isNameChar x = false := by
  cases space with
  | nil => exact hrest
  | cons x space =>
    intro y hy
    cases hy
    exact isNameChar_of_isBlank (hspace _ List.mem_cons_self)

theorem SpellsValue.not_isBlank_head? {written rest : List Char} {value : String}
    (h : SpellsValue written value) : ∀ x ∈ (written ++ rest).head?, Text.isBlank x = false := by
  cases h with
  | quoted hquote => rcases hquote with rfl | rfl <;> simp [Text.isBlank]

/-- An attribute is read in three steps, each of which may fail. -/
theorem readAttribute_eq (c : Cursor) :
    readAttribute c = (do
      let (name, afterName) ← readName c .attributeName
      let afterSign ← expect (skipBlanks afterName) "=" .equalsSign
      let (value, next) ← readValue (skipBlanks afterSign)
      .ok (⟨String.ofList name, value, c.offset⟩, next)) := by
  rw [readAttribute]
  cases readName c .attributeName with
  | error failure => rfl
  | ok found =>
    dsimp only [bind, Except.bind]
    cases expect (skipBlanks found.2) "=" .equalsSign with
    | error failure => rfl
    | ok afterSign =>
      dsimp only
      cases readValue (skipBlanks afterSign) <;> rfl

theorem readAttribute_eq_ok_iff {a : Attribute} :
    readAttribute c = .ok (a, d) ↔
      ∃ written, c.Takes written d ∧ SpellsAttribute c.offset written a := by
  constructor
  · intro h
    rw [readAttribute_eq] at h
    obtain ⟨⟨name, afterName⟩, hname, h⟩ := bind_eq_ok_iff.1 h
    obtain ⟨afterSign, hsign, h⟩ := bind_eq_ok_iff.1 h
    obtain ⟨⟨value, next⟩, hvalue, h⟩ := bind_eq_ok_iff.1 h
    cases h
    obtain ⟨htakes, hname, -⟩ := readName_eq_ok_iff.1 hname
    obtain ⟨before, hbefore, hblanks, -⟩ := skipBlanks_eq_iff.1 (@rfl _ (skipBlanks afterName))
    obtain ⟨behind, hbehind, hblanks', -⟩ := skipBlanks_eq_iff.1 (@rfl _ (skipBlanks afterSign))
    obtain ⟨quoted, hquoted, hspells⟩ := readValue_eq_ok_iff.1 hvalue
    have hsign : (skipBlanks afterName).Takes ['='] afterSign := expect_eq_ok_iff.1 hsign
    have hattribute := @SpellsAttribute.mk c.offset (String.ofList name) before behind quoted
      value (by rwa [String.toList_ofList]) hblanks hblanks' hspells
    rw [String.toList_ofList] at hattribute
    exact ⟨_, htakes.trans (hbefore.trans (hsign.trans (hbehind.trans hquoted))), hattribute⟩
  · rintro ⟨written, htakes, hspells⟩
    cases hspells with
    | @mk name before behind quoted value hname hbefore hbehind hvalue =>
      obtain ⟨afterName, htakesName, htakes⟩ := Cursor.takes_append_iff.1 htakes
      obtain ⟨atSign, htakesBefore, htakes⟩ := Cursor.takes_append_iff.1 htakes
      obtain ⟨afterSign, htakesSign, htakes⟩ :=
        (@Cursor.takes_append_iff _ _ ['='] (behind ++ quoted)).1 htakes
      obtain ⟨atValue, htakesBehind, htakesValue⟩ := Cursor.takes_append_iff.1 htakes
      have hsign : atSign.rest.head? = some '=' := htakesSign.head?_eq (List.cons_ne_nil _ _)
      have hhead : ∀ x ∈ atSign.rest.head?, x = '=' := fun x hx => by
        rw [hsign] at hx
        exact (Option.some.inj hx).symm
      have hread : readName c .attributeName = .ok (name.toList, afterName) := by
        rw [readName_eq_ok_iff, htakesBefore.1]
        exact ⟨htakesName, hname, hbefore.not_isNameChar_head? fun x hx => hhead x hx ▸ by decide⟩
      have hskip : skipBlanks afterName = atSign :=
        skipBlanks_eq_iff.2 ⟨before, htakesBefore, hbefore, fun x hx => hhead x hx ▸ by decide⟩
      have hskip' : skipBlanks afterSign = atValue := by
        refine skipBlanks_eq_iff.2 ⟨behind, htakesBehind, hbehind, ?_⟩
        rw [htakesValue.1]
        exact hvalue.not_isBlank_head?
      have hexpect : expect atSign "=" .equalsSign = .ok afterSign :=
        expect_eq_ok_iff.2 htakesSign
      rw [readAttribute, hread]
      dsimp only
      rw [hskip, hexpect]
      dsimp only
      rw [hskip', readValue_eq_ok_iff.2 ⟨quoted, htakesValue, hvalue⟩, String.ofList_toList]

theorem ne_nil_of_atBlank {space : List Char} (h : atBlank c = true)
    (htakes : c.Takes space (skipBlanks c)) : space ≠ [] := by
  rintro rfl
  obtain ⟨-, -, -, hhead⟩ := skipBlanks_eq_iff.1 (@rfl _ (skipBlanks c))
  obtain ⟨x, hx, hblank⟩ := (Option.any_eq_true _ _).1 h
  have hrest : c.rest = (skipBlanks c).rest := htakes.1
  rw [hhead x (hrest ▸ hx)] at hblank
  cases hblank

theorem SpellsAttribute.exists_isNameStart {offset : Nat} {written : List Char} {a : Attribute}
    (h : SpellsAttribute offset written a) :
    ∃ x rest, written = x :: rest ∧ isNameStart x = true := by
  cases h with
  | @mk name before behind quoted value hname =>
    cases hlist : name.toList with
    | nil =>
      rw [hlist] at hname
      cases hname
    | cons x rest =>
      rw [hlist, isName, Bool.and_eq_true] at hname
      exact ⟨x, _, rfl, hname.1⟩

theorem tagEnd_not_isBlank_head? (isEmpty : Bool) (rest : List Char) :
    ∀ x ∈ (tagEnd isEmpty ++ rest).head?, Text.isBlank x = false := by
  cases isEmpty <;> simp [tagEnd, Text.isBlank]

/-- What attributes are read as depends on what stands behind white space. -/
theorem readAttributes_eq (c : Cursor) :
    readAttributes c =
      if (skipBlanks c).rest = [] then .error (fail (skipBlanks c) .unexpectedEof)
      else if (skipBlanks c).startsWith ">" then .ok ([], false, (skipBlanks c).advance 1)
      else if (skipBlanks c).startsWith "/" then
        (expect (skipBlanks c) "/>" .emptyTagClose).map fun next => ([], true, next)
      else if atBlank c then do
        let (a, next) ← readAttribute (skipBlanks c)
        let (others, isEmpty, after) ← readAttributes next
        .ok (a :: others, isEmpty, after)
      else .error (fail (skipBlanks c) (.expected .attributeBlank)) := by
  have hstarts : ∀ {x rest}, (skipBlanks c).rest = x :: rest →
      (skipBlanks c).startsWith ">" = ('>' == x) ∧ (skipBlanks c).startsWith "/" = ('/' == x) :=
    fun hrest => ⟨Cursor.startsWith_of_cons hrest rfl, Cursor.startsWith_of_cons hrest rfl⟩
  rw [readAttributes]
  dsimp only
  -- The reader looks at the first character, the choices at what the text starts with.
  split
  · next hrest => rw [if_pos hrest]
  · next hrest => rw [hrest, (hstarts hrest).1]; rfl
  · next hrest =>
    rw [hrest, (hstarts hrest).1, (hstarts hrest).2]
    cases expect (skipBlanks c) "/>" .emptyTagClose <;> rfl
  · next x rest hsign hslash hrest =>
    have hsign : ('>' == x) = false := beq_eq_false_iff_ne.2 (Ne.symm hsign)
    have hslash : ('/' == x) = false := beq_eq_false_iff_ne.2 (Ne.symm hslash)
    rw [hrest, (hstarts hrest).1, (hstarts hrest).2, hsign, hslash,
      if_neg (List.cons_ne_nil x rest), if_neg Bool.false_ne_true, if_neg Bool.false_ne_true]
    refine if_congr Iff.rfl ?_ rfl
    dsimp only [bind, Except.bind]
    split
    · next ha => rw [ha]
    · next a next ha =>
      rw [ha]
      dsimp only
      cases readAttributes next <;> rfl

/-- The end of a tag is read behind white space. -/
theorem readAttributes_tagEnd {space : List Char} {isEmpty : Bool} (hspace : Blanks space)
    (h : c.Takes (space ++ tagEnd isEmpty) d) : readAttributes c = .ok ([], isEmpty, d) := by
  obtain ⟨inner, htakes, hend⟩ := Cursor.takes_append_iff.1 h
  have hskip : skipBlanks c = inner := by
    refine skipBlanks_eq_iff.2 ⟨space, htakes, hspace, ?_⟩
    rw [hend.1]
    exact tagEnd_not_isBlank_head? isEmpty d.rest
  have hrest : inner.rest = tagEnd isEmpty ++ d.rest := hend.1
  rw [readAttributes, hskip]
  cases isEmpty with
  | false =>
    have hadvance : inner.advance 1 = d := hend.advance_eq
    rw [hrest]
    dsimp only [tagEnd, List.cons_append]
    exact congrArg _ (congrArg _ (congrArg _ hadvance))
  | true =>
    have hexpect : expect inner "/>" .emptyTagClose = .ok d := expect_eq_ok_iff.2 hend
    rw [hrest, hexpect]
    rfl

/-- Behind white space an attribute is read, and then what follows it. -/
theorem readAttributes_cons {space written : List Char} {inner next : Cursor} {a : Attribute}
    {attributes : List Attribute} {isEmpty : Bool} (hne : space ≠ []) (hspace : Blanks space)
    (htakes : c.Takes space inner) (hwritten : inner.Takes written next)
    (hspells : SpellsAttribute inner.offset written a)
    (hattributes : readAttributes next = .ok (attributes, isEmpty, d)) :
    readAttributes c = .ok (a :: attributes, isEmpty, d) := by
  obtain ⟨x, rest, rfl, hx⟩ := hspells.exists_isNameStart
  have hrest : inner.rest = x :: (rest ++ next.rest) := hwritten.1
  have hskip : skipBlanks c = inner := by
    refine skipBlanks_eq_iff.2 ⟨space, htakes, hspace, ?_⟩
    rw [hrest]
    simpa using isBlank_of_isNameStart hx
  have hblank : atBlank c = true := by
    cases space with
    | nil => exact absurd rfl hne
    | cons y space =>
      rw [atBlank, htakes.1]
      exact hspace y List.mem_cons_self
  have hattribute : readAttribute inner = .ok (a, next) :=
    readAttribute_eq_ok_iff.2 ⟨_, hwritten, hspells⟩
  -- The first character of a name is none that ends a tag.
  have hclose : ¬ inner.startsWith ">" = true := by
    rw [Cursor.startsWith_of_cons hrest rfl, beq_iff_eq]
    rintro rfl
    exact absurd hx (by decide)
  have hslash : ¬ inner.startsWith "/" = true := by
    rw [Cursor.startsWith_of_cons hrest rfl, beq_iff_eq]
    rintro rfl
    exact absurd hx (by decide)
  rw [readAttributes_eq, hskip, if_neg (hrest ▸ List.cons_ne_nil _ _), if_neg hclose,
    if_neg hslash, if_pos hblank]
  exact bind_eq_ok_iff.2 ⟨_, hattribute, bind_eq_ok_iff.2 ⟨_, hattributes, rfl⟩⟩

theorem readAttributes_of_spells {offset : Nat} {written space : List Char}
    {attributes : List Attribute} {isEmpty : Bool}
    (hspells : SpellsAttributes offset written attributes) (hspace : Blanks space)
    (hoffset : c.offset = offset) (h : c.Takes (written ++ (space ++ tagEnd isEmpty)) d) :
    readAttributes c = .ok (attributes, isEmpty, d) := by
  induction hspells generalizing c with
  | nil => exact readAttributes_tagEnd hspace h
  | @cons offset space' written others a attributes hne hspace' hspells _ ih =>
    rw [List.append_assoc, Cursor.takes_append_iff] at h
    obtain ⟨next, hnext, hothers⟩ := h
    obtain ⟨inner, hinner, hwritten⟩ := Cursor.takes_append_iff.1 hnext
    rw [← hoffset, ← hinner.2] at hspells
    rw [← hoffset, ← hnext.2] at ih
    exact readAttributes_cons hne hspace' hinner hwritten hspells (ih rfl hothers)

/-- What is read as attributes is spelled as such, by induction along the reader: each turn goes
over white space and an attribute. -/
theorem spells_of_readAttributes {attributes : List Attribute} {isEmpty : Bool}
    (h : readAttributes c = .ok (attributes, isEmpty, d)) :
    ∃ written space, c.Takes (written ++ (space ++ tagEnd isEmpty)) d ∧
      SpellsAttributes c.offset written attributes ∧ Blanks space := by
  fun_induction readAttributes c generalizing attributes isEmpty d with
  | case1 => cases h
  | case2 c inner rest =>
    rename_i hrest
    cases h
    obtain ⟨space, hspace, hblanks, -⟩ := skipBlanks_eq_iff.1 (@rfl _ (skipBlanks c))
    have hclose : inner.Takes ['>'] (inner.advance 1) := by
      have htakes := inner.takes_advance 1
      rwa [hrest] at htakes
    exact ⟨[], space, hspace.trans hclose, .nil, hblanks⟩
  | case3 => cases h
  | case4 c =>
    rename_i hexpect
    cases h
    obtain ⟨space, hspace, hblanks, -⟩ := skipBlanks_eq_iff.1 (@rfl _ (skipBlanks c))
    exact ⟨[], space, hspace.trans (expect_eq_ok_iff.1 hexpect), .nil, hblanks⟩
  | case5 => cases h
  | case6 => cases h
  | case7 c =>
    rename_i hblank _ next hattribute _ _ _ hothers ih
    cases h
    obtain ⟨space, hspace, hblanks, -⟩ := skipBlanks_eq_iff.1 (@rfl _ (skipBlanks c))
    obtain ⟨written, hwritten, hspells⟩ := readAttribute_eq_ok_iff.1 hattribute
    obtain ⟨written', space', htakes, hspells', hblanks'⟩ := ih hothers
    have hnext := hspace.trans hwritten
    rw [hspace.2] at hspells
    rw [hnext.2] at hspells'
    refine ⟨_, space', ?_, .cons (ne_nil_of_atBlank hblank hspace) hblanks hspells hspells',
      hblanks'⟩
    rw [List.append_assoc]
    exact hnext.trans htakes
  | case8 => cases h

theorem readAttributes_eq_ok_iff {attributes : List Attribute} {isEmpty : Bool} :
    readAttributes c = .ok (attributes, isEmpty, d) ↔
      ∃ written space, c.Takes (written ++ (space ++ tagEnd isEmpty)) d ∧
        SpellsAttributes c.offset written attributes ∧ Blanks space :=
  ⟨spells_of_readAttributes, fun ⟨_, _, htakes, hspells, hspace⟩ =>
    readAttributes_of_spells hspells hspace rfl htakes⟩

/-! ## Tags -/

theorem SpellsAttributes.not_isNameChar_head? {offset : Nat} {written rest : List Char}
    {attributes : List Attribute} (h : SpellsAttributes offset written attributes)
    (hrest : ∀ x ∈ rest.head?, isNameChar x = false) :
    ∀ x ∈ (written ++ rest).head?, isNameChar x = false := by
  cases h with
  | nil => exact hrest
  | @cons _ space _ _ _ _ hne hspace =>
    cases space with
    | nil => exact absurd rfl hne
    | cons x space =>
      intro y hy
      cases hy
      exact isNameChar_of_isBlank (hspace _ List.mem_cons_self)

theorem readStartTag_eq_ok_iff {inner : Cursor} {e : Event} (hopen : c.Takes ['<'] inner) :
    readStartTag c = .ok (e, d) ↔
      ∃ written, c.Takes written d ∧ SpellsStartTag c.offset written e := by
  have hadvance : c.advance 1 = inner := hopen.advance_eq
  rw [readStartTag, hadvance]
  constructor
  · intro h
    simp only [bind_eq_ok_iff] at h
    obtain ⟨⟨name, afterName⟩, hname, ⟨attributes, isEmpty, next⟩, hattributes, h⟩ := h
    cases h
    obtain ⟨htakes, hname, -⟩ := readName_eq_ok_iff.1 hname
    obtain ⟨written, space, hend, hspells, hspace⟩ := readAttributes_eq_ok_iff.1 hattributes
    have hfront := hopen.trans htakes
    rw [hfront.2] at hspells
    have htag := @SpellsStartTag.mk c.offset (String.ofList name) written space attributes isEmpty
      (by rwa [String.toList_ofList]) (by rwa [String.toList_ofList]) hspace
    rw [String.toList_ofList] at htag
    exact ⟨_, hfront.trans hend, htag⟩
  · rintro ⟨_, htakes, hspells⟩
    cases hspells with
    | @mk name written space attributes isEmpty hname hspells hspace =>
      obtain ⟨afterName, hfront, hend⟩ := Cursor.takes_append_iff.1 htakes
      obtain ⟨inner', hopen', htakesName⟩ :=
        (@Cursor.takes_append_iff _ _ ['<'] name.toList).1 hfront
      obtain rfl := hopen.cursor_eq hopen'
      have hhead : ∀ x ∈ (space ++ (tagEnd isEmpty ++ d.rest)).head?, isNameChar x = false :=
        hspace.not_isNameChar_head? (by cases isEmpty <;> simp [tagEnd, isNameChar, isNameStart])
      have hread : readName inner .elementName = .ok (name.toList, afterName) := by
        rw [readName_eq_ok_iff, hend.1, List.append_assoc, List.append_assoc]
        exact ⟨htakesName, hname, hspells.not_isNameChar_head? hhead⟩
      rw [← hfront.2] at hspells
      have hattributes : readAttributes afterName = .ok (attributes, isEmpty, d) :=
        readAttributes_eq_ok_iff.2 ⟨written, space, hend, hspells, hspace⟩
      rw [hread]
      dsimp only [bind, Except.bind]
      rw [hattributes, String.ofList_toList]

theorem readEndTag_eq_ok_iff {inner : Cursor} {e : Event} (hopen : c.Takes ['<', '/'] inner) :
    readEndTag c = .ok (e, d) ↔ ∃ written, c.Takes written d ∧ SpellsEndTag written e := by
  have hadvance : c.advance 2 = inner := hopen.advance_eq
  rw [readEndTag, hadvance]
  constructor
  · intro h
    simp only [bind_eq_ok_iff] at h
    obtain ⟨⟨name, afterName⟩, hname, next, hclose, h⟩ := h
    cases h
    obtain ⟨htakes, hname, -⟩ := readName_eq_ok_iff.1 hname
    obtain ⟨space, hspace, hblanks, -⟩ := skipBlanks_eq_iff.1 (@rfl _ (skipBlanks afterName))
    have hclose : (skipBlanks afterName).Takes ['>'] d := expect_eq_ok_iff.1 hclose
    have htag := @SpellsEndTag.mk (String.ofList name) space (by rwa [String.toList_ofList]) hblanks
    rw [String.toList_ofList] at htag
    exact ⟨_, (hopen.trans htakes).trans (hspace.trans hclose), htag⟩
  · rintro ⟨_, htakes, hspells⟩
    cases hspells with
    | @mk name space hname hspace =>
      obtain ⟨afterName, hfront, htakes⟩ := Cursor.takes_append_iff.1 htakes
      obtain ⟨inner', hopen', htakesName⟩ :=
        (@Cursor.takes_append_iff _ _ ['<', '/'] name.toList).1 hfront
      obtain rfl := hopen.cursor_eq hopen'
      obtain ⟨atEnd, hblanks, hclose⟩ := Cursor.takes_append_iff.1 htakes
      have hsign : atEnd.rest.head? = some '>' := hclose.head?_eq (List.cons_ne_nil _ _)
      have hhead : ∀ x ∈ atEnd.rest.head?, x = '>' := fun x hx => by
        rw [hsign] at hx
        exact (Option.some.inj hx).symm
      have hread : readName inner .elementName = .ok (name.toList, afterName) := by
        rw [readName_eq_ok_iff, hblanks.1]
        exact ⟨htakesName, hname, hspace.not_isNameChar_head? fun x hx => hhead x hx ▸ by decide⟩
      have hskip : skipBlanks afterName = atEnd :=
        skipBlanks_eq_iff.2 ⟨space, hblanks, hspace, fun x hx => hhead x hx ▸ by decide⟩
      have hexpect : expect atEnd ">" .endTagClose = .ok d := expect_eq_ok_iff.2 hclose
      rw [hread]
      dsimp only [bind, Except.bind]
      rw [hskip, hexpect, String.ofList_toList]

/-- The character behind the opening sign of a start tag starts a name. -/
theorem SpellsStartTag.exists_isNameStart {offset : Nat} {written : List Char} {e : Event}
    (h : SpellsStartTag offset written e) :
    ∃ x rest, written = '<' :: x :: rest ∧ isNameStart x = true := by
  cases h with
  | @mk name _ _ _ _ hname =>
    cases hlist : name.toList with
    | nil =>
      rw [hlist] at hname
      cases hname
    | cons x rest =>
      rw [hlist, isName, Bool.and_eq_true] at hname
      exact ⟨x, _, rfl, hname.1⟩

theorem SpellsEndTag.exists_eq {written : List Char} {e : Event} (h : SpellsEndTag written e) :
    ∃ rest, written = '<' :: '/' :: rest := by
  cases h with
  | mk => exact ⟨_, rfl⟩

/-- What opens with a sign that is none of other markup is read as a tag, an end tag if a slash
follows. -/
theorem readEvent_eq_readTag {rest : List Char} (hc : c.rest = '<' :: rest)
    (hexclamation : rest.head? ≠ some '!') (hquestion : rest.head? ≠ some '?') :
    readEvent c = if rest.head? = some '/' then readEndTag c else readStartTag c := by
  cases rest with
  | nil => simp [readEvent, Cursor.startsWith, hc]
  | cons x rest =>
    have hexclamation : ¬ '!' = x := fun h => hexclamation (h ▸ rfl)
    have hquestion : ¬ '?' = x := fun h => hquestion (h ▸ rfl)
    simp [readEvent, Cursor.startsWith, hc, hexclamation, hquestion, @eq_comm _ x '/']

/-- A tag is found where one is spelled, and the reader goes over it. -/
theorem readEvent_eq_ok_iff_spellsTag {rest : List Char} {e : Event} (hc : c.rest = '<' :: rest)
    (hexclamation : rest.head? ≠ some '!') (hquestion : rest.head? ≠ some '?') :
    readEvent c = .ok (e, d) ↔ ∃ written, c.Takes written d ∧ SpellsTag c.offset written e := by
  rw [readEvent_eq_readTag hc hexclamation hquestion]
  by_cases hslash : rest.head? = some '/'
  · obtain ⟨rest, rfl⟩ := List.head?_eq_some_iff.1 hslash
    have hopen : c.Takes ['<', '/'] ⟨_, rest⟩ := ⟨hc, rfl⟩
    rw [if_pos hslash, readEndTag_eq_ok_iff hopen]
    refine exists_congr fun written => and_congr_right fun htakes => ⟨.inr, fun h => ?_⟩
    refine h.resolve_left fun hstart => ?_
    obtain ⟨x, written, rfl, hx⟩ := hstart.exists_isNameStart
    have hrest := hc.symm.trans htakes.1
    cases hrest
    exact absurd hx (by decide)
  · have hopen : c.Takes ['<'] ⟨_, rest⟩ := ⟨hc, rfl⟩
    rw [if_neg hslash, readStartTag_eq_ok_iff hopen]
    refine exists_congr fun written => and_congr_right fun htakes => ⟨.inl, fun h => ?_⟩
    refine h.resolve_right fun hend => hslash ?_
    obtain ⟨written, rfl⟩ := hend.exists_eq
    have hrest := hc.symm.trans htakes.1
    cases hrest
    rfl

/-- A tag is read in front of any text. -/
theorem SpellsTag.readEvent_eq {offset : Nat} {written : List Char} {e : Event}
    (h : SpellsTag offset written e) (rest : List Char) :
    readEvent ⟨offset, written ++ rest⟩ = .ok (e, ⟨offset + utf8Length written, rest⟩) := by
  obtain ⟨x, behind, hwritten, hx⟩ :
      ∃ x behind, written = '<' :: x :: behind ∧ (isNameStart x = true ∨ x = '/') := by
    rcases h with hstart | hend
    · obtain ⟨x, behind, rfl, hx⟩ := hstart.exists_isNameStart
      exact ⟨x, behind, rfl, .inl hx⟩
    · obtain ⟨behind, rfl⟩ := hend.exists_eq
      exact ⟨'/', behind, rfl, .inr rfl⟩
  have hne : ∀ y, isNameStart y = false → y ≠ '/' → (x :: (behind ++ rest)).head? ≠ some y := by
    rintro y hy hslash ⟨⟩
    rcases hx with hx | rfl
    · rw [hx] at hy
      cases hy
    · exact hslash rfl
  refine (@readEvent_eq_ok_iff_spellsTag _ _ (x :: (behind ++ rest)) _ ?_
    (hne '!' (by decide) (by decide)) (hne '?' (by decide) (by decide))).2
    ⟨written, Cursor.takes_mk offset written rest, h⟩
  rw [hwritten]
  rfl

/-- Where a cursor stands, the reader finds what is written by a grammar: it goes over what is
spelled at the front of what is left, at most one thing is, and it fails if none is. -/
structure Recognises (c : Cursor) (Spells : List Char → Event → Prop) : Prop where
  /-- What is read is spelled, and what is spelled is read. -/
  read_iff : ∀ e d, readEvent c = .ok (e, d) ↔ ∃ written, c.Takes written d ∧ Spells written e
  /-- At most one thing is spelled. -/
  unique : ∀ written written' e e' d d', c.Takes written d → Spells written e →
    c.Takes written' d' → Spells written' e' → written = written' ∧ e = e'
  /-- The reader fails if nothing is spelled. -/
  fails : (¬ ∃ written e d, c.Takes written d ∧ Spells written e) →
    ∃ failure, readEvent c = .error failure

/-- The reader finds one thing or fails, so what it finds is all there is. -/
theorem Recognises.of_iff {Spells : List Char → Event → Prop}
    (hiff : ∀ e d, readEvent c = .ok (e, d) ↔ ∃ written, c.Takes written d ∧ Spells written e) :
    Recognises c Spells := by
  refine ⟨hiff, fun written written' e e' d d' htakes hspells htakes' hspells' => ?_,
    fun hnone => ?_⟩
  · -- Both are what the reader goes over.
    have hread := (hiff e d).2 ⟨written, htakes, hspells⟩
    rw [(hiff e' d').2 ⟨written', htakes', hspells'⟩] at hread
    cases hread
    exact ⟨htakes.taken_eq htakes', rfl⟩
  · cases hread : readEvent c with
    | error failure => exact ⟨failure, rfl⟩
    | ok result =>
      obtain ⟨written, htakes, hspells⟩ := (hiff result.1 result.2).1 hread
      exact absurd ⟨written, result.1, result.2, htakes, hspells⟩ hnone

/-- **Tags are recognised exactly.** Where an opening sign stands that no other markup follows, the
reader finds a tag and goes over it if a tag is spelled at the front of what is left, and it fails
if none is; at most one is, and it says one thing. -/
theorem readEvent_recognises_tags {c : Cursor} {rest : List Char} (hc : c.rest = '<' :: rest)
    (hexclamation : rest.head? ≠ some '!') (hquestion : rest.head? ≠ some '?') :
    (∀ e d, readEvent c = .ok (e, d) ↔
      ∃ written, c.Takes written d ∧ SpellsTag c.offset written e) ∧
    (∀ written written' e e' d d', c.Takes written d → SpellsTag c.offset written e →
      c.Takes written' d' → SpellsTag c.offset written' e' → written = written' ∧ e = e') ∧
    ((¬ ∃ written e d, c.Takes written d ∧ SpellsTag c.offset written e) →
      ∃ failure, readEvent c = .error failure) := by
  have hrecognises : Recognises c (SpellsTag c.offset) :=
    .of_iff fun _ _ => readEvent_eq_ok_iff_spellsTag hc hexclamation hquestion
  exact ⟨hrecognises.read_iff, hrecognises.unique, hrecognises.fails⟩

theorem readEvent_recognises_tags_empty :
    readEvent ⟨3, "<a b='&lt;'/>x".toList⟩ =
      .ok (.startTag "a" [⟨"b", "<", 6⟩] true, ⟨16, ['x']⟩) := by
  have hdecodes : Decodes .attribute "&lt;".toList ['<'] :=
    @Decodes.reference .attribute "lt".toList [] [] '<' (@Refers.named "lt" '<' (by decide)) .nil
  have hvalue : SpellsValue "'&lt;'".toList "<" :=
    @SpellsValue.quoted '\'' "&lt;".toList "<" (.inr rfl) (by decide) (by decide) hdecodes
  have hattribute : SpellsAttribute 6 "b='&lt;'".toList ⟨"b", "<", 6⟩ :=
    @SpellsAttribute.mk 6 "b" [] [] _ "<" (by decide) blanks_nil blanks_nil hvalue
  have hattributes : SpellsAttributes 5 " b='&lt;'".toList [⟨"b", "<", 6⟩] :=
    @SpellsAttributes.cons 5 [' '] _ [] _ [] (List.cons_ne_nil _ _) (by decide) hattribute .nil
  have htag : SpellsTag 3 "<a b='&lt;'/>".toList (.startTag "a" [⟨"b", "<", 6⟩] true) :=
    .inl (@SpellsStartTag.mk 3 "a" _ [] _ true (by decide) hattributes blanks_nil)
  exact ((@readEvent_recognises_tags ⟨3, "<a b='&lt;'/>x".toList⟩ "a b='&lt;'/>x".toList rfl
    (by decide) (by decide)).1 _ _).2 ⟨_, ⟨rfl, rfl⟩, htag⟩

end XmlQuery.Markup
