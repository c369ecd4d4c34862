import XmlQuery.Proofs.Markup.TagGrammar

/-!
# The grammar of leaves

Comments, CDATA sections, processing instructions and character data by the productions of XML, and
what they say. The reader searches for a closing delimiter first and checks what stands in front of
it afterwards. That comes to the same: the productions leave no place for a delimiter inside, and
the last character of a delimiter stands nowhere else in it, so the first one found is the one that
was written.

## Main definitions

* `Normalizes`: a text and what its line ends make of it
* `CommentText`, `Undelimited`: what stands inside comments and other markup
* `SpellsComment`, `SpellsCData`, `SpellsInstruction`, `SpellsText`: the leaves of a document

## Main results

* `commentText_iff`: no two hyphens, and none at the end
* `readComment_eq_ok_iff`, `readCData_eq_ok_iff`, `readInstruction_eq_ok_iff`,
  `readText_eq_ok_iff`: reading by productions
* `recognises_comment`, `recognises_cdata`, `recognises_instruction`, `recognises_text`: each of
  them
* `readEvent_recognises_leaves`: **leaves are recognised exactly**
-/

namespace XmlQuery.Markup

open Text (Cursor utf8Length)

variable {c d inner : Cursor} {e : Event} {text content : List Char}

/-! ## Productions -/

/-- A text and what its line ends make of it: a carriage return with a line feed behind it, or
alone, is a line feed. -/
inductive Normalizes : (text normal : List Char) → Prop
  /-- No character. -/
  | nil : Normalizes [] []
  /-- A character as it is. -/
  | plain {x : Char} {text normal : List Char} : x ≠ '\r' → Normalizes text normal →
    Normalizes (x :: text) (x :: normal)
  /-- A line end of two characters. -/
  | crlf {text normal : List Char} : Normalizes text normal →
    Normalizes ('\r' :: '\n' :: text) ('\n' :: normal)
  /-- A carriage return alone. -/
  | lone {text normal : List Char} : text.head? ≠ some '\n' → Normalizes text normal →
    Normalizes ('\r' :: text) ('\n' :: normal)

/-- What a comment may hold: legal characters, with another one than a hyphen behind each hyphen. -/
inductive CommentText : List Char → Prop
  /-- No character. -/
  | nil : CommentText []
  /-- A character other than a hyphen. -/
  | plain {x : Char} {text : List Char} : isChar x = true → x ≠ '-' → CommentText text →
    CommentText (x :: text)
  /-- A hyphen and another character. -/
  | hyphen {x : Char} {text : List Char} : isChar x = true → x ≠ '-' → CommentText text →
    CommentText ('-' :: x :: text)

/-- What other markup may hold: legal characters among which its closing delimiter does not
occur. -/
def Undelimited (delimiter : String) (text : List Char) : Prop :=
  (∀ x ∈ text, isChar x = true) ∧ ¬ delimiter.toList <:+: text

/-- A comment. -/
inductive SpellsComment : List Char → Event → Prop
  /-- Its text between the delimiters. -/
  | mk {content : List Char} {data : String} : CommentText content →
    Normalizes content data.toList →
    SpellsComment ("<!--".toList ++ (content ++ "-->".toList)) (.comment data)

/-- A CDATA section. -/
inductive SpellsCData : List Char → Event → Prop
  /-- Its text between the delimiters. -/
  | mk {content : List Char} {data : String} : Undelimited "]]>" content →
    Normalizes content data.toList →
    SpellsCData ("<![CDATA[".toList ++ (content ++ "]]>".toList)) (.cdata data)

/-- A target of processing instructions: a name other than that of the XML declaration, in
whatever case. -/
def IsTarget (target : List Char) : Prop :=
  isName target = true ∧ target.map Char.toLower ≠ ['x', 'm', 'l']

/-- A processing instruction. White space at the front of its content is not part of it. -/
inductive SpellsInstruction : List Char → Event → Prop
  /-- A target alone. -/
  | bare {target : String} : IsTarget target.toList →
    SpellsInstruction ("<?".toList ++ (target.toList ++ "?>".toList)) (.instruction target "")
  /-- A target, white space and content. -/
  | mk {target data : String} {space content : List Char} : IsTarget target.toList →
    space ≠ [] → Blanks space → Undelimited "?>" content →
    Normalizes (content.dropWhile Text.isBlank) data.toList →
    SpellsInstruction ("<?".toList ++ (target.toList ++ (space ++ (content ++ "?>".toList))))
      (.instruction target data)

/-- Character data: legal characters and references without an opening sign and without the end of
a CDATA section. -/
inductive SpellsText : List Char → Event → Prop
  /-- Character data. -/
  | mk {raw : List Char} {data : String} : '<' ∉ raw → ¬ "]]>".toList <:+: raw →
    Decodes .text raw data.toList → SpellsText raw (.text data)

/-! ## Contents -/

/-- Line ends are normalised by the rules for them, by induction along the text. -/
theorem normalizeNewlines_eq_iff {normal : List Char} :
    normalizeNewlines text = normal ↔ Normalizes text normal := by
  constructor
  · rintro rfl
    rw [normalizeNewlines]
    fun_induction replaceReturns '\n' text with
    | case1 => exact .nil
    | case2 rest ih => exact .crlf ih
    | case3 x rest hcrlf ih =>
      by_cases hx : x = '\r'
      · rw [if_pos hx]
        subst hx
        refine .lone (fun hhead => ?_) ih
        obtain ⟨behind, rfl⟩ := List.head?_eq_some_iff.1 hhead
        exact hcrlf behind rfl rfl
      · rw [if_neg hx]
        exact .plain hx ih
  · intro h
    rw [← DataMode.normalize.eq_1]
    induction h with
    | nil => exact DataMode.normalize_nil
    | plain hx _ ih =>
      rw [DataMode.normalize_cons hx, ih]
      rfl
    | crlf _ ih =>
      rw [DataMode.normalize_crlf, ih]
      rfl
    | lone hhead _ ih =>
      rw [DataMode.normalize_return hhead, ih]
      rfl

theorem ofList_normalizeNewlines_eq_iff {data : String} :
    String.ofList (normalizeNewlines text) = data ↔ Normalizes text data.toList := by
  rw [← normalizeNewlines_eq_iff]
  constructor
  · rintro rfl
    exact String.toList_ofList.symm
  · intro h
    rw [h, String.ofList_toList]

theorem checkChars_eq_ok_iff {here : Cursor} {start : Nat} :
    checkChars here start text = .ok () ↔ ∀ x ∈ text, isChar x = true := by
  rw [← @firstInvalid?_eq_none_iff start, checkChars]
  cases firstInvalid? start text with
  | none => exact ⟨fun _ => rfl, fun _ => rfl⟩
  | some fault => exact ⟨nofun, nofun⟩

theorem CommentText.conditions (h : CommentText text) :
    (∀ x ∈ text, isChar x = true) ∧ ¬ "--".toList <:+: text ∧ text.getLast? ≠ some '-' := by
  induction h with
  | nil => exact ⟨nofun, by decide, nofun⟩
  | @plain x text hchar hx _ ih =>
    obtain ⟨hchars, hhyphens, hlast⟩ := ih
    refine ⟨List.forall_mem_cons.2 ⟨hchar, hchars⟩, fun hoccurs => ?_, ?_⟩
    · rcases List.infix_cons_iff.1 hoccurs with hfront | hbehind
      · exact hx (List.cons_prefix_cons.1 hfront).1.symm
      · exact hhyphens hbehind
    · cases text with
      | nil => simpa using hx
      | cons y text => simpa using hlast
  | @hyphen x text hchar hx _ ih =>
    obtain ⟨hchars, hhyphens, hlast⟩ := ih
    refine ⟨List.forall_mem_cons.2 ⟨by decide, List.forall_mem_cons.2 ⟨hchar, hchars⟩⟩,
      fun hoccurs => ?_, ?_⟩
    · rcases List.infix_cons_iff.1 hoccurs with hfront | hbehind
      · exact hx (List.cons_prefix_cons.1 (List.cons_prefix_cons.1 hfront).2).1.symm
      · rcases List.infix_cons_iff.1 hbehind with hfront | hbehind
        · exact hx (List.cons_prefix_cons.1 hfront).1.symm
        · exact hhyphens hbehind
    · cases text with
      | nil => simpa using hx
      | cons y text => simpa using hlast

theorem getLast?_ne_of_cons {x y : Char} (h : (x :: text).getLast? ≠ some y) :
    text.getLast? ≠ some y := by
  cases text with
  | nil => nofun
  | cons z text => simpa using h

/-- The text of a comment is taken apart from the front, a hyphen together with what follows it. -/
theorem commentText_of (hchars : ∀ x ∈ text, isChar x = true) (hhyphens : ¬ "--".toList <:+: text)
    (hlast : text.getLast? ≠ some '-') : CommentText text := by
  induction text using List.twoStepInduction with
  | nil => exact .nil
  | singleton x =>
    refine .plain (hchars x List.mem_cons_self) ?_ .nil
    rintro rfl
    exact hlast rfl
  | cons_cons x y rest ih ih' =>
    rw [List.forall_mem_cons] at hchars
    have hbehind : ¬ "--".toList <:+: y :: rest :=
      fun hoccurs => hhyphens (hoccurs.trans (List.suffix_cons x _).isInfix)
    by_cases hx : x = '-'
    · subst hx
      have hy : y ≠ '-' := by
        rintro rfl
        exact hhyphens (List.prefix_append ['-', '-'] rest).isInfix
      have hothers : ¬ "--".toList <:+: rest :=
        fun hoccurs => hbehind (hoccurs.trans (List.suffix_cons y rest).isInfix)
      rw [List.forall_mem_cons] at hchars
      exact .hyphen hchars.2.1 hy
        (ih hchars.2.2 hothers (getLast?_ne_of_cons (getLast?_ne_of_cons hlast)))
    · exact .plain hchars.1 hx (ih' y hchars.2 hbehind (getLast?_ne_of_cons hlast))

/-- A comment holds legal characters without two hyphens in a row and without one at the end. -/
theorem commentText_iff :
    CommentText text ↔
      (∀ x ∈ text, isChar x = true) ∧ ¬ "--".toList <:+: text ∧ text.getLast? ≠ some '-' :=
  ⟨CommentText.conditions, fun ⟨hchars, hhyphens, hlast⟩ => commentText_of hchars hhyphens hlast⟩

/-! ## Reading -/

/-- The closing delimiter that is found first is the one that was written. -/
theorem exists_upTo?_iff {start : List Char} {last : Char} {delimiter : String} {close : Cursor}
    (hdelimiter : delimiter.toList = start ++ [last]) (hlast : last ∉ start) :
    inner.upTo? delimiter = some (content, close) ∧ close.advance delimiter.length = d ↔
      inner.Takes content close ∧ close.Takes delimiter.toList d ∧
        ¬ delimiter.toList <:+: content := by
  rw [Cursor.upTo?_eq_some_iff hdelimiter hlast, ← String.length_toList]
  constructor
  · rintro ⟨⟨hcontent, ⟨rest, hrest⟩, hnot⟩, rfl⟩
    refine ⟨hcontent, ?_, hnot⟩
    have htakes := close.takes_advance delimiter.toList.length
    rwa [← hrest, List.take_left] at htakes
  · rintro ⟨hcontent, hclose, hnot⟩
    exact ⟨⟨hcontent, ⟨d.rest, hclose.1.symm⟩, hnot⟩, hclose.advance_eq⟩

theorem readComment_eq_ok_iff (hopen : c.Takes "<!--".toList inner) :
    readComment c = .ok (e, d) ↔ ∃ written, c.Takes written d ∧ SpellsComment written e := by
  have hadvance : c.advance 4 = inner := hopen.advance_eq
  have hupTo := fun content close => @exists_upTo?_iff d inner content ['-', '-'] '>' "-->" close
    rfl (by decide)
  rw [readComment, hadvance]
  dsimp only
  constructor
  · intro h
    split at h
    · cases h
    · next content close hfound =>
      obtain ⟨⟨⟩, hhyphens, h⟩ := bind_eq_ok_iff.1 h
      split at h
      · cases h
      · next hlast =>
        obtain ⟨⟨⟩, hchars, h⟩ := bind_eq_ok_iff.1 h
        cases h
        obtain ⟨hcontent, hclose, -⟩ := (hupTo content close).1 ⟨hfound, rfl⟩
        rw [refuse_eq_ok_iff] at hhyphens
        rw [checkChars_eq_ok_iff] at hchars
        exact ⟨_, hopen.trans (hcontent.trans hclose),
          .mk (commentText_iff.2 ⟨hchars, hhyphens, hlast⟩)
            (ofList_normalizeNewlines_eq_iff.1 rfl)⟩
  · rintro ⟨_, htakes, hspells⟩
    cases hspells with
    | @mk content data hcontent hdata =>
      obtain ⟨hchars, hhyphens, hlast⟩ := commentText_iff.1 hcontent
      obtain ⟨inner', hopen', htakes⟩ := Cursor.takes_append_iff.1 htakes
      obtain rfl := hopen.cursor_eq hopen'
      obtain ⟨close, htakes, hclose⟩ := Cursor.takes_append_iff.1 htakes
      have hnot : ¬ "-->".toList <:+: content :=
        fun h => hhyphens ((List.prefix_append ['-', '-'] ['>']).isInfix.trans h)
      obtain ⟨hfound, hnext⟩ := (hupTo content close).2 ⟨htakes, hclose, hnot⟩
      have hnext : close.advance 3 = d := hnext
      rw [hfound]
      dsimp only [bind, Except.bind]
      rw [refuse_eq_ok_iff.2 hhyphens]
      dsimp only
      rw [if_neg hlast, checkChars_eq_ok_iff.2 hchars, ofList_normalizeNewlines_eq_iff.2 hdata,
        hnext]

theorem readCData_eq_ok_iff (hopen : c.Takes "<![CDATA[".toList inner) :
    readCData c = .ok (e, d) ↔ ∃ written, c.Takes written d ∧ SpellsCData written e := by
  have hadvance : c.advance 9 = inner := hopen.advance_eq
  have hupTo := fun content close => @exists_upTo?_iff d inner content [']', ']'] '>' "]]>" close
    rfl (by decide)
  rw [readCData, hadvance]
  constructor
  · intro h
    split at h
    · cases h
    · next content close hfound =>
      obtain ⟨⟨⟩, hchars, h⟩ := bind_eq_ok_iff.1 h
      cases h
      obtain ⟨hcontent, hclose, hnot⟩ := (hupTo content close).1 ⟨hfound, rfl⟩
      exact ⟨_, hopen.trans (hcontent.trans hclose),
        .mk ⟨checkChars_eq_ok_iff.1 hchars, hnot⟩ (ofList_normalizeNewlines_eq_iff.1 rfl)⟩
  · rintro ⟨_, htakes, hspells⟩
    cases hspells with
    | @mk content data hcontent hdata =>
      obtain ⟨inner', hopen', htakes⟩ := Cursor.takes_append_iff.1 htakes
      obtain rfl := hopen.cursor_eq hopen'
      obtain ⟨close, htakes, hclose⟩ := Cursor.takes_append_iff.1 htakes
      obtain ⟨hfound, hnext⟩ := (hupTo content close).2 ⟨htakes, hclose, hcontent.2⟩
      have hnext : close.advance 3 = d := hnext
      rw [hfound]
      dsimp only [bind, Except.bind]
      rw [checkChars_eq_ok_iff.2 hcontent.1, ofList_normalizeNewlines_eq_iff.2 hdata, hnext]

/-! ## Processing instructions -/

/-- What stands between the target and the end of a processing instruction, and the content in
it. -/
inductive SpellsContent : (written content : List Char) → Prop
  /-- Nothing. -/
  | bare : SpellsContent [] []
  /-- White space and content, which has no white space in front. -/
  | mk {space content : List Char} : space ≠ [] → Blanks space →
    (∀ x ∈ content.head?, Text.isBlank x = false) → ¬ "?>".toList <:+: content →
    SpellsContent (space ++ content) content

theorem readInstructionContent_eq_ok_iff {start : Nat} :
    (∃ inner close, readInstructionContent start c = .ok (content, inner, close) ∧
      close.advance 2 = d) ↔
      ∃ written, c.Takes (written ++ "?>".toList) d ∧ SpellsContent written content := by
  have hupTo := fun content close => @exists_upTo?_iff d (skipBlanks c) content ['?'] '>' "?>" close
    rfl (by decide)
  rw [readInstructionContent]
  constructor
  · rintro ⟨inner, close, h, hnext⟩
    split at h
    · next hstarts =>
      cases h
      obtain ⟨next, htakes⟩ := Cursor.startsWith_iff.1 hstarts
      have hadvance : c.advance 2 = next := htakes.advance_eq
      obtain rfl : next = d := hadvance.symm.trans hnext
      exact ⟨[], htakes, .bare⟩
    · split at h
      · next hblank =>
        dsimp only at h
        split at h
        · cases h
        · next hfound =>
          cases h
          obtain ⟨space, hspace, hblanks, hhead⟩ := skipBlanks_eq_iff.1 (@rfl _ (skipBlanks c))
          obtain ⟨hcontent, hclose, hnot⟩ := (hupTo content close).1 ⟨hfound, hnext⟩
          refine ⟨space ++ content, (hspace.trans hcontent).trans hclose,
            .mk (ne_nil_of_atBlank hblank hspace) hblanks (fun x hx => hhead x ?_) hnot⟩
          rw [hcontent.1]
          exact List.mem_head?_append_of_mem_head? hx
      · cases h
  · rintro ⟨written, htakes, hspells⟩
    cases hspells with
    | bare =>
      rw [if_pos (Cursor.startsWith_iff.2 ⟨d, htakes⟩)]
      exact ⟨c, c, rfl, Cursor.Takes.advance_eq htakes⟩
    | @mk space content hne hspace hhead hnot =>
      rw [List.append_assoc, Cursor.takes_append_iff] at htakes
      obtain ⟨inner, htakesSpace, htakes⟩ := htakes
      obtain ⟨close, htakes, hclose⟩ := Cursor.takes_append_iff.1 htakes
      have hskip : skipBlanks c = inner := by
        refine skipBlanks_eq_iff.2 ⟨space, htakesSpace, hspace, ?_⟩
        rw [htakes.1, hclose.1]
        cases content with
        | nil => simp [Text.isBlank]
        | cons x content => exact hhead
      rw [← hskip] at htakes
      obtain ⟨hfound, hnext⟩ := (hupTo content close).2 ⟨htakes, hclose, hnot⟩
      obtain ⟨x, space', rfl⟩ := List.exists_cons_of_ne_nil hne
      have hx : Text.isBlank x = true := hspace x List.mem_cons_self
      have hrest : c.rest = x :: (space' ++ inner.rest) := htakesSpace.1
      -- White space is no part of the closing delimiter.
      have hstarts : ¬ c.startsWith "?>" = true := by
        rw [Cursor.startsWith, hrest, List.isPrefixOf_iff_prefix]
        intro hprefix
        obtain rfl : '?' = x := (List.cons_prefix_cons.1 hprefix).1
        cases hx
      have hblank : atBlank c = true := by
        rw [atBlank, hrest]
        exact hx
      rw [if_neg hstarts, if_pos hblank]
      dsimp only
      rw [hfound]
      exact ⟨_, close, rfl, hnext⟩

theorem isReservedTarget_eq_false_iff {target : List Char} (hne : target ≠ ['x', 'm', 'l']) :
    isReservedTarget target = false ↔ target.map Char.toLower ≠ ['x', 'm', 'l'] := by
  rw [isReservedTarget, bne_iff_ne.2 hne, Bool.true_and, beq_eq_false_iff_ne]

/-- The white space in front of the content may be longer than what the production calls so. -/
theorem spellsInstruction_iff {written : List Char} :
    SpellsInstruction written e ↔
      ∃ target data between content, IsTarget target.toList ∧ SpellsContent between content ∧
        (∀ x ∈ content, isChar x = true) ∧ Normalizes content data.toList ∧
        written = "<?".toList ++ (target.toList ++ (between ++ "?>".toList)) ∧
        e = .instruction target data := by
  constructor
  · intro h
    cases h with
    | @bare target htarget => exact ⟨target, "", [], [], htarget, .bare, nofun, .nil, rfl, rfl⟩
    | @mk target data space content htarget hne hspace hcontent hdata =>
      obtain ⟨hchars, hnot⟩ := hcontent
      have hsplit : content.takeWhile Text.isBlank ++ content.dropWhile Text.isBlank = content :=
        List.takeWhile_append_dropWhile
      have hblanks : Blanks (space ++ content.takeWhile Text.isBlank) :=
        List.forall_mem_append.2 ⟨hspace, fun x hx => List.mem_takeWhile_imp hx⟩
      have hhead : ∀ x ∈ (content.dropWhile Text.isBlank).head?, Text.isBlank x = false :=
        fun x hx => by
          have := List.head?_dropWhile_not Text.isBlank content
          rw [hx] at this
          simpa using this
      have hsuffix : content.dropWhile Text.isBlank <:+ content := List.dropWhile_suffix _
      refine ⟨target, data, _, _, htarget,
        .mk (List.append_ne_nil_of_left_ne_nil hne _) hblanks hhead
          fun hoccurs => hnot (hoccurs.trans hsuffix.isInfix),
        fun x hx => hchars x (hsuffix.mem hx), hdata, ?_, rfl⟩
      rw [List.append_assoc, List.append_assoc, ← List.append_assoc (content.takeWhile _), hsplit]
  · rintro ⟨target, data, between, content, htarget, hbetween, hchars, hdata, rfl, rfl⟩
    cases hbetween with
    | bare =>
      have hempty : data = "" := by
        rw [← ofList_normalizeNewlines_eq_iff.2 hdata]
        rfl
      rw [hempty]
      exact .bare htarget
    | @mk space content hne hspace hhead hnot =>
      have hdrop : content.dropWhile Text.isBlank = content :=
        (@Text.takeWhile_dropWhile_append _ _ [] nofun hhead).2
      rw [List.append_assoc]
      exact .mk htarget hne hspace ⟨hchars, hnot⟩ (hdrop.symm ▸ hdata)

theorem SpellsContent.not_isNameChar_head? {between rest : List Char}
    (h : SpellsContent between content) :
    ∀ x ∈ (between ++ "?>".toList ++ rest).head?, isNameChar x = false := by
  cases h with
  | bare => simp [isNameChar, isNameStart]
  | @mk space content hne hspace =>
    obtain ⟨x, space, rfl⟩ := List.exists_cons_of_ne_nil hne
    rintro _ ⟨⟩
    exact isNameChar_of_isBlank (hspace x List.mem_cons_self)

theorem readInstruction_eq_ok_iff {target : List Char} {behind : Cursor}
    (hopen : c.Takes "<?".toList inner)
    (hread : readName inner .instructionTarget = .ok (target, behind))
    (hne : target ≠ ['x', 'm', 'l']) :
    readInstruction c = .ok (e, d) ↔
      ∃ written, c.Takes written d ∧ SpellsInstruction written e := by
  have hadvance : c.advance 2 = inner := hopen.advance_eq
  obtain ⟨htakesTarget, hname, -⟩ := readName_eq_ok_iff.1 hread
  rw [readInstruction, hadvance, hread]
  dsimp only [bind, Except.bind]
  rw [if_neg (fun h => hne h.1)]
  constructor
  · intro h
    split at h
    · cases h
    · next hreserved =>
      rw [Bool.not_eq_true, isReservedTarget_eq_false_iff hne] at hreserved
      obtain ⟨⟨content, inner', close⟩, hcontent, h⟩ := bind_eq_ok_iff.1 h
      obtain ⟨⟨⟩, hchars, h⟩ := bind_eq_ok_iff.1 h
      cases h
      obtain ⟨between, htakes, hbetween⟩ :=
        readInstructionContent_eq_ok_iff.1 ⟨inner', close, hcontent, rfl⟩
      have htarget : IsTarget (String.ofList target).toList := by
        rw [String.toList_ofList]
        exact ⟨hname, hreserved⟩
      refine ⟨_, hopen.trans (htakesTarget.trans htakes), spellsInstruction_iff.2
        ⟨_, _, between, content, htarget, hbetween, checkChars_eq_ok_iff.1 hchars,
          ofList_normalizeNewlines_eq_iff.1 rfl, ?_, rfl⟩⟩
      rw [@String.toList_ofList target]
  · rintro ⟨_, htakes, hspells⟩
    obtain ⟨target', data, between, content, ⟨hname', hreserved⟩, hbetween, hchars, hdata, rfl,
      rfl⟩ := spellsInstruction_iff.1 hspells
    obtain ⟨inner', hopen', htakes⟩ := Cursor.takes_append_iff.1 htakes
    obtain rfl := hopen.cursor_eq hopen'
    obtain ⟨behind', htakesTarget', htakes⟩ := Cursor.takes_append_iff.1 htakes
    -- The name ends where the content or the closing delimiter starts.
    have hread' : readName inner .instructionTarget = .ok (target'.toList, behind') := by
      rw [readName_eq_ok_iff, htakes.1]
      exact ⟨htakesTarget', hname', hbetween.not_isNameChar_head?⟩
    rw [hread] at hread'
    cases hread'
    obtain ⟨inner', close, hcontent, hnext⟩ :=
      readInstructionContent_eq_ok_iff.2 ⟨between, htakes, hbetween⟩
    rw [(isReservedTarget_eq_false_iff hne).2 hreserved, if_neg Bool.false_ne_true, hcontent]
    dsimp only
    rw [checkChars_eq_ok_iff.2 hchars]
    dsimp only
    rw [if_neg hne, ofList_normalizeNewlines_eq_iff.2 hdata, hnext, String.ofList_toList]

/-! ## Character data -/

theorem readText_eq_ok_iff :
    readText c = .ok (e, d) ↔
      c.Takes (c.rest.takeWhile (· != '<')) d ∧ SpellsText (c.rest.takeWhile (· != '<')) e := by
  have hskip := c.takes_skipWhile (· != '<')
  rw [readText]
  constructor
  · intro h
    obtain ⟨⟨⟩, hsection, h⟩ := bind_eq_ok_iff.1 h
    obtain ⟨data, hdata, h⟩ := bind_eq_ok_iff.1 h
    cases h
    refine ⟨hskip, .mk (fun hmem => ?_) (refuse_eq_ok_iff.1 hsection)
      (decodeData_eq_ok_iff.1 hdata)⟩
    have hne : ('<' != '<') = true := List.mem_takeWhile_imp (p := (· != '<')) hmem
    exact absurd hne (by decide)
  · rintro ⟨htakes, hspells⟩
    obtain rfl := hskip.cursor_eq htakes
    cases hspells with
    | @mk data _ hsection hdata =>
      dsimp only [bind, Except.bind]
      rw [refuse_eq_ok_iff.2 hsection, decodeData_eq_ok_iff.2 hdata]

/-! ## Leaves -/

theorem readEvent_eq_readComment (hopen : c.Takes "<!--".toList inner) :
    readEvent c = readComment c := by
  simp [readEvent, Cursor.startsWith, hopen.1]

theorem readEvent_eq_readCData (hopen : c.Takes "<![CDATA[".toList inner) :
    readEvent c = readCData c := by
  simp [readEvent, Cursor.startsWith, hopen.1]

theorem readEvent_eq_readInstruction (hopen : c.Takes "<?".toList inner) :
    readEvent c = readInstruction c := by
  simp [readEvent, Cursor.startsWith, hopen.1]

theorem recognises_comment (h : "<!--".toList <+: c.rest) : Recognises c SpellsComment := by
  obtain ⟨rest, hrest⟩ := h
  have hopen : c.Takes "<!--".toList ⟨_, rest⟩ := ⟨hrest.symm, rfl⟩
  refine .of_iff fun e d => ?_
  rw [readEvent_eq_readComment hopen, readComment_eq_ok_iff hopen]

theorem recognises_cdata (h : "<![CDATA[".toList <+: c.rest) : Recognises c SpellsCData := by
  obtain ⟨rest, hrest⟩ := h
  have hopen : c.Takes "<![CDATA[".toList ⟨_, rest⟩ := ⟨hrest.symm, rfl⟩
  refine .of_iff fun e d => ?_
  rw [readEvent_eq_readCData hopen, readCData_eq_ok_iff hopen]

theorem recognises_instruction {target behind : List Char}
    (hc : c.rest = "<?".toList ++ (target ++ behind)) (htarget : isName target = true)
    (hbehind : ∀ x ∈ behind.head?, isNameChar x = false) (hne : target ≠ ['x', 'm', 'l']) :
    Recognises c SpellsInstruction := by
  have hopen : c.Takes "<?".toList ⟨_, target ++ behind⟩ := ⟨hc, rfl⟩
  have hread := fun offset => (@readName_eq_ok_iff ⟨offset, target ++ behind⟩ _ target
    .instructionTarget).2 ⟨Cursor.takes_mk offset target behind, htarget, hbehind⟩
  refine .of_iff fun e d => ?_
  rw [readEvent_eq_readInstruction hopen, readInstruction_eq_ok_iff hopen (hread _) hne]

theorem recognises_text {x : Char} {rest : List Char} (hc : c.rest = x :: rest) (hx : x ≠ '<') :
    Recognises c fun raw e => raw = c.rest.takeWhile (· != '<') ∧ SpellsText raw e := by
  have hstart : ¬ c.startsWith "<" = true := by
    rw [Cursor.startsWith_of_cons hc rfl, beq_iff_eq]
    exact hx.symm
  refine .of_iff fun e d => ?_
  rw [readEvent, if_pos hstart, readText_eq_ok_iff]
  constructor
  · rintro ⟨htakes, hspells⟩
    exact ⟨_, htakes, rfl, hspells⟩
  · rintro ⟨_, htakes, rfl, hspells⟩
    exact ⟨htakes, hspells⟩

/-- **Leaves are recognised exactly.** Where the opening delimiter of a comment, of a CDATA section
or of a processing instruction with another target than `xml` stands, the reader finds what the
production of XML describes and goes over it, and fails if nothing of the kind is at the front of
what is left. Anywhere else than at an opening sign it finds the text up to the next one or to the
end, and fails if that is not character data. -/
theorem readEvent_recognises_leaves (c : Cursor) :
    ("<!--".toList <+: c.rest → Recognises c SpellsComment) ∧
    ("<![CDATA[".toList <+: c.rest → Recognises c SpellsCData) ∧
    (∀ target behind, c.rest = "<?".toList ++ (target ++ behind) → isName target = true →
      (∀ x ∈ behind.head?, isNameChar x = false) → target ≠ ['x', 'm', 'l'] →
      Recognises c SpellsInstruction) ∧
    (∀ x rest, c.rest = x :: rest → x ≠ '<' →
      Recognises c fun raw e => raw = c.rest.takeWhile (· != '<') ∧ SpellsText raw e) :=
  ⟨recognises_comment, recognises_cdata, fun _ _ => recognises_instruction,
    fun _ _ => recognises_text⟩

theorem readEvent_recognises_leaves_samples :
    readEvent ⟨3, "<!---->-->".toList⟩ = .ok (.comment "", ⟨10, "-->".toList⟩) ∧
    readEvent ⟨3, "<![CDATA[]\r]]]>".toList⟩ = .ok (.cdata "]\n]", ⟨18, []⟩) ∧
    readEvent ⟨3, "<?a \t??>".toList⟩ = .ok (.instruction "a" "?", ⟨11, []⟩) ∧
    readEvent ⟨3, "&lt;>\r<a/>".toList⟩ = .ok (.text "<>\n", ⟨9, "<a/>".toList⟩) := by
  have hcomment : SpellsComment "<!---->".toList (.comment "") := .mk .nil .nil
  have hcdata : SpellsCData "<![CDATA[]\r]]]>".toList (.cdata "]\n]") :=
    @SpellsCData.mk "]\r]".toList _ ⟨List.all_eq_true.1 rfl, by decide⟩
      (.plain (by decide) (.lone (by decide) (.plain (by decide) .nil)))
  have hinstruction : SpellsInstruction "<?a \t??>".toList (.instruction "a" "?") :=
    @SpellsInstruction.mk "a" "?" [' '] "\t?".toList ⟨by decide, by decide⟩ (List.cons_ne_nil _ _)
      (by decide) ⟨List.all_eq_true.1 rfl, by decide⟩ (.plain (by decide) .nil)
  have hdecodes : Decodes .text "&lt;>\r".toList "<>\n".toList :=
    @Decodes.reference .text "lt".toList _ _ _ (@Refers.named "lt" '<' (by decide))
      (.plain (by decide) (by decide) (by decide) (.lone (by decide) .nil))
  have htext : SpellsText "&lt;>\r".toList (.text "<>\n") :=
    .mk (by decide) (by decide) hdecodes
  refine ⟨?_, ?_, ?_, ?_⟩
  · exact (((readEvent_recognises_leaves _).1 (by decide)).read_iff _ _).2
      ⟨_, ⟨rfl, rfl⟩, hcomment⟩
  · exact (((readEvent_recognises_leaves _).2.1 (by decide)).read_iff _ _).2
      ⟨_, ⟨rfl, rfl⟩, hcdata⟩
  · have hblank : ∀ x ∈ " \t??>".toList.head?, isNameChar x = false := by
      rintro _ ⟨⟩
      decide
    exact (((readEvent_recognises_leaves _).2.2.1 ['a'] " \t??>".toList rfl (by decide) hblank
      (by decide)).read_iff _ _).2 ⟨_, ⟨rfl, rfl⟩, hinstruction⟩
  · exact (((readEvent_recognises_leaves _).2.2.2 '&' "lt;>\r<a/>".toList rfl
      (by decide)).read_iff _ _).2 ⟨_, ⟨rfl, rfl⟩, rfl, htext⟩

end XmlQuery.Markup
