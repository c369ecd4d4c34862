import XmlQuery.Proofs.Markup.LineEnds

/-!
# Reading a text with other line ends

The events of a text without carriage returns and of the same text with other line ends correspond
one by one. Content is normalised in all of them but two: the XML declaration and the document type
declaration are kept as they are written, so these differ in their line ends. The end of a document
type declaration is found by a search of its own, which passes over line ends one character at a
time; it stops at the same sign in both texts.

## Main definitions

* `Event.Rewritten`: events at the same place of both texts
* `SameEnd`: document type declarations that are closed by the same sign
* `Reading.Rewritten`: readings whose events correspond, and which end alike

## Main results

* `doctypeLength_alike`: the search for the end of a document type declaration
* `readEvent_alike`: **an event is read alike**
* `readAll_rewritten`: a whole text is
-/

namespace XmlQuery.Markup

open Text (Cursor LineEnd Inline utf8Length)

/-- What is read at the same place of a text with other line ends: what is kept as it is written has
these line ends, and attributes stand at other places. -/
inductive Event.Rewritten (e : LineEnd) : Event → Event → Prop
  /-- The XML declaration is kept as it is written. -/
  | declaration (content : String) :
    Rewritten e (.declaration content) (.declaration (e.rewrite content))
  /-- A document type declaration is kept as it is written. -/
  | doctype (body : String) : Rewritten e (.doctype body) (.doctype (e.rewrite body))
  /-- The same start tag. -/
  | startTag {attributes attributes' : List Attribute} (name : String) (isEmpty : Bool) :
    List.Forall₂ Attribute.Same attributes attributes' →
    Rewritten e (.startTag name attributes isEmpty) (.startTag name attributes' isEmpty)
  /-- The same end tag. -/
  | endTag (name : String) : Rewritten e (.endTag name) (.endTag name)
  /-- The same text. -/
  | text (data : String) : Rewritten e (.text data) (.text data)
  /-- The same CDATA section. -/
  | cdata (data : String) : Rewritten e (.cdata data) (.cdata data)
  /-- The same comment. -/
  | comment (data : String) : Rewritten e (.comment data) (.comment data)
  /-- The same processing instruction. -/
  | instruction {target : String} (content : String) : target ≠ "xml" →
    Rewritten e (.instruction target content) (.instruction target content)

variable {e : LineEnd} {c d : Cursor}

/-! ## Constructs -/

theorem readStartTag_alike (h : c.Rewritten e d) (hopen : c.startsWith "<" = true) :
    ReadAlike e (Event.Rewritten e) (readStartTag c) (readStartTag d) := by
  obtain ⟨next, hnext⟩ := Cursor.startsWith_iff.1 hopen
  have hinner : (c.advance 1).Rewritten e (d.advance 1) := h.advance hnext (by decide)
  rw [readStartTag, readStartTag]
  refine (readName_alike hinner _).bind ?_
  rintro ⟨name, afterName⟩ ⟨_, afterName'⟩ ⟨rfl, hafter⟩
  refine (readAttributes_alike hafter).bind ?_
  rintro ⟨attributes, isEmpty, next⟩ ⟨attributes', _, next'⟩ ⟨hsame, rfl, hrest⟩
  exact .ok ⟨.startTag _ _ hsame, hrest⟩

theorem readEndTag_alike (h : c.Rewritten e d) (hopen : c.startsWith "</" = true) :
    ReadAlike e (Event.Rewritten e) (readEndTag c) (readEndTag d) := by
  obtain ⟨next, hnext⟩ := Cursor.startsWith_iff.1 hopen
  have hinner : (c.advance 2).Rewritten e (d.advance 2) := h.advance hnext (by decide)
  rw [readEndTag, readEndTag]
  refine (readName_alike hinner _).bind ?_
  rintro ⟨name, afterName⟩ ⟨_, afterName'⟩ ⟨rfl, hafter⟩
  refine (expect_alike (skipBlanks_rewritten hafter) (by decide) _).bind fun _ _ hrest => ?_
  exact .ok ⟨.endTag _, hrest⟩

theorem readText_alike (h : c.Rewritten e d) :
    ReadAlike e (Event.Rewritten e) (readText c) (readText d) := by
  have hsame : d.rest.takeWhile (· != '<') = e.write (c.rest.takeWhile (· != '<')) := by
    rw [h.rest_eq, LineEnd.takeWhile_write (by decide)]
  have hreturn := h.not_mem_taken (c.takes_skipWhile (· != '<'))
  rw [readText, readText, hsame]
  refine (refuse_alike (by decide) (by decide) _ _ _ _ _ _).bind fun _ _ _ => ?_
  refine (decodeData_alike _ _ _ _ _ hreturn).bind fun data data' hdata => ?_
  rw [hdata]
  exact .ok ⟨.text data', h.skipWhile (by decide)⟩

theorem readComment_alike (h : c.Rewritten e d) (hopen : c.startsWith "<!--" = true) :
    ReadAlike e (Event.Rewritten e) (readComment c) (readComment d) := by
  obtain ⟨next, hnext⟩ := Cursor.startsWith_iff.1 hopen
  have hinner : (c.advance 4).Rewritten e (d.advance 4) := h.advance hnext (by decide)
  have hclosing := @Cursor.Rewritten.upTo? _ _ _ hinner "-->" (by decide) (by decide)
  rw [readComment, readComment]
  dsimp only
  rcases hclosing with ⟨hleft, hright⟩ | ⟨content, close, close', hleft, hright, hreturn, -, hrest⟩
  · rw [hleft, hright]
    exact .error rfl
  · rw [hleft, hright]
    refine (refuse_alike (by decide) (by decide) _ _ _ _ _ content).bind fun _ _ _ => ?_
    by_cases hhyphen : content.getLast? = some '-'
    · have hhyphen' := (LineEnd.getLast?_write (e := e) (by decide) (by decide)).2 hhyphen
      rw [if_pos hhyphen, if_pos hhyphen']
      exact .error rfl
    · have hhyphen' := mt (LineEnd.getLast?_write (e := e) (by decide) (by decide)).1 hhyphen
      rw [if_neg hhyphen, if_neg hhyphen']
      refine (checkChars_alike _ _ _ _ content).bind fun _ _ _ => ?_
      rw [normalizeNewlines_write hreturn]
      exact .ok ⟨.comment _, hrest⟩

theorem readCData_alike (h : c.Rewritten e d) (hopen : c.startsWith "<![CDATA[" = true) :
    ReadAlike e (Event.Rewritten e) (readCData c) (readCData d) := by
  obtain ⟨next, hnext⟩ := Cursor.startsWith_iff.1 hopen
  have hinner : (c.advance 9).Rewritten e (d.advance 9) := h.advance hnext (by decide)
  have hclosing := @Cursor.Rewritten.upTo? _ _ _ hinner "]]>" (by decide) (by decide)
  rw [readCData, readCData]
  rcases hclosing with ⟨hleft, hright⟩ | ⟨content, close, close', hleft, hright, hreturn, -, hrest⟩
  · rw [hleft, hright]
    exact .error rfl
  · rw [hleft, hright]
    refine (checkChars_alike _ _ _ _ content).bind fun _ _ _ => ?_
    rw [normalizeNewlines_write hreturn]
    exact .ok ⟨.cdata _, hrest⟩

theorem readInstructionContent_alike (h : c.Rewritten e d) (start start' : Nat) :
    Agree Failure.SameKind
      (fun found found' => found'.1 = e.write found.1 ∧ '\r' ∉ found.1 ∧
        (found.2.2.advance 2).Rewritten e (found'.2.2.advance 2))
      (readInstructionContent start c) (readInstructionContent start' d) := by
  rw [readInstructionContent, readInstructionContent, h.startsWith_eq (by decide),
    atBlank_rewritten h]
  refine .ite (fun hclose => ?_) fun _ => .ite (fun _ => ?_) fun _ =>
    .error (missing_sameKind h _)
  · obtain ⟨next, hnext⟩ := Cursor.startsWith_iff.1 hclose
    exact .ok ⟨rfl, List.not_mem_nil, h.advance hnext (by decide)⟩
  · have hclosing := @Cursor.Rewritten.upTo? _ _ _ (skipBlanks_rewritten h) "?>" (by decide)
      (by decide)
    dsimp only
    rcases hclosing with ⟨hleft, hright⟩ |
      ⟨content, close, close', hleft, hright, hreturn, -, hrest⟩
    · rw [hleft, hright]
      exact .error rfl
    · rw [hleft, hright]
      exact .ok ⟨rfl, hreturn, hrest⟩

theorem readInstruction_alike (h : c.Rewritten e d) (hopen : c.startsWith "<?" = true) :
    ReadAlike e (Event.Rewritten e) (readInstruction c) (readInstruction d) := by
  obtain ⟨next, hnext⟩ := Cursor.startsWith_iff.1 hopen
  have hinner : (c.advance 2).Rewritten e (d.advance 2) := h.advance hnext (by decide)
  rw [readInstruction, readInstruction]
  refine (readName_alike hinner _).bind ?_
  rintro ⟨target, afterTarget⟩ ⟨_, afterTarget'⟩ ⟨rfl, hafter⟩
  dsimp only
  -- The declaration is at the start of both texts, or of neither of them.
  have hstart : (target = ['x', 'm', 'l'] ∧ d.offset ≠ 0) ↔
      (target = ['x', 'm', 'l'] ∧ c.offset ≠ 0) :=
    and_congr_right fun _ => not_congr h.start_iff.symm
  by_cases hmisplaced : target = ['x', 'm', 'l'] ∧ c.offset ≠ 0
  · rw [if_pos hmisplaced, if_pos (hstart.2 hmisplaced)]
    exact .error rfl
  rw [if_neg hmisplaced, if_neg (mt hstart.1 hmisplaced)]
  refine .ite (fun _ => .error rfl) fun _ => ?_
  refine (readInstructionContent_alike hafter _ _).bind ?_
  rintro ⟨content, inner, close⟩ ⟨_, inner', close'⟩ ⟨rfl, hreturn, hrest⟩
  refine (checkChars_alike _ _ _ _ content).bind fun _ _ _ => ?_
  dsimp only
  by_cases hxml : target = ['x', 'm', 'l']
  · rw [if_pos hxml, if_pos hxml, LineEnd.dropWhile_write (by decide),
      LineEnd.isPrefixOf_write (by decide), LineEnd.trimEnd_write (by decide)]
    split
    · rw [← LineEnd.rewrite_ofList]
      exact .ok ⟨.declaration _, hrest⟩
    · exact .error rfl
  · rw [if_neg hxml, if_neg hxml, normalizeNewlines_write hreturn]
    refine .ok ⟨.instruction _ fun htarget => hxml ?_, hrest⟩
    rw [← String.toList_ofList (l := target), htarget]
    rfl

/-! ## Document type declarations -/

/-- The same sign closes a document type declaration in both texts. -/
def SameEnd (e : LineEnd) (rest : List Char) (n n' : Nat) : Prop :=
  n' = (e.write (rest.take n)).length ∧ '>' ∈ (rest.drop n).head?

theorem SameEnd.append {rest : List Char} {n n' : Nat} (h : SameEnd e rest n n')
    (before : List Char) :
    SameEnd e (before ++ rest) (n + before.length) (n' + (e.write before).length) := by
  obtain ⟨hlength, hsign⟩ := h
  refine ⟨?_, ?_⟩
  · rw [Nat.add_comm n, List.take_length_add_append, LineEnd.write_append, List.length_append,
      hlength, Nat.add_comm]
  · rwa [Nat.add_comm n, List.drop_length_add_append]

theorem SameEnd.cons {x : Char} {rest : List Char} {n n' : Nat} (h : SameEnd e rest n n')
    (hx : x ≠ '\n') : SameEnd e (x :: rest) (n + 1) (n' + 1) := by
  have happend := h.append [x]
  rwa [LineEnd.write_cons hx] at happend

/-- A line end is passed over in the search for the closing sign. -/
theorem doctypeLength_lineEnd {quote : Option Char} {x : Char} (hx : x = '\n' ∨ x = '\r')
    (hquote : quote ≠ some x) (depth offset : Nat) (rest : List Char) :
    doctypeLength quote depth offset (x :: rest) =
      (doctypeLength quote depth (offset + 1) rest).map (· + 1) := by
  cases quote with
  | some q =>
    have hq : x ≠ q := fun heq => hquote (congrArg some heq.symm)
    rw [doctypeLength, if_neg hq]
    rcases hx with rfl | rfl <;> rfl
  | none =>
    rw [doctypeLength]
    rcases hx with rfl | rfl <;> rfl

theorem doctypeLength_newline {quote : Option Char} (hquote : ∀ q ∈ quote, q = '"' ∨ q = '\'')
    (depth offset : Nat) (rest : List Char) :
    ∃ offset', doctypeLength quote depth offset (e.write ('\n' :: rest)) =
      (doctypeLength quote depth offset' (e.write rest)).map (· + (e.write ['\n']).length) := by
  have hne : ∀ x, x = '\n' ∨ x = '\r' → quote ≠ some x := by
    rintro x hx rfl
    rcases hquote x rfl with rfl | rfl <;> revert hx <;> decide
  cases e with
  | cr => exact ⟨_, doctypeLength_lineEnd (.inr rfl) (hne _ (.inr rfl)) depth offset _⟩
  | crlf =>
    refine ⟨offset + 1 + 1, ?_⟩
    change doctypeLength quote depth offset ('\r' :: '\n' :: LineEnd.crlf.write rest) = _
    rw [doctypeLength_lineEnd (.inr rfl) (hne _ (.inr rfl)),
      doctypeLength_lineEnd (.inl rfl) (hne _ (.inl rfl))]
    cases doctypeLength quote depth (offset + 1 + 1) (LineEnd.crlf.write rest) <;> rfl

/-- Another character than the closing sign, which starts no comment, is passed over alone. -/
theorem doctypeLength_cons {x : Char} {depth : Nat} {rest : List Char}
    (hsign : ¬ (x = '>' ∧ depth = 0))
    (hcomment : ¬ (x = '<' ∧ "!--".toList.isPrefixOf rest = true)) (offset : Nat) :
    doctypeLength none depth offset (x :: rest) =
      (doctypeLength (if x = '"' ∨ x = '\'' then some x else none)
        (if x = '[' then depth + 1 else if x = ']' then depth - 1 else depth)
        (offset + x.utf8Size) rest).map (· + 1) := by
  rw [doctypeLength, if_neg hsign, if_neg hcomment]

/-- A comment is passed over as a whole. -/
theorem doctypeLength_comment (depth offset : Nat) (after : List Char) :
    doctypeLength none depth offset ("<!--".toList ++ after) =
      match Text.splitFirst? "-->".toList after with
      | none => .error (.inComment offset)
      | some (content, close) =>
        (doctypeLength none depth
          (offset + utf8Length ("<!--".toList ++ content ++ close.take 3)) (close.drop 3)).map
            (· + ("<!--".toList ++ content ++ close.take 3).length) := by
  change doctypeLength none depth offset ('<' :: '!' :: '-' :: '-' :: after) = _
  rw [doctypeLength, if_neg (by simp), if_pos ⟨rfl, rfl⟩]
  split
  · next hsplit =>
    change Text.splitFirst? "-->".toList after = none at hsplit
    rw [hsplit]
  · next content close hsplit =>
    change Text.splitFirst? "-->".toList after = some (content, close) at hsplit
    rw [hsplit]
    rfl

/-- Behind a comment the search goes on at the same place of both texts. -/
theorem doctypeLength_comment_alike {depth : Nat} {after : List Char}
    (hbehind : ∀ behind offset offset', behind.length < after.length →
      Agree (fun _ _ => True) (SameEnd e behind) (doctypeLength none depth offset behind)
        (doctypeLength none depth offset' (e.write behind))) (offset offset' : Nat) :
    Agree (fun _ _ => True) (SameEnd e ("<!--".toList ++ after))
      (doctypeLength none depth offset ("<!--".toList ++ after))
      (doctypeLength none depth offset' ("<!--".toList ++ e.write after)) := by
  rw [doctypeLength_comment, doctypeLength_comment,
    LineEnd.splitFirst?_write (by decide) (by decide)]
  cases hsplit : Text.splitFirst? "-->".toList after with
  | none => exact .error trivial
  | some parts =>
    obtain ⟨content, close⟩ := parts
    obtain ⟨⟨behind, rfl⟩, -⟩ := Text.first_of_splitFirst? hsplit
    have hafter := Text.append_of_splitFirst? hsplit
    have hclose : e.write ("-->".toList ++ behind) = "-->".toList ++ e.write behind := by
      rw [LineEnd.write_append, LineEnd.write_eq_self (by decide)]
    have hcomment : e.write ("<!--".toList ++ content ++ "-->".toList) =
        "<!--".toList ++ e.write content ++ "-->".toList := by
      have hend := @LineEnd.write_eq_self e "-->".toList (by decide)
      rw [LineEnd.write_append, LineEnd.write_append, LineEnd.write_eq_self (by decide), hend]
    have hlt : behind.length < after.length := by
      rw [← hafter, List.length_append, List.length_append]
      exact (Nat.lt_add_of_pos_left (by decide)).trans_le (Nat.le_add_left _ _)
    dsimp only [Option.map_some, Prod.map]
    rw [hclose]
    refine (hbehind behind _ _ hlt).map fun n n' h => ?_
    have happend := h.append ("<!--".toList ++ content ++ "-->".toList)
    rwa [hcomment, List.append_assoc, List.append_assoc, hafter] at happend

/-- The closing sign is found in both texts or in neither of them, by induction on what is left. -/
theorem doctypeLength_alike (e : LineEnd) {quote : Option Char}
    (hquote : ∀ q ∈ quote, q = '"' ∨ q = '\'') (depth offset offset' : Nat) (rest : List Char) :
    Agree (fun _ _ => True) (SameEnd e rest) (doctypeLength quote depth offset rest)
      (doctypeLength quote depth offset' (e.write rest)) := by
  match rest with
  | [] =>
    rw [LineEnd.write_nil, doctypeLength, doctypeLength]
    exact .error trivial
  | x :: rest =>
    by_cases hx : x = '\n'
    · -- A line end closes nothing and opens nothing, so the search goes on as it was.
      subst hx
      have hne : quote ≠ some '\n' := by
        rintro rfl
        exact absurd (hquote _ rfl) (by decide)
      obtain ⟨_, hright⟩ := doctypeLength_newline (e := e) hquote depth offset' rest
      rw [doctypeLength_lineEnd (.inl rfl) hne, hright]
      exact (doctypeLength_alike _ hquote _ _ _ rest).map fun _ _ h => h.append ['\n']
    · rw [LineEnd.write_cons hx]
      cases quote with
      | some q =>
        rw [doctypeLength, doctypeLength]
        refine (doctypeLength_alike _ ?_ _ _ _ rest).map fun _ _ h => h.cons hx
        intro q' hq'
        split at hq'
        · cases hq'
        · exact hquote q' hq'
      | none =>
        by_cases hsign : x = '>' ∧ depth = 0
        · rw [doctypeLength, doctypeLength, if_pos hsign, if_pos hsign]
          exact .ok ⟨rfl, congrArg some hsign.1⟩
        by_cases hcomment : x = '<' ∧ "!--".toList.isPrefixOf rest = true
        · obtain ⟨after, hafter⟩ := List.isPrefixOf_iff_prefix.1 hcomment.2
          have hwrite : e.write rest = "!--".toList ++ e.write after := by
            rw [← hafter, LineEnd.write_append, LineEnd.write_eq_self (by decide)]
          have hlength : rest.length = 3 + after.length := by
            rw [← hafter, List.length_append]
            rfl
          rw [hcomment.1, hwrite, ← hafter]
          exact doctypeLength_comment_alike
            (fun behind offset offset' _ =>
              doctypeLength_alike e hquote depth offset offset' behind) offset offset'
        · have hcomment' : ¬ (x = '<' ∧ "!--".toList.isPrefixOf (e.write rest) = true) := by
            rwa [LineEnd.isPrefixOf_write (by decide)]
          rw [doctypeLength_cons hsign hcomment, doctypeLength_cons hsign hcomment']
          refine (doctypeLength_alike _ ?_ _ _ _ rest).map fun _ _ h => h.cons hx
          intro q hq
          split at hq
          · next hquotes => exact Option.some.inj hq ▸ hquotes
          · cases hq
termination_by rest.length
decreasing_by all_goals simp [*] <;> omega

/-- What stands in front of the sign, and with it, is the same up to line ends. -/
theorem SameEnd.take_eq {rest : List Char} {n n' : Nat} (h : SameEnd e rest n n') :
    (e.write rest).take n' = e.write (rest.take n) ∧
      (e.write rest).take (n' + 1) = e.write (rest.take (n + 1)) := by
  obtain ⟨rfl, hsign⟩ := h
  obtain ⟨tail, htail⟩ := List.head?_eq_some_iff.1 hsign
  have hrest : e.write rest = e.write (rest.take n) ++ '>' :: e.write tail := by
    conv_lhs => rw [← List.take_append_drop n rest, htail]
    rw [LineEnd.write_append, LineEnd.write_cons (by decide)]
  have htake : rest.take (n + 1) = rest.take n ++ ['>'] := by
    rw [List.take_add, htail]
    rfl
  constructor
  · rw [hrest, List.take_left]
  · rw [hrest, htake, LineEnd.write_append, List.take_length_add_append]
    rfl

/-- The text from one place up to a number of characters behind a later one. -/
theorem take_length_sub_add (before rest : List Char) (n : Nat) :
    (before ++ rest).take ((before ++ rest).length - rest.length + n) = before ++ rest.take n := by
  rw [List.length_append, Nat.add_sub_cancel, List.take_length_add_append]

theorem readDoctype_alike (h : c.Rewritten e d) (hopen : c.startsWith "<!DOCTYPE" = true) :
    ReadAlike e (Event.Rewritten e) (readDoctype c) (readDoctype d) := by
  obtain ⟨next, hnext⟩ := Cursor.startsWith_iff.1 hopen
  obtain ⟨start, hsigns, hkeyword⟩ : ∃ start, c.Takes "<!".toList start ∧
      start.Takes "DOCTYPE".toList next := Cursor.takes_append_iff.1 hnext
  have hstart : (c.advance 2).Rewritten e (d.advance 2) := h.advance hsigns (by decide)
  rw [← hsigns.advance_eq] at hkeyword
  have hafter : ((c.advance 2).advance 7).Rewritten e ((d.advance 2).advance 7) :=
    hstart.advance hkeyword (by decide)
  have hinner := skipBlanks_rewritten hafter
  obtain ⟨before, hbefore⟩ : ∃ before,
      (c.advance 2).rest = before ++ (skipBlanks ((c.advance 2).advance 7)).rest :=
    ⟨_, ((Cursor.takes_advance _ _).trans (Cursor.takes_skipWhile _ _)).1⟩
  rw [readDoctype, readDoctype]
  dsimp only
  rw [atBlank_rewritten hafter]
  by_cases hblank : atBlank ((c.advance 2).advance 7) = true
  · rw [if_pos hblank, if_pos hblank, hinner.rest_eq]
    generalize skipBlanks ((c.advance 2).advance 7) = inner at hinner hbefore
    generalize skipBlanks ((d.advance 2).advance 7) = inner' at hinner
    have hnone : ∀ q ∈ (none : Option Char), q = '"' ∨ q = '\'' := fun q hq => by cases hq
    rcases (doctypeLength_alike e hnone 0 inner.offset inner'.offset inner.rest).exists_eq with
      ⟨n, n', hleft, hright, hend⟩ | ⟨failure, failure', hleft, hright, -⟩
    · have hbody : (d.advance 2).rest.take
          ((d.advance 2).rest.length - (e.write inner.rest).length + n') =
          e.write ((c.advance 2).rest.take
            ((c.advance 2).rest.length - inner.rest.length + n)) := by
        rw [hstart.rest_eq, hbefore, LineEnd.write_append, take_length_sub_add, take_length_sub_add,
          LineEnd.write_append, hend.take_eq.1]
      have hrest : (inner.advance (n + 1)).Rewritten e (inner'.advance (n' + 1)) := by
        refine hinner.of_takes (inner.takes_advance (n + 1)) ?_
        rw [← hend.take_eq.2, ← hinner.rest_eq]
        exact inner'.takes_advance (n' + 1)
      rw [hleft, hright]
      dsimp only
      rw [hbody]
      refine (checkChars_alike _ _ _ _ _).bind fun _ _ _ => ?_
      rw [← LineEnd.rewrite_ofList]
      exact .ok ⟨.doctype _, hrest⟩
    · -- Both ways for the end to be missing are the same fault.
      rw [hleft, hright]
      cases failure <;> cases failure' <;> exact .error rfl
  · rw [if_neg hblank, if_neg hblank]
    exact .error rfl

/-! ## Events and readings -/

/-- **An event agrees**: it is the same up to what is kept as it is written, or there is a fault of
the same kind. -/
theorem readEvent_alike (h : c.Rewritten e d) :
    ReadAlike e (Event.Rewritten e) (readEvent c) (readEvent d) := by
  rw [readEvent, readEvent]
  -- The choice between the constructs is by delimiters, which have no line ends.
  iterate 7 rw [h.startsWith_eq (by decide)]
  refine .ite (fun _ => readText_alike h) fun hmarkup => ?_
  refine .ite (readInstruction_alike h) fun _ => ?_
  refine .ite (readComment_alike h) fun _ => ?_
  refine .ite (readCData_alike h) fun _ => ?_
  refine .ite (readDoctype_alike h) fun _ => ?_
  refine .ite (fun _ => .error rfl) fun _ => ?_
  refine .ite (readEndTag_alike h) fun _ => ?_
  exact readStartTag_alike h (not_not.1 hmarkup)

/-- The events of two readings agree, one by one, and so does how the readings end. -/
structure Reading.Rewritten (e : LineEnd) (reading reading' : Reading) : Prop where
  /-- The events are the same up to what is kept as it is written. -/
  events : List.Forall₂ (fun p p' => Event.Rewritten e p.event p'.event) reading.events
    reading'.events
  /-- Both readings reach the end, or both are stopped by faults of one kind. -/
  outcome : Agree Failure.SameKind (fun _ _ => True) reading.outcome reading'.outcome

/-- Readings agree from the same place on, by induction on what is left. -/
theorem readFrom_rewritten {c d : Cursor} (h : c.Rewritten e d) :
    (readFrom c).Rewritten e (readFrom d) := by
  rw [readFrom, readFrom]
  by_cases hrest : c.rest = []
  · rw [dif_pos hrest, dif_pos (h.rest_eq_nil hrest)]
    exact ⟨.nil, .ok trivial⟩
  have hrest' : ¬ d.rest = [] := by rwa [h.rest_eq, LineEnd.write_eq_nil_iff]
  rw [dif_neg hrest, dif_neg hrest']
  rcases (readEvent_alike h).exists_eq with
    ⟨found, found', hleft, hright, hevent, hnext⟩ | ⟨failure, failure', hleft, hright, hkind⟩
  · have hlt := (passes_readEvent hrest hleft).length_lt
    have hothers := readFrom_rewritten hnext
    rw [hleft, hright]
    exact ⟨.cons hevent hothers.events, hothers.outcome⟩
  · rw [hleft, hright]
    exact ⟨.nil, .error hkind⟩
termination_by c.rest.length

/-- The readings of a text and of the same text with other line ends agree. -/
theorem readAll_rewritten {text : List Char} (htext : '\r' ∉ text) :
    (readAll text).Rewritten e (readAll (e.write text)) :=
  readFrom_rewritten (.ofText htext)

end XmlQuery.Markup
