import XmlQuery.Proofs.Markup.Constructs
import XmlQuery.Proofs.Text.LineEnds

/-!
# Line ends in markup

A text without carriage returns is read beside the same text with other line ends. Line ends stand
in character data, where they are normalised, and between the parts of tags, where all white space
is alike; names, delimiters and references do not go over them. So every reader finds the same in
both texts, or a fault of the same kind, and stops at the same place. Offsets differ from the first
line end on, so neither faults nor attributes agree in theirs.

## Main definitions

* `Fault.SameKind`, `Failure.SameKind`: faults that differ in their places at most
* `ReadAlike`: two readers find the same, and go on at the same place of their texts
* `Attribute.Same`: attributes that differ in their places at most

## Main results

* `DataMode.normalize_write`: line ends are normalised to what they were written for
* `decodeRuns_write`, `decode_write`: **character data stands for the same characters**
* `readName_alike`, `readValue_alike`, `readAttributes_alike`: the parts of tags
-/

namespace XmlQuery.Markup

open Text (Cursor LineEnd Inline)

/-- The faults are of one kind. -/
def Fault.SameKind (f g : Fault) : Prop := f.kind = g.kind

/-- The failures are of one kind. -/
def Failure.SameKind (f g : Failure) : Prop := f.fault.SameKind g.fault

variable {e : LineEnd} {mode : DataMode} {text raw body : List Char} {x : Char}

/-! ## Character data -/

/-- Line ends are normalised to the line feeds that they were written for. -/
theorem DataMode.normalize_write (htext : '\r' ∉ text) :
    mode.normalize (e.write text) = mode.normalize text := by
  induction text with
  | nil => rfl
  | cons c text ih =>
    rw [List.mem_cons, not_or] at htext
    by_cases hc : c = '\n'
    · subst hc
      rw [normalize_cons (Ne.symm htext.1), ← ih htext.2]
      cases e with
      | crlf => exact normalize_crlf
      | cr => exact normalize_return LineEnd.head?_write
    · rw [LineEnd.write_cons hc, normalize_cons (Ne.symm htext.1), normalize_cons (Ne.symm htext.1),
        ih htext.2]

theorem normalizeNewlines_write (htext : '\r' ∉ text) :
    normalizeNewlines (e.write text) = normalizeNewlines text :=
  @DataMode.normalize_write e .text text htext

/-- The first character that a document may not hold is the same in both texts. -/
theorem firstInvalid?_write (start start' : Nat) (text : List Char) :
    (firstInvalid? start text = none ∧ firstInvalid? start' (e.write text) = none) ∨
      ∃ fault fault', firstInvalid? start text = some fault ∧
        firstInvalid? start' (e.write text) = some fault' ∧ fault.SameKind fault' := by
  induction text generalizing start start' with
  | nil => exact .inl ⟨rfl, rfl⟩
  | cons c text ih =>
    by_cases hc : c = '\n'
    · subst hc
      cases e <;> exact ih _ _
    · rw [LineEnd.write_cons hc, firstInvalid?, firstInvalid?]
      split
      · exact ih _ _
      · exact .inr ⟨_, _, rfl, rfl, rfl⟩

/-- No number is written with other characters than letters and digits. -/
theorem number?_eq_none_of_mem {radix : Nat} {digits : List Char} (hradix : radix ≤ 16)
    (hx : x ∈ digits) (hdigit : ¬ x.isAlphanum = true) : Text.Hex.number? radix digits = none := by
  cases hnumber : Text.Hex.number? radix digits with
  | none => rfl
  | some number =>
    obtain ⟨value, hvalue, hvaluex⟩ := (numeral_of_number? hnumber).exists_isDigit x hx
    exact absurd (isAlphanum_of_isDigit (hvalue.trans_le hradix) hvaluex) hdigit

theorem isNCName_eq_false_of_mem (hx : x ∈ text) (hchar : isNameChar x = false) :
    isNCName text = false := by
  rw [← Bool.not_eq_true]
  intro hname
  have hall := isName_of_isNCName hname
  cases text with
  | nil => cases hx
  | cons c rest =>
    rw [isName, Bool.and_eq_true, List.all_eq_true] at hall
    have hxname : isNameChar x = true := by
      rcases List.mem_cons.1 hx with rfl | hmem
      · exact isNameChar_of_isNameStart hall.1
      · exact hall.2 x hmem
    rw [hchar] at hxname
    cases hxname

/-- No reference goes over the end of a line. -/
theorem resolveReference_of_lineEnd (hx : x = '\n' ∨ x = '\r') (hbody : x ∈ body) :
    resolveReference body = .error .malformedReference := by
  have hdigit : ¬ x.isAlphanum = true := by rcases hx with rfl | rfl <;> decide
  have hname : isNameChar x = false := by rcases hx with rfl | rfl <;> decide
  unfold resolveReference
  -- The line end is neither among digits nor in a predefined name nor in any name.
  split
  · rw [number?_eq_none_of_mem (by decide) _ hdigit]
    · rfl
    · rcases hx with rfl | rfl <;> simpa using hbody
  · rw [number?_eq_none_of_mem (by decide) _ hdigit]
    · rfl
    · rcases hx with rfl | rfl <;> simpa using hbody
  all_goals try (rcases hx with rfl | rfl <;> exact absurd hbody (by decide))
  rw [if_neg (Bool.eq_false_iff.1 (isNCName_eq_false_of_mem hbody hname))]

theorem resolveReference_write (hbody : '\r' ∉ body) :
    resolveReference (e.write body) = resolveReference body := by
  by_cases hnewline : '\n' ∈ body
  · have hreturn : '\r' ∈ e.write body := by
      obtain ⟨before, after, rfl⟩ := List.append_of_mem hnewline
      rw [LineEnd.write_append, LineEnd.write_newline]
      cases e <;> simp [LineEnd.chars]
    rw [resolveReference_of_lineEnd (.inl rfl) hnewline,
      resolveReference_of_lineEnd (.inr rfl) hreturn]
  · rw [LineEnd.write_eq_self hnewline]

/-- Character data stands for the same characters in both texts, or has a fault of the same kind. -/
theorem decodeRuns_write (e : LineEnd) (mode : DataMode) (offset offset' : Nat) (raw : List Char)
    (hraw : '\r' ∉ raw) :
    Agree Fault.SameKind Eq (decodeRuns mode offset raw)
      (decodeRuns mode offset' (e.write raw)) := by
  induction raw using rawData_induction generalizing offset offset' with
  | nil =>
    rw [LineEnd.write_nil, decodeRuns_nil, decodeRuns_nil]
    exact .ok rfl
  | plain c raw hampersand hreturn ih =>
    rw [List.mem_cons, not_or] at hraw
    by_cases hnewline : c = '\n'
    · -- A line end stands for one character, however it is written.
      subst hnewline
      rw [decodeRuns_cons (by decide) (by decide)]
      cases e with
      | crlf =>
        have hcrlf := @decodeRuns_crlf mode offset' (LineEnd.crlf.write raw)
        exact hcrlf ▸ (ih _ _ hraw.2).map fun _ _ => congrArg _
      | cr =>
        have hcr := @decodeRuns_return mode offset' (LineEnd.cr.write raw) LineEnd.head?_write
        exact hcr ▸ (ih _ _ hraw.2).map fun _ _ => congrArg _
    · rw [LineEnd.write_cons hnewline, decodeRuns_cons hampersand hreturn,
        decodeRuns_cons hampersand hreturn]
      exact (ih _ _ hraw.2).map fun _ _ => congrArg _
  | crlf | lone => exact absurd List.mem_cons_self hraw
  | reference body raw hbody ih =>
    -- The body of the reference is the same, or has a line end and is malformed.
    have hrest : '\r' ∉ body ∧ '\r' ∉ raw := by simpa using hraw
    have hbody' : ';' ∉ e.write body := by
      rwa [LineEnd.mem_write (by decide) (by decide)]
    rw [List.cons_append, LineEnd.write_cons (by decide), LineEnd.write_append,
      LineEnd.write_cons (by decide), ← List.cons_append, ← List.cons_append,
      decodeRuns_semicolon mode offset hbody, decodeRuns_semicolon mode offset' hbody',
      resolveReference_write hrest.1]
    cases resolveReference body with
    | error kind => exact .error rfl
    | ok x => exact (ih _ _ hrest.2).map fun _ _ => congrArg _
  | unterminated raw hsemicolon =>
    have hsemicolon' : ';' ∉ e.write raw := by
      rwa [LineEnd.mem_write (by decide) (by decide)]
    rw [LineEnd.write_cons (by decide), decodeRuns_loose hsemicolon,
      decodeRuns_loose hsemicolon']
    exact .error rfl

theorem decode_write (e : LineEnd) (mode : DataMode) (offset offset' : Nat) (hraw : '\r' ∉ raw) :
    Agree Fault.SameKind Eq (decode mode offset raw) (decode mode offset' (e.write raw)) := by
  rw [decode, decode]
  rcases firstInvalid?_write (e := e) offset offset' raw with
    ⟨hleft, hright⟩ | ⟨fault, fault', hleft, hright, hkind⟩
  · rw [hleft, hright]
    exact decodeRuns_write e mode offset offset' raw hraw
  · rw [hleft, hright]
    exact .error hkind

/-! ## What stands at a place -/

variable {c d : Cursor}

/-- Two readers agree: they fail with faults of one kind, or find related things and go on at the
same place. -/
abbrev ReadAlike {α : Type} (e : LineEnd) (R : α → α → Prop) :
    Except Failure (α × Cursor) → Except Failure (α × Cursor) → Prop :=
  Agree Failure.SameKind fun found found' => R found.1 found'.1 ∧ found.2.Rewritten e found'.2

theorem missing_sameKind (h : c.Rewritten e d) (what : Expected) :
    (missing c what).SameKind (missing d what) := by
  have hrest : d.rest.isEmpty = c.rest.isEmpty := by
    rw [h.rest_eq, Bool.eq_iff_iff, List.isEmpty_iff, List.isEmpty_iff, LineEnd.write_eq_nil_iff]
  rw [missing, missing, hrest]
  rfl

theorem skipBlanks_rewritten (h : c.Rewritten e d) :
    (skipBlanks c).Rewritten e (skipBlanks d) := h.skipWhile (by decide)

theorem atBlank_rewritten (h : c.Rewritten e d) : atBlank d = atBlank c := by
  rw [atBlank, atBlank]
  rcases h.rest_cases with ⟨hc, hd⟩ | ⟨_, _, hc, hd⟩ | ⟨x, rest, -, hc, hd⟩
  · rw [hc, hd]
  · -- Both characters that a line end can start with are white space.
    rw [hc, hd]
    rfl
  · rw [hc, hd]
    rfl

theorem expect_alike (h : c.Rewritten e d) {delimiter : String}
    (hdelimiter : Inline delimiter.toList) (what : Expected) :
    Agree Failure.SameKind (Cursor.Rewritten e) (expect c delimiter what)
      (expect d delimiter what) := by
  rw [expect, expect, h.startsWith_eq hdelimiter]
  split
  · next hstarts =>
    obtain ⟨next, htakes⟩ := Cursor.startsWith_iff.1 hstarts
    rw [← String.length_toList]
    exact .ok (h.advance htakes hdelimiter.1)
  · exact .error (missing_sameKind h what)

/-- The same name comes next. -/
theorem readName_alike (h : c.Rewritten e d) (what : Expected) :
    ReadAlike e Eq (readName c what) (readName d what) := by
  rw [readName, readName, name?, name?]
  rcases h.rest_cases with ⟨hc, hd⟩ | ⟨_, _, hc, hd⟩ | ⟨first, others, hfirst, hc, hd⟩
  · rw [hc, hd]
    exact .error (missing_sameKind h what)
  · -- No name starts with a line end.
    rw [hc, hd]
    exact .error (missing_sameKind h what)
  rw [hc, hd]
  dsimp only
  by_cases hstart : isNameStart first = true
  · -- No name has a line end, so it is written in the same way.
    have hothers : '\n' ∉ others.takeWhile isNameChar := fun hmem =>
      absurd (List.mem_takeWhile_imp hmem) (by decide)
    have hname : '\n' ∉ first :: others.takeWhile isNameChar := by
      rw [List.mem_cons, not_or]
      exact ⟨Ne.symm hfirst, hothers⟩
    have hsame : (e.write others).takeWhile isNameChar = others.takeWhile isNameChar := by
      rw [LineEnd.takeWhile_write (by decide), LineEnd.write_eq_self hothers]
    have hleft : c.Takes (first :: others.takeWhile isNameChar)
        (c.past (first :: others.takeWhile isNameChar) (others.dropWhile isNameChar)) :=
      ⟨hc.trans (congrArg _ List.takeWhile_append_dropWhile.symm), rfl⟩
    rw [if_pos hstart, if_pos hstart, hsame]
    refine .ok ⟨rfl, h.of_takes hleft ⟨?_, ?_⟩⟩
    · rw [LineEnd.write_eq_self hname, hd, Cursor.past, List.cons_append, ← hsame,
        List.takeWhile_append_dropWhile]
    · rw [LineEnd.write_eq_self hname]
      rfl
  · rw [if_neg hstart, if_neg hstart]
    exact .error (missing_sameKind h what)

theorem refuse_alike {delimiter : String} (hne : delimiter.toList ≠ [])
    (hdelimiter : Inline delimiter.toList) (here here' : Cursor) (kind : ErrorKind)
    (start start' : Nat) (text : List Char) :
    Agree Failure.SameKind Eq (refuse here delimiter kind start text)
      (refuse here' delimiter kind start' (e.write text)) := by
  rw [refuse, refuse, offsetOf?, offsetOf?, LineEnd.splitFirst?_write hne hdelimiter]
  cases Text.splitFirst? delimiter.toList text with
  | none => exact .ok rfl
  | some parts => exact .error rfl

theorem checkChars_alike (here here' : Cursor) (start start' : Nat) (text : List Char) :
    Agree Failure.SameKind Eq (checkChars here start text)
      (checkChars here' start' (e.write text)) := by
  rw [checkChars, checkChars]
  rcases firstInvalid?_write (e := e) start start' text with
    ⟨hleft, hright⟩ | ⟨fault, fault', hleft, hright, hkind⟩
  · rw [hleft, hright]
    exact .ok rfl
  · rw [hleft, hright]
    exact .error hkind

theorem decodeData_alike (here here' : Cursor) (mode : DataMode) (start start' : Nat)
    (hraw : '\r' ∉ raw) :
    Agree Failure.SameKind Eq (decodeData here mode start raw)
      (decodeData here' mode start' (e.write raw)) := by
  rw [decodeData, decodeData]
  rcases (decode_write e mode start start' hraw).exists_eq with
    ⟨text, text', hleft, hright, htext⟩ | ⟨fault, fault', hleft, hright, hkind⟩
  · rw [hleft, hright]
    exact .ok (congrArg _ htext)
  · rw [hleft, hright]
    exact .error hkind

/-! ## Tags -/

/-- The attributes differ in their places at most. -/
def Attribute.Same (a b : Attribute) : Prop := a.name = b.name ∧ a.value = b.value

theorem readValue_alike (h : c.Rewritten e d) : ReadAlike e Eq (readValue c) (readValue d) := by
  rw [readValue, readValue]
  rcases h.rest_cases with ⟨hc, hd⟩ | ⟨_, _, hc, hd⟩ | ⟨quote, rest, hnewline, hc, hd⟩
  · rw [hc, hd]
    exact .error (missing_sameKind h _)
  · -- A line end is no quote.
    rw [hc, hd]
    exact .error (missing_sameKind h _)
  rw [hc, hd]
  dsimp only
  split
  · next hquote =>
    have hquote : Inline (String.singleton quote).toList := by
      rcases hquote with rfl | rfl <;> decide
    have hopen : c.Takes [quote] (c.past [quote] rest) := ⟨hc, rfl⟩
    have hinner : (c.advance 1).Rewritten e (d.advance 1) :=
      h.advance hopen fun hmem => hnewline (List.mem_singleton.1 hmem).symm
    rcases hinner.upTo? (by simp) hquote with ⟨hleft, hright⟩ |
      ⟨raw, close, close', hleft, hright, hraw, -, hclose⟩
    · rw [hleft, hright]
      exact .error rfl
    · rw [String.toList_singleton, List.length_singleton] at hclose
      rw [hleft, hright]
      refine (refuse_alike (by decide) (by decide) _ _ _ _ _ raw).bind fun _ _ _ => ?_
      refine (decodeData_alike _ _ _ _ _ hraw).bind fun _ _ hvalue => ?_
      exact .ok ⟨hvalue, hclose⟩
  · exact .error (missing_sameKind h _)

theorem readAttribute_alike (h : c.Rewritten e d) :
    ReadAlike e Attribute.Same (readAttribute c) (readAttribute d) := by
  rw [readAttribute_eq, readAttribute_eq]
  refine (readName_alike h _).bind ?_
  rintro ⟨name, afterName⟩ ⟨name', afterName'⟩ ⟨hname, hafter⟩
  refine (expect_alike (skipBlanks_rewritten hafter) (by decide) _).bind fun _ _ hsign => ?_
  refine (readValue_alike (skipBlanks_rewritten hsign)).bind ?_
  rintro ⟨value, next⟩ ⟨value', next'⟩ ⟨hvalue, hnext⟩
  exact .ok ⟨⟨congrArg String.ofList hname, hvalue⟩, hnext⟩

/-- The attributes of a tag agree, by induction on what is left. -/
theorem readAttributes_alike {c d : Cursor} (h : c.Rewritten e d) :
    Agree Failure.SameKind (fun found found' => List.Forall₂ Attribute.Same found.1 found'.1 ∧
        found.2.1 = found'.2.1 ∧ found.2.2.Rewritten e found'.2.2)
      (readAttributes c) (readAttributes d) := by
  have hinner := skipBlanks_rewritten h
  rw [readAttributes_eq c, readAttributes_eq d, hinner.startsWith_eq (by decide),
    hinner.startsWith_eq (by decide), atBlank_rewritten h]
  by_cases hrest : (skipBlanks c).rest = []
  · rw [if_pos hrest, if_pos (hinner.rest_eq_nil hrest)]
    exact .error rfl
  have hrest' : ¬ (skipBlanks d).rest = [] := by rwa [hinner.rest_eq, LineEnd.write_eq_nil_iff]
  rw [if_neg hrest, if_neg hrest']
  refine .ite (fun hsign => ?_) fun _ => .ite (fun _ => ?_) fun _ => .ite (fun _ => ?_) fun _ =>
    .error rfl
  · obtain ⟨next, htakes⟩ := Cursor.startsWith_iff.1 hsign
    exact .ok ⟨.nil, rfl, hinner.advance htakes (by decide)⟩
  · exact (expect_alike hinner (by decide) _).map fun _ _ hnext => ⟨.nil, rfl, hnext⟩
  · rcases (readAttribute_alike hinner).exists_eq with
      ⟨_, _, hleft, hright, hsame, hnext⟩ | ⟨_, _, hleft, hright, hkind⟩
    · rw [hleft, hright]
      -- An attribute takes a character, so less is left behind it.
      have hlt := (passes_readAttribute hleft).length_lt
      have hle : (skipBlanks c).rest.length ≤ c.rest.length := (c.takes_skipWhile _).length_le
      refine (readAttributes_alike hnext).bind ?_
      rintro ⟨others, isEmpty, after⟩ ⟨others', isEmpty', after'⟩ ⟨hothers, hempty, hafter⟩
      exact .ok ⟨.cons hsame hothers, hempty, hafter⟩
    · rw [hleft, hright]
      exact .error hkind
termination_by c.rest.length
decreasing_by exact hlt.trans_le hle

end XmlQuery.Markup
