import XmlQuery.Proofs.Markup.LeafGrammar
import XmlQuery.Proofs.Markup.Rewriting

/-!
# The end of a document type declaration

A document type declaration ends at the first closing sign outside of literals, comments and
brackets. The search keeps an open quote and the depth of brackets, and looks at one character after
the other; what it goes over is described here by whole constructs instead, and the reader takes for
a declaration exactly what is described so.

## Main definitions

* `Skips`: what the search goes over, from one depth of brackets to another
* `SpellsDoctype`: a document type declaration, as far as the search looks into it

## Main results

* `doctypeLength_of_skips`, `skips_of_doctypeLength`: the search, by constructs
* `readDoctype_eq_ok_iff`, `recognises_doctype`: **declarations are recognised exactly**
-/

namespace XmlQuery.Markup

open Text (Cursor utf8Length)

variable {c d : Cursor} {e : Event} {depth depth' : Nat} {s text rest : List Char}

/-- The signs that open or close literals and brackets. -/
def steering : List Char := ['"', '\'', '[', ']']

/-- What the search goes over, and how deep in brackets it is in front of it and behind it: literals
and comments as a whole, and other characters alone. The closing sign is gone over in brackets
only. -/
inductive Skips : (depth : Nat) → List Char → (depth' : Nat) → Prop
  /-- No character. -/
  | nil {depth : Nat} : Skips depth [] depth
  /-- A literal in single or double quotes. -/
  | literal {depth depth' : Nat} {quote : Char} {text s : List Char} :
    quote = '"' ∨ quote = '\'' → quote ∉ text → Skips depth s depth' →
    Skips depth (quote :: (text ++ quote :: s)) depth'
  /-- A comment. -/
  | comment {depth depth' : Nat} {text s : List Char} : ¬ "-->".toList <:+: text →
    Skips depth s depth' → Skips depth ("<!--".toList ++ (text ++ ("-->".toList ++ s))) depth'
  /-- An opening bracket. -/
  | opening {depth depth' : Nat} {s : List Char} : Skips (depth + 1) s depth' →
    Skips depth ('[' :: s) depth'
  /-- A closing bracket, which may have no partner. -/
  | closing {depth depth' : Nat} {s : List Char} : Skips (depth - 1) s depth' →
    Skips depth (']' :: s) depth'
  /-- Another character, which starts no comment. -/
  | plain {depth depth' : Nat} {x : Char} {s : List Char} : x ∉ steering → (x = '>' → depth ≠ 0) →
    (x = '<' → ¬ "!--".toList <+: s) → Skips depth s depth' → Skips depth (x :: s) depth'

/-- A document type declaration: its keyword, white space and what follows up to the closing sign.
All characters are legal. -/
inductive SpellsDoctype : List Char → Event → Prop
  /-- The text between the opening signs and the closing one. -/
  | mk {body : String} {s : List Char} : body.toList = "DOCTYPE".toList ++ s →
    s.head?.any Text.isBlank = true → Skips 0 s 0 → (∀ x ∈ body.toList, isChar x = true) →
    SpellsDoctype ("<!".toList ++ (body.toList ++ ['>'])) (.doctype body)

/-! ## The search -/

theorem doctypeLength_quote {quote : Char} (hquote : quote = '"' ∨ quote = '\'')
    (depth offset : Nat) (rest : List Char) :
    doctypeLength none depth offset (quote :: rest) =
      (doctypeLength (some quote) depth (offset + quote.utf8Size) rest).map (· + 1) := by
  rcases hquote with rfl | rfl <;> rw [doctypeLength_cons (by simp) (by simp)] <;> rfl

theorem doctypeLength_opening (depth offset : Nat) (rest : List Char) :
    doctypeLength none depth offset ('[' :: rest) =
      (doctypeLength none (depth + 1) (offset + 1) rest).map (· + 1) := by
  rw [doctypeLength_cons (by simp) (by simp)]
  rfl

theorem doctypeLength_closing (depth offset : Nat) (rest : List Char) :
    doctypeLength none depth offset (']' :: rest) =
      (doctypeLength none (depth - 1) (offset + 1) rest).map (· + 1) := by
  rw [doctypeLength_cons (by simp) (by simp)]
  rfl

theorem doctypeLength_plain {x : Char} (hx : x ∉ steering) (hsign : x = '>' → depth ≠ 0)
    (hcomment : x = '<' → ¬ "!--".toList <+: rest) (offset : Nat) :
    doctypeLength none depth offset (x :: rest) =
      (doctypeLength none depth (offset + x.utf8Size) rest).map (· + 1) := by
  have hclose : ¬ (x = '>' ∧ depth = 0) := fun h => hsign h.1 h.2
  have hopen : ¬ (x = '<' ∧ "!--".toList.isPrefixOf rest = true) := fun h =>
    hcomment h.1 (List.isPrefixOf_iff_prefix.1 h.2)
  simp only [steering, List.mem_cons, List.not_mem_nil, or_false, not_or] at hx
  rw [doctypeLength_cons hclose hopen, if_neg (not_or.2 ⟨hx.1, hx.2.1⟩), if_neg hx.2.2.1,
    if_neg hx.2.2.2]

/-- A literal is left at its closing quote. -/
theorem doctypeLength_literal {quote : Char} {n : Nat} (hquote : quote ∉ text)
    (hrest : ∀ offset, doctypeLength none depth offset rest = .ok n) (offset : Nat) :
    doctypeLength (some quote) depth offset (text ++ quote :: rest) =
      .ok (n + (text.length + 1)) := by
  induction text generalizing offset with
  | nil =>
    rw [List.nil_append, doctypeLength, if_pos rfl, hrest]
    rfl
  | cons x text ih =>
    obtain ⟨hx, htext⟩ := not_or.1 (mt List.mem_cons.2 hquote)
    rw [List.cons_append, doctypeLength, if_neg (Ne.symm hx), ih htext]
    rfl

/-- In a literal the search succeeds only if the literal is closed, and goes on behind it. -/
theorem exists_of_doctypeLength_literal {quote : Char} {offset n : Nat}
    (h : doctypeLength (some quote) depth offset text = .ok n) :
    ∃ literal rest offset' m, text = literal ++ quote :: rest ∧ quote ∉ literal ∧
      doctypeLength none depth offset' rest = .ok m ∧ m + (literal.length + 1) = n := by
  induction text generalizing offset n with
  | nil =>
    rw [doctypeLength] at h
    cases h
  | cons x text ih =>
    rw [doctypeLength, map_eq_ok_iff] at h
    obtain ⟨m, hm, rfl⟩ := h
    by_cases hx : x = quote
    · subst hx
      rw [if_pos rfl] at hm
      exact ⟨[], text, _, m, rfl, List.not_mem_nil, hm, rfl⟩
    · rw [if_neg hx] at hm
      obtain ⟨literal, rest, offset', k, rfl, hliteral, hk, rfl⟩ := ih hm
      exact ⟨x :: literal, rest, offset', k, rfl,
        List.not_mem_cons_of_ne_of_not_mem (Ne.symm hx) hliteral, hk, rfl⟩

/-- A comment is gone over up to its first closing delimiter. -/
theorem doctypeLength_comment_append (htext : ¬ "-->".toList <:+: text) (depth offset : Nat)
    (rest : List Char) :
    ∃ offset', doctypeLength none depth offset
      ("<!--".toList ++ (text ++ ("-->".toList ++ rest))) =
        (doctypeLength none depth offset' rest).map
          (· + ("<!--".toList ++ text ++ "-->".toList).length) := by
  have hsplit := @Text.splitFirst?_append ['-', '-'] text '>' (by decide) htext rest
  change Text.splitFirst? "-->".toList (text ++ ("-->".toList ++ rest)) =
    some (text, "-->".toList ++ rest) at hsplit
  rw [doctypeLength_comment, hsplit]
  exact ⟨_, rfl⟩

/-- A pattern that stands at the front of a text, and does not hold a character, ends in front of
that. -/
theorem isPrefix_append_cons_iff {pattern : List Char} {x : Char} (hx : x ∉ pattern) :
    pattern <+: s ++ x :: rest ↔ pattern <+: s := by
  refine ⟨fun h => ?_, fun h => h.trans (List.prefix_append _ _)⟩
  rcases List.prefix_or_prefix_of_prefix h (List.prefix_append s (x :: rest)) with hs | ⟨t, rfl⟩
  · exact hs
  · rw [List.prefix_append_right_inj] at h
    cases t with
    | nil => exact (List.append_nil s).symm ▸ List.prefix_refl _
    | cons y t =>
      obtain rfl := (List.cons_prefix_cons.1 h).1
      exact absurd (List.mem_append_right _ List.mem_cons_self) hx

/-- **What is gone over is as long as the search finds**, by induction on the constructs. -/
theorem doctypeLength_of_skips (h : Skips depth s depth') (hdepth : depth' = 0) (offset : Nat)
    (rest : List Char) : doctypeLength none depth offset (s ++ '>' :: rest) = .ok s.length := by
  induction h generalizing offset with
  | nil =>
    rw [List.nil_append, doctypeLength, if_pos ⟨rfl, hdepth⟩]
    rfl
  | @literal depth _ quote text s hquote htext _ ih =>
    rw [List.cons_append, List.append_assoc, List.cons_append, doctypeLength_quote hquote,
      doctypeLength_literal htext fun offset => ih hdepth offset]
    simp only [Except.map, List.length_cons, List.length_append, Except.ok.injEq]
    omega
  | @comment depth _ text s htext _ ih =>
    obtain ⟨offset', hlength⟩ := doctypeLength_comment_append htext depth offset (s ++ '>' :: rest)
    rw [List.append_assoc, List.append_assoc, List.append_assoc, hlength, ih hdepth]
    simp only [Except.map, List.length_append, Except.ok.injEq]
    omega
  | opening _ ih =>
    rw [List.cons_append, doctypeLength_opening, ih hdepth]
    rfl
  | closing _ ih =>
    rw [List.cons_append, doctypeLength_closing, ih hdepth]
    rfl
  | plain hx hsign hcomment _ ih =>
    have hopen := fun heq =>
      mt (@isPrefix_append_cons_iff _ rest "!--".toList '>' (by decide)).1 (hcomment heq)
    rw [List.cons_append, doctypeLength_plain hx hsign hopen, ih hdepth]
    rfl

/-- **One construct.** Where the search succeeds it is at the closing sign, or it goes over some
characters and succeeds behind them, at a depth from which these lead on. -/
theorem exists_of_doctypeLength {offset n : Nat}
    (h : doctypeLength none depth offset text = .ok n) :
    (depth = 0 ∧ n = 0 ∧ ∃ rest, text = '>' :: rest) ∨
      ∃ front behind depth' offset' m, text = front ++ behind ∧ front ≠ [] ∧
        doctypeLength none depth' offset' behind = .ok m ∧ m + front.length = n ∧
          ∀ s rest, behind = s ++ rest → Skips depth' s 0 → Skips depth (front ++ s) 0 := by
  cases text with
  | nil =>
    rw [doctypeLength] at h
    cases h
  | cons x text =>
    by_cases hclose : x = '>' ∧ depth = 0
    · obtain ⟨rfl, rfl⟩ := hclose
      rw [doctypeLength, if_pos ⟨rfl, rfl⟩] at h
      cases h
      exact .inl ⟨rfl, rfl, text, rfl⟩
    refine .inr ?_
    by_cases hopen : x = '<' ∧ "!--".toList <+: text
    · obtain ⟨rfl, after, rfl⟩ := hopen
      change doctypeLength none depth offset ("<!--".toList ++ after) = .ok n at h
      cases hsplit : Text.splitFirst? "-->".toList after with
      | none =>
        rw [doctypeLength_comment, hsplit] at h
        cases h
      | some parts =>
        obtain ⟨content, close⟩ := parts
        obtain ⟨⟨behind, rfl⟩, hcontent⟩ := Text.not_isInfix_of_splitFirst? (by decide) hsplit
        obtain rfl := Text.append_of_splitFirst? hsplit
        obtain ⟨offset', hlength⟩ := doctypeLength_comment_append hcontent depth offset behind
        rw [hlength, map_eq_ok_iff] at h
        obtain ⟨m, hm, hn⟩ := h
        refine ⟨"<!--".toList ++ content ++ "-->".toList, behind, depth, offset', m, ?_, by simp,
          hm, hn, fun s rest _ hskips => ?_⟩
        · simp only [List.append_assoc]
          rfl
        · rw [List.append_assoc, List.append_assoc]
          exact .comment hcontent hskips
    by_cases hquote : x = '"' ∨ x = '\''
    · rw [doctypeLength_quote hquote, map_eq_ok_iff] at h
      obtain ⟨_, hliteral, rfl⟩ := h
      obtain ⟨literal, behind, offset', m, rfl, hnot, hm, rfl⟩ :=
        exists_of_doctypeLength_literal hliteral
      have hfront : (x :: (literal ++ [x])).length = literal.length + 1 + 1 := by simp
      refine ⟨x :: (literal ++ [x]), behind, depth, offset', m, by simp, List.cons_ne_nil _ _, hm,
        by rw [hfront, ← Nat.add_assoc], fun s rest _ hskips => ?_⟩
      rw [List.cons_append, List.append_assoc, List.singleton_append]
      exact .literal hquote hnot hskips
    -- Brackets and other characters are gone over alone.
    by_cases hopening : x = '['
    · subst hopening
      rw [doctypeLength_opening, map_eq_ok_iff] at h
      obtain ⟨m, hm, hn⟩ := h
      exact ⟨['['], text, depth + 1, _, m, rfl, List.cons_ne_nil _ _, hm, hn,
        fun _ _ _ hskips => .opening hskips⟩
    by_cases hclosing : x = ']'
    · subst hclosing
      rw [doctypeLength_closing, map_eq_ok_iff] at h
      obtain ⟨m, hm, hn⟩ := h
      exact ⟨[']'], text, depth - 1, _, m, rfl, List.cons_ne_nil _ _, hm, hn,
        fun _ _ _ hskips => .closing hskips⟩
    have hx : x ∉ steering := by
      simp only [steering, List.mem_cons, List.not_mem_nil, or_false, not_or]
      exact ⟨(not_or.1 hquote).1, (not_or.1 hquote).2, hopening, hclosing⟩
    have hsign : x = '>' → depth ≠ 0 := fun heq hdepth => hclose ⟨heq, hdepth⟩
    rw [doctypeLength_plain hx hsign fun heq hprefix => hopen ⟨heq, hprefix⟩, map_eq_ok_iff] at h
    obtain ⟨m, hm, hn⟩ := h
    refine ⟨[x], text, depth, _, m, rfl, List.cons_ne_nil _ _, hm, hn, ?_⟩
    rintro s rest rfl hskips
    exact .plain hx hsign (fun heq hs => hopen ⟨heq, hs.trans (List.prefix_append _ _)⟩) hskips

/-- **What the search finds has been gone over**, up to the closing sign, by induction on the length
of the text. -/
theorem skips_of_doctypeLength {offset n : Nat}
    (h : doctypeLength none depth offset text = .ok n) :
    ∃ s rest, text = s ++ '>' :: rest ∧ s.length = n ∧ Skips depth s 0 := by
  induction hlength : text.length using Nat.strongRecOn generalizing depth text offset n with
  | _ length ih =>
    subst hlength
    rcases exists_of_doctypeLength h with
      ⟨rfl, rfl, rest, rfl⟩ | ⟨front, behind, depth', offset', m, rfl, hne, hm, rfl, hskips⟩
    · exact ⟨[], rest, rfl, rfl, .nil⟩
    · have hlt : behind.length < (front ++ behind).length := by
        have := List.length_pos_iff.2 hne
        rw [List.length_append]
        omega
      obtain ⟨s, rest, rfl, rfl, hs⟩ := ih _ hlt hm rfl
      exact ⟨front ++ s, rest, (List.append_assoc ..).symm,
        by rw [List.length_append, Nat.add_comm], hskips s _ rfl hs⟩

/-! ## Reading -/

/-- Characters of a class steer nothing if those that steer are not in it. -/
theorem not_mem_steering {p : Char → Bool} (hp : ('<' :: '>' :: steering).any p = false)
    {x : Char} (hx : p x = true) : x ∉ steering ∧ x ≠ '<' ∧ x ≠ '>' := by
  have hne : ∀ y ∈ '<' :: '>' :: steering, x ≠ y := by
    rintro y hy rfl
    exact List.any_eq_false.1 hp _ hy hx
  exact ⟨fun hmem => hne x (.tail _ (.tail _ hmem)) rfl, hne _ (.head _), hne _ (.tail _ (.head _))⟩

/-- White space is gone over, and makes no difference for what follows. -/
theorem skips_blanks_iff {space : List Char} (hspace : Blanks space) :
    Skips depth (space ++ s) depth' ↔ Skips depth s depth' := by
  induction space with
  | nil => rfl
  | cons x space ih =>
    obtain ⟨hx, hspace⟩ := List.forall_mem_cons.1 hspace
    obtain ⟨hsteering, hless, hgreater⟩ := not_mem_steering (p := Text.isBlank) rfl hx
    rw [← ih hspace]
    constructor
    · intro h
      rw [List.cons_append] at h
      generalize htext : x :: (space ++ s) = text at h
      cases h with
      | nil => cases htext
      | literal hquote =>
        obtain rfl := (List.cons.inj htext).1
        rcases hquote with rfl | rfl <;> cases hx
      | comment => exact absurd (List.cons.inj htext).1 hless
      | opening | closing =>
        obtain rfl := (List.cons.inj htext).1
        cases hx
      | plain _ _ _ h =>
        cases htext
        exact h
    · exact .plain hsteering (fun h => absurd h hgreater) fun h => absurd h hless

/-- The text from one place up to a part of what follows a later one. -/
theorem take_length_of_takes {inner : Cursor} {front s t : List Char} (hfront : c.Takes front inner)
    (hend : inner.Takes (s ++ t) d) :
    c.rest.take (c.rest.length - inner.rest.length + s.length) = front ++ s := by
  rw [hfront.1, take_length_sub_add, hend.1, List.append_assoc, List.take_left]

/-- White space in front of other characters is skipped as far as it goes. -/
theorem takes_skipBlanks {x : Char} (hx : Text.isBlank x = false) (h : c.Takes (s ++ [x]) d) :
    c.Takes (s.takeWhile Text.isBlank) (skipBlanks c) ∧
      (skipBlanks c).Takes (s.dropWhile Text.isBlank ++ [x]) d := by
  rw [← @List.takeWhile_append_dropWhile _ Text.isBlank s, List.append_assoc] at h
  obtain ⟨inner, hspace, hothers⟩ := Cursor.takes_append_iff.1 h
  have hhead : ∀ y ∈ inner.rest.head?, Text.isBlank y = false := fun y hy => by
    rw [hothers.1, List.append_assoc, List.head?_append] at hy
    have hnot := List.head?_dropWhile_not Text.isBlank s
    cases hfirst : (s.dropWhile Text.isBlank).head? with
    | none =>
      rw [hfirst] at hy
      cases hy
      exact hx
    | some z =>
      rw [hfirst] at hy hnot
      cases hy
      exact Bool.eq_false_iff.2 (by simpa using hnot)
  obtain rfl : skipBlanks c = inner :=
    skipBlanks_eq_iff.2 ⟨_, hspace, fun y hy => List.mem_takeWhile_imp hy, hhead⟩
  exact ⟨hspace, hothers⟩

section

variable {start behind : Cursor}

/-- What is read as a declaration is one. -/
theorem spellsDoctype_of_readDoctype (hopen : c.Takes "<!".toList start)
    (hkeyword : start.Takes "DOCTYPE".toList behind) (h : readDoctype c = .ok (e, d)) :
    ∃ written, c.Takes written d ∧ SpellsDoctype written e := by
  have hstart : c.advance 2 = start := hopen.advance_eq
  have hbehind : start.advance 7 = behind := hkeyword.advance_eq
  rw [readDoctype, hstart] at h
  dsimp only at h
  rw [hbehind] at h
  obtain ⟨space, hspace, hblanks, -⟩ := skipBlanks_eq_iff.1 (@rfl _ (skipBlanks behind))
  have hfront := hkeyword.trans hspace
  split at h
  case isFalse => cases h
  next hblank =>
  split at h
  case h_1 => cases h
  case h_2 => cases h
  next n hlength =>
  obtain ⟨⟨⟩, hchars, h⟩ := bind_eq_ok_iff.1 h
  cases h
  obtain ⟨s, after, hs, rfl, hskips⟩ := skips_of_doctypeLength hlength
  have hend : (skipBlanks behind).Takes (s ++ ['>']) ⟨_, after⟩ :=
    ⟨by rw [hs, List.append_assoc]; rfl, rfl⟩
  have hnext := hend.advance_eq
  rw [List.length_append, List.length_singleton] at hnext
  obtain ⟨body, htoList⟩ : ∃ body : String, body.toList = "DOCTYPE".toList ++ (space ++ s) :=
    ⟨.ofList _, String.toList_ofList⟩
  have hbody : start.rest.take (start.rest.length - (skipBlanks behind).rest.length + s.length) =
      body.toList := by
    rw [take_length_of_takes hfront hend, List.append_assoc, htoList]
  rw [hbody, checkChars_eq_ok_iff] at hchars
  rw [hbody, hnext, String.ofList_toList]
  have hhead : (space ++ s).head?.any Text.isBlank = true := by
    obtain ⟨x, space, rfl⟩ := List.exists_cons_of_ne_nil (ne_nil_of_atBlank hblank hspace)
    exact hblanks x List.mem_cons_self
  refine ⟨_, ?_, .mk htoList hhead ((skips_blanks_iff hblanks).2 hskips) hchars⟩
  rw [htoList, List.append_assoc, List.append_assoc, ← List.append_assoc "DOCTYPE".toList]
  exact hopen.trans (hfront.trans hend)

/-- A declaration is read as what it is. -/
theorem readDoctype_of_spellsDoctype {written : List Char} (hopen : c.Takes "<!".toList start)
    (hkeyword : start.Takes "DOCTYPE".toList behind) (htakes : c.Takes written d)
    (hspells : SpellsDoctype written e) : readDoctype c = .ok (e, d) := by
  have hstart : c.advance 2 = start := hopen.advance_eq
  have hbehind : start.advance 7 = behind := hkeyword.advance_eq
  cases hspells with
  | @mk body s hbody hblank hskips hchars =>
    obtain ⟨start', hopen', htakes⟩ := Cursor.takes_append_iff.1 htakes
    obtain rfl := hopen.cursor_eq hopen'
    rw [hbody, List.append_assoc] at htakes
    obtain ⟨behind', hkeyword', htakes⟩ := Cursor.takes_append_iff.1 htakes
    obtain rfl := hkeyword.cursor_eq hkeyword'
    have hatBlank : atBlank behind = true := by
      rw [atBlank, htakes.1]
      cases s with
      | nil => cases hblank
      | cons x s => exact hblank
    -- The white space behind the keyword is skipped first.
    obtain ⟨hspace, hend⟩ := takes_skipBlanks (by decide) htakes
    have hsplit : s.takeWhile Text.isBlank ++ s.dropWhile Text.isBlank = s :=
      List.takeWhile_append_dropWhile
    rw [← hsplit, skips_blanks_iff fun x hx => List.mem_takeWhile_imp hx] at hskips
    have hlength : doctypeLength none 0 (skipBlanks behind).offset (skipBlanks behind).rest =
        .ok (s.dropWhile Text.isBlank).length := by
      rw [hend.1, List.append_assoc]
      exact doctypeLength_of_skips hskips rfl _ _
    have htext : start.rest.take (start.rest.length - (skipBlanks behind).rest.length +
        (s.dropWhile Text.isBlank).length) = body.toList := by
      rw [take_length_of_takes (hkeyword.trans hspace) hend, List.append_assoc, hsplit, hbody]
    have hnext := hend.advance_eq
    rw [List.length_append, List.length_singleton] at hnext
    rw [readDoctype, hstart]
    dsimp only
    rw [hbehind, if_pos hatBlank, hlength]
    dsimp only
    rw [htext, checkChars_eq_ok_iff.2 hchars, hnext, String.ofList_toList]
    rfl

end

/-- The characters from the opening signs up to the closing sign are taken by the reader. -/
theorem readDoctype_eq_ok_iff {start : Cursor} (hopen : c.Takes "<!".toList start)
    (hkeyword : "DOCTYPE".toList <+: start.rest) :
    readDoctype c = .ok (e, d) ↔ ∃ written, c.Takes written d ∧ SpellsDoctype written e := by
  obtain ⟨rest, hrest⟩ := hkeyword
  have hbehind : start.Takes "DOCTYPE".toList ⟨_, rest⟩ := ⟨hrest.symm, rfl⟩
  exact ⟨spellsDoctype_of_readDoctype hopen hbehind,
    fun ⟨_, htakes, hspells⟩ => readDoctype_of_spellsDoctype hopen hbehind htakes hspells⟩

theorem readEvent_eq_readDoctype (h : "<!DOCTYPE".toList <+: c.rest) :
    readEvent c = readDoctype c := by
  obtain ⟨rest, hrest⟩ := h
  simp [readEvent, Cursor.startsWith, ← hrest]

/-- **Declarations are recognised exactly**: where the keyword stands, the reader finds what leads
to a closing sign outside of literals, comments and brackets, and fails if nothing does. -/
theorem recognises_doctype (h : "<!DOCTYPE".toList <+: c.rest) : Recognises c SpellsDoctype := by
  obtain ⟨rest, hrest⟩ := h
  have hopen : c.Takes "<!".toList ⟨_, "DOCTYPE".toList ++ rest⟩ := ⟨hrest.symm, rfl⟩
  refine .of_iff fun e d => ?_
  rw [readEvent_eq_readDoctype ⟨rest, hrest⟩,
    readDoctype_eq_ok_iff hopen (List.prefix_append _ _)]

end XmlQuery.Markup
