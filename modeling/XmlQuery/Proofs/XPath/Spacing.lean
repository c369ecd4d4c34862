import XmlQuery.Proofs.Text.Bytes
import XmlQuery.Proofs.XPath.Lexemes
import XmlQuery.Proofs.XPath.Parsing

/-!
# Spacing between tokens

An expression that is cut into tokens is nothing but their words and blanks around them, and the
tokens depend on the words alone: other blanks between them, wherever there are some, give the same
tokens. It is enough to know this of single words, since the token behind a word is known as soon as
its own word is: what a name is the name of depends on no more than that.

## Main definitions

* `Spelling`, `Piece`: a token and its word, and the blanks behind it
* `SpelledFrom`, `SpelledTo`: the words of a sequence of tokens, alone or in front of a further one
* `LaysOut`: a text, its tokens and where they start, as pieces

## Main results

* `exists_words_of_tokenizeFrom`: what is cut into tokens is made of their words
* `tokenizeFrom_spread`: words with blanks between them are cut into their tokens
* `tokenize_respaced`: **spacing does not matter**
-/

namespace XmlQuery.XPath

open Markup (Blanks)
open Text (Cursor isBlank utf8Length)

/-! ## Pieces -/

/-- A token and a word that it is written with. -/
structure Spelling where
  /-- The token. -/
  token : Token
  /-- Its word. -/
  word : List Char

/-- A token, its word and the blanks behind the word. -/
structure Piece extends Spelling where
  /-- The blanks. -/
  gap : List Char

/-- A word with the blanks behind it. -/
def Piece.text (p : Piece) : List Char := p.word ++ p.gap

/-- Words with the blanks behind them, one after the other. -/
def spread (pieces : List Piece) : List Char := pieces.flatMap Piece.text

/-- The tokens of pieces, and where they start in a text, the first one at a byte offset. -/
def startsOf : (offset : Nat) → List Piece → List Lexeme
  | _, [] => []
  | offset, p :: rest => ⟨offset, p.token⟩ :: startsOf (offset + utf8Length p.text) rest

/-- The token of the first of some words. -/
def nextToken (words : List Spelling) : Option Token := words.head?.map (·.token)

/-- The words of a sequence of tokens, after an operand or not. -/
def SpelledFrom : (afterOperand : Bool) → List Spelling → Prop
  | _, [] => True
  | afterOperand, s :: rest =>
    Spells afterOperand (nextToken rest) s.token s.word ∧
      SpelledFrom (s.token.endsOperand afterOperand) rest

/-- The words of a sequence of tokens in front of a further one, or of none. -/
def SpelledTo (next : Option Token) : (afterOperand : Bool) → List Spelling → Prop
  | _, [] => True
  | afterOperand, s :: rest =>
    Spells afterOperand ((nextToken rest).or next) s.token s.word ∧
      SpelledTo next (s.token.endsOperand afterOperand) rest

/-- There are blanks between all words. -/
def Separated : List Piece → Prop
  | [] => True
  | p :: rest => (rest ≠ [] → p.gap ≠ []) ∧ Separated rest

/-- A text is made of words and of blanks around them, and the words are those of tokens that start
where they do. So a word is all of the text from where its token starts up to where the next one
does, but for the blanks at the end. -/
structure LaysOut (text : List Char) (lexemes : List Lexeme) (lead : List Char)
    (pieces : List Piece) : Prop where
  /-- The text is made of the words and the blanks. -/
  text_eq : text = lead ++ spread pieces
  /-- There are blanks in front of the words. -/
  front : Blanks lead
  /-- There are blanks behind each word. -/
  gaps : ∀ p ∈ pieces, Blanks p.gap
  /-- No blanks are at the ends of a word. -/
  solid : ∀ p ∈ pieces, Solid p.word
  /-- The words are where the tokens start. -/
  starts : lexemes = startsOf (utf8Length lead) pieces

variable {afterOperand : Bool} {found : List Lexeme} {c : Cursor} {lead rest : List Char}
  {pieces : List Piece} {next : Option Token}

theorem spread_cons (p : Piece) (pieces : List Piece) :
    spread (p :: pieces) = p.word ++ (p.gap ++ spread pieces) := by
  rw [spread, List.flatMap_cons, Piece.text, List.append_assoc]
  rfl

/-! ## Words of what is cut -/

/-- What comes next is announced by its word, or by what is left of the text. -/
theorem SpelledTo.announces (h : SpelledTo next afterOperand (pieces.map (·.toSpelling)))
    (hlead : Blanks lead) (hnext : Announces next rest) :
    Announces ((nextToken (pieces.map (·.toSpelling))).or next)
      (lead ++ (spread pieces ++ rest)) := by
  rw [announces_blanks_append hlead]
  cases pieces with
  | nil => exact hnext
  | cons p pieces =>
    rw [spread_cons, List.append_assoc]
    exact h.1.announces _

/-- Each word is one of its token. -/
theorem SpelledTo.exists_spells (h : SpelledTo next afterOperand (pieces.map (·.toSpelling))) :
    ∀ p ∈ pieces, ∃ afterOperand next, Spells afterOperand next p.token p.word := by
  induction pieces generalizing afterOperand with
  | nil => exact nofun
  | cons p pieces ih => exact List.forall_mem_cons.2 ⟨⟨_, _, h.1⟩, ih h.2⟩

theorem spelledTo_none {words : List Spelling} :
    SpelledTo none afterOperand words ↔ SpelledFrom afterOperand words := by
  induction words generalizing afterOperand with
  | nil => exact Iff.rfl
  | cons s rest ih => rw [SpelledTo, SpelledFrom, Option.or_none, ih]

/-- At the end of a text nothing that matters comes next. -/
theorem SpelledTo.spelledFrom {words : List Spelling} (h : SpelledTo next afterOperand words)
    (hnext : Announces next []) : SpelledFrom afterOperand words := by
  induction words generalizing afterOperand with
  | nil => trivial
  | cons s words ih =>
    refine ⟨?_, ih h.2⟩
    cases words with
    | cons => exact h.1
    | nil =>
      refine h.1.congr_next (iff_of_false (fun hparen => ?_) nofun)
        (iff_of_false (fun hcolons => ?_) nofun)
      · cases hnext.paren.1 hparen
      · cases List.prefix_nil.1 (hnext.colons.1 hcolons)

theorem SpelledFrom.announces (h : SpelledFrom afterOperand (pieces.map (·.toSpelling)))
    (hlead : Blanks lead) :
    Announces (nextToken (pieces.map (·.toSpelling))) (lead ++ spread pieces) := by
  have hannounces := (spelledTo_none.2 h).announces hlead (announces_end Markup.blanks_nil)
  rwa [Option.or_none, List.append_nil] at hannounces

theorem tokenizeFrom_end (h : (skipBlanks c).rest = []) :
    tokenizeFrom found afterOperand c = ⟨found.reverse, (skipBlanks c).offset, none⟩ := by
  rw [tokenizeFrom, if_pos (List.isEmpty_iff.2 h)]

/-- One round of cutting. -/
theorem tokenizeFrom_token {t : Token} {d : Cursor} (hne : (skipBlanks c).rest ≠ [])
    (h : scan afterOperand (skipBlanks c) = .ok (t, d)) :
    tokenizeFrom found afterOperand c =
      tokenizeFrom (⟨(skipBlanks c).offset, t⟩ :: found) (t.endsOperand afterOperand) d := by
  rw [tokenizeFrom, if_neg (mt List.isEmpty_iff.1 hne)]
  split
  · next hscan => cases h.symm.trans hscan
  · next hscan =>
    cases h.symm.trans hscan
    rfl

/-- Cutting ends where no token starts. -/
theorem tokenizeFrom_fault {fault : LexicalFault} (hsome : ¬ (skipBlanks c).rest.isEmpty = true)
    (h : scan afterOperand (skipBlanks c) = .error fault) :
    tokenizeFrom found afterOperand c =
      ⟨found.reverse, (skipBlanks c).offset, some fault⟩ := by
  rw [tokenizeFrom, if_neg hsome]
  split
  · next hscan =>
    cases h.symm.trans hscan
    rfl
  · next hscan => cases h.symm.trans hscan

/-- **What is cut into tokens is made of their words**, up to the end or to where no token starts,
by induction on the rounds. The words behind a word are found first: the first of them tells what a
name in front of it is the name of. -/
theorem exists_words_of_tokenizeFrom (found : List Lexeme) (afterOperand : Bool) (c : Cursor) :
    ∃ lead pieces rest next, c.rest = lead ++ (spread pieces ++ rest) ∧ Blanks lead ∧
      (∀ p ∈ pieces, Blanks p.gap) ∧
      SpelledTo next afterOperand (pieces.map (·.toSpelling)) ∧ Announces next rest ∧
      (tokenizeFrom found afterOperand c).lexemes =
        found.reverse ++ startsOf (c.offset + utf8Length lead) pieces ∧
      (tokenizeFrom found afterOperand c).stop = c.offset + utf8Length (lead ++ spread pieces) ∧
      ((tokenizeFrom found afterOperand c).fault = none → rest = []) := by
  induction found, afterOperand, c using tokenizeFrom.induct with
  | case1 found afterOperand c start hempty =>
    obtain ⟨lead, htakes, hlead, -⟩ := Cursor.skipWhile_eq_iff.1 (@rfl _ (skipBlanks c))
    have hend : (skipBlanks c).rest = [] := List.isEmpty_iff.1 hempty
    refine ⟨lead, [], [], none, hend ▸ htakes.1, hlead, List.forall_mem_nil _, trivial,
      announces_end Markup.blanks_nil, ?_, ?_, fun _ => rfl⟩
    · rw [tokenizeFrom_end hend, startsOf, List.append_nil]
    · rw [tokenizeFrom_end hend, spread, List.flatMap_nil, List.append_nil]
      exact htakes.2
  | case2 found afterOperand c start hsome fault hscan =>
    obtain ⟨lead, htakes, hlead, -⟩ := Cursor.skipWhile_eq_iff.1 (@rfl _ (skipBlanks c))
    obtain ⟨next, hnext⟩ := exists_announces (skipBlanks c).rest
    rw [tokenizeFrom_fault hsome hscan]
    refine ⟨lead, [], _, next, htakes.1, hlead, List.forall_mem_nil _, trivial, hnext, ?_, ?_,
      fun h => absurd h (Option.some_ne_none _)⟩
    · rw [startsOf, List.append_nil]
    · rw [spread, List.flatMap_nil, List.append_nil]
      exact htakes.2
  | case3 found afterOperand c start hsome token behind hscan ih =>
    obtain ⟨lead, htakes, hlead, -⟩ := Cursor.skipWhile_eq_iff.1 (@rfl _ (skipBlanks c))
    rw [tokenizeFrom_token (mt List.isEmpty_iff.2 hsome) hscan]
    obtain ⟨between, pieces, rest, next, hrest, hbetween, hgaps, hspelled, hnext, hlexemes, hstop,
      hend⟩ := ih
    obtain ⟨word, gap, hword, hgap, hspells⟩ := spells_of_scan hscan
    -- What comes next is the first of the words that are found behind this one.
    have hannounces := hspelled.announces hbetween hnext
    rw [← hrest] at hannounces
    have hoffset : (skipBlanks c).offset = c.offset + utf8Length lead := htakes.2
    have hoffset' : behind.offset = (skipBlanks c).offset + utf8Length (word ++ gap) := hword.2
    refine ⟨lead, ⟨⟨token, word⟩, gap ++ between⟩ :: pieces, rest, next, ?_, hlead,
      List.forall_mem_cons.2 ⟨List.forall_mem_append.2 ⟨hgap, hbetween⟩, hgaps⟩,
      ⟨hspells _ hannounces, hspelled⟩, hnext, ?_, ?_, hend⟩
    · rw [htakes.1, hword.1, spread_cons, hrest]
      simp only [List.append_assoc]
    · rw [hlexemes, List.reverse_cons, List.append_assoc, List.singleton_append, startsOf, hoffset',
        hoffset, Piece.text, ← List.append_assoc, Text.utf8Length_append (word ++ gap) between]
      simp only [Nat.add_assoc]
    · rw [hstop, hoffset', hoffset, spread_cons]
      simp only [Text.utf8Length_append]
      omega

/-- A text that is cut up to its end is made of words and blanks. -/
theorem exists_pieces_of_tokenizeFrom (h : (tokenizeFrom found afterOperand c).fault = none) :
    ∃ lead pieces, c.rest = lead ++ spread pieces ∧ Blanks lead ∧ (∀ p ∈ pieces, Blanks p.gap) ∧
      SpelledFrom afterOperand (pieces.map (·.toSpelling)) ∧
      (tokenizeFrom found afterOperand c).lexemes =
        found.reverse ++ startsOf (c.offset + utf8Length lead) pieces := by
  obtain ⟨lead, pieces, rest, next, hrest, hlead, hgaps, hspelled, hnext, hlexemes, -, hend⟩ :=
    exists_words_of_tokenizeFrom found afterOperand c
  obtain rfl := hend h
  rw [List.append_nil] at hrest
  exact ⟨lead, pieces, hrest, hlead, hgaps, hspelled.spelledFrom hnext, hlexemes⟩

/-! ## Cutting words with blanks between them -/

/-- Blanks that are taken in front of words are some of those that are there. -/
theorem exists_append_of_blanks {gap gap' rest rest' : List Char} (hgap : Blanks gap)
    (hhead : ∀ x ∈ rest'.head?, isBlank x = false) (h : gap ++ rest = gap' ++ rest') :
    ∃ between, gap' = gap ++ between ∧ rest = between ++ rest' := by
  rcases List.append_eq_append_iff.1 h with ⟨between, hgap', hrest⟩ | ⟨between, hgap', hrest⟩
  · exact ⟨between, hgap', hrest⟩
  · -- More blanks than there are would take from what is behind them.
    cases between with
    | nil => exact ⟨[], by rw [hgap', List.append_nil, List.append_nil], hrest.symm⟩
    | cons x between =>
      have hblank := hgap x (hgap' ▸ List.mem_append_right _ List.mem_cons_self)
      rw [hhead x (by rw [hrest]; rfl)] at hblank
      cases hblank

theorem SpelledFrom.head_spread (h : SpelledFrom afterOperand (pieces.map (·.toSpelling))) :
    ∀ x ∈ (spread pieces).head?, isBlank x = false := by
  cases pieces with
  | nil => exact nofun
  | cons p rest =>
    have hsolid := h.1.solid
    rw [spread_cons, List.head?_append_of_ne_nil _ hsolid.ne_nil]
    exact hsolid.head

theorem Separated.apart {p : Piece} (h : Separated (p :: pieces)) (hgap : Blanks p.gap) :
    Apart (p.gap ++ spread pieces) := by
  intro x hx
  by_cases hnil : p.gap = []
  · have hend : pieces = [] := by_contra fun hne => h.1 hne hnil
    rw [hnil, hend] at hx
    cases hx
  · rw [List.head?_append_of_ne_nil _ hnil] at hx
    exact hgap x (List.mem_of_mem_head? hx)

/-- **Words with blanks between them are cut into their tokens**, by induction on the words. -/
theorem tokenizeFrom_spread (hrest : c.rest = lead ++ spread pieces) (hlead : Blanks lead)
    (hgaps : ∀ p ∈ pieces, Blanks p.gap) (hseparated : Separated pieces)
    (h : SpelledFrom afterOperand (pieces.map (·.toSpelling))) :
    (tokenizeFrom found afterOperand c).fault = none ∧
      (tokenizeFrom found afterOperand c).lexemes =
        found.reverse ++ startsOf (c.offset + utf8Length lead) pieces := by
  induction pieces generalizing found afterOperand c lead with
  | nil =>
    have hskip : skipBlanks c = ⟨c.offset + utf8Length lead, []⟩ :=
      Cursor.skipWhile_eq_iff.2 ⟨lead, ⟨hrest, rfl⟩, hlead, nofun⟩
    rw [tokenizeFrom_end (by rw [hskip]), startsOf, List.append_nil]
    exact ⟨rfl, rfl⟩
  | cons p rest ih =>
    have hskip : skipBlanks c = ⟨c.offset + utf8Length lead, spread (p :: rest)⟩ :=
      Cursor.skipWhile_eq_iff.2 ⟨lead, ⟨hrest, rfl⟩, hlead, h.head_spread⟩
    obtain ⟨hspells, hspelled⟩ := h
    rw [List.forall_mem_cons] at hgaps
    -- The place behind the word, where a blank or the end is.
    let behind : Cursor := ⟨(skipBlanks c).offset + utf8Length p.word, p.gap ++ spread rest⟩
    have hword : (skipBlanks c).Takes p.word behind := ⟨by rw [hskip, spread_cons], rfl⟩
    have hapart : Apart behind.rest := hseparated.apart hgaps.1
    have hnext : Announces (nextToken (rest.map (·.toSpelling))) behind.rest :=
      hspelled.announces hgaps.1
    obtain ⟨gap, next, hscan, htakes, hgap⟩ := scan_of_spells hspells hword hapart hnext
    obtain ⟨between, hbetween, hrest'⟩ :=
      exists_append_of_blanks hgap hspelled.head_spread htakes.1.symm
    have hne : (skipBlanks c).rest ≠ [] := by
      rw [hword.1]
      exact fun hnil => hspells.solid.ne_nil (List.append_eq_nil_iff.1 hnil).1
    have hblanks : Blanks between := fun x hx => hgaps.1 x (hbetween ▸ List.mem_append_right _ hx)
    have hoffset : (skipBlanks c).offset = c.offset + utf8Length lead := by rw [hskip]
    have hstop : next.offset + utf8Length between = (skipBlanks c).offset + utf8Length p.text := by
      rw [htakes.2, hword.2, Piece.text, hbetween, Text.utf8Length_append, Text.utf8Length_append]
      omega
    rw [tokenizeFrom_token hne hscan]
    obtain ⟨hfault, hlexemes⟩ := ih hrest' hblanks hgaps.2 hseparated.2 hspelled
    refine ⟨hfault, ?_⟩
    rw [hlexemes, hstop, hoffset, startsOf, List.reverse_cons, List.append_assoc]
    rfl

/-! ## The words of a text -/

theorem append_inj_of_utf8Length {x x' y y' : List Char} (h : x ++ y = x' ++ y')
    (hlength : utf8Length x = utf8Length x') : x = x' ∧ y = y' := by
  have hsplit : Text.splitAtByte? (utf8Length x) (x ++ y) = some (x, y) :=
    Text.splitAtByte?_eq_some_iff.2 ⟨rfl, rfl⟩
  have hsplit' : Text.splitAtByte? (utf8Length x) (x ++ y) = some (x', y') :=
    Text.splitAtByte?_eq_some_iff.2 ⟨h, hlength⟩
  exact Prod.mk.inj (Option.some.inj (hsplit.symm.trans hsplit'))

/-- A word does not end with blanks. -/
theorem Solid.eq_nil {word gap : List Char} (h : Solid (word ++ gap)) (hgap : Blanks gap) :
    gap = [] := by
  by_contra hne
  have hlast := h.last (gap.getLast hne) (by
    rw [List.getLast?_append_of_ne_nil _ hne, List.getLast?_eq_some_getLast hne]
    rfl)
  rw [hgap _ (List.getLast_mem hne)] at hlast
  cases hlast

/-- Where a word ends and blanks begin is known from both together. -/
theorem Solid.append_inj {word word' gap gap' : List Char} (hword : Solid word)
    (hword' : Solid word') (hgap : Blanks gap) (hgap' : Blanks gap')
    (h : word ++ gap = word' ++ gap') : word = word' ∧ gap = gap' := by
  rcases List.append_eq_append_iff.1 h with ⟨between, rfl, rfl⟩ | ⟨between, rfl, rfl⟩
  · obtain rfl := hword'.eq_nil fun x hx => hgap x (List.mem_append_left _ hx)
    exact ⟨(List.append_nil word).symm, rfl⟩
  · obtain rfl := hword.eq_nil fun x hx => hgap' x (List.mem_append_left _ hx)
    exact ⟨List.append_nil word', rfl⟩

/-- The pieces are known from the text and from where the tokens start. -/
theorem pieces_unique {pieces pieces' : List Piece} {offset : Nat}
    (hgaps : ∀ p ∈ pieces, Blanks p.gap) (hsolid : ∀ p ∈ pieces, Solid p.word)
    (hgaps' : ∀ p ∈ pieces', Blanks p.gap) (hsolid' : ∀ p ∈ pieces', Solid p.word)
    (hstarts : startsOf offset pieces = startsOf offset pieces')
    (hspread : spread pieces = spread pieces') : pieces = pieces' := by
  induction pieces generalizing pieces' offset with
  | nil =>
    cases pieces' with
    | nil => rfl
    | cons p' rest' => cases hstarts
  | cons p rest ih =>
    cases pieces' with
    | nil => cases hstarts
    | cons p' rest' =>
      rw [List.forall_mem_cons] at hgaps hsolid hgaps' hsolid'
      rw [startsOf, startsOf, List.cons.injEq, Lexeme.mk.injEq] at hstarts
      obtain ⟨⟨-, htoken⟩, hstarts⟩ := hstarts
      have htext : p.text = p'.text ∧ spread rest = spread rest' := by
        cases rest with
        | nil =>
          cases rest' with
          | nil => exact ⟨by simpa [spread] using hspread, rfl⟩
          | cons q' rest' => cases hstarts
        | cons q rest =>
          cases rest' with
          | nil => cases hstarts
          | cons q' rest' =>
            -- The tokens behind the first pieces start at one place.
            have hoffset := congrArg Lexeme.offset (List.cons.inj hstarts).1
            exact append_inj_of_utf8Length hspread (Nat.add_left_cancel hoffset)
      obtain ⟨hword, hgap⟩ := hsolid.1.append_inj hsolid'.1 hgaps.1 hgaps'.1 htext.1
      rw [htext.1] at hstarts
      have hrest := ih hgaps.2 hsolid.2 hgaps'.2 hsolid'.2 hstarts htext.2
      obtain ⟨⟨token, word⟩, gap⟩ := p
      obtain ⟨⟨token', word'⟩, gap'⟩ := p'
      cases htoken
      cases hword
      cases hgap
      rw [hrest]

/-- A text is made of the words of its tokens in one way only. -/
theorem LaysOut.unique {text lead lead' : List Char} {lexemes : List Lexeme}
    {pieces pieces' : List Piece} (h : LaysOut text lexemes lead pieces)
    (h' : LaysOut text lexemes lead' pieces') : lead = lead' ∧ pieces = pieces' := by
  have hstarts := h.starts.symm.trans h'.starts
  have htext := h.text_eq.symm.trans h'.text_eq
  have hlead : lead = lead' ∧ spread pieces = spread pieces' := by
    cases pieces with
    | nil =>
      cases pieces' with
      | nil => exact ⟨by simpa [spread] using htext, rfl⟩
      | cons p' rest' => cases hstarts
    | cons p rest =>
      cases pieces' with
      | nil => cases hstarts
      | cons p' rest' =>
        exact append_inj_of_utf8Length htext (congrArg Lexeme.offset (List.cons.inj hstarts).1)
  rw [hlead.1] at hstarts
  exact ⟨hlead.1, pieces_unique h.gaps h.solid h'.gaps h'.solid hstarts hlead.2⟩

theorem SpelledFrom.solid (h : SpelledFrom afterOperand (pieces.map (·.toSpelling))) :
    ∀ p ∈ pieces, Solid p.word := by
  induction pieces generalizing afterOperand with
  | nil => exact nofun
  | cons p rest ih => exact List.forall_mem_cons.2 ⟨h.1.solid, ih h.2⟩

theorem map_token_startsOf (offset : Nat) (pieces : List Piece) :
    (startsOf offset pieces).map (·.token) = (pieces.map (·.toSpelling)).map (·.token) := by
  induction pieces generalizing offset with
  | nil => rfl
  | cons p rest ih => exact congrArg (p.token :: ·) (ih _)

/-- Words with blanks between them are cut into their tokens where they start. -/
theorem laysOut_of_spelledFrom (hlead : Blanks lead) (hgaps : ∀ p ∈ pieces, Blanks p.gap)
    (hseparated : Separated pieces) (h : SpelledFrom false (pieces.map (·.toSpelling))) :
    (tokenize (lead ++ spread pieces)).fault = none ∧
      LaysOut (lead ++ spread pieces) (tokenize (lead ++ spread pieces)).lexemes lead pieces := by
  have hrest : (Cursor.ofText (lead ++ spread pieces)).rest = lead ++ spread pieces := rfl
  obtain ⟨hfault, hlexemes⟩ := tokenizeFrom_spread hrest hlead hgaps hseparated h
  refine ⟨hfault, rfl, hlead, hgaps, h.solid, hlexemes.trans ?_⟩
  rw [Cursor.ofText, Nat.zero_add]
  rfl

/-- A text that is cut into tokens is made of their words. -/
theorem exists_spelledFrom_of_tokenize {text : List Char} (h : (tokenize text).fault = none) :
    ∃ lead pieces, LaysOut text (tokenize text).lexemes lead pieces ∧
      SpelledFrom false (pieces.map (·.toSpelling)) := by
  obtain ⟨lead, pieces, htext, hlead, hgaps, hspelled, hlexemes⟩ := exists_pieces_of_tokenizeFrom h
  refine ⟨lead, pieces, ⟨htext, hlead, hgaps, hspelled.solid, hlexemes.trans ?_⟩, hspelled⟩
  rw [Cursor.ofText, Nat.zero_add]
  rfl

/-- **Spacing does not matter.** A text that is cut into tokens is made of words that start where
the tokens do, and of blanks. The same words with other blanks between them, wherever there are
some, are cut into the same tokens. -/
theorem tokenize_respaced {text : List Char} (h : (tokenize text).fault = none) :
    (∃ lead pieces, LaysOut text (tokenize text).lexemes lead pieces) ∧
      ∀ lead pieces, LaysOut text (tokenize text).lexemes lead pieces →
        ∀ lead' pieces', Blanks lead' → (∀ p ∈ pieces', Blanks p.gap) → Separated pieces' →
          pieces'.map (·.toSpelling) = pieces.map (·.toSpelling) →
          (tokenize (lead' ++ spread pieces')).fault = none ∧
            (tokenize (lead' ++ spread pieces')).tokens = (tokenize text).tokens ∧
            LaysOut (lead' ++ spread pieces') (tokenize (lead' ++ spread pieces')).lexemes lead'
              pieces' := by
  obtain ⟨lead, pieces, hlays, hspelled⟩ := exists_spelledFrom_of_tokenize h
  refine ⟨⟨lead, pieces, hlays⟩, ?_⟩
  intro lead₁ pieces₁ hlays₁ lead' pieces' hlead' hgaps' hseparated hsame
  obtain ⟨rfl, rfl⟩ := hlays.unique hlays₁
  rw [← hsame] at hspelled
  obtain ⟨hfault, hlays'⟩ := laysOut_of_spelledFrom hlead' hgaps' hseparated hspelled
  refine ⟨hfault, ?_, hlays'⟩
  rw [Lexed.tokens, Lexed.tokens, hlays'.starts, hlays.starts, map_token_startsOf,
    map_token_startsOf, hsame]

/-- The first of the names `div div text` is a name, the second one an operator, and the third one
that of a node type, however far away the parenthesis is. -/
theorem tokenize_respaced_div :
    let text := "div div text()".toList
    let pieces : List Piece := [⟨⟨.name "div", ['d', 'i', 'v']⟩, [' ']⟩,
      ⟨⟨.div, ['d', 'i', 'v']⟩, [' ']⟩, ⟨⟨.nodeType "text", ['t', 'e', 'x', 't']⟩, []⟩,
      ⟨⟨.leftParen, ['(']⟩, []⟩, ⟨⟨.rightParen, [')']⟩, []⟩]
    let pieces' : List Piece := [⟨⟨.name "div", ['d', 'i', 'v']⟩, ['\t']⟩,
      ⟨⟨.div, ['d', 'i', 'v']⟩, ['\r', '\n']⟩,
      ⟨⟨.nodeType "text", ['t', 'e', 'x', 't']⟩, [' ', ' ']⟩,
      ⟨⟨.leftParen, ['(']⟩, [' ']⟩, ⟨⟨.rightParen, [')']⟩, ['\n']⟩]
    let text' := " div\tdiv\r\ntext  ( )\n".toList
    (tokenize text).fault = none ∧ LaysOut text (tokenize text).lexemes [] pieces ∧
      Separated pieces' ∧ text' = [' '] ++ spread pieces' ∧
      (tokenize text').fault = none ∧ (tokenize text').tokens = (tokenize text).tokens ∧
      LaysOut text' (tokenize text').lexemes [' '] pieces' := by
  intro text pieces pieces' text'
  have hfault : (tokenize text).fault = none := by with_unfolding_all rfl
  have hlexemes : (tokenize text).lexemes = startsOf 0 pieces := by with_unfolding_all rfl
  have hsolid : ∀ p ∈ pieces, Solid p.word := by
    unfold pieces
    iterate 5 refine List.forall_mem_cons.2 ⟨solid_of_all (List.cons_ne_nil _ _) rfl, ?_⟩
    exact nofun
  have hgaps : ∀ p ∈ pieces, Blanks p.gap := by
    unfold pieces
    decide
  have hgaps' : ∀ p ∈ pieces', Blanks p.gap := by
    unfold pieces'
    decide
  have hlays : LaysOut text (tokenize text).lexemes [] pieces :=
    ⟨rfl, nofun, hgaps, hsolid, hlexemes⟩
  have hseparated : Separated pieces' := by
    simp [pieces', Separated]
  exact ⟨hfault, hlays, hseparated, rfl,
    (tokenize_respaced hfault).2 [] pieces hlays [' '] pieces' (by decide) hgaps' hseparated rfl⟩

end XmlQuery.XPath
