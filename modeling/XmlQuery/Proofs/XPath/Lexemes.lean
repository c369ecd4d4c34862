import XmlQuery.Proofs.Markup.TagGrammar
import XmlQuery.XPath.Lexer

/-!
# Words of tokens

A token is cut from the front of a text by what its characters are, but not by them alone. Whether
an operand has ended in front of a word decides whether it can be an operator, and what comes
next, at a distance or not, decides what kind of name it is. The rules here give the words of each
token, for what is in front and what comes next. They are exact: what is cut off is a word by
them, and a word by them is cut off where a blank or the end of the text is behind it.

## Main definitions

* `Announces`: what is left of a text starts with a token, as far as names look
* `Numeral`: the words of numbers
* `nameToken`, `prefixedToken`: the tokens of names, by what comes next
* `Spells`: a word is one of a token

## Main results

* `spells_of_scan`: **what is cut off is a word of the token**, with blanks behind it
* `scan_of_spells`: **a word is cut off** where it ends
-/

namespace XmlQuery.XPath

open Markup (Blanks isNCName isNCNameChar isNCNameStart)
open Text (Cursor isBlank utf8Length)

/-! ## What comes next -/

/-- What is left of a text, blanks aside, starts with a parenthesis or with two colons just if the
next token is this sign. -/
structure Announces (next : Option Token) (rest : List Char) : Prop where
  /-- A parenthesis comes next. -/
  paren : next = some .leftParen ↔ (rest.dropWhile isBlank).head? = some '('
  /-- Two colons come next. -/
  colons : next = some .doubleColon ↔ [':', ':'] <+: rest.dropWhile isBlank

theorem announces_blanks_append {next : Option Token} {gap rest : List Char} (h : Blanks gap) :
    Announces next (gap ++ rest) ↔ Announces next rest := by
  have hdrop : (gap ++ rest).dropWhile isBlank = rest.dropWhile isBlank :=
    List.dropWhile_append_of_pos h
  constructor
  · rintro ⟨hparen, hcolons⟩
    exact ⟨hdrop ▸ hparen, hdrop ▸ hcolons⟩
  · rintro ⟨hparen, hcolons⟩
    exact ⟨hdrop ▸ hparen, hdrop ▸ hcolons⟩

/-- Nothing comes behind the blanks at the end of a text. -/
theorem announces_end {gap : List Char} (h : Blanks gap) : Announces none gap := by
  have hdrop : gap.dropWhile isBlank = [] := List.dropWhile_eq_nil_iff.2 h
  constructor
  · rw [hdrop]
    exact ⟨nofun, nofun⟩
  · rw [hdrop]
    exact ⟨nofun, fun hprefix => absurd (List.prefix_nil.1 hprefix) nofun⟩

/-- Whatever is left of a text, a token can be told that it announces. -/
theorem exists_announces (rest : List Char) : ∃ next, Announces next rest := by
  by_cases hparen : (rest.dropWhile isBlank).head? = some '('
  · refine ⟨some .leftParen, iff_of_true rfl hparen, iff_of_false nofun ?_⟩
    rintro ⟨tail, htail⟩
    rw [← htail] at hparen
    exact absurd hparen (by simp)
  · by_cases hcolons : [':', ':'] <+: rest.dropWhile isBlank
    · exact ⟨some .doubleColon, iff_of_false nofun hparen, iff_of_true rfl hcolons⟩
    · exact ⟨none, iff_of_false nofun hparen, iff_of_false nofun hcolons⟩

/-- Behind a word there is a blank, or nothing. -/
def Apart (rest : List Char) : Prop := ∀ x ∈ rest.head?, isBlank x = true

/-! ## Words -/

/-- The signs and their words. -/
def signs : List (Token × List Char) :=
  [(.slash, ['/']), (.doubleSlash, ['/', '/']), (.dot, ['.']), (.doubleDot, ['.', '.']),
    (.at, ['@']), (.pipe, ['|']), (.plus, ['+']), (.minus, ['-']), (.star, ['*']), (.eq, ['=']),
    (.notEq, ['!', '=']), (.lt, ['<']), (.ltEq, ['<', '=']), (.gt, ['>']), (.gtEq, ['>', '=']),
    (.leftParen, ['(']), (.rightParen, [')']), (.leftBracket, ['[']), (.rightBracket, [']']),
    (.comma, [',']), (.dollar, ['$']), (.doubleColon, [':', ':'])]

/-- Digits, with a point in front of them, between them or behind them. -/
inductive Numeral : List Char → Prop
  /-- Digits alone. -/
  | whole {digits : List Char} : digits ≠ [] → (∀ x ∈ digits, Number.isDigit x = true) →
    Numeral digits
  /-- Digits and a point. -/
  | fraction {whole digits : List Char} : whole ≠ [] ∨ digits ≠ [] →
    (∀ x ∈ whole, Number.isDigit x = true) → (∀ x ∈ digits, Number.isDigit x = true) →
    Numeral (whole ++ '.' :: digits)

/-- The token of a name without a colon, in front of a token. -/
def nameToken (next : Option Token) (name : String) : Token :=
  match next with
  | some .doubleColon => .axis name
  | some .leftParen => if isNodeType name then .nodeType name else .functionName name
  | _ => .name name

/-- The token of a name with a prefix, in front of a token. -/
def prefixedToken (next : Option Token) (nsPrefix localPart : String) : Token :=
  match next with
  | some .leftParen => .functionName (nsPrefix ++ ":" ++ localPart)
  | _ => .qname nsPrefix localPart

/-- The word is the name of something: after an operand it is not the spelling of an operator. -/
def Names (afterOperand : Bool) (word : List Char) : Prop :=
  isNCName word = true ∧ (afterOperand = true → operatorName? word = none)

/-- The words of tokens, after an operand or not, in front of a token. -/
inductive Spells (afterOperand : Bool) (next : Option Token) : Token → List Char → Prop
  /-- A sign. -/
  | sign {t : Token} {word : List Char} : (t, word) ∈ signs → Spells afterOperand next t word
  /-- A number. -/
  | number {word : List Char} : Numeral word →
    Spells afterOperand next (.number ((Number.ofText? word).getD Number.nan)) word
  /-- A string between two quotes. -/
  | string {quote : Char} {content : List Char} : quote = '"' ∨ quote = '\'' → quote ∉ content →
    Spells afterOperand next (.string (String.ofList content)) (quote :: content ++ [quote])
  /-- An operator that is spelled by a name. -/
  | operator {t : Token} {word : List Char} : isNCName word = true → afterOperand = true →
    operatorName? word = some t → Spells afterOperand next t word
  /-- A name. -/
  | name {word : List Char} : Names afterOperand word →
    Spells afterOperand next (nameToken next (String.ofList word)) word
  /-- A name with a prefix. -/
  | prefixed {p part : List Char} : Names afterOperand p → isNCName part = true →
    Spells afterOperand next (prefixedToken next (String.ofList p) (String.ofList part))
      (p ++ ':' :: part)
  /-- A prefix with a wildcard. -/
  | wildcard {p : List Char} : Names afterOperand p →
    Spells afterOperand next (.prefixWildcard (String.ofList p)) (p ++ [':', '*'])

variable {afterOperand : Bool} {next next' : Option Token} {t : Token} {word rest : List Char}
  {c d : Cursor}

/-! ## Numbers -/

theorem isDigit_of_isBlank {x : Char} (h : isBlank x = true) : Number.isDigit x = false := by
  simp only [isBlank, Bool.or_eq_true, beq_iff_eq] at h
  rcases h with ((rfl | rfl) | rfl) | rfl <;> decide

theorem numeral_numberText {text : List Char} (h : startsNumber text = true) :
    Numeral (numberText text) := by
  have hdigits : ∀ {text : List Char}, ∀ x ∈ text.takeWhile Number.isDigit,
      Number.isDigit x = true :=
    fun x => List.mem_takeWhile_imp
  have hne := numberText_ne_nil h
  revert hne
  rw [numberText]
  split
  · exact fun hne => .whole hne hdigits
  · next rest hpoints hdrop =>
    refine fun _ => .fraction ?_ hdigits hdigits
    -- Without digits in front of the point the number starts with it, so there is one behind it.
    by_cases hwhole : text.takeWhile Number.isDigit = []
    · right
      have htext : text = '.' :: rest := by
        rw [← List.takeWhile_append_dropWhile (p := Number.isDigit) (l := text), hwhole, hdrop,
          List.nil_append]
      rw [htext] at h
      cases rest with
      | nil => exact absurd h (by decide)
      | cons x rest =>
        rw [startsNumber] at h
        rw [List.takeWhile_cons_of_pos h]
        exact List.cons_ne_nil _ _
    · exact .inl hwhole
  · exact fun hne => .whole hne hdigits

theorem isPrefix_numberText (text : List Char) : numberText text <+: text := by
  have hsplit := List.takeWhile_append_dropWhile (p := Number.isDigit) (l := text)
  rw [numberText]
  split
  · exact ⟨_, hsplit⟩
  · next rest hpoints hdrop =>
    have hdigits := List.takeWhile_append_dropWhile (p := Number.isDigit) (l := rest)
    refine ⟨rest.dropWhile Number.isDigit, ?_⟩
    rw [List.append_assoc, List.cons_append, hdigits, ← hdrop, hsplit]
  · exact ⟨_, hsplit⟩

theorem isDigit_point : Number.isDigit '.' = false := rfl

theorem startsNumber_of_isDigit {x : Char} (h : Number.isDigit x = true) (rest : List Char) :
    startsNumber (x :: rest) = true := by
  unfold startsNumber
  split
  · next heq =>
    cases heq
    rw [isDigit_point] at h
    cases h
  · next heq =>
    cases heq
    exact h
  · next heq => cases heq

/-- A number is cut off in front of a blank. -/
theorem numberText_append (h : Numeral word) (hrest : Apart rest) :
    startsNumber (word ++ rest) = true ∧ numberText (word ++ rest) = word := by
  have hbreak : ∀ x ∈ rest.head?, Number.isDigit x = false :=
    fun x hx => isDigit_of_isBlank (hrest x hx)
  cases h with
  | whole hne hdigits =>
    obtain ⟨htake, hdrop⟩ := Text.takeWhile_dropWhile_append hdigits hbreak
    constructor
    · obtain ⟨x, word, rfl⟩ := List.exists_cons_of_ne_nil hne
      exact startsNumber_of_isDigit (hdigits x List.mem_cons_self) _
    · rw [numberText, hdrop, htake]
      -- No point follows the digits.
      split
      · exact absurd (hrest '.' rfl) (by decide)
      · exact absurd (hrest '.' rfl) (by decide)
      · rfl
  | @fraction whole digits hne hwhole hdigits =>
    have hpoint : ∀ x ∈ ('.' :: (digits ++ rest)).head?, Number.isDigit x = false := by
      rintro x ⟨⟩
      exact isDigit_point
    obtain ⟨htake, hdrop⟩ := Text.takeWhile_dropWhile_append hwhole hpoint
    obtain ⟨htake', -⟩ := Text.takeWhile_dropWhile_append hdigits hbreak
    rw [List.append_assoc, List.cons_append]
    constructor
    · cases whole with
      | nil =>
        obtain ⟨x, digits, rfl⟩ := List.exists_cons_of_ne_nil (hne.resolve_left (absurd rfl))
        exact hdigits x List.mem_cons_self
      | cons x whole => exact startsNumber_of_isDigit (hwhole x List.mem_cons_self) _
    · rw [numberText, hdrop, htake]
      split
      · next rest' heq =>
        -- A second point would be a digit or a blank.
        obtain ⟨-, heq⟩ := List.cons.inj heq
        cases digits with
        | nil => exact absurd (hrest '.' (by rw [← List.nil_append rest, heq]; rfl)) (by decide)
        | cons x digits =>
          obtain ⟨rfl, -⟩ := List.cons.inj heq
          exact absurd (hdigits '.' List.mem_cons_self) (by decide)
      · next heq =>
        obtain ⟨-, rfl⟩ := List.cons.inj heq
        rw [htake']
      · next hpoint => exact absurd rfl (hpoint _)

/-! ## Signs -/

/-- What is cut off as a sign is one of the table. -/
theorem mem_signs_of_sign? {text : List Char} {n : Nat} (h : sign? text = some (t, n)) :
    (t, text.take n) ∈ signs := by
  unfold sign? at h
  split at h
  all_goals cases h
  all_goals simp [signs]

/-- A word that is cut off as a sign as a whole. -/
theorem spells_sign (h : sign? word = some (t, word.length)) : Spells afterOperand next t word := by
  have hmem := mem_signs_of_sign? h
  rw [List.take_length] at hmem
  exact .sign hmem

theorem apart_cases (h : Apart rest) :
    rest = [] ∨ ∃ x rest', rest = x :: rest' ∧ (x = ' ' ∨ x = '\t' ∨ x = '\n' ∨ x = '\r') := by
  cases rest with
  | nil => exact .inl rfl
  | cons x rest =>
    have hx := h x rfl
    simp only [isBlank, Bool.or_eq_true, beq_iff_eq, or_assoc] at hx
    exact .inr ⟨x, rest, rfl, hx⟩

/-- A sign is cut off in front of a blank, which makes no longer sign of it. -/
theorem sign?_append (h : (t, word) ∈ signs) (hrest : Apart rest) :
    startsNumber (word ++ rest) = false ∧ sign? (word ++ rest) = some (t, word.length) := by
  have hall : ∀ p ∈ signs, startsNumber (p.2 ++ rest) = false ∧
      sign? (p.2 ++ rest) = some (p.1, p.2.length) := by
    rcases apart_cases hrest with rfl | ⟨_, _, rfl, rfl | rfl | rfl | rfl⟩
    all_goals
      repeat refine List.forall_mem_cons.2 ⟨⟨rfl, rfl⟩, ?_⟩
      exact List.forall_mem_nil _
  exact hall _ h

/-! ## Names -/

theorem isNCNameChar_of_isBlank {x : Char} (h : isBlank x = true) : isNCNameChar x = false := by
  rw [isNCNameChar, Markup.isNameChar_of_isBlank h, Bool.and_false]

theorem isNCNameChar_of_isNCNameStart {x : Char} (h : isNCNameStart x = true) :
    isNCNameChar x = true := by
  rw [isNCNameStart, Bool.and_eq_true] at h
  rw [isNCNameChar, Markup.isNameChar, h.1, h.2]
  rfl

theorem exists_cons_of_isNCName (h : isNCName word = true) :
    ∃ first tail, word = first :: tail ∧ isNCNameStart first = true := by
  cases word with
  | nil => cases h
  | cons first tail =>
    rw [isNCName, Bool.and_eq_true] at h
    exact ⟨first, tail, rfl, h.1⟩

theorem isNCNameChar_of_mem (h : isNCName word = true) : ∀ x ∈ word, isNCNameChar x = true := by
  cases word with
  | nil => cases h
  | cons first tail =>
    rw [isNCName, Bool.and_eq_true, List.all_eq_true] at h
    rintro x (_ | ⟨_, hx⟩)
    · exact isNCNameChar_of_isNCNameStart h.1
    · exact h.2 x hx

/-- A name without a colon is the longest one at the front of a text. -/
theorem isNCName_takeWhile {first : Char} (h : isNCNameStart first = true) (tail : List Char) :
    isNCName ((first :: tail).takeWhile isNCNameChar) = true := by
  rw [List.takeWhile_cons_of_pos (isNCNameChar_of_isNCNameStart h), isNCName, h, Bool.true_and,
    List.all_eq_true]
  exact fun x => List.mem_takeWhile_imp

/-- Where a name ends, what comes next tells what it is the name of. -/
theorem simpleName_spec (name : String) (c : Cursor) :
    ∃ gap, c.Takes gap (simpleName name c).2 ∧ Blanks gap ∧
      ∀ next, Announces next c.rest → (simpleName name c).1 = nameToken next name := by
  have hskip := c.takes_skipWhile isBlank
  have hblanks : Blanks (c.rest.takeWhile isBlank) := fun x => List.mem_takeWhile_imp
  have hrest : (skipBlanks c).rest = c.rest.dropWhile isBlank := rfl
  rw [simpleName]
  split
  · next tail hcolons =>
    refine ⟨_, hskip, hblanks, fun next hnext => ?_⟩
    rw [hnext.colons.2 ⟨tail, by rw [← hrest, hcolons]; rfl⟩]
    rfl
  · next tail hparen =>
    refine ⟨_, hskip, hblanks, fun next hnext => ?_⟩
    rw [hnext.paren.2 (by rw [← hrest, hparen]; rfl)]
    rfl
  · next hcolons hparen =>
    refine ⟨[], ⟨rfl, rfl⟩, Markup.blanks_nil, fun next hnext => ?_⟩
    unfold nameToken
    split
    · obtain ⟨tail, htail⟩ := hnext.colons.1 rfl
      exact absurd (hrest.trans htail.symm) (hcolons tail)
    · obtain ⟨tail, htail⟩ := List.head?_eq_some_iff.1 (hnext.paren.1 rfl)
      exact absurd (hrest.trans htail) (hparen tail)
    · rfl

/-- Where a name with a prefix ends, what comes next tells what it is the name of. -/
theorem prefixedName_spec (p part : String) (c : Cursor) :
    ∃ gap, c.Takes gap (prefixedName p part c).2 ∧ Blanks gap ∧
      ∀ next, Announces next c.rest → (prefixedName p part c).1 = prefixedToken next p part := by
  have hskip := c.takes_skipWhile isBlank
  have hblanks : Blanks (c.rest.takeWhile isBlank) := fun x => List.mem_takeWhile_imp
  have hrest : (skipBlanks c).rest = c.rest.dropWhile isBlank := rfl
  rw [prefixedName]
  split
  · next tail hparen =>
    refine ⟨_, hskip, hblanks, fun next hnext => ?_⟩
    rw [hnext.paren.2 (by rw [← hrest, hparen]; rfl)]
    rfl
  · next hparen =>
    refine ⟨[], ⟨rfl, rfl⟩, Markup.blanks_nil, fun next hnext => ?_⟩
    unfold prefixedToken
    split
    · obtain ⟨tail, htail⟩ := List.head?_eq_some_iff.1 (hnext.paren.1 rfl)
      exact absurd (hrest.trans htail) (hparen tail)
    · rfl

/-- What is cut off at a cursor is a word of the token, whatever comes next, and blanks. -/
def CutsWord (afterOperand : Bool) (c : Cursor) (r : Token × Cursor) : Prop :=
  ∃ word gap, c.Takes (word ++ gap) r.2 ∧ Blanks gap ∧
    ∀ next, Announces next r.2.rest → Spells afterOperand next r.1 word

/-- A word without blanks behind it. -/
theorem CutsWord.of_takes {r : Token × Cursor} (h : c.Takes word r.2)
    (hspells : ∀ next, Announces next r.2.rest → Spells afterOperand next r.1 word) :
    CutsWord afterOperand c r :=
  ⟨word, [], (List.append_nil word).symm ▸ h, Markup.blanks_nil, hspells⟩

/-- A name that the next token classifies. -/
theorem CutsWord.of_spec {r : Token × Cursor} {token : Option Token → Token} (h : c.Takes word d)
    (hspec : ∃ gap, d.Takes gap r.2 ∧ Blanks gap ∧
      ∀ next, Announces next d.rest → r.1 = token next)
    (hspells : ∀ next, Spells afterOperand next (token next) word) :
    CutsWord afterOperand c r := by
  obtain ⟨gap, htakes, hgap, htoken⟩ := hspec
  refine ⟨word, gap, h.trans htakes, hgap, fun next hnext => ?_⟩
  rw [htoken next (htakes.1 ▸ (announces_blanks_append hgap).2 hnext)]
  exact hspells next

theorem takes_advance_one {x : Char} (hc : c.rest = x :: rest) : c.Takes [x] (c.advance 1) := by
  have htakes := c.takes_advance 1
  rwa [hc] at htakes

theorem cutsWord_scanName (afterOperand : Bool) {first : Char} {tail : List Char}
    (hc : c.rest = first :: tail) (hfirst : isNCNameStart first = true) :
    CutsWord afterOperand c (scanName afterOperand c) := by
  have hname := isNCName_takeWhile hfirst tail
  rw [← hc] at hname
  have htakes := c.takes_skipWhile isNCNameChar
  rw [scanName]
  dsimp only
  split
  · next t hoperator =>
    refine .of_takes htakes fun next _ => ?_
    split at hoperator
    · next hafter => exact .operator hname hafter hoperator
    · cases hoperator
  · next hoperator =>
    have hnames : Names afterOperand (c.rest.takeWhile isNCNameChar) :=
      ⟨hname, fun hafter => by rwa [if_pos hafter] at hoperator⟩
    -- Behind a colon, a star or the start of a name makes a prefix of the name.
    split
    · next rest hstar =>
      have hwildcard := (c.skipWhile isNCNameChar).takes_advance 2
      rw [hstar] at hwildcard
      exact .of_takes (htakes.trans hwildcard) fun next _ => .wildcard hnames
    · next x rest hx hcolon =>
      have hcolon' := takes_advance_one hcolon
      split
      · next hstart =>
        have hrest : ((c.skipWhile isNCNameChar).advance 1).rest = x :: rest := by
          have h := hcolon'.1
          rw [hcolon] at h
          exact (List.cons.inj h).2.symm
        have hpart := isNCName_takeWhile hstart rest
        rw [← hrest] at hpart
        have hword := (htakes.trans hcolon').trans
          (((c.skipWhile isNCNameChar).advance 1).takes_skipWhile isNCNameChar)
        rw [List.append_assoc] at hword
        exact .of_spec hword (prefixedName_spec _ _ _) fun next => .prefixed hnames hpart
      · exact .of_spec htakes (simpleName_spec _ _) fun next => .name hnames
    · exact .of_spec htakes (simpleName_spec _ _) fun next => .name hnames

/-- What is cut off as a string is the quotes and what is between them, which is without the
quote. -/
theorem scanString_eq_ok_iff {quote : Char} (hc : c.rest = quote :: rest) :
    scanString c quote = .ok (t, d) ↔ ∃ content, t = .string (String.ofList content) ∧
      quote ∉ content ∧ c.Takes (quote :: content ++ [quote]) d := by
  have hdelimiter : (String.singleton quote).toList = [] ++ [quote] :=
    String.toList_singleton quote
  have hopen : c.Takes [quote] (c.advance 1) := takes_advance_one hc
  unfold scanString
  constructor
  · intro h
    split at h
    · cases h
    · next content close hupTo =>
      cases h
      obtain ⟨hcontent, ⟨behind, hclose⟩, hnot⟩ :=
        (Cursor.upTo?_eq_some_iff hdelimiter List.not_mem_nil).1 hupTo
      rw [hdelimiter, List.nil_append] at hclose hnot
      exact ⟨content, rfl, fun hmem => hnot (Markup.singleton_isInfix_iff.2 hmem),
        (hopen.trans hcontent).trans (takes_advance_one hclose.symm)⟩
  · rintro ⟨content, rfl, hnot, htakes⟩
    obtain ⟨close, hquoted, hclose⟩ := Cursor.takes_append_iff.1 htakes
    obtain ⟨start, hstart, hcontent⟩ :=
      (@Cursor.takes_append_iff c close [quote] content).1 hquoted
    obtain rfl : c.advance 1 = start := hstart.advance_eq
    have hupTo : (c.advance 1).upTo? (String.singleton quote) = some (content, close) := by
      refine (Cursor.upTo?_eq_some_iff hdelimiter List.not_mem_nil).2 ⟨hcontent, ?_, ?_⟩
      · rw [hdelimiter]
        exact ⟨d.rest, hclose.1.symm⟩
      · rw [hdelimiter, List.nil_append, Markup.singleton_isInfix_iff]
        exact hnot
    have hclose' : close.advance 1 = d := hclose.advance_eq
    rw [hupTo]
    dsimp only
    rw [hclose']

/-- **What is cut off is a word of the token.** -/
theorem spells_of_scan (h : scan afterOperand c = .ok (t, d)) : CutsWord afterOperand c (t, d) := by
  unfold scan at h
  split at h
  · next hnumber =>
    cases h
    have htakes := c.takes_advance (numberText c.rest).length
    rw [← List.prefix_iff_eq_take.1 (isPrefix_numberText c.rest)] at htakes
    exact .of_takes htakes fun next _ => .number (numeral_numberText hnumber)
  · split at h
    · next t' n hsign =>
      cases h
      exact .of_takes (c.takes_advance n) fun next _ => .sign (mem_signs_of_sign? hsign)
    · split at h
      · cases h
      · next first rest hc =>
        split at h
        · cases h
        · split at h
          · next hquote =>
            obtain ⟨content, rfl, hnot, hword⟩ := (scanString_eq_ok_iff hc).1 h
            exact .of_takes hword fun next _ => .string hquote hnot
          · split at h
            · next hstart =>
              have hcut := cutsWord_scanName afterOperand hc hstart
              rwa [Except.ok.inj h] at hcut
            · cases h

/-! ## Cutting words off -/

theorem isNCNameStart_of_isDigit {x : Char} (h : Number.isDigit x = true) :
    isNCNameStart x = false := by
  have hx : x = Char.ofNat x.toNat := (Char.ofNat_toNat x).symm
  rw [Number.isDigit, Bool.and_eq_true, decide_eq_true_eq, decide_eq_true_eq] at h
  have hlow : 48 ≤ x.toNat := h.1
  have hhigh : x.toNat ≤ 57 := h.2
  generalize x.toNat = n at hx hlow hhigh
  subst hx
  interval_cases n
  all_goals decide

/-- No sign, number or string starts like a name. -/
theorem scan_of_nameStart {first : Char} (hc : c.rest = first :: rest)
    (hfirst : isNCNameStart first = true) :
    scan afterOperand c = .ok (scanName afterOperand c) := by
  have hne : ∀ {x : Char}, isNCNameStart x = false → first ≠ x := by
    rintro x hx rfl
    rw [hfirst] at hx
    cases hx
  have hdigit : Number.isDigit first = false := by
    rw [Bool.eq_false_iff]
    intro hdigit
    rw [isNCNameStart_of_isDigit hdigit] at hfirst
    cases hfirst
  have hnumber : startsNumber c.rest = false := by
    rw [hc]
    unfold startsNumber
    split
    · next heq => exact absurd (List.cons.inj heq).1 (hne rfl)
    · next heq =>
      cases heq
      exact hdigit
    · rfl
  have hsign : sign? c.rest = none := by
    rw [hc]
    unfold sign?
    split
    case h_23 => rfl
    all_goals
      next heq => exact absurd (List.cons.inj heq).1 (hne rfl)
  rw [scan, hnumber, hsign, if_neg (by decide), hc]
  dsimp only
  rw [if_neg (hne rfl), if_neg (not_or.2 ⟨hne rfl, hne rfl⟩), if_pos hfirst]

theorem Apart.not_isNCNameChar (h : Apart rest) : ∀ x ∈ rest.head?, isNCNameChar x = false :=
  fun x hx => isNCNameChar_of_isBlank (h x hx)

/-- The word of a name is what is taken for the name, if no further characters of names follow. -/
theorem skipWhile_of_takes (hname : isNCName word = true) (h : c.Takes word d)
    (hrest : ∀ x ∈ d.rest.head?, isNCNameChar x = false) :
    c.rest.takeWhile isNCNameChar = word ∧ c.skipWhile isNCNameChar = d := by
  refine ⟨?_, Cursor.skipWhile_eq_iff.2 ⟨word, h, isNCNameChar_of_mem hname, hrest⟩⟩
  rw [h.1]
  exact (Text.takeWhile_dropWhile_append (isNCNameChar_of_mem hname) hrest).1

/-- The token that starts with a name that names something and ends at a cursor, and the place after
it. -/
def nameAt (name : List Char) (d : Cursor) : Token × Cursor :=
  match d.rest with
  | ':' :: '*' :: _ => (.prefixWildcard (String.ofList name), d.advance 2)
  | ':' :: first :: _ =>
    if isNCNameStart first then
      prefixedName (String.ofList name)
        (String.ofList ((d.advance 1).rest.takeWhile isNCNameChar))
        ((d.advance 1).skipWhile isNCNameChar)
    else simpleName (String.ofList name) d
  | _ => simpleName (String.ofList name) d

/-- What names something is cut off as a name. -/
theorem scan_of_names (h : Names afterOperand word) (htakes : c.Takes word d)
    (hrest : ∀ x ∈ d.rest.head?, isNCNameChar x = false) :
    scan afterOperand c = .ok (nameAt word d) := by
  obtain ⟨first, tail, rfl, hfirst⟩ := exists_cons_of_isNCName h.1
  obtain ⟨htake, hskip⟩ := skipWhile_of_takes h.1 htakes hrest
  rw [scan_of_nameStart htakes.1 hfirst, scanName, htake, hskip]
  cases afterOperand with
  | false => rfl
  | true =>
    rw [if_pos rfl, h.2 rfl]
    rfl

theorem nameAt_of_ne_colon {name : List Char} (h : ∀ x ∈ d.rest.head?, x ≠ ':') :
    nameAt name d = simpleName (String.ofList name) d := by
  unfold nameAt
  split
  · next hrest => exact absurd rfl (h ':' (by rw [hrest]; rfl))
  · next hrest => exact absurd rfl (h ':' (by rw [hrest]; rfl))
  · rfl

theorem nameAt_prefixed {name part : List Char} {e : Cursor} (h : d.Takes (':' :: part) e)
    (hpart : isNCName part = true) (hrest : ∀ x ∈ e.rest.head?, isNCNameChar x = false) :
    nameAt name d = prefixedName (String.ofList name) (String.ofList part) e := by
  have htakes : d.Takes ([':'] ++ part) e := h
  obtain ⟨second, hcolon, hsecond⟩ := Cursor.takes_append_iff.1 htakes
  obtain ⟨first, tail, rfl, hfirst⟩ := exists_cons_of_isNCName hpart
  obtain ⟨htake, hskip⟩ := skipWhile_of_takes hpart hsecond hrest
  have hadvance : d.advance 1 = second := hcolon.advance_eq
  unfold nameAt
  split
  · next heq =>
    have hstar : '*' = first := (List.cons.inj (List.cons.inj (heq.symm.trans h.1)).2).1
    rw [← hstar] at hfirst
    exact absurd hfirst (by decide)
  · next x _ _ heq =>
    obtain rfl : x = first := (List.cons.inj (List.cons.inj (heq.symm.trans h.1)).2).1
    rw [if_pos hfirst, hadvance, htake, hskip]
  · next hcolon' => exact absurd h.1 (hcolon' _ _)

/-- **A word is cut off** where a blank or the end is behind it. -/
theorem scan_of_spells (h : Spells afterOperand next t word) (htakes : c.Takes word d)
    (hapart : Apart d.rest) (hnext : Announces next d.rest) :
    ∃ gap e, scan afterOperand c = .ok (t, e) ∧ d.Takes gap e ∧ Blanks gap := by
  have hhead := hapart.not_isNCNameChar
  have hhere : d.Takes [] d := ⟨rfl, rfl⟩
  cases h with
  | sign hsign =>
    obtain ⟨hnumber, happend⟩ := sign?_append hsign hapart
    rw [← htakes.1] at hnumber happend
    refine ⟨[], d, ?_, hhere, Markup.blanks_nil⟩
    rw [scan, hnumber, happend, if_neg (by decide)]
    exact congrArg (fun e => Except.ok (t, e)) htakes.advance_eq
  | number hnumeral =>
    obtain ⟨hnumber, happend⟩ := numberText_append hnumeral hapart
    rw [← htakes.1] at hnumber happend
    refine ⟨[], d, ?_, hhere, Markup.blanks_nil⟩
    rw [scan, hnumber, if_pos rfl, scanNumber, happend, htakes.advance_eq]
  | @string quote content hquote hnot =>
    have hrest : c.rest = quote :: (content ++ [quote] ++ d.rest) := htakes.1
    have hscan := (scanString_eq_ok_iff hrest).2 ⟨content, rfl, hnot, htakes⟩
    refine ⟨[], d, ?_, hhere, Markup.blanks_nil⟩
    rcases hquote with rfl | rfl
    · rw [scan, hrest]
      exact hscan
    · rw [scan, hrest]
      exact hscan
  | operator hname hafter hoperator =>
    obtain ⟨first, tail, rfl, hfirst⟩ := exists_cons_of_isNCName hname
    obtain ⟨htake, hskip⟩ := skipWhile_of_takes hname htakes hhead
    refine ⟨[], d, ?_, hhere, Markup.blanks_nil⟩
    rw [scan_of_nameStart htakes.1 hfirst, scanName, htake, hskip, if_pos hafter, hoperator]
  | name hnames =>
    obtain ⟨gap, hgap, hblanks, htoken⟩ := simpleName_spec (String.ofList word) d
    refine ⟨gap, _, ?_, hgap, hblanks⟩
    rw [scan_of_names hnames htakes hhead, nameAt_of_ne_colon fun x hx => ?_, ← htoken next hnext]
    rintro rfl
    exact absurd (hapart ':' hx) (by decide)
  | @prefixed p part hnames hpart =>
    -- The prefix ends at its colon, the name at the blank.
    obtain ⟨e, he, hcolon⟩ := Cursor.takes_append_iff.1 htakes
    obtain ⟨gap, hgap, hblanks, htoken⟩ :=
      prefixedName_spec (String.ofList p) (String.ofList part) d
    refine ⟨gap, _, ?_, hgap, hblanks⟩
    rw [scan_of_names hnames he fun x hx => ?_, nameAt_prefixed hcolon hpart hhead,
      ← htoken next hnext]
    rw [hcolon.1] at hx
    cases hx
    decide
  | @wildcard p hnames =>
    obtain ⟨e, he, hstar⟩ := Cursor.takes_append_iff.1 htakes
    refine ⟨[], d, ?_, hhere, Markup.blanks_nil⟩
    have hadvance : e.advance 2 = d := hstar.advance_eq
    have hrest : e.rest = ':' :: '*' :: d.rest := hstar.1
    rw [scan_of_names hnames he fun x hx => ?_, nameAt, hrest]
    · exact congrArg (fun d => Except.ok (Token.prefixWildcard (String.ofList p), d)) hadvance
    · rw [hrest] at hx
      cases hx
      decide

/-! ## The ends of words -/

/-- A word starts and ends with other characters than blanks. -/
structure Solid (word : List Char) : Prop where
  /-- There are characters. -/
  ne_nil : word ≠ []
  /-- The first one is no blank. -/
  head : ∀ x ∈ word.head?, isBlank x = false
  /-- The last one is no blank. -/
  last : ∀ x ∈ word.getLast?, isBlank x = false

theorem solid_of_forall (hne : word ≠ []) (h : ∀ x ∈ word, isBlank x = false) : Solid word :=
  ⟨hne, fun x hx => h x (List.mem_of_mem_head? hx), fun x hx => h x (List.mem_of_mem_getLast? hx)⟩

theorem solid_of_all (hne : word ≠ []) (h : word.all (!isBlank ·) = true) : Solid word :=
  solid_of_forall hne fun x hx => by simpa using List.all_eq_true.1 h x hx

theorem isBlank_of_isNCNameChar {x : Char} (h : isNCNameChar x = true) : isBlank x = false := by
  rw [Bool.eq_false_iff]
  intro hblank
  rw [isNCNameChar_of_isBlank hblank] at h
  cases h

theorem isBlank_of_isDigit {x : Char} (h : Number.isDigit x = true) : isBlank x = false := by
  rw [Bool.eq_false_iff]
  intro hblank
  rw [isDigit_of_isBlank hblank] at h
  cases h

theorem isBlank_of_mem_isNCName (h : isNCName word = true) : ∀ x ∈ word, isBlank x = false :=
  fun x hx => isBlank_of_isNCNameChar (isNCNameChar_of_mem h x hx)

theorem ne_nil_of_isNCName (h : isNCName word = true) : word ≠ [] := by
  rintro rfl
  cases h

theorem Numeral.solid (h : Numeral word) : Solid word := by
  cases h with
  | whole hne hdigits => exact solid_of_forall hne fun x hx => isBlank_of_isDigit (hdigits x hx)
  | fraction hne hwhole hdigits =>
    refine solid_of_forall (by simp) fun x hx => ?_
    rcases List.mem_append.1 hx with hx | hx
    · exact isBlank_of_isDigit (hwhole x hx)
    · rcases List.mem_cons.1 hx with rfl | hx
      · decide
      · exact isBlank_of_isDigit (hdigits x hx)

theorem Numeral.exists_cons (h : Numeral word) :
    ∃ x tail, word = x :: tail ∧ (Number.isDigit x = true ∨ x = '.') := by
  cases h with
  | whole hne hdigits =>
    obtain ⟨x, tail, rfl⟩ := List.exists_cons_of_ne_nil hne
    exact ⟨x, tail, rfl, .inl (hdigits x List.mem_cons_self)⟩
  | @fraction whole digits hne hwhole hdigits =>
    cases whole with
    | nil => exact ⟨'.', digits, rfl, .inr rfl⟩
    | cons x tail => exact ⟨x, _, rfl, .inl (hwhole x List.mem_cons_self)⟩

theorem solid_sign (h : (t, word) ∈ signs) : Solid word := by
  have hall : ∀ p ∈ signs, Solid p.2 := by
    repeat refine List.forall_mem_cons.2 ⟨solid_of_all (List.cons_ne_nil _ _) rfl, ?_⟩
    exact List.forall_mem_nil _
  exact hall _ h

/-- Words start and end with other characters than blanks. -/
theorem Spells.solid (h : Spells afterOperand next t word) : Solid word := by
  cases h with
  | sign hsign => exact solid_sign hsign
  | number hnumeral => exact hnumeral.solid
  | @string quote content hquote hnot =>
    have hblank : isBlank quote = false := by rcases hquote with rfl | rfl <;> rfl
    refine ⟨by simp, fun x hx => ?_, fun x hx => ?_⟩
    · cases hx
      exact hblank
    · rw [List.getLast?_concat] at hx
      cases hx
      exact hblank
  | operator hname =>
    exact solid_of_forall (ne_nil_of_isNCName hname) (isBlank_of_mem_isNCName hname)
  | name hnames =>
    exact solid_of_forall (ne_nil_of_isNCName hnames.1) (isBlank_of_mem_isNCName hnames.1)
  | prefixed hnames hpart =>
    refine solid_of_forall (by simp) fun x hx => ?_
    rcases List.mem_append.1 hx with hx | hx
    · exact isBlank_of_mem_isNCName hnames.1 x hx
    · rcases List.mem_cons.1 hx with rfl | hx
      · decide
      · exact isBlank_of_mem_isNCName hpart x hx
  | wildcard hnames =>
    refine solid_of_forall (by simp) fun x hx => ?_
    rcases List.mem_append.1 hx with hx | hx
    · exact isBlank_of_mem_isNCName hnames.1 x hx
    · rcases List.mem_pair.1 hx with rfl | rfl <;> rfl

/-! ## What words announce -/

/-- A word that starts with no parenthesis and no colon announces another token than these. -/
theorem announces_of_head {x : Char} {tail : List Char} (hblank : isBlank x = false)
    (hparen : x ≠ '(') (hcolon : x ≠ ':') (ht : t ≠ .leftParen) (ht' : t ≠ .doubleColon) :
    Announces (some t) (x :: tail) := by
  have hdrop : (x :: tail).dropWhile isBlank = x :: tail :=
    List.dropWhile_cons_of_neg (by simp [hblank])
  constructor
  · rw [hdrop]
    exact iff_of_false (fun h => ht (Option.some.inj h)) fun h => hparen (Option.some.inj h)
  · rw [hdrop, List.cons_prefix_cons]
    exact iff_of_false (fun h => ht' (Option.some.inj h)) fun h => hcolon h.1.symm

theorem announces_sign (h : (t, word) ∈ signs) (rest : List Char) :
    Announces (some t) (word ++ rest) := by
  have hparen : Announces (some .leftParen) ('(' :: rest) :=
    ⟨iff_of_true rfl rfl,
      iff_of_false nofun fun h => absurd (List.cons_prefix_cons.1 h).1 (by decide)⟩
  have hcolons : Announces (some .doubleColon) (':' :: ':' :: rest) :=
    ⟨iff_of_false nofun nofun, iff_of_true rfl ⟨rest, rfl⟩⟩
  have hall : ∀ p ∈ signs, Announces (some p.1) (p.2 ++ rest) := by
    simp only [signs, List.forall_mem_cons]
    and_intros
    -- The two signs that are looked for, the others by their first character, the end of the table.
    all_goals first
      | exact hparen
      | exact hcolons
      | exact announces_of_head rfl (by decide) (by decide) nofun nofun
      | exact List.forall_mem_nil _
  exact hall _ h

theorem announces_name (hname : isNCName word = true) (ht : t ≠ .leftParen)
    (ht' : t ≠ .doubleColon) (rest : List Char) : Announces (some t) (word ++ rest) := by
  obtain ⟨first, tail, rfl, hfirst⟩ := exists_cons_of_isNCName hname
  refine announces_of_head (isBlank_of_mem_isNCName hname first List.mem_cons_self) ?_ ?_ ht ht'
  · rintro rfl
    exact absurd hfirst (by decide)
  · rintro rfl
    exact absurd hfirst (by decide)

theorem nameToken_ne {name : String} :
    nameToken next name ≠ .leftParen ∧ nameToken next name ≠ .doubleColon := by
  unfold nameToken
  split
  · exact ⟨nofun, nofun⟩
  · split <;> exact ⟨nofun, nofun⟩
  · exact ⟨nofun, nofun⟩

theorem prefixedToken_ne {p part : String} :
    prefixedToken next p part ≠ .leftParen ∧ prefixedToken next p part ≠ .doubleColon := by
  unfold prefixedToken
  split <;> exact ⟨nofun, nofun⟩

theorem operatorName?_ne (h : operatorName? word = some t) : t ≠ .leftParen ∧ t ≠ .doubleColon := by
  unfold operatorName? at h
  split at h
  all_goals
    cases h
    try exact ⟨nofun, nofun⟩

/-- A word announces its token. -/
theorem Spells.announces (h : Spells afterOperand next t word) (rest : List Char) :
    Announces (some t) (word ++ rest) := by
  cases h with
  | sign hsign => exact announces_sign hsign rest
  | number hnumeral =>
    obtain ⟨x, tail, rfl, hx⟩ := hnumeral.exists_cons
    refine announces_of_head (hnumeral.solid.head x rfl) ?_ ?_ nofun nofun
    · rintro rfl
      exact absurd hx (by decide)
    · rintro rfl
      exact absurd hx (by decide)
  | @string quote content hquote hnot =>
    rcases hquote with rfl | rfl
    · exact announces_of_head rfl (by decide) (by decide) nofun nofun
    · exact announces_of_head rfl (by decide) (by decide) nofun nofun
  | operator hname _ hoperator =>
    exact announces_name hname (operatorName?_ne hoperator).1 (operatorName?_ne hoperator).2 rest
  | name hnames => exact announces_name hnames.1 nameToken_ne.1 nameToken_ne.2 rest
  | prefixed hnames hpart =>
    rw [List.append_assoc]
    exact announces_name hnames.1 prefixedToken_ne.1 prefixedToken_ne.2 _
  | wildcard hnames =>
    rw [List.append_assoc]
    have hparen : ∀ {p : String}, Token.prefixWildcard p ≠ .leftParen := nofun
    have hcolons : ∀ {p : String}, Token.prefixWildcard p ≠ .doubleColon := nofun
    exact announces_name hnames.1 hparen hcolons _

theorem nameToken_of_ne {name : String} (hparen : next ≠ some .leftParen)
    (hcolons : next ≠ some .doubleColon) : nameToken next name = .name name := by
  unfold nameToken
  split
  · exact absurd rfl hcolons
  · exact absurd rfl hparen
  · rfl

theorem prefixedToken_of_ne {p part : String} (hparen : next ≠ some .leftParen) :
    prefixedToken next p part = .qname p part := by
  unfold prefixedToken
  split
  · exact absurd rfl hparen
  · rfl

/-- What comes next matters only so far as it is a parenthesis or two colons. -/
theorem Spells.congr_next (h : Spells afterOperand next t word)
    (hparen : next = some .leftParen ↔ next' = some .leftParen)
    (hcolons : next = some .doubleColon ↔ next' = some .doubleColon) :
    Spells afterOperand next' t word := by
  have hname : ∀ name, nameToken next name = nameToken next' name := by
    intro name
    by_cases hp : next = some .leftParen
    · rw [hp, hparen.1 hp]
    · by_cases hc : next = some .doubleColon
      · rw [hc, hcolons.1 hc]
      · rw [nameToken_of_ne hp hc, nameToken_of_ne (mt hparen.2 hp) (mt hcolons.2 hc)]
  have hprefixed : ∀ p part, prefixedToken next p part = prefixedToken next' p part := by
    intro p part
    by_cases hp : next = some .leftParen
    · rw [hp, hparen.1 hp]
    · rw [prefixedToken_of_ne hp, prefixedToken_of_ne (mt hparen.2 hp)]
  cases h with
  | sign hsign => exact .sign hsign
  | number hnumeral => exact .number hnumeral
  | string hquote hnot => exact .string hquote hnot
  | operator hname hafter hoperator => exact .operator hname hafter hoperator
  | name hnames =>
    rw [hname]
    exact .name hnames
  | prefixed hnames hpart =>
    rw [hprefixed]
    exact .prefixed hnames hpart
  | wildcard hnames => exact .wildcard hnames

end XmlQuery.XPath
