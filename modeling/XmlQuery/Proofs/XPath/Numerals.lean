import XmlQuery.Proofs.Number.Doubles
import XmlQuery.Proofs.XPath.Spacing
import XmlQuery.XPath.Value

/-!
# Numerals

A number is written in one way, as a literal of an expression and as a text that is converted: with
digits, and with a point in front of them, between them or behind them. A text may have a minus sign
in front of its numeral, and blanks around both. The conversion checks what is left without the
blanks: it counts the points and looks at the characters one by one. The literal is cut off from
front to back and ends before two points. Both hand numerals over to be read as doubles, the same
ones, and whatever else is converted is not a number.

## Main definitions

* `Denotes`: the quotient that a numeral denotes
* `Writes`: a text is a numeral with a sign, if any, and blanks

## Main results

* `ofText?_of_denotes`: a numeral is read as the double nearest to what it denotes
* `isPlain_iff`: the checks are those for numerals
* `plainText?_eq_some_iff`: what is handed over to be read are numerals with a sign
* `isNaN_numberOf_eq_false_iff`: what is converted to a number is a numeral in writing
* `exists_laysOut_numerals`: the words of number tokens are numerals, whatever stands around them
* `numerals_of_numbers`: **literals and converted texts have the same numerals**
-/

namespace XmlQuery.XPath

open Markup (Blanks)
open Number (isDigit ofDigits isPlain stripMinus plainText? ofText?)
open Text (Cursor isBlank utf8Length trimBlank trimEnd)

/-- The quotient that a numeral denotes: its digits without the point, by a power of ten for those
behind it. -/
inductive Denotes : List Char → (num den : Nat) → Prop
  /-- Digits alone. -/
  | whole {digits : List Char} : digits ≠ [] → (∀ x ∈ digits, isDigit x = true) →
    Denotes digits (ofDigits digits) 1
  /-- Digits and a point. -/
  | fraction {whole digits : List Char} : whole ≠ [] ∨ digits ≠ [] →
    (∀ x ∈ whole, isDigit x = true) → (∀ x ∈ digits, isDigit x = true) →
    Denotes (whole ++ '.' :: digits) (ofDigits (whole ++ digits)) (10 ^ digits.length)

/-- The sign of a number: a minus, or nothing. -/
def minus (negative : Bool) : List Char := if negative then ['-'] else []

/-- The text is a numeral, with a sign in front of it if it is negative, and blanks around both. -/
def Writes (negative : Bool) (numeral text : List Char) : Prop :=
  ∃ front back, text = front ++ ((minus negative ++ numeral) ++ back) ∧
    Blanks front ∧ Blanks back ∧ Numeral numeral

variable {negative : Bool} {text word : List Char} {num den : Nat}

/-! ## Quotients -/

theorem Denotes.numeral (h : Denotes word num den) : Numeral word := by
  cases h with
  | whole hne hdigits => exact .whole hne hdigits
  | fraction hne hwhole hdigits => exact .fraction hne hwhole hdigits

theorem Numeral.exists_denotes (h : Numeral word) : ∃ num den, Denotes word num den := by
  cases h with
  | whole hne hdigits => exact ⟨_, _, .whole hne hdigits⟩
  | fraction hne hwhole hdigits => exact ⟨_, _, .fraction hne hwhole hdigits⟩

/-! ## Reading doubles -/

/-- A letter does not come before the digits end. -/
theorem map_toLower_ne {x y : Char} {tail rest : List Char} (hx : x ≤ '9') (hy : '9' < y) :
    (x :: tail).map Char.toLower ≠ y :: rest := by
  have hlower : x.toLower = x :=
    dif_neg fun hupper => absurd (UInt32.le_trans hupper.1 hx) (by decide)
  intro heq
  rw [List.map_cons, hlower, List.cons.injEq] at heq
  exact absurd (heq.1 ▸ hx) (Char.not_le.2 hy)

theorem le_of_isDigit {x : Char} (h : isDigit x = true) : x ≤ '9' := by
  simp only [isDigit, Bool.and_eq_true, decide_eq_true_eq] at h
  exact h.2

/-- A numeral is split at its point, and it has no exponent. -/
theorem decimal?_of_denotes (h : Denotes word num den) :
    ∃ places : Nat, Number.decimal? word = some ⟨num, -(places : Int)⟩ ∧ den = 10 ^ places := by
  cases h with
  | whole hne hdigits =>
    refine ⟨0, ?_, rfl⟩
    simp [Number.decimal?, Number.exponent?, List.takeWhile_eq_self_iff.2 hdigits,
      List.dropWhile_eq_nil_iff.2 hdigits, hne]
  | @fraction whole digits hne hwhole hdigits =>
    have hpoint : ∀ x ∈ ('.' :: digits).head?, isDigit x = false := by
      rintro x ⟨⟩
      exact isDigit_point
    obtain ⟨htake, hdrop⟩ := Text.takeWhile_dropWhile_append hwhole hpoint
    have hsome : ¬ (whole = [] ∧ digits = []) := fun hnil =>
      hne.elim (absurd hnil.1) (absurd hnil.2)
    refine ⟨digits.length, ?_, rfl⟩
    simp [Number.decimal?, Number.exponent?, htake, hdrop, List.takeWhile_eq_self_iff.2 hdigits,
      List.dropWhile_eq_nil_iff.2 hdigits, hsome]

theorem toFloat_neg (negative : Bool) (digits places : Nat) :
    (⟨digits, -(places : Int)⟩ : Number.Decimal).toFloat negative =
      Number.nearest negative digits (10 ^ places) := by
  cases places with
  | zero => exact congrArg (Number.nearest negative · 1) (Nat.mul_one digits)
  | succ places => rfl

theorem splitSign_minus (h : ∀ x ∈ word.head?, x ≠ '-' ∧ x ≠ '+') :
    Number.splitSign (minus negative ++ word) = (negative, word) := by
  cases negative with
  | true => rfl
  | false =>
    change Number.splitSign word = _
    unfold Number.splitSign
    split
    · exact absurd rfl (h '-' rfl).1
    · exact absurd rfl (h '+' rfl).2
    · rfl

/-- **A numeral is read as the double nearest to what it denotes.** -/
theorem ofText?_of_denotes (h : Denotes word num den) :
    ofText? (minus negative ++ word) = some (Number.nearest negative num den) := by
  obtain ⟨x, tail, rfl, hx⟩ := h.numeral.exists_cons
  have hle : x ≤ '9' := hx.elim le_of_isDigit fun hpoint => hpoint ▸ by decide
  have hsign : ∀ y ∈ (x :: tail).head?, y ≠ '-' ∧ y ≠ '+' := by
    rintro _ ⟨⟩
    constructor
    · rintro rfl
      exact absurd hx (by decide)
    · rintro rfl
      exact absurd hx (by decide)
  obtain ⟨places, hdecimal, rfl⟩ := decimal?_of_denotes h
  have hword : ∀ {y rest}, '9' < y → (x :: tail).map Char.toLower ≠ y :: rest :=
    map_toLower_ne hle
  -- A numeral starts with a digit or a point, and none of the words for a double does.
  rw [ofText?, splitSign_minus hsign]
  dsimp only
  rw [if_neg (not_or_intro (hword (by decide)) (hword (by decide))), if_neg (hword (by decide)),
    hdecimal, Option.map_some, toFloat_neg]

/-! ## Checking texts -/

/-- **The checks are those for numerals**: what has digits and at most one point, and is neither
empty nor a point, is split at the point if there is one. -/
theorem isPlain_iff : isPlain word = true ↔ Numeral word := by
  simp only [isPlain, Bool.and_eq_true, Bool.not_eq_true', List.isEmpty_eq_false_iff, bne_iff_ne,
    decide_eq_true_eq, List.all_eq_true, Bool.or_eq_true, beq_iff_eq]
  constructor
  · rintro ⟨⟨⟨hne, hpoint⟩, hcount⟩, hall⟩
    by_cases hmem : '.' ∈ word
    · obtain ⟨whole, digits, rfl⟩ := List.append_of_mem hmem
      -- The point that is there is the only one.
      rw [List.count_append, List.count_cons_self] at hcount
      have hwhole : '.' ∉ whole := List.count_eq_zero.1 (by omega)
      have hdigits : '.' ∉ digits := List.count_eq_zero.1 (by omega)
      refine .fraction ?_ (fun x hx => ?_) fun x hx => ?_
      · rw [← not_and_or]
        rintro ⟨rfl, rfl⟩
        exact hpoint rfl
      · exact (hall x (by simp [hx])).resolve_right fun heq => hwhole (heq ▸ hx)
      · exact (hall x (by simp [hx])).resolve_right fun heq => hdigits (heq ▸ hx)
    · exact .whole hne fun x hx => (hall x hx).resolve_right fun heq => hmem (heq ▸ hx)
  · have hzero : ∀ {l : List Char}, (∀ x ∈ l, isDigit x = true) → l.count '.' = 0 := fun hl =>
      List.count_eq_zero.2 fun hmem => absurd (hl '.' hmem) (by decide)
    rintro (⟨hne, hdigits⟩ | ⟨hne, hwhole, hdigits⟩)
    · refine ⟨⟨⟨hne, ?_⟩, ?_⟩, fun x hx => .inl (hdigits x hx)⟩
      · rintro rfl
        exact absurd (hdigits '.' List.mem_cons_self) (by decide)
      · rw [hzero hdigits]
        exact Nat.zero_le 1
    · refine ⟨⟨⟨by simp, ?_⟩, ?_⟩, fun x hx => ?_⟩
      · rw [Ne, List.append_eq_singleton_iff]
        rintro (⟨rfl, hnil⟩ | ⟨-, hnil⟩)
        · exact hne.elim (absurd rfl) (absurd (List.cons.inj hnil).2)
        · exact List.cons_ne_nil _ _ hnil
      · rw [List.count_append, List.count_cons_self, hzero hwhole, hzero hdigits]
      · rcases List.mem_append.1 hx with hx | hx
        · exact .inl (hwhole x hx)
        · exact (List.mem_cons.1 hx).symm.imp_left (hdigits x)

/-! ## Texts -/

theorem Numeral.head_ne_minus (h : Numeral word) : ∀ x ∈ word.head?, x ≠ '-' := by
  obtain ⟨x, tail, rfl, hx⟩ := h.exists_cons
  rintro _ ⟨⟩ rfl
  rcases hx with hx | hx
  · exact absurd hx (by decide)
  · exact absurd hx (by decide)

theorem Numeral.solid_minus (h : Numeral word) (negative : Bool) :
    Solid (minus negative ++ word) := by
  cases negative with
  | false => exact h.solid
  | true =>
    refine ⟨List.cons_ne_nil _ _, ?_, ?_⟩
    · rintro x ⟨⟩
      rfl
    · intro x hx
      have hne := h.solid.ne_nil
      rw [List.getLast?_append_of_ne_nil _ hne] at hx
      exact h.solid.last x hx

/-- A word is what is left of a text without the blanks around it. -/
theorem Solid.trimBlank_eq {front back : List Char} (h : Solid word) (hfront : Blanks front)
    (hback : Blanks back) : trimBlank (front ++ (word ++ back)) = word := by
  obtain ⟨x, tail, rfl⟩ := List.exists_cons_of_ne_nil h.ne_nil
  have hdrop : (front ++ (x :: tail ++ back)).dropWhile isBlank = x :: tail ++ back := by
    rw [List.dropWhile_append_of_pos hfront, List.cons_append,
      List.dropWhile_cons_of_neg (by simp [h.head x rfl])]
  obtain ⟨init, last, hlast⟩ := (List.eq_nil_or_concat (x :: tail)).resolve_left h.ne_nil
  rw [trimBlank, hdrop, Text.trimEnd_append_of_pos hback, hlast, List.concat_eq_append]
  refine Text.trimEnd_concat_of_neg ?_
  have hblank := h.last last (by simp [hlast])
  simp [hblank]

theorem stripMinus_eq (h : ∀ x ∈ word.head?, x ≠ '-') :
    stripMinus (minus negative ++ word) = word := by
  cases negative with
  | true => rfl
  | false =>
    change stripMinus word = _
    unfold stripMinus
    split
    · exact absurd rfl (h '-' rfl)
    · rfl

theorem exists_minus (word : List Char) : ∃ negative, word = minus negative ++ stripMinus word := by
  unfold stripMinus
  split
  · exact ⟨true, rfl⟩
  · exact ⟨false, rfl⟩

/-- **What is handed over to be read are numerals with a sign**, of the texts that are one in
writing. -/
theorem plainText?_eq_some_iff :
    plainText? text = some word ↔
      ∃ negative numeral, word = minus negative ++ numeral ∧ Writes negative numeral text := by
  rw [plainText?]
  constructor
  · intro h
    split at h
    · next hplain =>
      cases h
      obtain ⟨negative, htrim⟩ := exists_minus (trimBlank text)
      obtain ⟨front, back, htext, hfront, hback⟩ := Text.exists_append_of_trimBlank text
      exact ⟨negative, _, htrim, front, back, htrim ▸ htext, hfront, hback, isPlain_iff.1 hplain⟩
    · cases h
  · rintro ⟨negative, numeral, rfl, front, back, rfl, hfront, hback, hnumeral⟩
    rw [(hnumeral.solid_minus negative).trimBlank_eq hfront hback,
      stripMinus_eq hnumeral.head_ne_minus, if_pos (isPlain_iff.2 hnumeral)]

theorem Writes.read_eq (h : Writes negative word text) (hdenotes : Denotes word num den) :
    Number.read text = Number.nearest negative num den := by
  rw [Number.read, plainText?_eq_some_iff.2 ⟨negative, word, rfl, h⟩]
  exact congrArg (·.getD Number.nan) (ofText?_of_denotes hdenotes)

/-- What is not a numeral in writing is not a number. -/
theorem read_eq_nan (h : ¬ ∃ negative numeral, Writes negative numeral text) :
    Number.read text = Number.nan := by
  rw [Number.read]
  split
  · next trimmed hplain =>
    obtain ⟨negative, numeral, -, hwrites⟩ := plainText?_eq_some_iff.1 hplain
    exact absurd ⟨negative, numeral, hwrites⟩ h
  · rfl

/-- What is converted to a number is a numeral in writing. -/
theorem isNaN_read_eq_false_iff :
    (Number.read text).isNaN = false ↔ ∃ negative numeral, Writes negative numeral text := by
  constructor
  · intro h
    by_contra hnot
    rw [read_eq_nan hnot, Number.isNaN_nan] at h
    cases h
  · rintro ⟨negative, numeral, hwrites⟩
    obtain ⟨num, den, hdenotes⟩ := hwrites.choose_spec.choose_spec.2.2.2.exists_denotes
    rw [hwrites.read_eq hdenotes]
    exact Number.isNaN_nearest negative num den

/-- A literal is converted to the number that it stands for. -/
theorem Numeral.ofText?_eq (h : Numeral word) :
    (ofText? word).getD Number.nan = Number.read word := by
  have hwrites : Writes false word word :=
    ⟨[], [], (List.append_nil word).symm, Markup.blanks_nil, Markup.blanks_nil, h⟩
  rw [Number.read, plainText?_eq_some_iff.2 ⟨false, word, rfl, hwrites⟩]
  rfl

/-! ## Literals -/

theorem spells_numeral (afterOperand : Bool) (next : Option Token) (h : Numeral word) :
    Spells afterOperand next (.number (Number.read word)) word := by
  rw [← h.ofText?_eq]
  exact .number h

/-- The words of number tokens are numerals. -/
theorem numeral_of_spells {afterOperand : Bool} {next : Option Token} {v : Float}
    (h : Spells afterOperand next (.number v) word) : Numeral word ∧ v = Number.read word := by
  generalize ht : Token.number v = t at h
  cases h with
  | number hnumeral =>
    cases ht
    exact ⟨hnumeral, hnumeral.ofText?_eq⟩
  | sign hsign =>
    subst ht
    simp [signs] at hsign
  | string => cases ht
  | operator _ _ hoperator =>
    subst ht
    unfold operatorName? at hoperator
    split at hoperator <;> cases hoperator
  | name =>
    unfold nameToken at ht
    split at ht
    · cases ht
    · split at ht <;> cases ht
    · cases ht
  | prefixed =>
    unfold prefixedToken at ht
    split at ht <;> cases ht
  | wildcard => cases ht

/-- **The words of number tokens are numerals**, whatever text they are cut from: it is made of
words and blanks up to where cutting ends, and the word of a number is a numeral for it. -/
theorem exists_laysOut_numerals (text : List Char) :
    ∃ front rest lead pieces, text = front ++ rest ∧ (tokenize text).stop = utf8Length front ∧
      ((tokenize text).fault = none → rest = []) ∧
      LaysOut front (tokenize text).lexemes lead pieces ∧
      ∀ p ∈ pieces, ∀ v, p.token = .number v → Numeral p.word ∧ v = Number.read p.word := by
  obtain ⟨lead, pieces, rest, next, htext, hlead, hgaps, hspelled, -, hlexemes, hstop, hend⟩ :=
    exists_words_of_tokenizeFrom [] false (.ofText text)
  rw [Cursor.ofText, Nat.zero_add] at hlexemes hstop
  refine ⟨lead ++ spread pieces, rest, lead, pieces, ?_, hstop, hend,
    ⟨rfl, hlead, hgaps, fun p hp => ?_, hlexemes⟩, fun p hp v hv => ?_⟩
  · rw [List.append_assoc]
    exact htext
  · obtain ⟨afterOperand, next, h⟩ := hspelled.exists_spells p hp
    exact h.solid
  · obtain ⟨afterOperand, next, h⟩ := hspelled.exists_spells p hp
    exact numeral_of_spells (hv ▸ h)

/-- A numeral is cut into the token of its number, and nothing else. -/
theorem Numeral.tokenize_eq (h : Numeral word) :
    tokenize word = ⟨[⟨0, .number (Number.read word)⟩], utf8Length word, none⟩ := by
  let piece : Piece := ⟨⟨.number (Number.read word), word⟩, []⟩
  have hspelled : SpelledFrom false ([piece].map (·.toSpelling)) :=
    ⟨spells_numeral false none h, trivial⟩
  obtain ⟨hfault, hlays⟩ := laysOut_of_spelledFrom Markup.blanks_nil
    (List.forall_mem_singleton.2 Markup.blanks_nil) ⟨absurd rfl, trivial⟩ hspelled
  have hspread : [] ++ spread [piece] = word := by
    simp [piece, spread, Piece.text]
  rw [hspread] at hfault hlays
  obtain ⟨front, rest, -, -, htext, hstop, hend, -⟩ := exists_laysOut_numerals word
  rw [hend hfault, List.append_nil] at htext
  rw [← htext] at hstop
  have hlexemes := hlays.starts
  generalize tokenize word = lexed at *
  cases lexed
  cases hfault
  cases hstop
  cases hlexemes
  rfl

/-- **Literals and converted texts have the same numerals.** A numeral with a sign is read as the
double nearest to what it denotes. Of a text that is to be converted this is what is handed over to
be read, if the text is a numeral in writing; otherwise nothing is, and it is not a number. A
numeral alone is cut into the token of the number that it is converted to; and in whatever is cut
into tokens, the words of numbers are numerals. -/
theorem numerals_of_numbers :
    (∀ negative numeral num den, Denotes numeral num den →
      ofText? (minus negative ++ numeral) = some (Number.nearest negative num den) ∧
      (Number.nearest negative num den).isNaN = false) ∧
    (∀ s : String,
      (∀ word, plainText? s.toList = some word ↔
        ∃ negative numeral, word = minus negative ++ numeral ∧ Writes negative numeral s.toList) ∧
      (∀ negative numeral num den, Writes negative numeral s.toList → Denotes numeral num den →
        Value.numberOf s = Number.nearest negative num den) ∧
      ((Value.numberOf s).isNaN = false ↔
        ∃ negative numeral, Writes negative numeral s.toList) ∧
      ((¬ ∃ negative numeral, Writes negative numeral s.toList) →
        Value.numberOf s = Number.nan)) ∧
    (∀ s : String, Numeral s.toList → tokenize s.toList =
      ⟨[⟨0, .number (Value.numberOf s)⟩], utf8Length s.toList, none⟩) ∧
    ∀ text : List Char, ∃ front rest lead pieces, text = front ++ rest ∧
      (tokenize text).stop = utf8Length front ∧ ((tokenize text).fault = none → rest = []) ∧
      LaysOut front (tokenize text).lexemes lead pieces ∧
      ∀ p ∈ pieces, ∀ v, p.token = .number v →
        Numeral p.word ∧ v = Value.numberOf (String.ofList p.word) := by
  refine ⟨fun negative numeral num den h => ⟨ofText?_of_denotes h, Number.isNaN_nearest _ _ _⟩,
    fun s => ⟨fun word => plainText?_eq_some_iff, fun negative numeral num den h hdenotes =>
      h.read_eq hdenotes, isNaN_read_eq_false_iff, read_eq_nan⟩, fun s h => h.tokenize_eq,
    fun text => ?_⟩
  obtain ⟨front, rest, lead, pieces, htext, hstop, hend, hlays, hnumerals⟩ :=
    exists_laysOut_numerals text
  refine ⟨front, rest, lead, pieces, htext, hstop, hend, hlays, fun p hp v hv => ?_⟩
  obtain ⟨hnumeral, hvalue⟩ := hnumerals p hp v hv
  exact ⟨hnumeral, by rw [hvalue, Value.numberOf, String.toList_ofList]⟩

/-- A numeral with a sign and blanks is the number that it denotes, two points are in no numeral,
and a literal may start with its point. -/
theorem numerals_of_numbers_samples :
    Value.numberOf " -1.5\n" = Number.nearest true 15 10 ∧
    plainText? "1.2.3".toList = none ∧ Value.numberOf "1.2.3" = Number.nan ∧
    tokenize ".5".toList = ⟨[⟨0, .number (Value.numberOf ".5")⟩], 2, none⟩ := by
  have hdigit : ∀ {x : Char}, isDigit x = true → ∀ y ∈ [x], isDigit y = true :=
    fun hx => List.forall_mem_singleton.2 hx
  have hwrites : Writes true (['1'] ++ '.' :: ['5']) " -1.5\n".toList :=
    ⟨[' '], ['\n'], rfl, by decide, by decide,
      .fraction (.inl (List.cons_ne_nil _ _)) (hdigit rfl) (hdigit rfl)⟩
  have hdenotes : Denotes (['1'] ++ '.' :: ['5']) 15 10 :=
    .fraction (.inl (List.cons_ne_nil _ _)) (hdigit rfl) (hdigit rfl)
  have hnone : plainText? "1.2.3".toList = none := by decide
  obtain ⟨-, hconverted, hliterals, -⟩ := numerals_of_numbers
  refine ⟨(hconverted _).2.1 _ _ _ _ hwrites hdenotes, hnone, (hconverted _).2.2.2 ?_,
    hliterals ".5" (@Numeral.fraction [] _ (.inr (List.cons_ne_nil _ _)) nofun (hdigit rfl))⟩
  rintro ⟨negative, numeral, hwritten⟩
  rw [((hconverted _).1 _).2 ⟨negative, numeral, rfl, hwritten⟩] at hnone
  cases hnone

end XmlQuery.XPath
