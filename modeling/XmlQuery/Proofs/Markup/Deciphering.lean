import XmlQuery.Proofs.Markup.ScannedData

/-!
# Reading character data one character at a time

Character data can be read one character at a time, with no runs and no searches but that for the
semicolon behind an ampersand: a reference is replaced by its character, which is not looked at
again, a line end by one character, and everything else stands for itself, but for the white space
in attribute values. The reading stops at the first reference that stands for nothing, and never
starts if there is an illegal character anywhere. What decoding comes to is what this reading comes
to, in its failures as well, and so is what the rounds of the scanner come to.

## Main definitions

* `Coded`: what stands behind the number sign of a reference is a number
* `Resolves`: what comes of a reference, a character or an error
* `Deciphers`: what comes of legal characters, read one at a time
* `ReadsAs`: what comes of character data

## Main results

* `resolveReference_eq_iff`: references are resolved to what comes of them
* `decodeRuns_eq_iff`: runs are decoded to what comes of their characters
* `number?_replicate_zero`: leading zeros do not matter
* `decode_readsAs`: **decoding is reading one character at a time**
-/

namespace XmlQuery.Markup

open Text (utf8Length utf8Length_cons)
open Text.Hex (digit? number?)

variable {mode : DataMode} {offset code : Nat} {c : Char} {digits body raw : List Char}

/-! ## References -/

/-- What stands behind the number sign of a reference is a number: decimal digits, or the letter `x`
in lower case and hexadecimal digits. -/
inductive Coded : List Char → Nat → Prop
  /-- Decimal digits. -/
  | decimal {digits : List Char} {code : Nat} : Numeral 10 digits code → Coded digits code
  /-- Hexadecimal digits. -/
  | hexadecimal {digits : List Char} {code : Nat} :
    Numeral 16 digits code → Coded ('x' :: digits) code

/-- What comes of a reference with this body: the character that it stands for, or an error. -/
inductive Resolves : List Char → Except ErrorKind Char → Prop
  /-- One of the five names, or the number of a legal character. -/
  | character {body : List Char} {c : Char} : Refers body c → Resolves body (.ok c)
  /-- The number of an illegal character, or of no character. -/
  | illegal {digits : List Char} {code : Nat} : Coded digits code → code < 2 ^ 32 →
    (∀ c : Char, c.toNat = code → isChar c = false) →
    Resolves ('#' :: digits) (.error (.invalidChar code))
  /-- A number of more than 32 bits. -/
  | huge {digits : List Char} {code : Nat} : Coded digits code → 2 ^ 32 ≤ code →
    Resolves ('#' :: digits) (.error .malformedReference)
  /-- No number behind a number sign. -/
  | uncoded {digits : List Char} : (∀ code, ¬ Coded digits code) →
    Resolves ('#' :: digits) (.error .malformedReference)
  /-- Another name. -/
  | unknown {body : List Char} : isNCName body = true → (∀ p ∈ predefined, body ≠ p.1.toList) →
    Resolves body (.error (.unknownEntity (String.ofList body)))
  /-- Neither a name nor a number sign. -/
  | nameless {body : List Char} : isNCName body = false → body.head? ≠ some '#' →
    Resolves body (.error .malformedReference)

/-- The number behind a number sign, as it is read. -/
def code? : List Char → Option Nat
  | 'x' :: digits => number? 16 digits
  | digits => number? 10 digits

theorem resolveReference_number (digits : List Char) :
    resolveReference ('#' :: digits) = characterOfCode (code? digits) := by
  unfold code?
  split
  · rfl
  · next h => exact resolveReference.eq_2 _ h

theorem code?_eq_some_iff : code? digits = some code ↔ Coded digits code := by
  constructor
  · intro h
    unfold code? at h
    split at h
    · exact .hexadecimal (numeral_of_number? h)
    · exact .decimal (numeral_of_number? h)
  · rintro (hdigits | hdigits)
    · unfold code?
      split
      · -- No decimal digits start with the letter that marks hexadecimal ones.
        cases (hdigits.number?_eq (by decide)).symm
      · exact hdigits.number?_eq (by decide)
    · exact hdigits.number?_eq le_rfl

theorem code?_of_head?_ne (hx : digits.head? ≠ some 'x') : code? digits = number? 10 digits := by
  unfold code?
  split
  · exact absurd rfl hx
  · rfl

theorem characterOfCode_illegal (hcode : code < 2 ^ 32)
    (h : ∀ c : Char, c.toNat = code → isChar c = false) :
    characterOfCode (some code) = .error (.invalidChar code) := by
  rw [characterOfCode, if_pos (show code < Nat.pow 2 32 from hcode)]
  by_cases hvalid : code.isValidChar
  · rw [dif_pos hvalid]
    exact if_neg (Bool.eq_false_iff.1 (h (Char.ofNatAux code hvalid) rfl))
  · exact dif_neg hvalid

theorem characterOfCode_huge (hcode : 2 ^ 32 ≤ code) :
    characterOfCode (some code) = .error .malformedReference := by
  rw [characterOfCode]
  exact if_neg (Nat.not_lt.2 hcode)

/-- The number of a reference stands for a legal character, or it is refused. -/
theorem Coded.resolves (h : Coded digits code) :
    Resolves ('#' :: digits) (characterOfCode (some code)) := by
  rcases Nat.lt_or_ge code (2 ^ 32) with hcode | hcode
  · by_cases hlegal : ∃ c : Char, c.toNat = code ∧ isChar c = true
    · obtain ⟨c, rfl, hchar⟩ := hlegal
      rw [characterOfCode_toNat hchar]
      cases h with
      | decimal hdigits => exact .character (.decimal hdigits hchar)
      | hexadecimal hdigits => exact .character (.hexadecimal hdigits hchar)
    · have hillegal : ∀ c : Char, c.toNat = code → isChar c = false :=
        fun c hc => Bool.eq_false_iff.2 fun hchar => hlegal ⟨c, hc, hchar⟩
      rw [characterOfCode_illegal hcode hillegal]
      exact .illegal h hcode hillegal
  · rw [characterOfCode_huge hcode]
    exact .huge h hcode

/-- Without a number sign, all but five names are refused. -/
theorem resolveReference_of_forall_ne (hbody : body.head? ≠ some '#')
    (h : ∀ p ∈ predefined, body ≠ p.1.toList) :
    resolveReference body = if isNCName body then .error (.unknownEntity (String.ofList body))
      else .error .malformedReference := by
  have hsign : ∀ digits, body ≠ '#' :: digits := by
    rintro digits rfl
    exact hbody rfl
  simp only [predefined, List.forall_mem_cons] at h
  obtain ⟨hlt, hgt, hamp, hquot, hapos, -⟩ := h
  exact resolveReference.eq_8 body (fun _ => hsign _) hsign hlt hgt hamp hquot hapos

theorem isNCName_of_predefined : ∀ p ∈ predefined, isNCName p.1.toList = true := by
  decide

theorem resolves_resolveReference (body : List Char) : Resolves body (resolveReference body) := by
  by_cases hsign : body.head? = some '#'
  · obtain ⟨digits, rfl⟩ := List.head?_eq_some_iff.1 hsign
    rw [resolveReference_number]
    cases hcode : code? digits with
    | none =>
      refine .uncoded fun code hcoded => ?_
      cases hcode.symm.trans (code?_eq_some_iff.2 hcoded)
    | some code => exact (code?_eq_some_iff.1 hcode).resolves
  · by_cases hnamed : ∃ p ∈ predefined, body = p.1.toList
    · obtain ⟨p, hp, rfl⟩ := hnamed
      have hrefers : Refers p.1.toList p.2 := .named hp
      rw [hrefers.resolve]
      exact .character hrefers
    · have hother : ∀ p ∈ predefined, body ≠ p.1.toList := fun p hp hbody => hnamed ⟨p, hp, hbody⟩
      rw [resolveReference_of_forall_ne hsign hother]
      cases hname : isNCName body with
      | true => exact .unknown hname hother
      | false => exact .nameless hname hsign

/-- **References are resolved to what comes of them.** -/
theorem resolveReference_eq_iff {outcome : Except ErrorKind Char} :
    resolveReference body = outcome ↔ Resolves body outcome := by
  constructor
  · rintro rfl
    exact resolves_resolveReference body
  · intro h
    cases h with
    | character hrefers => exact hrefers.resolve
    | illegal hcoded hcode hillegal =>
      rw [resolveReference_number, code?_eq_some_iff.2 hcoded]
      exact characterOfCode_illegal hcode hillegal
    | huge hcoded hcode =>
      rw [resolveReference_number, code?_eq_some_iff.2 hcoded]
      exact characterOfCode_huge hcode
    | uncoded huncoded =>
      have hcode : code? _ = none := Option.eq_none_iff_forall_ne_some.2 fun code hcode =>
        huncoded code (code?_eq_some_iff.1 hcode)
      rw [resolveReference_number, hcode]
      rfl
    | unknown hname hother =>
      -- No name starts with a number sign.
      have hsign : body.head? ≠ some '#' := fun hsign => by
        obtain ⟨digits, rfl⟩ := List.head?_eq_some_iff.1 hsign
        cases hname
      rw [resolveReference_of_forall_ne hsign hother, if_pos hname]
    | nameless hname hsign =>
      have hother : ∀ p ∈ predefined, body ≠ p.1.toList := by
        rintro p hp rfl
        rw [isNCName_of_predefined p hp] at hname
        cases hname
      rw [resolveReference_of_forall_ne hsign hother, hname]
      rfl

/-! ### Leading zeros -/

/-- Leading zeros do not change the number that digits are read as. -/
theorem number?_replicate_zero {radix : Nat} (hradix : 0 < radix) (k : Nat)
    (hdigits : digits ≠ []) :
    number? radix (List.replicate k '0' ++ digits) = number? radix digits := by
  have hzero : digit? radix '0' = some 0 := Option.filter_some_pos (decide_eq_true hradix)
  induction k with
  | zero => rfl
  | succ k ih =>
    have hne : (List.replicate k '0' ++ digits).isEmpty = false := by simp [hdigits]
    rw [← ih, List.replicate_succ, List.cons_append, number?, number?, hne, List.foldlM_cons, hzero,
      Option.map_some, Nat.zero_mul]
    rfl

/-- Leading zeros do not change what comes of a reference. -/
theorem resolveReference_replicate_zero (k : Nat) (hdigits : digits ≠ []) :
    resolveReference ('#' :: 'x' :: (List.replicate k '0' ++ digits)) =
        resolveReference ('#' :: 'x' :: digits) ∧
      (digits.head? ≠ some 'x' →
        resolveReference ('#' :: (List.replicate k '0' ++ digits)) =
          resolveReference ('#' :: digits)) := by
  refine ⟨?_, fun hx => ?_⟩
  · rw [resolveReference, resolveReference, number?_replicate_zero (by decide) k hdigits]
  · have hzeros : (List.replicate k '0' ++ digits).head? ≠ some 'x' := by
      cases k with
      | zero => exact hx
      | succ k =>
        rw [List.replicate_succ, List.cons_append, List.head?_cons]
        decide
    rw [resolveReference_number, resolveReference_number, code?_of_head?_ne hzeros,
      code?_of_head?_ne hx, number?_replicate_zero (by decide) k hdigits]

/-! ## One character at a time -/

/-- What comes of character data of legal characters that starts at byte `offset`, read one
character at a time: characters, or an error with the place of the ampersand that it is about. -/
inductive Deciphers (mode : DataMode) :
    (offset : Nat) → (raw : List Char) → Except Fault (List Char) → Prop
  /-- No character. -/
  | nil {offset : Nat} : Deciphers mode offset [] (.ok [])
  /-- A character as it is. -/
  | plain {offset : Nat} {c : Char} {raw : List Char} {outcome : Except Fault (List Char)} :
    c ≠ '&' → c ≠ '\r' → Deciphers mode (offset + c.utf8Size) raw outcome →
    Deciphers mode offset (c :: raw) (outcome.map (mode.shown c :: ·))
  /-- A line end of two characters. -/
  | crlf {offset : Nat} {raw : List Char} {outcome : Except Fault (List Char)} :
    Deciphers mode (offset + 2) raw outcome →
    Deciphers mode offset ('\r' :: '\n' :: raw) (outcome.map (mode.shown '\n' :: ·))
  /-- A carriage return alone, which is a line end too. -/
  | lone {offset : Nat} {raw : List Char} {outcome : Except Fault (List Char)} :
    raw.head? ≠ some '\n' → Deciphers mode (offset + 1) raw outcome →
    Deciphers mode offset ('\r' :: raw) (outcome.map (mode.shown '\n' :: ·))
  /-- A reference to a character, which reaches to the first semicolon. -/
  | reference {offset : Nat} {body raw : List Char} {c : Char}
    {outcome : Except Fault (List Char)} : ';' ∉ body → Resolves body (.ok c) →
    Deciphers mode (offset + utf8Length body + 2) raw outcome →
    Deciphers mode offset ('&' :: body ++ ';' :: raw) (outcome.map (c :: ·))
  /-- A reference that stands for no character. -/
  | refused {offset : Nat} {body raw : List Char} {kind : ErrorKind} : ';' ∉ body →
    Resolves body (.error kind) →
    Deciphers mode offset ('&' :: body ++ ';' :: raw) (.error ⟨offset, kind⟩)
  /-- An ampersand without a semicolon behind it. -/
  | unterminated {offset : Nat} {raw : List Char} : ';' ∉ raw →
    Deciphers mode offset ('&' :: raw) (.error ⟨offset, .malformedReference⟩)

theorem Deciphers.decodeRuns_eq {outcome : Except Fault (List Char)}
    (h : Deciphers mode offset raw outcome) : decodeRuns mode offset raw = outcome := by
  induction h with
  | nil => exact decodeRuns_nil
  | plain hampersand hreturn _ ih => rw [decodeRuns_cons hampersand hreturn, ih]
  | crlf _ ih => rw [decodeRuns_crlf, ih]
  | lone hfeed _ ih => rw [decodeRuns_return hfeed, ih]
  | reference hbody hresolves _ ih =>
    rw [decodeRuns_semicolon mode _ hbody, resolveReference_eq_iff.2 hresolves]
    dsimp only
    rw [ih]
  | refused hbody hresolves =>
    rw [decodeRuns_semicolon mode _ hbody, resolveReference_eq_iff.2 hresolves]
  | unterminated hraw => exact decodeRuns_loose hraw

/-- Something comes of any data. -/
theorem deciphers_decodeRuns (mode : DataMode) (offset : Nat) (raw : List Char) :
    Deciphers mode offset raw (decodeRuns mode offset raw) := by
  induction raw using rawData_induction generalizing offset with
  | nil =>
    rw [decodeRuns_nil]
    exact .nil
  | plain c raw hampersand hreturn ih =>
    rw [decodeRuns_cons hampersand hreturn]
    exact .plain hampersand hreturn (ih _)
  | crlf raw ih =>
    rw [decodeRuns_crlf]
    exact .crlf (ih _)
  | lone raw hfeed ih =>
    rw [decodeRuns_return hfeed]
    exact .lone hfeed (ih _)
  | reference body raw hbody ih =>
    rw [decodeRuns_semicolon mode offset hbody]
    cases hresolved : resolveReference body with
    | error kind => exact .refused hbody (resolveReference_eq_iff.1 hresolved)
    | ok c => exact .reference hbody (resolveReference_eq_iff.1 hresolved) (ih _)
  | unterminated raw hraw =>
    rw [decodeRuns_loose hraw]
    exact .unterminated hraw

/-- **Runs are decoded to what comes of their characters.** -/
theorem decodeRuns_eq_iff {outcome : Except Fault (List Char)} :
    decodeRuns mode offset raw = outcome ↔ Deciphers mode offset raw outcome := by
  constructor
  · rintro rfl
    exact deciphers_decodeRuns mode offset raw
  · exact Deciphers.decodeRuns_eq

/-! ## Illegal characters -/

/-- What comes of character data that starts at byte `offset`. -/
inductive ReadsAs (mode : DataMode) (offset : Nat) :
    (raw : List Char) → Except Fault (List Char) → Prop
  /-- There are illegal characters: the error is that of the first one. -/
  | illegal {front rest : List Char} {c : Char} : (∀ x ∈ front, isChar x = true) →
    isChar c = false →
    ReadsAs mode offset (front ++ c :: rest)
      (.error ⟨offset + utf8Length front, .invalidChar c.toNat⟩)
  /-- All characters are legal, and are read one at a time. -/
  | legal {raw : List Char} {outcome : Except Fault (List Char)} : (∀ x ∈ raw, isChar x = true) →
    Deciphers mode offset raw outcome → ReadsAs mode offset raw outcome

theorem firstInvalid?_append {front : List Char} (h : ∀ x ∈ front, isChar x = true)
    (offset : Nat) (rest : List Char) :
    firstInvalid? offset (front ++ rest) = firstInvalid? (offset + utf8Length front) rest := by
  induction front generalizing offset with
  | nil => rfl
  | cons x front ih =>
    obtain ⟨hx, hfront⟩ := List.forall_mem_cons.1 h
    rw [List.cons_append, firstInvalid?, if_pos hx, ih hfront, utf8Length_cons, Nat.add_assoc]

/-- The error of an illegal character behind legal ones. -/
theorem decode_illegal {front rest : List Char} (hfront : ∀ x ∈ front, isChar x = true)
    (hc : isChar c = false) :
    decode mode offset (front ++ c :: rest) =
      .error ⟨offset + utf8Length front, .invalidChar c.toNat⟩ := by
  rw [decode, firstInvalid?_append hfront, firstInvalid?, if_neg (Bool.eq_false_iff.1 hc)]

theorem decode_legal (h : ∀ x ∈ raw, isChar x = true) :
    decode mode offset raw = decodeRuns mode offset raw := by
  rw [decode, firstInvalid?_eq_none h]

theorem readsAs_decode (mode : DataMode) (offset : Nat) (raw : List Char) :
    ReadsAs mode offset raw (decode mode offset raw) := by
  cases hfind : raw.find? fun x => !isChar x with
  | none =>
    have hlegal : ∀ x ∈ raw, isChar x = true := by simpa using hfind
    rw [decode_legal hlegal]
    exact .legal hlegal (deciphers_decodeRuns mode offset raw)
  | some c =>
    obtain ⟨hc, front, rest, rfl, hfront⟩ := List.find?_eq_some_iff_append.1 hfind
    have hillegal : isChar c = false := by simpa using hc
    have hlegal : ∀ x ∈ front, isChar x = true := by simpa using hfront
    rw [decode_illegal hlegal hillegal]
    exact .illegal hlegal hillegal

/-- **Decoding is reading one character at a time.** Decoding comes to what comes of the characters,
read one after the other, with the same error at the same place if it fails; the rounds of a scanner
come to it as well; and leading zeros do not change what comes of a reference. -/
theorem decode_readsAs (mode : DataMode) (offset : Nat) (raw : List Char) :
    (∀ outcome, decode mode offset raw = outcome ↔ ReadsAs mode offset raw outcome) ∧
      (∀ position, Scanner.decode position offset mode raw =
        Scanner.settle position (decode mode offset raw)) ∧
      ∀ (k : Nat) (digits : List Char), digits ≠ [] →
        resolveReference ('#' :: 'x' :: (List.replicate k '0' ++ digits)) =
            resolveReference ('#' :: 'x' :: digits) ∧
          (digits.head? ≠ some 'x' →
            resolveReference ('#' :: (List.replicate k '0' ++ digits)) =
              resolveReference ('#' :: digits)) := by
  refine ⟨fun outcome => ⟨?_, ?_⟩, fun position => Scanner.decode_eq position offset mode raw,
    fun k digits hdigits => resolveReference_replicate_zero k hdigits⟩
  · rintro rfl
    exact readsAs_decode mode offset raw
  · rintro (⟨hfront, hc⟩ | ⟨hlegal, hdeciphers⟩)
    · exact decode_illegal hfront hc
    · exact (decode_legal hlegal).trans (decodeRuns_eq_iff.2 hdeciphers)

/-- In an attribute value the text `a`, CR LF, `&#065;`, TAB stands for `a A ` with two spaces; an
ampersand at its end is refused, behind the ten bytes in front of it. -/
theorem decode_readsAs_value :
    let raw := ['a', '\r', '\n', '&', '#', '0', '6', '5', ';', '\t']
    ReadsAs .attribute 0 raw (.ok ['a', ' ', 'A', ' ']) ∧
      ReadsAs .attribute 0 (raw ++ ['&']) (.error ⟨10, .malformedReference⟩) ∧
      Scanner.decode 0 0 .attribute raw = .ok ['a', ' ', 'A', ' '] ∧
      ['6', '5'] ≠ [] ∧ ['6', '5'].head? ≠ some 'x' ∧
      resolveReference ['#', '0', '6', '5'] = resolveReference ['#', '6', '5'] := by
  intro raw
  have hdecoded : decode .attribute 0 raw = .ok ['a', ' ', 'A', ' '] := by
    with_unfolding_all rfl
  have hrefused : decode .attribute 0 (raw ++ ['&']) = .error ⟨10, .malformedReference⟩ := by
    with_unfolding_all rfl
  obtain ⟨hreads, hscanned, hzeros⟩ := decode_readsAs .attribute 0 raw
  have hdigits : ['6', '5'] ≠ [] := List.cons_ne_nil _ _
  have hx : ['6', '5'].head? ≠ some 'x' := by decide
  refine ⟨(hreads _).1 hdecoded, ((decode_readsAs .attribute 0 _).1 _).1 hrefused, ?_, hdigits, hx,
    (hzeros 1 _ hdigits).2 hx⟩
  rw [hscanned, hdecoded]
  rfl

end XmlQuery.Markup
