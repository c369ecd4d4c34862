import Mathlib.Data.List.TakeWhile
import Mathlib.Tactic.IntervalCases
import XmlQuery.Proofs.Markup.Readings
import XmlQuery.Proofs.Text.Delimiters

/-!
# Writing character data

Characters are written as they are, or as references: some that markup gives a meaning to have to be
references, and every one may be. A reference stands for its character whatever the run of
characters in front of it is, and is not looked at again, so decoding finds the characters that were
written.

## Main definitions

* `Numeral`: digits for a number
* `Refers`: a reference stands for a character
* `Encodes`: character data stands for characters, of which some may be written as they are

## Main results

* `Refers.resolve`: a reference is resolved to the character it stands for
* `decodeRuns_ampersand`: decoding takes a run of characters and a reference at a time
* `exists_encodes`: any legal characters can be written
-/

namespace XmlQuery.Markup

open Text (utf8Length)
open Text.Hex (hexDigit? digit? number?)

/-! ## References -/

/-- A character is the digit for a value, in lower or in upper case. -/
def IsDigit (value : Nat) (c : Char) : Prop :=
  c = Nat.digitChar value ∨ c = (Nat.digitChar value).toUpper

/-- Digits of a radix for a number, which may start with zeros. -/
inductive Numeral (radix : Nat) : List Char → Nat → Prop
  /-- One digit. -/
  | digit {c : Char} {value : Nat} : value < radix → IsDigit value c → Numeral radix [c] value
  /-- A digit behind others. -/
  | more {digits : List Char} {number : Nat} {c : Char} {value : Nat} :
    Numeral radix digits number → value < radix → IsDigit value c →
    Numeral radix (digits ++ [c]) (number * radix + value)

/-- The characters that have a reference by name. -/
def predefined : List (String × Char) :=
  [("lt", '<'), ("gt", '>'), ("amp", '&'), ("quot", '"'), ("apos", '\'')]

/-- What stands between `&` and `;` in a reference, and the character that it stands for. -/
inductive Refers : List Char → Char → Prop
  /-- A name. -/
  | named {name : String} {c : Char} : (name, c) ∈ predefined → Refers name.toList c
  /-- The number of a character that a document may hold. -/
  | decimal {digits : List Char} {c : Char} :
    Numeral 10 digits c.toNat → isChar c = true → Refers ('#' :: digits) c
  /-- The number in hexadecimal digits. -/
  | hexadecimal {digits : List Char} {c : Char} :
    Numeral 16 digits c.toNat → isChar c = true → Refers ('#' :: 'x' :: digits) c

theorem hexDigit?_of_isDigit {value : Nat} {c : Char} (hvalue : value < 16)
    (h : IsDigit value c) : hexDigit? c = some value := by
  rcases h with rfl | rfl <;> interval_cases value <;> rfl

theorem isAlphanum_of_isDigit {value : Nat} {c : Char} (hvalue : value < 16)
    (h : IsDigit value c) : c.isAlphanum = true := by
  rcases h with rfl | rfl <;> interval_cases value <;> rfl

namespace Numeral

variable {radix number : Nat} {digits : List Char}

theorem ne_nil (h : Numeral radix digits number) : digits ≠ [] := by
  cases h with
  | digit => exact List.cons_ne_nil _ _
  | more => exact List.append_ne_nil_of_right_ne_nil _ (List.cons_ne_nil _ _)

theorem exists_isDigit (h : Numeral radix digits number) :
    ∀ c ∈ digits, ∃ value, value < radix ∧ IsDigit value c := by
  induction h with
  | digit hvalue hdigit =>
    intro c hc
    rw [List.mem_singleton.1 hc]
    exact ⟨_, hvalue, hdigit⟩
  | more _ hvalue hdigit ih =>
    intro c hc
    rcases List.mem_append.1 hc with hc | hc
    · exact ih c hc
    · rw [List.mem_singleton.1 hc]
      exact ⟨_, hvalue, hdigit⟩

/-- Digits are read as the number that they are for. -/
theorem number?_eq (h : Numeral radix digits number) (hradix : radix ≤ 16) :
    number? radix digits = some number := by
  have hdigit? : ∀ {value c}, value < radix → IsDigit value c → digit? radix c = some value := by
    intro value c hvalue hdigit
    rw [digit?, hexDigit?_of_isDigit (hvalue.trans_le hradix) hdigit]
    exact Option.filter_some_pos (decide_eq_true hvalue)
  rw [number?, if_neg (by simpa using h.ne_nil)]
  induction h with
  | digit hvalue hdigit =>
    rw [List.foldlM_cons, hdigit? hvalue hdigit, Nat.zero_mul, Option.map_some, Nat.zero_add]
    rfl
  | more _ hvalue hdigit ih =>
    rw [List.foldlM_append, ih, Option.bind_eq_bind, Option.bind_some, List.foldlM_cons,
      hdigit? hvalue hdigit]
    rfl

end Numeral

theorem characterOfCode_toNat {c : Char} (h : isChar c = true) :
    characterOfCode (some c.toNat) = .ok c := by
  have hsize : c.toNat < Nat.pow 2 32 := c.val.toNat_lt
  have hvalid : c.toNat.isValidChar := c.valid
  have hofNat : Char.ofNatAux c.toNat hvalid = c := by
    have := Char.ofNat_toNat c
    rwa [Char.ofNat, dif_pos hvalid] at this
  rw [characterOfCode, if_pos hsize, dif_pos hvalid]
  dsimp only
  rw [hofNat, if_pos h]

variable {c : Char} {body : List Char}

/-- A reference is resolved to the character it stands for. -/
theorem Refers.resolve (h : Refers body c) : resolveReference body = .ok c := by
  cases h with
  | named hname =>
    simp only [predefined, List.mem_cons, List.not_mem_nil, or_false, Prod.mk.injEq] at hname
    rcases hname with ⟨rfl, rfl⟩ | ⟨rfl, rfl⟩ | ⟨rfl, rfl⟩ | ⟨rfl, rfl⟩ | ⟨rfl, rfl⟩ <;> rfl
  | @decimal digits _ hdigits hchar =>
    -- A decimal digit is not the letter that marks hexadecimal ones.
    have hx : ∀ rest, digits ≠ 'x' :: rest := by
      rintro rest rfl
      obtain ⟨value, hvalue, hdigit⟩ := hdigits.exists_isDigit 'x' List.mem_cons_self
      rcases hdigit with hdigit | hdigit <;> interval_cases value <;> revert hdigit <;> decide
    rw [resolveReference.eq_2 _ hx, hdigits.number?_eq (by decide), characterOfCode_toNat hchar]
  | hexadecimal hdigits hchar =>
    rw [resolveReference, hdigits.number?_eq (by decide), characterOfCode_toNat hchar]

/-- A reference holds letters, digits and number signs. -/
theorem Refers.isAlphanum (h : Refers body c) : ∀ x ∈ body, x.isAlphanum = true ∨ x = '#' := by
  have hdigits : ∀ {radix number digits}, Numeral radix digits number → radix ≤ 16 →
      ∀ x ∈ digits, x.isAlphanum = true := by
    intro radix number digits h hradix x hx
    obtain ⟨value, hvalue, hdigit⟩ := h.exists_isDigit x hx
    exact isAlphanum_of_isDigit (hvalue.trans_le hradix) hdigit
  cases h with
  | named hname =>
    have hletters : (predefined.all fun p => p.1.toList.all Char.isAlphanum) = true := by decide
    intro x hx
    exact .inl (List.all_eq_true.1 (List.all_eq_true.1 hletters _ hname) x hx)
  | decimal hdecimal _ =>
    intro x hx
    rcases List.mem_cons.1 hx with rfl | hx
    · exact .inr rfl
    · exact .inl (hdigits hdecimal (by decide) x hx)
  | hexadecimal hhexadecimal _ =>
    intro x hx
    rcases List.mem_cons.1 hx with rfl | hx
    · exact .inr rfl
    · rcases List.mem_cons.1 hx with rfl | hx
      · exact .inl rfl
      · exact .inl (hdigits hhexadecimal le_rfl x hx)

/-! ## Character data -/

/-- Character data stands for characters. Those that are not written as references have to be
legal, and not among some that have another meaning. -/
inductive Encodes (special : List Char) : (raw text : List Char) → Prop
  /-- No character. -/
  | nil : Encodes special [] []
  /-- A character as it is. -/
  | plain {c : Char} {raw text : List Char} :
    isChar c = true → c ∉ special → Encodes special raw text →
    Encodes special (c :: raw) (c :: text)
  /-- A reference. -/
  | reference {body : List Char} {c : Char} {raw text : List Char} :
    Refers body c → Encodes special raw text →
    Encodes special ('&' :: body ++ ';' :: raw) (c :: text)

/-- The characters that are not written as they are in text. -/
def textSpecials : List Char := ['&', '<', '>', '\r']

/-- The characters that are not written as they are in attribute values between quotes. -/
def valueSpecials (quote : Char) : List Char := quote :: '\t' :: '\n' :: textSpecials

/-- The characters that are not written as they are where data stands. -/
def DataMode.specials (quote : Char) : DataMode → List Char
  | .text => textSpecials
  | .attribute => valueSpecials quote

variable {special raw text : List Char}

/-- What holds of plain characters and in references holds everywhere in character data. -/
theorem Encodes.forall_mem_raw (h : Encodes special raw text) {p : Char → Prop}
    (hplain : ∀ c, isChar c = true → c ∉ special → p c)
    (hreference : ∀ c, c.isAlphanum = true ∨ c ∈ ['&', '#', ';'] → p c) : ∀ c ∈ raw, p c := by
  induction h with
  | nil => nofun
  | plain hchar hspecial _ ih =>
    intro c hc
    rcases List.mem_cons.1 hc with rfl | hc
    · exact hplain c hchar hspecial
    · exact ih c hc
  | reference hrefers _ ih =>
    intro c hc
    rcases List.mem_append.1 hc with hc | hc
    · rcases List.mem_cons.1 hc with rfl | hc
      · exact hreference _ (.inr (by decide))
      · rcases hrefers.isAlphanum c hc with halpha | rfl
        · exact hreference c (.inl halpha)
        · exact hreference _ (.inr (by decide))
    · rcases List.mem_cons.1 hc with rfl | hc
      · exact hreference _ (.inr (by decide))
      · exact ih c hc

theorem isChar_of_isAlphanum {c : Char} (h : c.isAlphanum = true) : isChar c = true := by
  have hbounds : 48 ≤ c.toNat ∧ c.toNat ≤ 122 := by
    delta Char.isAlphanum Char.isAlpha Char.isUpper Char.isLower Char.isDigit at h
    simp only [Bool.or_eq_true, Bool.and_eq_true, decide_eq_true_iff,
      UInt32.le_iff_toNat_le] at h
    have htoNat : c.toNat = c.val.toNat := rfl
    simp at h
    omega
  simp only [isChar, Bool.or_eq_true, Bool.and_eq_true, decide_eq_true_iff]
  omega

/-- Character data holds legal characters. -/
theorem Encodes.isChar_of_mem (h : Encodes special raw text) : ∀ c ∈ raw, isChar c = true := by
  refine h.forall_mem_raw (fun c hchar _ => hchar) fun c hc => ?_
  rcases hc with halpha | hc
  · exact isChar_of_isAlphanum halpha
  · simp only [List.mem_cons, List.not_mem_nil, or_false] at hc
    rcases hc with rfl | rfl | rfl <;> decide

/-- A character that has another meaning does not occur in character data, if it is none that
references are made of. -/
theorem Encodes.not_mem_raw (h : Encodes special raw text) {x : Char} (hx : x ∈ special)
    (hreference : ¬ (x.isAlphanum = true ∨ x ∈ ['&', '#', ';'])) : x ∉ raw := by
  intro hmem
  refine h.forall_mem_raw (p := (· ≠ x)) (fun c _ hspecial heq => ?_)
    (fun c hc heq => ?_) x hmem rfl
  · exact hspecial (heq ▸ hx)
  · exact hreference (heq ▸ hc)

theorem firstInvalid?_eq_none {offset : Nat} {raw : List Char} (h : ∀ c ∈ raw, isChar c = true) :
    firstInvalid? offset raw = none := by
  induction raw generalizing offset with
  | nil => rfl
  | cons c rest ih =>
    rw [List.forall_mem_cons] at h
    rw [firstInvalid?, if_pos h.1]
    exact ih h.2

theorem replaceReturns_of_not_mem {newline : Char} {run : List Char} (h : '\r' ∉ run) :
    replaceReturns newline run = run := by
  induction run with
  | nil => rfl
  | cons c rest ih =>
    rw [List.mem_cons, not_or] at h
    rw [replaceReturns, if_neg (Ne.symm h.1), ih h.2]
    rintro rest' rfl
    exact absurd rfl h.1

theorem decodeRuns_of_not_mem (mode : DataMode) (offset : Nat) {run : List Char}
    (h : '&' ∉ run) : decodeRuns mode offset run = .ok (mode.normalize run) := by
  have hall : ∀ c ∈ run, (c != '&') = true := fun c hc => bne_iff_ne.2 fun heq => h (heq ▸ hc)
  rw [decodeRuns]
  dsimp only
  split
  · rw [List.takeWhile_eq_self_iff.2 hall]
  · next hdrop =>
    rw [List.dropWhile_eq_nil_iff.2 hall] at hdrop
    cases hdrop

/-- A reference is replaced by its character, behind the run in front of it, and another run starts
behind it. -/
theorem decodeRuns_ampersand (mode : DataMode) (offset : Nat) {run body raw : List Char}
    (hrun : '&' ∉ run) (hbody : ';' ∉ body) :
    decodeRuns mode offset (run ++ ('&' :: body ++ ';' :: raw)) =
      match resolveReference body with
      | .error kind => .error ⟨offset + utf8Length run, kind⟩
      | .ok c =>
        (decodeRuns mode (offset + utf8Length run + utf8Length body + 2) raw).map
          (mode.normalize run ++ c :: ·) := by
  have hall : ∀ c ∈ run, (c != '&') = true := fun c hc => bne_iff_ne.2 fun heq => hrun (heq ▸ hc)
  have hall' : ∀ c ∈ body, (c != ';') = true := fun c hc => bne_iff_ne.2 fun heq => hbody (heq ▸ hc)
  have hampersand : ∀ c ∈ ('&' :: (body ++ ';' :: raw)).head?, (c != '&') = false := by simp
  have hsemicolon : ∀ c ∈ (';' :: raw).head?, (c != ';') = false := by simp
  obtain ⟨htake, hdrop⟩ := Text.takeWhile_dropWhile_append hall hampersand
  obtain ⟨htake', hdrop'⟩ := Text.takeWhile_dropWhile_append hall' hsemicolon
  rw [List.cons_append]
  rw [decodeRuns]
  dsimp only
  split
  · next h => rw [hdrop] at h; cases h
  · next after h =>
    rw [hdrop] at h
    cases h
    split
    · next h' => rw [hdrop'] at h'; cases h'
    · next rest h' =>
      rw [hdrop'] at h'
      cases h'
      rw [htake, htake']
      cases resolveReference body with
      | error kind => rfl
      | ok c =>
        dsimp only
        cases decodeRuns mode (offset + utf8Length run + utf8Length body + 2) raw with
        | error fault => rfl
        | ok decoded => rfl

/-- There are references for the characters that are not written as they are. -/
theorem exists_refers (mode : DataMode) {quote : Char} (hquote : quote = '"' ∨ quote = '\'') :
    ∀ c ∈ mode.specials quote, ∃ body, Refers body c := by
  have hone : Numeral 10 ['1'] 1 := .digit (by decide) (.inl rfl)
  have htext : ∀ c ∈ textSpecials, ∃ body, Refers body c := by
    simp only [textSpecials, List.forall_mem_cons, List.not_mem_nil, false_imp_iff, implies_true,
      and_true]
    have hreturn : Numeral 10 ['1', '3'] '\r'.toNat :=
      @Numeral.more 10 ['1'] 1 '3' 3 hone (by decide) (.inl rfl)
    exact ⟨⟨_, @Refers.named "amp" _ (by decide)⟩, ⟨_, @Refers.named "lt" _ (by decide)⟩,
      ⟨_, @Refers.named "gt" _ (by decide)⟩, ⟨_, .decimal hreturn (by decide)⟩⟩
  cases mode with
  | text => exact htext
  | «attribute» =>
    have htab : Numeral 10 ['9'] '\t'.toNat := .digit (by decide) (.inl rfl)
    have hnewline : Numeral 10 ['1', '0'] '\n'.toNat :=
      @Numeral.more 10 ['1'] 1 '0' 0 hone (by decide) (.inl rfl)
    refine List.forall_mem_cons.2 ⟨?_, List.forall_mem_cons.2 ⟨⟨_, .decimal htab (by decide)⟩,
      List.forall_mem_cons.2 ⟨⟨_, .decimal hnewline (by decide)⟩, htext⟩⟩⟩
    rcases hquote with rfl | rfl
    · exact ⟨_, @Refers.named "quot" _ (by decide)⟩
    · exact ⟨_, @Refers.named "apos" _ (by decide)⟩

/-- Any legal characters can be written. -/
theorem exists_encodes {special text : List Char} (hchar : ∀ c ∈ text, isChar c = true)
    (hspecial : ∀ c ∈ special, ∃ body, Refers body c) : ∃ raw, Encodes special raw text := by
  induction text with
  | nil => exact ⟨[], .nil⟩
  | cons c rest ih =>
    rw [List.forall_mem_cons] at hchar
    obtain ⟨raw, hraw⟩ := ih hchar.2
    by_cases hc : c ∈ special
    · obtain ⟨body, hbody⟩ := hspecial c hc
      exact ⟨_, .reference hbody hraw⟩
    · exact ⟨_, .plain hchar.1 hc hraw⟩

end XmlQuery.Markup
