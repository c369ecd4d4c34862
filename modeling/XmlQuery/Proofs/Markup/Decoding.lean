import XmlQuery.Proofs.Markup.CharacterData

/-!
# What character data stands for

Decoding goes through character data in runs that end at an ampersand. The same comes out of reading
it one character at a time: a reference is replaced by its character, a line end by a line feed, and
in an attribute value white space by spaces; everything else stands for itself.

## Main definitions

* `DataMode.shown`: what a character stands for that is written as it is
* `Decodes`: character data of legal characters and references stands for characters

## Main results

* `resolveReference_eq_ok_iff`: what is resolved is a reference
* `decodeRuns_append`: a run without an ampersand is decoded apart from what follows it
* `decodeRuns_cons`, `decodeRuns_crlf`, `decodeRuns_return`, `decodeRuns_semicolon`: decoding one
  character, line end or reference at a time
* `rawData_induction`: induction on character data, which is taken apart in this way
* `decode_eq_ok_iff`: **decoding succeeds on such data alone**, and finds what it stands for
* `Encodes.decode_eq`: decoding finds the characters that were written
-/

namespace XmlQuery.Markup

open Text (utf8Length utf8Length_nil utf8Length_cons)
open Text.Hex (hexDigit? digit? number?)

/-! ## References -/

theorem isDigit_of_hexDigit? {value : Nat} {c : Char} (h : hexDigit? c = some value) :
    value < 16 ∧ IsDigit value c := by
  have hc : c = Char.ofNat c.toNat := (Char.ofNat_toNat c).symm
  have hle : ∀ a b : Char, a ≤ b ↔ a.toNat ≤ b.toNat := fun a b => Iff.rfl
  simp only [hexDigit?, hle] at h
  generalize c.toNat = n at h hc
  subst hc
  split at h
  · next hn =>
    obtain ⟨hlow, hhigh⟩ := hn
    change 48 ≤ n at hlow
    change n ≤ 57 at hhigh
    interval_cases n <;> cases h <;> exact ⟨by decide, .inl rfl⟩
  · split at h
    · next hn =>
      obtain ⟨hlow, hhigh⟩ := hn
      change 97 ≤ n at hlow
      change n ≤ 102 at hhigh
      interval_cases n <;> cases h <;> exact ⟨by decide, .inl rfl⟩
    · split at h
      · next hn =>
        obtain ⟨hlow, hhigh⟩ := hn
        change 65 ≤ n at hlow
        change n ≤ 70 at hhigh
        interval_cases n <;> cases h <;> exact ⟨by decide, .inr rfl⟩
      · cases h

theorem isDigit_of_digit? {radix value : Nat} {c : Char} (h : digit? radix c = some value) :
    value < radix ∧ IsDigit value c := by
  rw [digit?, Option.filter_eq_some_iff] at h
  exact ⟨of_decide_eq_true h.2, (isDigit_of_hexDigit? h.1).2⟩

/-- What is read as a number is digits for it. -/
theorem numeral_of_number? {radix number : Nat} {digits : List Char}
    (h : number? radix digits = some number) : Numeral radix digits number := by
  rw [number?] at h
  split at h
  · cases h
  · next hne =>
    induction digits using List.reverseRecOn generalizing number with
    | nil => exact absurd rfl hne
    | append_singleton front c ih =>
      simp only [List.foldlM_append, List.foldlM_cons, List.foldlM_nil, Option.bind_eq_bind,
        Option.bind_eq_some_iff, Option.map_eq_some_iff, Option.pure_def] at h
      obtain ⟨before, hbefore, _, ⟨value, hvalue, rfl⟩, ⟨⟩⟩ := h
      obtain ⟨hlt, hdigit⟩ := isDigit_of_digit? hvalue
      cases front with
      | nil =>
        cases hbefore
        rw [Nat.zero_mul, Nat.zero_add]
        exact .digit hlt hdigit
      | cons x front => exact .more (ih Bool.false_ne_true hbefore) hlt hdigit

theorem toNat_of_characterOfCode {code? : Option Nat} {c : Char}
    (h : characterOfCode code? = .ok c) : code? = some c.toNat ∧ isChar c = true := by
  cases code? with
  | none => cases h
  | some code =>
    rw [characterOfCode] at h
    by_cases hbound : code < Nat.pow 2 32
    case neg =>
      rw [if_neg hbound] at h
      cases h
    rw [if_pos hbound] at h
    by_cases hvalid : code.isValidChar
    case neg =>
      rw [dif_neg hvalid] at h
      cases h
    rw [dif_pos hvalid] at h
    by_cases hchar : isChar (Char.ofNatAux code hvalid) = true
    · rw [if_pos hchar] at h
      cases h
      exact ⟨rfl, hchar⟩
    · rw [if_neg hchar] at h
      cases h

/-- What is resolved is a reference. -/
theorem resolveReference_eq_ok_iff {body : List Char} {c : Char} :
    resolveReference body = .ok c ↔ Refers body c := by
  refine ⟨fun h => ?_, Refers.resolve⟩
  unfold resolveReference at h
  split at h
  · obtain ⟨hnumber, hchar⟩ := toNat_of_characterOfCode h
    exact .hexadecimal (numeral_of_number? hnumber) hchar
  · obtain ⟨hnumber, hchar⟩ := toNat_of_characterOfCode h
    exact .decimal (numeral_of_number? hnumber) hchar
  · cases h
    exact @Refers.named "lt" _ (by decide)
  · cases h
    exact @Refers.named "gt" _ (by decide)
  · cases h
    exact @Refers.named "amp" _ (by decide)
  · cases h
    exact @Refers.named "quot" _ (by decide)
  · cases h
    exact @Refers.named "apos" _ (by decide)
  · split at h
    · cases h
    · cases h

/-! ## One character at a time -/

/-- What a character stands for that is written as it is: in an attribute value all white space is
spaces. -/
def DataMode.shown : DataMode → Char → Char
  | .text, c => c
  | .attribute, c => if c = '\n' ∨ c = '\t' then ' ' else c

theorem DataMode.normalize_eq (mode : DataMode) (run : List Char) :
    mode.normalize run = (normalizeNewlines run).map mode.shown := by
  cases mode with
  | text => exact (List.map_id _).symm
  | «attribute» => rfl

variable {mode : DataMode} {offset : Nat} {c : Char} {run raw tail text body : List Char}

theorem DataMode.normalize_nil : mode.normalize [] = [] := by
  cases mode <;> rfl

theorem DataMode.normalize_cons (hc : c ≠ '\r') :
    mode.normalize (c :: run) = mode.shown c :: mode.normalize run := by
  rw [normalize_eq, normalize_eq, normalizeNewlines, replaceReturns, if_neg hc, List.map_cons,
    normalizeNewlines]
  rintro rest rfl
  exact absurd rfl hc

theorem DataMode.normalize_crlf :
    mode.normalize ('\r' :: '\n' :: run) = mode.shown '\n' :: mode.normalize run := by
  rw [normalize_eq, normalize_eq, normalizeNewlines, replaceReturns, List.map_cons,
    normalizeNewlines]

theorem DataMode.normalize_return (hrun : run.head? ≠ some '\n') :
    mode.normalize ('\r' :: run) = mode.shown '\n' :: mode.normalize run := by
  rw [normalize_eq, normalize_eq, normalizeNewlines, replaceReturns, if_pos rfl, List.map_cons,
    normalizeNewlines]
  rintro rest - rfl
  exact hrun rfl

theorem decodeRuns_nil : decodeRuns mode offset [] = .ok [] := by
  rw [decodeRuns_of_not_mem mode offset List.not_mem_nil, DataMode.normalize_nil]

/-- A reference is decoded apart from what follows it. -/
theorem decodeRuns_semicolon (mode : DataMode) (offset : Nat) (hbody : ';' ∉ body)
    (raw : List Char) :
    decodeRuns mode offset ('&' :: body ++ ';' :: raw) =
      match resolveReference body with
      | .error kind => .error ⟨offset, kind⟩
      | .ok c => (decodeRuns mode (offset + utf8Length body + 2) raw).map (c :: ·) := by
  have h := @decodeRuns_ampersand mode offset [] body raw List.not_mem_nil hbody
  rw [List.nil_append, DataMode.normalize_nil] at h
  exact h

/-- An ampersand starts no reference if no semicolon follows it. -/
theorem decodeRuns_unterminated (mode : DataMode) (offset : Nat) (hrun : '&' ∉ run)
    (hraw : ';' ∉ raw) :
    decodeRuns mode offset (run ++ '&' :: raw) =
      .error ⟨offset + utf8Length run, .malformedReference⟩ := by
  have hall : ∀ c ∈ run, (c != '&') = true := fun c hc => bne_iff_ne.2 fun heq => hrun (heq ▸ hc)
  have hall' : ∀ c ∈ raw, (c != ';') = true := fun c hc => bne_iff_ne.2 fun heq => hraw (heq ▸ hc)
  have hampersand : ∀ c ∈ ('&' :: raw).head?, (c != '&') = false := by simp
  obtain ⟨htake, hdrop⟩ := Text.takeWhile_dropWhile_append hall hampersand
  rw [decodeRuns]
  dsimp only
  split
  · next h => rw [hdrop] at h; cases h
  · next after h =>
    rw [hdrop] at h
    cases h
    split
    · rw [htake]
    · next h' =>
      rw [List.dropWhile_eq_nil_iff.2 hall'] at h'
      cases h'

theorem decodeRuns_loose (hraw : ';' ∉ raw) :
    decodeRuns mode offset ('&' :: raw) = .error ⟨offset, .malformedReference⟩ :=
  decodeRuns_unterminated mode offset List.not_mem_nil hraw

/-- A text is a run without an ampersand, in front of nothing or of an ampersand. -/
theorem exists_run (raw : List Char) :
    ∃ run tail, raw = run ++ tail ∧ '&' ∉ run ∧ (tail = [] ∨ ∃ after, tail = '&' :: after) := by
  by_cases h : '&' ∈ raw
  · obtain ⟨run, after, rfl, hrun⟩ := List.eq_append_cons_of_mem h
    exact ⟨run, _, rfl, hrun, .inr ⟨after, rfl⟩⟩
  · exact ⟨raw, [], (List.append_nil raw).symm, h, .inl rfl⟩

/-- A run without an ampersand is decoded apart from what follows it. -/
theorem decodeRuns_append (hrun : '&' ∉ run) (htail : tail = [] ∨ ∃ after, tail = '&' :: after) :
    decodeRuns mode offset (run ++ tail) =
      (decodeRuns mode (offset + utf8Length run) tail).map (mode.normalize run ++ ·) := by
  rcases htail with rfl | ⟨after, rfl⟩
  · rw [List.append_nil, decodeRuns_of_not_mem mode offset hrun, decodeRuns_nil]
    exact congrArg _ (List.append_nil _).symm
  · by_cases h : ';' ∈ after
    · obtain ⟨body, rest, rfl, hbody⟩ := List.eq_append_cons_of_mem h
      have hbehind := decodeRuns_semicolon mode (offset + utf8Length run) hbody rest
      rw [← List.cons_append, decodeRuns_ampersand mode offset hrun hbody, hbehind]
      cases resolveReference body with
      | error kind => rfl
      | ok c =>
        dsimp only
        cases decodeRuns mode (offset + utf8Length run + utf8Length body + 2) rest <;> rfl
    · rw [decodeRuns_unterminated mode offset hrun h, decodeRuns_loose h]
      rfl

theorem map_map_append {x : Except Fault (List Char)} {front : List Char} {c : Char} :
    x.map (c :: front ++ ·) = (x.map (front ++ ·)).map (c :: ·) := by
  cases x <;> rfl

/-- A character that is written as it is, is decoded apart from what follows it. -/
theorem decodeRuns_cons (hc : c ≠ '&') (hreturn : c ≠ '\r') :
    decodeRuns mode offset (c :: raw) =
      (decodeRuns mode (offset + c.utf8Size) raw).map (mode.shown c :: ·) := by
  obtain ⟨run, tail, rfl, hrun, htail⟩ := exists_run raw
  have hgrown : '&' ∉ c :: run := fun hmem => (List.mem_cons.1 hmem).elim (hc ·.symm) hrun
  rw [← List.cons_append, decodeRuns_append hgrown htail, decodeRuns_append hrun htail,
    DataMode.normalize_cons hreturn, map_map_append, utf8Length_cons, Nat.add_assoc]

/-- A line end of two characters is decoded apart from what follows it. -/
theorem decodeRuns_crlf :
    decodeRuns mode offset ('\r' :: '\n' :: raw) =
      (decodeRuns mode (offset + 2) raw).map (mode.shown '\n' :: ·) := by
  obtain ⟨run, tail, rfl, hrun, htail⟩ := exists_run raw
  have hgrown : '&' ∉ '\r' :: '\n' :: run := by simpa using hrun
  rw [← List.cons_append, ← List.cons_append, decodeRuns_append hgrown htail,
    decodeRuns_append hrun htail, DataMode.normalize_crlf, map_map_append, utf8Length_cons,
    utf8Length_cons, ← Nat.add_assoc, ← Nat.add_assoc]
  rfl

/-- A carriage return alone is decoded apart from what follows it. -/
theorem decodeRuns_return (hraw : raw.head? ≠ some '\n') :
    decodeRuns mode offset ('\r' :: raw) =
      (decodeRuns mode (offset + 1) raw).map (mode.shown '\n' :: ·) := by
  obtain ⟨run, tail, rfl, hrun, htail⟩ := exists_run raw
  have hgrown : '&' ∉ '\r' :: run := by simpa using hrun
  have hhead : run.head? ≠ some '\n' := fun h => hraw (List.mem_head?_append_of_mem_head? h)
  rw [← List.cons_append, decodeRuns_append hgrown htail, decodeRuns_append hrun htail,
    DataMode.normalize_return hhead, map_map_append, utf8Length_cons, ← Nat.add_assoc]
  rfl

/-- Induction on character data: its first character, line end or reference is taken off, or it
starts with an ampersand that no semicolon follows. -/
@[elab_as_elim]
theorem rawData_induction {motive : List Char → Prop} (nil : motive [])
    (plain : ∀ (c : Char) (raw : List Char), c ≠ '&' → c ≠ '\r' → motive raw → motive (c :: raw))
    (crlf : ∀ raw : List Char, motive raw → motive ('\r' :: '\n' :: raw))
    (lone : ∀ raw : List Char, raw.head? ≠ some '\n' → motive raw → motive ('\r' :: raw))
    (reference : ∀ body raw : List Char, ';' ∉ body → motive raw →
      motive ('&' :: body ++ ';' :: raw))
    (unterminated : ∀ raw : List Char, ';' ∉ raw → motive ('&' :: raw)) (raw : List Char) :
    motive raw := by
  match raw with
  | [] => exact nil
  | c :: rest =>
    have ih : ∀ raw : List Char, raw.length < (c :: rest).length → motive raw := fun raw hlt =>
      rawData_induction nil plain crlf lone reference unterminated raw
    by_cases hampersand : c = '&'
    · subst hampersand
      by_cases hsemicolon : ';' ∈ rest
      · obtain ⟨body, rest, rfl, hbody⟩ := List.eq_append_cons_of_mem hsemicolon
        exact reference body rest hbody (ih rest (by simp +arith))
      · exact unterminated rest hsemicolon
    · by_cases hreturn : c = '\r'
      · subst hreturn
        by_cases hfeed : rest.head? = some '\n'
        · obtain ⟨rest, rfl⟩ := List.head?_eq_some_iff.1 hfeed
          exact crlf rest (ih rest (by simp +arith))
        · exact lone rest hfeed (ih rest (by simp +arith))
      · exact plain c rest hampersand hreturn (ih rest (by simp +arith))
termination_by raw.length
decreasing_by exact hlt

/-! ## Data of legal characters -/

/-- Character data of legal characters and references stands for characters. -/
inductive Decodes (mode : DataMode) : (raw text : List Char) → Prop
  /-- No character. -/
  | nil : Decodes mode [] []
  /-- A character as it is. -/
  | plain {c : Char} {raw text : List Char} : isChar c = true → c ≠ '&' → c ≠ '\r' →
    Decodes mode raw text → Decodes mode (c :: raw) (mode.shown c :: text)
  /-- A line end of two characters. -/
  | crlf {raw text : List Char} :
    Decodes mode raw text → Decodes mode ('\r' :: '\n' :: raw) (mode.shown '\n' :: text)
  /-- A carriage return alone, which is a line end too. -/
  | lone {raw text : List Char} : raw.head? ≠ some '\n' →
    Decodes mode raw text → Decodes mode ('\r' :: raw) (mode.shown '\n' :: text)
  /-- A reference. -/
  | reference {body raw text : List Char} {c : Char} : Refers body c →
    Decodes mode raw text → Decodes mode ('&' :: body ++ ';' :: raw) (c :: text)

theorem firstInvalid?_eq_none_iff {offset : Nat} {raw : List Char} :
    firstInvalid? offset raw = none ↔ ∀ c ∈ raw, isChar c = true := by
  refine ⟨fun h => ?_, firstInvalid?_eq_none⟩
  induction raw generalizing offset with
  | nil => nofun
  | cons c rest ih =>
    rw [firstInvalid?] at h
    split at h
    · next hc => exact List.forall_mem_cons.2 ⟨hc, ih h⟩
    · cases h

/-- Data that stands for characters holds legal characters. -/
theorem Decodes.isChar_of_mem (h : Decodes mode raw text) : ∀ c ∈ raw, isChar c = true := by
  induction h with
  | nil => nofun
  | plain hchar _ _ _ ih => exact List.forall_mem_cons.2 ⟨hchar, ih⟩
  | crlf _ ih =>
    exact List.forall_mem_cons.2 ⟨by decide, List.forall_mem_cons.2 ⟨by decide, ih⟩⟩
  | lone _ _ ih => exact List.forall_mem_cons.2 ⟨by decide, ih⟩
  | reference hrefers _ ih =>
    refine List.forall_mem_append.2 ⟨List.forall_mem_cons.2 ⟨by decide, fun c hc => ?_⟩,
      List.forall_mem_cons.2 ⟨by decide, ih⟩⟩
    rcases hrefers.isAlphanum c hc with halpha | rfl
    · exact isChar_of_isAlphanum halpha
    · decide

theorem Decodes.decodeRuns_eq (h : Decodes mode raw text) (offset : Nat) :
    decodeRuns mode offset raw = .ok text := by
  induction h generalizing offset with
  | nil => exact decodeRuns_nil
  | plain _ hc hreturn _ ih => rw [decodeRuns_cons hc hreturn, ih]; rfl
  | crlf _ ih => rw [decodeRuns_crlf, ih]; rfl
  | lone hraw _ ih => rw [decodeRuns_return hraw, ih]; rfl
  | reference hrefers _ ih =>
    have hbody : ';' ∉ _ := fun hmem => absurd (hrefers.isAlphanum ';' hmem) (by decide)
    rw [decodeRuns_semicolon mode offset hbody, hrefers.resolve]
    dsimp only
    rw [ih]
    rfl

/-- What is decoded without a fault stands for what is found. -/
theorem decodes_of_decodeRuns {raw text : List Char} {offset : Nat}
    (hchar : ∀ c ∈ raw, isChar c = true) (h : decodeRuns mode offset raw = .ok text) :
    Decodes mode raw text := by
  induction raw using rawData_induction generalizing text offset with
  | nil =>
    rw [decodeRuns_nil] at h
    cases h
    exact .nil
  | plain c raw hampersand hreturn ih =>
    rw [List.forall_mem_cons] at hchar
    rw [decodeRuns_cons hampersand hreturn] at h
    obtain ⟨text, htext, rfl⟩ := map_eq_ok_iff.1 h
    exact .plain hchar.1 hampersand hreturn (ih hchar.2 htext)
  | crlf raw ih =>
    rw [List.forall_mem_cons, List.forall_mem_cons] at hchar
    rw [decodeRuns_crlf] at h
    obtain ⟨text, htext, rfl⟩ := map_eq_ok_iff.1 h
    exact .crlf (ih hchar.2.2 htext)
  | lone raw hfeed ih =>
    rw [List.forall_mem_cons] at hchar
    rw [decodeRuns_return hfeed] at h
    obtain ⟨text, htext, rfl⟩ := map_eq_ok_iff.1 h
    exact .lone hfeed (ih hchar.2 htext)
  | reference body raw hbody ih =>
    rw [List.forall_mem_append, List.forall_mem_cons (p := (isChar · = true)) (a := ';')] at hchar
    rw [decodeRuns_semicolon mode offset hbody] at h
    split at h
    · cases h
    · next x hx =>
      obtain ⟨text, htext, rfl⟩ := map_eq_ok_iff.1 h
      exact .reference (resolveReference_eq_ok_iff.1 hx) (ih hchar.2.2 htext)
  | unterminated raw hraw =>
    rw [decodeRuns_loose hraw] at h
    cases h

/-- **Decoding succeeds on data of legal characters and references alone**, and finds what it stands
for. -/
theorem decode_eq_ok_iff : decode mode offset raw = .ok text ↔ Decodes mode raw text := by
  rw [decode]
  constructor
  · intro h
    split at h
    · cases h
    · next hnone => exact decodes_of_decodeRuns (firstInvalid?_eq_none_iff.1 hnone) h
  · intro h
    rw [firstInvalid?_eq_none h.isChar_of_mem]
    exact h.decodeRuns_eq offset

/-- Characters that are written as such data stand for themselves in it. -/
theorem Encodes.decodes {quote : Char} (h : Encodes (mode.specials quote) raw text) :
    Decodes mode raw text := by
  induction h with
  | nil => exact .nil
  | @plain c raw text hchar hspecial _ ih =>
    have hne : ∀ x ∈ textSpecials, c ≠ x := by
      rintro x hx rfl
      refine hspecial ?_
      cases mode with
      | text => exact hx
      | «attribute» =>
        exact List.mem_cons_of_mem _ (List.mem_cons_of_mem _ (List.mem_cons_of_mem _ hx))
    have hshown : mode.shown c = c := by
      cases mode with
      | text => rfl
      | «attribute» =>
        refine if_neg ?_
        rintro (rfl | rfl)
        · exact hspecial (by simp [DataMode.specials, valueSpecials])
        · exact hspecial (by simp [DataMode.specials, valueSpecials])
    have hdecodes := Decodes.plain hchar (hne '&' (by decide)) (hne '\r' (by decide)) ih
    rwa [hshown] at hdecodes
  | reference hrefers _ ih => exact .reference hrefers ih

/-- Decoding finds the characters that were written. -/
theorem Encodes.decode_eq {quote : Char} (h : Encodes (mode.specials quote) raw text)
    (offset : Nat) : decode mode offset raw = .ok text :=
  decode_eq_ok_iff.2 h.decodes

end XmlQuery.Markup
