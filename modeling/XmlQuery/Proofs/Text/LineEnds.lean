import XmlQuery.Proofs.Text.Delimiters
import XmlQuery.Text.Blank

/-!
# Line ends

The line feeds of a text can be written as other line ends: as a carriage return with a line feed
behind it, or as a carriage return alone. Whatever does not tell a carriage return from a line feed
finds the same in both texts, apart from the line ends in what it finds.

## Main definitions

* `LineEnd`: the other line ends
* `LineEnd.write`: a text with its line feeds written as these
* `Inline`: a text without line ends
* `Cursor.Rewritten`: the same place in both texts

## Main results

* `LineEnd.takeWhile_write`, `LineEnd.dropWhile_write`, `LineEnd.trimEnd_write`: characters of a
  class at the front and at the end of a text
* `LineEnd.splitFirst?_write`: the first occurrence of a pattern without line ends
* `Cursor.Rewritten.of_takes`: the same characters lead from the same place to the same place
-/

namespace XmlQuery.Text

/-- A line end other than a line feed. -/
inductive LineEnd
  /-- A carriage return and a line feed. -/
  | crlf
  /-- A carriage return. -/
  | cr
  deriving DecidableEq

namespace LineEnd

/-- The characters of a line end. -/
def chars : LineEnd → List Char
  | .crlf => ['\r', '\n']
  | .cr => ['\r']

/-- A text with its line feeds written as other line ends. -/
def write (e : LineEnd) (text : List Char) : List Char :=
  text.flatMap fun c => if c = '\n' then e.chars else [c]

end LineEnd

/-- A text without line ends. -/
def Inline (text : List Char) : Prop := '\n' ∉ text ∧ '\r' ∉ text

instance (text : List Char) : Decidable (Inline text) :=
  inferInstanceAs (Decidable ('\n' ∉ text ∧ '\r' ∉ text))

namespace LineEnd

variable {e : LineEnd} {text pattern : List Char} {c : Char} {p : Char → Bool}

@[simp] theorem write_nil : e.write [] = [] := rfl

@[simp] theorem write_newline : e.write ('\n' :: text) = e.chars ++ e.write text := rfl

theorem write_cons (hc : c ≠ '\n') : e.write (c :: text) = c :: e.write text := by
  rw [write, List.flatMap_cons, if_neg hc]
  rfl

theorem write_append (before after : List Char) :
    e.write (before ++ after) = e.write before ++ e.write after :=
  List.flatMap_append

theorem write_eq_self (h : '\n' ∉ text) : e.write text = text := by
  induction text with
  | nil => rfl
  | cons c text ih =>
    rw [List.mem_cons, not_or] at h
    rw [write_cons (Ne.symm h.1), ih h.2]

theorem write_eq_nil_iff : e.write text = [] ↔ text = [] := by
  cases text with
  | nil => simp
  | cons c text =>
    by_cases hc : c = '\n'
    · subst hc
      cases e <;> simp [chars]
    · simp [write_cons hc]

/-- Other characters stay. -/
theorem mem_write (hnewline : c ≠ '\n') (hreturn : c ≠ '\r') : c ∈ e.write text ↔ c ∈ text := by
  induction text with
  | nil => rfl
  | cons x text ih =>
    by_cases hx : x = '\n'
    · subst hx
      cases e <;> simp [chars, hnewline, hreturn, ih]
    · simp [write_cons hx, ih]

/-- No line feed is first. -/
theorem head?_write : (e.write text).head? ≠ some '\n' := by
  cases text with
  | nil => nofun
  | cons c text =>
    by_cases hc : c = '\n'
    · subst hc
      cases e <;> simp [chars]
    · simpa [write_cons hc] using hc

/-- Other characters stay last. -/
theorem getLast?_write (hnewline : c ≠ '\n') (hreturn : c ≠ '\r') :
    (e.write text).getLast? = some c ↔ text.getLast? = some c := by
  rcases List.eq_nil_or_concat text with rfl | ⟨front, x, rfl⟩
  · rfl
  · rw [List.concat_eq_append, write_append, List.getLast?_concat]
    by_cases hx : x = '\n'
    · subst hx
      cases e <;> simp [chars, hnewline.symm, hreturn.symm]
    · simp [write_cons hx]

theorem takeWhile_write (hp : p '\r' = p '\n') (text : List Char) :
    (e.write text).takeWhile p = e.write (text.takeWhile p) := by
  induction text with
  | nil => rfl
  | cons c text ih =>
    by_cases hc : c = '\n'
    · subst hc
      cases e <;> cases hnewline : p '\n' <;> simp [chars, hp, hnewline, ih]
    · cases hpc : p c <;> simp [write_cons hc, hpc, ih]

theorem dropWhile_write (hp : p '\r' = p '\n') (text : List Char) :
    (e.write text).dropWhile p = e.write (text.dropWhile p) := by
  induction text with
  | nil => rfl
  | cons c text ih =>
    by_cases hc : c = '\n'
    · subst hc
      cases e <;> cases hnewline : p '\n' <;> simp [chars, hp, hnewline, ih]
    · cases hpc : p c <;> simp [write_cons hc, hpc, ih]

theorem trimEnd_write (hp : p '\r' = p '\n') (text : List Char) :
    trimEnd p (e.write text) = e.write (trimEnd p text) := by
  -- The end of the text is looked at first, so the induction is from its end.
  induction text using List.reverseRecOn with
  | nil => rfl
  | append_singleton text c ih =>
    by_cases hpc : p c = true
    · have hlast : ∀ x ∈ e.write [c], p x = true := by
        by_cases hc : c = '\n'
        · subst hc
          cases e <;> simp [chars, hp, hpc]
        · simpa [write_cons hc] using hpc
      rw [write_append, trimEnd_append_of_pos hlast, ih,
        trimEnd_append_of_pos (List.forall_mem_singleton.2 hpc)]
    · rw [trimEnd_concat_of_neg hpc]
      by_cases hc : c = '\n'
      · subst hc
        have hreturn : ¬ p '\r' = true := hp ▸ hpc
        cases e with
        | cr => rw [write_append]; exact trimEnd_concat_of_neg hreturn
        | crlf =>
          have hchars : LineEnd.crlf.write (text ++ ['\n']) =
              (LineEnd.crlf.write text ++ ['\r']) ++ ['\n'] := by
            rw [write_append, List.append_assoc]
            rfl
          rw [hchars]
          exact trimEnd_concat_of_neg hpc
      · rw [write_append, write_cons hc, write_nil]
        exact trimEnd_concat_of_neg hpc

/-- No pattern without line ends starts with one. -/
theorem isPrefixOf_lineEnd (hne : pattern ≠ []) (hpattern : Inline pattern)
    (hc : c = '\n' ∨ c = '\r') (text : List Char) : pattern.isPrefixOf (c :: text) = false := by
  cases pattern with
  | nil => exact absurd rfl hne
  | cons x pattern =>
    obtain ⟨hnewline, hreturn⟩ := hpattern
    have hx : (x == c) = false := by
      rw [beq_eq_false_iff_ne]
      rintro rfl
      rcases hc with rfl | rfl
      · exact hnewline List.mem_cons_self
      · exact hreturn List.mem_cons_self
    rw [List.isPrefixOf_cons_cons, hx, Bool.false_and]

theorem isPrefixOf_write (hpattern : Inline pattern) (text : List Char) :
    pattern.isPrefixOf (e.write text) = pattern.isPrefixOf text := by
  induction pattern generalizing text with
  | nil => simp
  | cons x pattern ih =>
    cases text with
    | nil => rfl
    | cons c text =>
      by_cases hc : c = '\n'
      · subst hc
        have hne := List.cons_ne_nil x pattern
        rw [isPrefixOf_lineEnd hne hpattern (.inl rfl)]
        cases e <;> exact isPrefixOf_lineEnd hne hpattern (.inr rfl) _
      · have hpattern : Inline pattern := by
          simp only [Inline, List.mem_cons, not_or] at hpattern
          exact ⟨hpattern.1.2, hpattern.2.2⟩
        rw [write_cons hc, List.isPrefixOf_cons_cons, List.isPrefixOf_cons_cons, ih hpattern]

/-- A line end is passed over in the search for a pattern that has none. -/
theorem splitFirst?_lineEnd (hne : pattern ≠ []) (hpattern : Inline pattern)
    (hc : c = '\n' ∨ c = '\r') (text : List Char) :
    splitFirst? pattern (c :: text) =
      (splitFirst? pattern text).map fun (before, found) => (c :: before, found) := by
  rw [splitFirst?, isPrefixOf_lineEnd hne hpattern hc, if_neg Bool.false_ne_true]

theorem splitFirst?_write (hne : pattern ≠ []) (hpattern : Inline pattern) (text : List Char) :
    splitFirst? pattern (e.write text) =
      (splitFirst? pattern text).map (Prod.map e.write e.write) := by
  induction text with
  | nil =>
    rw [write_nil, splitFirst?, if_neg (by simpa using hne)]
    rfl
  | cons c text ih =>
    by_cases hc : c = '\n'
    · subst hc
      rw [write_newline, splitFirst?_lineEnd hne hpattern (.inl rfl)]
      cases e with
      | cr =>
        change splitFirst? pattern ('\r' :: LineEnd.cr.write text) = _
        rw [splitFirst?_lineEnd hne hpattern (.inr rfl), ih]
        cases splitFirst? pattern text <;> rfl
      | crlf =>
        change splitFirst? pattern ('\r' :: '\n' :: LineEnd.crlf.write text) = _
        rw [splitFirst?_lineEnd hne hpattern (.inr rfl),
          splitFirst?_lineEnd hne hpattern (.inl rfl), ih]
        cases splitFirst? pattern text <;> rfl
    · rw [write_cons hc, splitFirst?, splitFirst?, ← write_cons hc, isPrefixOf_write hpattern, ih]
      split
      · rfl
      · cases splitFirst? pattern text with
        | none => rfl
        | some parts => simp [write_cons hc]

/-- A string with its line feeds written as other line ends. -/
def rewrite (e : LineEnd) (s : String) : String := String.ofList (e.write s.toList)

@[simp] theorem rewrite_ofList (e : LineEnd) (text : List Char) :
    e.rewrite (String.ofList text) = String.ofList (e.write text) := by
  rw [rewrite, String.toList_ofList]

end LineEnd

theorem utf8Length_eq_zero_iff {text : List Char} : utf8Length text = 0 ↔ text = [] := by
  cases text with
  | nil => simp
  | cons c text =>
    have := c.utf8Size_pos
    simp only [utf8Length_cons, reduceCtorEq, iff_false]
    omega

namespace Cursor

/-- A place in a text without carriage returns, and the same place in the text with other line
ends. -/
structure Rewritten (e : LineEnd) (c d : Cursor) : Prop where
  /-- What is left differs in the line ends. -/
  rest_eq : d.rest = e.write c.rest
  /-- What is left of the first text has no carriage return. -/
  no_return : '\r' ∉ c.rest
  /-- Both places or neither of them are at the start. -/
  start_iff : c.offset = 0 ↔ d.offset = 0

namespace Rewritten

variable {e : LineEnd} {c d c' d' : Cursor} {taken : List Char} {p : Char → Bool}

/-- The start of a text. -/
theorem ofText {text : List Char} (h : '\r' ∉ text) :
    Rewritten e (.ofText text) (.ofText (e.write text)) := ⟨rfl, h, Iff.rfl⟩

theorem rest_eq_nil (h : Rewritten e c d) (hc : c.rest = []) : d.rest = [] := by
  rw [h.rest_eq, hc, LineEnd.write_nil]

/-- What comes next is nothing in both texts, a line end in both of them, or another character,
which is the same. -/
theorem rest_cases (h : Rewritten e c d) :
    (c.rest = [] ∧ d.rest = []) ∨
      (∃ rest rest', c.rest = '\n' :: rest ∧ d.rest = '\r' :: rest') ∨
      ∃ x rest, x ≠ '\n' ∧ c.rest = x :: rest ∧ d.rest = x :: e.write rest := by
  have hrest := h.rest_eq
  cases hc : c.rest with
  | nil => exact .inl ⟨rfl, h.rest_eq_nil hc⟩
  | cons x rest =>
    rw [hc] at hrest
    by_cases hx : x = '\n'
    · subst hx
      rw [LineEnd.write_newline] at hrest
      cases e <;> exact .inr (.inl ⟨rest, _, rfl, hrest⟩)
    · rw [LineEnd.write_cons hx] at hrest
      exact .inr (.inr ⟨x, rest, hx, rfl, hrest⟩)

/-- The same characters lead to the same place. -/
theorem of_takes (h : Rewritten e c d) (hc : c.Takes taken c') (hd : d.Takes (e.write taken) d') :
    Rewritten e c' d' where
  rest_eq := by
    have hrest := h.rest_eq
    rw [hc.1, hd.1, LineEnd.write_append] at hrest
    exact List.append_cancel_left hrest
  no_return := fun hmem => h.no_return (hc.1 ▸ List.mem_append_right taken hmem)
  start_iff := by
    rw [hc.2, hd.2, Nat.add_eq_zero_iff, Nat.add_eq_zero_iff, utf8Length_eq_zero_iff,
      utf8Length_eq_zero_iff, LineEnd.write_eq_nil_iff, h.start_iff]

theorem not_mem_taken (h : Rewritten e c d) (hc : c.Takes taken c') : '\r' ∉ taken :=
  fun hmem => h.no_return (hc.1 ▸ List.mem_append_left c'.rest hmem)

theorem skipWhile (h : Rewritten e c d) (hp : p '\r' = p '\n') :
    Rewritten e (c.skipWhile p) (d.skipWhile p) := by
  refine h.of_takes (c.takes_skipWhile p) ?_
  rw [← LineEnd.takeWhile_write hp, ← h.rest_eq]
  exact d.takes_skipWhile p

theorem startsWith_eq (h : Rewritten e c d) {text : String} (htext : Inline text.toList) :
    d.startsWith text = c.startsWith text := by
  rw [startsWith, startsWith, h.rest_eq, LineEnd.isPrefixOf_write htext]

/-- A text without line ends is taken from both. -/
theorem exists_takes (h : Rewritten e c d) (hc : c.Takes taken c') (htaken : '\n' ∉ taken) :
    ∃ d', d.Takes taken d' ∧ Rewritten e c' d' := by
  have hd : d.Takes taken (d.past taken (e.write c'.rest)) := by
    refine ⟨?_, rfl⟩
    rw [h.rest_eq, hc.1, LineEnd.write_append, LineEnd.write_eq_self htaken]
    rfl
  refine ⟨_, hd, h.of_takes hc ?_⟩
  rwa [LineEnd.write_eq_self htaken]

theorem advance (h : Rewritten e c d) (hc : c.Takes taken c') (htaken : '\n' ∉ taken) :
    Rewritten e (c.advance taken.length) (d.advance taken.length) := by
  obtain ⟨d', hd, hrewritten⟩ := h.exists_takes hc htaken
  rwa [hc.advance_eq, hd.advance_eq]

/-- A delimiter is found in both texts or in neither of them. -/
theorem upTo? (h : Rewritten e c d) {delimiter : String} (hne : delimiter.toList ≠ [])
    (hdelimiter : Inline delimiter.toList) :
    (c.upTo? delimiter = none ∧ d.upTo? delimiter = none) ∨
      ∃ before c' d', c.upTo? delimiter = some (before, c') ∧
        d.upTo? delimiter = some (e.write before, d') ∧ '\r' ∉ before ∧ Rewritten e c' d' ∧
        Rewritten e (c'.advance delimiter.toList.length) (d'.advance delimiter.toList.length) := by
  have hsplit := LineEnd.splitFirst?_write (e := e) hne hdelimiter c.rest
  rw [← h.rest_eq] at hsplit
  rw [Cursor.upTo?, Cursor.upTo?, hsplit]
  cases hfound : splitFirst? delimiter.toList c.rest with
  | none => exact .inl ⟨rfl, rfl⟩
  | some parts =>
    obtain ⟨before, found⟩ := parts
    have hc : c.Takes before (c.past before found) := ⟨(append_of_splitFirst? hfound).symm, rfl⟩
    have hd : d.Takes (e.write before) (d.past (e.write before) (e.write found)) := by
      refine ⟨?_, rfl⟩
      rw [h.rest_eq, hc.1, LineEnd.write_append]
      rfl
    have hrewritten := h.of_takes hc hd
    obtain ⟨⟨rest, hrest⟩, -⟩ := first_of_splitFirst? hfound
    have htakes : (c.past before found).Takes delimiter.toList
        ((c.past before found).past delimiter.toList rest) := ⟨hrest.symm, rfl⟩
    exact .inr ⟨before, _, _, rfl, rfl, h.not_mem_taken hc, hrewritten,
      hrewritten.advance htakes hdelimiter.1⟩

end Rewritten

end Cursor

end XmlQuery.Text
