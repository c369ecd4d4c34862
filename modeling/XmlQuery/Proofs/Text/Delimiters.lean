import Mathlib.Data.List.Infix
import Mathlib.Data.List.TakeWhile
import XmlQuery.Text.Cursor

/-!
# Delimiters

What is written between delimiters is found again by a search for the closing one. That it does not
occur in what is written is not enough for this: it could start there and end in the delimiter
itself. It cannot if its last character stands nowhere else in it, as in all delimiters of markup.

## Main results

* `first_of_splitFirst?`: a search finds the first occurrence
* `splitFirst?_append`: the first occurrence of a delimiter is the one that was written
* `Cursor.upTo?_append`, `Cursor.skipWhile_append`: moves over what was written
* `Cursor.upTo?_eq_some_iff`, `Cursor.skipWhile_eq_iff`: what is passed over by a move, and where it
  ends
-/

namespace XmlQuery.Text

variable {pattern start content rest : List Char} {last : Char}

theorem splitFirst?_of_isPrefix (hne : pattern ≠ []) (rest : List Char) :
    splitFirst? pattern (pattern ++ rest) = some ([], pattern ++ rest) := by
  cases pattern with
  | nil => exact absurd rfl hne
  | cons c pattern =>
    rw [List.cons_append, splitFirst?, if_pos]
    rw [List.isPrefixOf_iff_prefix]
    exact List.prefix_append (c :: pattern) rest

/-- A pattern that does not occur in a text is not found. -/
theorem splitFirst?_eq_none_iff {text : List Char} :
    splitFirst? pattern text = none ↔ ¬ pattern <:+: text := by
  induction text with
  | nil => simp [splitFirst?, List.infix_nil]
  | cons c rest ih =>
    rw [splitFirst?, List.infix_cons_iff, not_or, ← ih, ← List.isPrefixOf_iff_prefix]
    split
    · next hstarts => exact iff_of_false (Option.some_ne_none _) fun h => h.1 hstarts
    · next hstarts => simp [hstarts]

/-- What is found starts with the pattern, and nothing in front of it does. -/
theorem first_of_splitFirst? {text before found : List Char}
    (h : splitFirst? pattern text = some (before, found)) :
    pattern <+: found ∧ ∀ front back, text = front ++ (pattern ++ back) → before <+: front := by
  induction text generalizing before found with
  | nil =>
    rw [splitFirst?] at h
    split at h
    · next hempty =>
      cases h
      rw [List.isEmpty_iff.1 hempty]
      exact ⟨List.nil_prefix, fun _ _ _ => List.nil_prefix⟩
    · cases h
  | cons c rest ih =>
    rw [splitFirst?] at h
    split at h
    · next hstarts =>
      cases h
      exact ⟨List.isPrefixOf_iff_prefix.1 hstarts, fun _ _ _ => List.nil_prefix⟩
    · next hstarts =>
      obtain ⟨⟨before', _⟩, hbehind, heq⟩ := Option.map_eq_some_iff.1 h
      cases heq
      obtain ⟨hfound, hfirst⟩ := ih hbehind
      refine ⟨hfound, fun front back htext => ?_⟩
      cases front with
      | nil => exact absurd (List.isPrefixOf_iff_prefix.2 ⟨back, htext.symm⟩) hstarts
      | cons x front =>
        obtain ⟨rfl, hrest⟩ := List.cons.inj htext
        exact List.cons_prefix_cons.2 ⟨rfl, hfirst front back hrest⟩

/-- What is found starts with the pattern, which does not occur in front of it. -/
theorem not_isInfix_of_splitFirst? {text before found : List Char} (hne : pattern ≠ [])
    (h : splitFirst? pattern text = some (before, found)) :
    pattern <+: found ∧ ¬ pattern <:+: before := by
  obtain ⟨hfound, hfirst⟩ := first_of_splitFirst? h
  refine ⟨hfound, ?_⟩
  rintro ⟨front, back, rfl⟩
  have hle := (hfirst front (back ++ found) (by
    rw [← append_of_splitFirst? h]
    simp only [List.append_assoc])).length_le
  have hpos := List.length_pos_iff.2 hne
  simp only [List.length_append] at hle
  omega

/-- A delimiter whose last character stands nowhere else in it does not start inside of what it
ends, if it does not occur there. -/
theorem not_isPrefix_append (hne : content ≠ []) (hlast : last ∉ start)
    (hcontent : ¬ start ++ [last] <:+: content) (rest : List Char) :
    ¬ start ++ [last] <+: content ++ (start ++ [last] ++ rest) := by
  intro hstarts
  rcases List.prefix_or_prefix_of_prefix hstarts (List.prefix_append _ _) with hin | ⟨tail, htail⟩
  · exact hcontent hin.isInfix
  · -- The delimiter would start with its own end, which holds the last character.
    obtain ⟨after, hafter⟩ := hstarts
    have htail_ne : tail ≠ [] := by
      rintro rfl
      rw [List.append_nil] at htail
      exact hcontent (htail ▸ List.infix_refl _)
    have hlength : tail.length ≤ start.length := by
      have := congrArg List.length htail
      have := List.length_pos_iff.2 hne
      simp only [List.length_append, List.length_singleton] at *
      omega
    have hstart : tail <+: start := by
      have hwhole : tail <+: start ++ [last] ++ rest := by
        refine ⟨after, (List.append_right_inj content).1 ?_⟩
        rw [← List.append_assoc, htail, hafter]
      refine List.prefix_of_prefix_length_le hwhole ?_ hlength
      rw [List.append_assoc]
      exact List.prefix_append _ _
    have hmem : last ∈ tail := by
      have hsuffix : tail <:+ start ++ [last] := ⟨content, htail⟩
      rcases List.suffix_concat_iff.1 hsuffix with hnil | ⟨t, ht, -⟩
      · exact absurd hnil htail_ne
      · simp [ht]
    exact hlast (hstart.mem hmem)

/-- **The first occurrence of a delimiter is the one that was written.** -/
theorem splitFirst?_append (hlast : last ∉ start) (hcontent : ¬ start ++ [last] <:+: content)
    (rest : List Char) :
    splitFirst? (start ++ [last]) (content ++ (start ++ [last] ++ rest)) =
      some (content, start ++ [last] ++ rest) := by
  induction content with
  | nil => exact splitFirst?_of_isPrefix (by simp) rest
  | cons c content ih =>
    have hstarts : ¬ (start ++ [last]).isPrefixOf
        (c :: (content ++ (start ++ [last] ++ rest))) = true := by
      rw [List.isPrefixOf_iff_prefix]
      exact not_isPrefix_append (List.cons_ne_nil c content) hlast hcontent rest
    have hbehind : ¬ start ++ [last] <:+: content :=
      fun hoccurs => hcontent (hoccurs.trans (List.suffix_cons c content).isInfix)
    rw [List.cons_append, splitFirst?, if_neg hstarts, ih hbehind]
    rfl

/-- Characters of a class are split off up to the first that is not in it. -/
theorem takeWhile_dropWhile_append {p : Char → Bool} {taken : List Char}
    (htaken : ∀ c ∈ taken, p c = true) (hrest : ∀ c ∈ rest.head?, p c = false) :
    (taken ++ rest).takeWhile p = taken ∧ (taken ++ rest).dropWhile p = rest := by
  rw [List.takeWhile_append_of_pos htaken, List.dropWhile_append_of_pos htaken]
  cases rest with
  | nil => exact ⟨List.append_nil taken, rfl⟩
  | cons c rest =>
    have hc : ¬ p c = true := Bool.eq_false_iff.1 (hrest c rfl)
    rw [List.takeWhile_cons_of_neg hc, List.dropWhile_cons_of_neg hc]
    exact ⟨List.append_nil taken, rfl⟩

namespace Cursor

variable {c d e : Cursor} {taken taken' : List Char}

theorem takes_append_iff :
    c.Takes (taken ++ taken') e ↔ ∃ d, c.Takes taken d ∧ d.Takes taken' e := by
  constructor
  · rintro ⟨hrest, hoffset⟩
    refine ⟨⟨c.offset + utf8Length taken, taken' ++ e.rest⟩, ⟨?_, rfl⟩, rfl, ?_⟩
    · rw [hrest, List.append_assoc]
    · rw [hoffset, utf8Length_append, Nat.add_assoc]
  · rintro ⟨d, htaken, htaken'⟩
    exact htaken.trans htaken'

/-- A place is reached by taking certain characters in one way only. -/
theorem Takes.taken_eq (h : c.Takes taken d) (h' : c.Takes taken' d) : taken = taken' :=
  List.append_cancel_right (h.1.symm.trans h'.1)

/-- What is taken leads to one place. -/
theorem Takes.cursor_eq (h : c.Takes taken d) (h' : c.Takes taken e) : d = e := by
  have hrest := List.append_cancel_left (h.1.symm.trans h'.1)
  have hoffset := h.2.trans h'.2.symm
  cases d
  cases e
  cases hrest
  cases hoffset
  rfl

theorem Takes.head?_eq (h : c.Takes taken d) (hne : taken ≠ []) :
    c.rest.head? = taken.head? := by
  rw [h.1, List.head?_append_of_ne_nil _ hne]

/-- Characters are taken from the front of a text. -/
theorem takes_mk (offset : Nat) (taken rest : List Char) :
    (⟨offset, taken ++ rest⟩ : Cursor).Takes taken ⟨offset + utf8Length taken, rest⟩ :=
  ⟨rfl, rfl⟩

theorem startsWith_iff {text : String} : c.startsWith text = true ↔ ∃ d, c.Takes text.toList d := by
  rw [startsWith, List.isPrefixOf_iff_prefix]
  constructor
  · rintro ⟨rest, hrest⟩
    exact ⟨⟨_, rest⟩, hrest.symm, rfl⟩
  · rintro ⟨d, hd⟩
    exact ⟨d.rest, hd.1.symm⟩

theorem startsWith_of_cons {x y : Char} {text : String} (hc : c.rest = x :: rest)
    (htext : text.toList = [y]) : c.startsWith text = (y == x) := by
  rw [startsWith, htext, hc, List.isPrefixOf_cons_cons, List.isPrefixOf_nil_left, Bool.and_true]

/-- What is at the front is taken by as many characters. -/
theorem Takes.advance_eq (h : c.Takes taken d) : c.advance taken.length = d := by
  have htakes := c.takes_advance taken.length
  rw [h.1, List.take_left] at htakes
  exact htakes.cursor_eq h

/-- What stands in front of a delimiter is passed over. -/
theorem upTo?_append {delimiter : String} (hdelimiter : delimiter.toList = start ++ [last])
    (hlast : last ∉ start) (hcontent : ¬ delimiter.toList <:+: content) (offset : Nat)
    (rest : List Char) :
    (⟨offset, content ++ (delimiter.toList ++ rest)⟩ : Cursor).upTo? delimiter =
      some (content, ⟨offset + utf8Length content, delimiter.toList ++ rest⟩) := by
  rw [hdelimiter] at hcontent ⊢
  rw [upTo?, hdelimiter, splitFirst?_append hlast hcontent]
  rfl

/-- Characters of a class are passed over up to the first that is not in it. -/
theorem skipWhile_append {p : Char → Bool} {taken : List Char} (htaken : ∀ c ∈ taken, p c = true)
    (hrest : ∀ c ∈ rest.head?, p c = false) (offset : Nat) :
    (⟨offset, taken ++ rest⟩ : Cursor).skipWhile p = ⟨offset + utf8Length taken, rest⟩ := by
  obtain ⟨htake, hdrop⟩ := takeWhile_dropWhile_append htaken hrest
  rw [skipWhile, htake, hdrop]
  rfl

theorem skipWhile_eq_iff {p : Char → Bool} :
    c.skipWhile p = d ↔
      ∃ taken, c.Takes taken d ∧ (∀ x ∈ taken, p x = true) ∧ ∀ x ∈ d.rest.head?, p x = false := by
  constructor
  · rintro rfl
    refine ⟨_, c.takes_skipWhile p, fun x hx => List.mem_takeWhile_imp hx, fun x hx => ?_⟩
    have hnot := List.head?_dropWhile_not p c.rest
    have hhead : (c.rest.dropWhile p).head? = some x := hx
    rw [hhead] at hnot
    simpa using hnot
  · rintro ⟨taken, htakes, htaken, hrest⟩
    obtain ⟨offset, rest⟩ := c
    obtain ⟨rfl, hoffset⟩ := htakes
    rw [skipWhile_append htaken hrest, ← hoffset]

/-- A delimiter of which the last character stands nowhere else in it is found where it occurs
first. -/
theorem upTo?_eq_some_iff {delimiter : String} (hdelimiter : delimiter.toList = start ++ [last])
    (hlast : last ∉ start) {before : List Char} :
    c.upTo? delimiter = some (before, d) ↔
      c.Takes before d ∧ delimiter.toList <+: d.rest ∧ ¬ delimiter.toList <:+: before := by
  constructor
  · intro h
    obtain ⟨⟨before', found⟩, hsplit, heq⟩ := Option.map_eq_some_iff.1 h
    cases heq
    exact ⟨takes_upTo? h, not_isInfix_of_splitFirst? (by simp [hdelimiter]) hsplit⟩
  · rintro ⟨⟨hrest, hoffset⟩, ⟨rest, hfound⟩, hbefore⟩
    obtain ⟨offset, text⟩ := c
    obtain ⟨offset', found⟩ := d
    dsimp only at hrest hoffset hfound
    subst hrest hoffset hfound
    exact upTo?_append hdelimiter hlast hbefore offset rest

end Cursor

end XmlQuery.Text
