import XmlQuery.Proofs.Text.Bytes
import XmlQuery.Proofs.Text.Delimiters
import XmlQuery.XPath.Library

/-!
# Functions that look for a text

Five functions look for one text in another: three tell whether it is there, at the front or at the
end, and two give what stands on its sides. All of them speak of the same occurrence, the first one,
and they find it in the bytes: what they cut out there is cut between characters.

## Main definitions

* `Text.cutBefore?`, `Text.cutAfter?`: what stands around an occurrence, cut out at the byte offsets
  of its ends
* `Builtin.Answers`: what the functions give, with the laws that hold between their answers

## Main results

* `Text.before_isPrefix`: nothing shorter stands in front of an occurrence
* `Text.cutBefore?_eq`, `Text.cutAfter?_eq`: **every cut succeeds**
* `Builtin.exists_answers`: **the functions agree** on every text and every pattern
-/

namespace XmlQuery.Text

variable {text pattern front back : List Char}

/-! ## The first occurrence -/

theorem contains_iff_isInfix : contains text pattern = true ↔ pattern <:+: text := by
  rw [contains, Option.isSome_iff_ne_none, ne_eq, splitFirst?_eq_none_iff, not_not]

/-- What stands before and after a pattern are the sides of the split at it. -/
theorem splitFirst?_of_contains (h : contains text pattern = true) :
    splitFirst? pattern text = some (before text pattern, pattern ++ after text pattern) := by
  obtain ⟨⟨front, found⟩, hsplit⟩ := Option.isSome_iff_exists.1 h
  obtain ⟨⟨back, rfl⟩, -⟩ := first_of_splitFirst? hsplit
  rw [before, after, hsplit]
  simp only [Option.map_some, Option.getD_some, List.drop_left]

/-- A text is what stands before a pattern, the pattern and what stands after it. -/
theorem eq_before_append_after (h : contains text pattern = true) :
    text = before text pattern ++ (pattern ++ after text pattern) :=
  (append_of_splitFirst? (splitFirst?_of_contains h)).symm

/-- Nothing shorter stands in front of an occurrence than in front of the first one. -/
theorem before_isPrefix (h : contains text pattern = true)
    (htext : text = front ++ (pattern ++ back)) : before text pattern <+: front :=
  (first_of_splitFirst? (splitFirst?_of_contains h)).2 front back htext

/-- Of two occurrences that overlap, the first one is found. -/
example : before ['a', 'b', 'a', 'b', 'a'] ['a', 'b', 'a'] = [] ∧
    after ['a', 'b', 'a', 'b', 'a'] ['a', 'b', 'a'] = ['b', 'a'] := by decide

/-- Nothing stands around a pattern that does not occur. -/
theorem around_of_not_contains (h : contains text pattern = false) :
    before text pattern = [] ∧ after text pattern = [] := by
  have hnone : splitFirst? pattern text = none := by simpa [contains] using h
  rw [before, after, hnone]
  exact ⟨rfl, rfl⟩

/-- A pattern is at the front of a text if its first occurrence has nothing in front of it. -/
theorem isPrefixOf_iff_before :
    pattern.isPrefixOf text = true ↔ contains text pattern = true ∧ before text pattern = [] := by
  rw [List.isPrefixOf_iff_prefix]
  constructor
  · rintro ⟨back, rfl⟩
    have hoccurs : contains (pattern ++ back) pattern = true :=
      contains_iff_isInfix.2 (List.prefix_append pattern back).isInfix
    have hfront : before (pattern ++ back) pattern <+: [] := before_isPrefix hoccurs rfl
    exact ⟨hoccurs, List.prefix_nil.1 hfront⟩
  · rintro ⟨hoccurs, hnil⟩
    have htext := eq_before_append_after hoccurs
    rw [hnil, List.nil_append] at htext
    exact ⟨after text pattern, htext.symm⟩

/-! ## Cuts at byte offsets -/

/-- What stands in front of the byte offset at which a pattern is found, or nothing; none if the
text cannot be cut there. -/
def cutBefore? (text pattern : List Char) : Option (List Char) :=
  match Utf8.indexOf? (Utf8.encode pattern) (Utf8.encode text) with
  | some offset => slice? text 0 offset
  | none => some []

/-- What stands behind as many bytes as a pattern has, from the byte offset at which it is found, or
nothing; none if the text cannot be cut there. -/
def cutAfter? (text pattern : List Char) : Option (List Char) :=
  match Utf8.indexOf? (Utf8.encode pattern) (Utf8.encode text) with
  | some offset => slice? text (offset + utf8Length pattern) (utf8Length text)
  | none => some []

/-- A pattern is found in the bytes where what stands before it ends. -/
theorem indexOf?_of_contains (h : contains text pattern = true) :
    Utf8.indexOf? (Utf8.encode pattern) (Utf8.encode text) =
      some (utf8Length (before text pattern)) := by
  rw [Utf8.indexOf?_encode, splitFirst?_of_contains h]
  rfl

theorem indexOf?_of_not_contains (h : contains text pattern = false) :
    Utf8.indexOf? (Utf8.encode pattern) (Utf8.encode text) = none := by
  rw [Utf8.indexOf?_encode, Option.map_eq_none_iff]
  simpa [contains] using h

/-- The bytes of a pattern are found if the pattern is. -/
theorem isSome_indexOf? (text pattern : List Char) :
    (Utf8.indexOf? (Utf8.encode pattern) (Utf8.encode text)).isSome = contains text pattern := by
  rw [Utf8.indexOf?_encode, Option.isSome_map, contains]

/-- **The text can be cut where the pattern is found**, and what is in front is what stands before
the pattern. -/
theorem cutBefore?_eq (text pattern : List Char) :
    cutBefore? text pattern = some (before text pattern) := by
  rw [cutBefore?]
  cases h : contains text pattern with
  | false =>
    rw [indexOf?_of_not_contains h, (around_of_not_contains h).1]
  | true =>
    have hcut := slice?_append [] (before text pattern) (pattern ++ after text pattern)
    rw [List.nil_append, ← eq_before_append_after h, utf8Length_nil, Nat.zero_add] at hcut
    rw [indexOf?_of_contains h]
    exact hcut

/-- **The text can be cut where the found pattern ends**, and what is behind is what stands after
the pattern. -/
theorem cutAfter?_eq (text pattern : List Char) :
    cutAfter? text pattern = some (after text pattern) := by
  rw [cutAfter?]
  cases h : contains text pattern with
  | false =>
    rw [indexOf?_of_not_contains h, (around_of_not_contains h).2]
  | true =>
    have htext : text = before text pattern ++ pattern ++ after text pattern := by
      rw [List.append_assoc]
      exact eq_before_append_after h
    have hcut := slice?_append (before text pattern ++ pattern) (after text pattern) []
    rw [List.append_nil, ← utf8Length_append, ← htext, utf8Length_append] at hcut
    rw [indexOf?_of_contains h]
    exact hcut

end XmlQuery.Text

namespace XmlQuery.XPath.Builtin

open Text (cutAfter? cutBefore?)
open Utf8 (encode indexOf?)

variable {s p : String}

/-! ## The functions -/

/-- What the functions give that look for the text `p` in the text `s`: whether it is there, at the
front and at the end, and what stands on its sides. -/
structure Answers (s p : String) (found starts ends : Bool) (front back : String) : Prop where
  /-- The one text is found if it occurs. -/
  found_iff : found = true ↔ ∃ t u, s = t ++ p ++ u
  /-- The sides make up the text. -/
  sides : found = true → s = front ++ p ++ back
  /-- No occurrence is in front of the one that is found, and none starts there and overlaps. -/
  first : found = true → ∀ t u, s = t ++ p ++ u → ∃ v, t = front ++ v
  /-- There are no sides of what is not found. -/
  not_found : found = false → front = "" ∧ back = ""
  /-- A text is at the front if it is found with nothing in front. -/
  starts_iff : starts = true ↔ found = true ∧ front = ""
  /-- A text is at the end if the other one is something and then this. -/
  ends_iff : ends = true ↔ ∃ t, s = t ++ p
  /-- A comparison of bytes tells the same. -/
  bytes : found = (indexOf? (encode p.toList) (encode s.toList)).isSome ∧
    starts = (encode p.toList).isPrefixOf (encode s.toList) ∧
    ends = (encode p.toList).isSuffixOf (encode s.toList)
  /-- The sides are cut out at byte offsets, and no cut is out of range or inside of a character. -/
  cuts : cutBefore? s.toList p.toList = some front.toList ∧
    cutAfter? s.toList p.toList = some back.toList

theorem eq_append_iff {t u : String} : s = t ++ u ↔ s.toList = t.toList ++ u.toList := by
  rw [← String.toList_inj, String.toList_append]

/-- The texts that make up another one are lists of characters that do. -/
theorem exists_append_iff {s t : List Char} :
    (∃ u : String, s = t ++ u.toList) ↔ t <+: s := by
  constructor
  · rintro ⟨u, rfl⟩
    exact List.prefix_append t u.toList
  · rintro ⟨u, rfl⟩
    exact ⟨String.ofList u, by rw [String.toList_ofList]⟩

theorem occurs_iff : (∃ t u, s = t ++ p ++ u) ↔ p.toList <:+: s.toList := by
  simp only [eq_append_iff, String.toList_append]
  constructor
  · rintro ⟨t, u, h⟩
    exact ⟨t.toList, u.toList, h.symm⟩
  · rintro ⟨t, u, h⟩
    exact ⟨String.ofList t, String.ofList u, by simp only [String.toList_ofList, h]⟩

theorem ends_iff : (∃ t, s = t ++ p) ↔ p.toList <:+ s.toList := by
  simp only [eq_append_iff]
  constructor
  · rintro ⟨t, h⟩
    exact ⟨t.toList, h.symm⟩
  · rintro ⟨t, h⟩
    exact ⟨String.ofList t, by rw [String.toList_ofList, h]⟩

/-- The searches of characters answer as they should. -/
theorem answers (s p : String) :
    Answers s p (Text.contains s.toList p.toList) (p.toList.isPrefixOf s.toList)
      (p.toList.isSuffixOf s.toList) (String.ofList (Text.before s.toList p.toList))
      (String.ofList (Text.after s.toList p.toList)) where
  found_iff := by rw [occurs_iff, Text.contains_iff_isInfix]
  sides hfound := by
    rw [String.append_assoc, eq_append_iff, String.toList_append]
    simp only [String.toList_ofList]
    exact Text.eq_before_append_after hfound
  first hfound t u hs := by
    rw [String.append_assoc, eq_append_iff, String.toList_append] at hs
    simp only [eq_append_iff, String.toList_ofList, exists_append_iff]
    exact Text.before_isPrefix hfound hs
  not_found hfound := by
    obtain ⟨hfront, hback⟩ := Text.around_of_not_contains hfound
    rw [hfront, hback]
    exact ⟨rfl, rfl⟩
  starts_iff := by
    rw [Text.isPrefixOf_iff_before, ← String.toList_inj, String.toList_ofList]
    exact Iff.rfl
  ends_iff := by rw [ends_iff, List.isSuffixOf_iff_suffix]
  bytes := ⟨(Text.isSome_indexOf? s.toList p.toList).symm,
    (Utf8.isPrefixOf_encode p.toList s.toList).symm,
    (Utf8.isSuffixOf_encode p.toList s.toList).symm⟩
  cuts := by
    simp only [String.toList_ofList]
    exact ⟨Text.cutBefore?_eq s.toList p.toList, Text.cutAfter?_eq s.toList p.toList⟩

/-- **The functions that look for a text agree**: on every two arguments all of them give an answer,
and their answers are about the first occurrence of the one text in the other. -/
theorem exists_answers (d : Document) (c : Context) (x y : Value) :
    ∃ found starts ends front back,
      apply d c .contains [x, y] = .ok (.boolean found) ∧
      apply d c .startsWith [x, y] = .ok (.boolean starts) ∧
      apply d c .endsWith [x, y] = .ok (.boolean ends) ∧
      apply d c .substringBefore [x, y] = .ok (.string front) ∧
      apply d c .substringAfter [x, y] = .ok (.string back) ∧
      Answers (x.toText d) (y.toText d) found starts ends front back :=
  ⟨_, _, _, _, _, rfl, rfl, rfl, rfl, rfl, answers (x.toText d) (y.toText d)⟩

end XmlQuery.XPath.Builtin
