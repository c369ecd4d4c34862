import XmlQuery.Text.Measure
import XmlQuery.Text.Search

/-!
# Cursors

A cursor stands between two characters of a text: it knows the byte offset of the place and the
text that is left. Every move takes characters from the front of what is left, so a cursor never
leaves the text and never stands inside a character.

## Main definitions

* `Cursor`: a place in a text
* `Cursor.Takes`: one place is reached from another by taking these characters
* `Cursor.Reaches`, `Cursor.Passes`: one place is reached from another by taking some, or at
  least one, character
-/

namespace XmlQuery.Text

/-- A place in a text. -/
structure Cursor where
  /-- The number of bytes in front of the place. -/
  offset : Nat
  /-- The text that is left. -/
  rest : List Char
  deriving DecidableEq

namespace Cursor

/-- The place in front of a text. -/
def ofText (text : List Char) : Cursor := ⟨0, text⟩

/-- The place after the characters `taken`, which are the next ones, when `rest` follows them. -/
def past (c : Cursor) (taken rest : List Char) : Cursor :=
  ⟨c.offset + utf8Length taken, rest⟩

/-- The place `n` characters on. -/
def advance (c : Cursor) (n : Nat) : Cursor :=
  c.past (c.rest.take n) (c.rest.drop n)

/-- The place after the characters of a class. -/
def skipWhile (c : Cursor) (p : Char → Bool) : Cursor :=
  c.past (c.rest.takeWhile p) (c.rest.dropWhile p)

/-- The text comes next. -/
def startsWith (c : Cursor) (text : String) : Bool := text.toList.isPrefixOf c.rest

/-- What stands in front of the next occurrence of a delimiter, and the place of the latter. -/
def upTo? (c : Cursor) (delimiter : String) : Option (List Char × Cursor) :=
  (splitFirst? delimiter.toList c.rest).map fun (before, found) => (before, c.past before found)

/-- `d` is reached from `c` by taking the characters `taken`. -/
def Takes (c : Cursor) (taken : List Char) (d : Cursor) : Prop :=
  c.rest = taken ++ d.rest ∧ d.offset = c.offset + utf8Length taken

/-- `d` is reached from `c` by taking characters. -/
def Reaches (c d : Cursor) : Prop := ∃ taken, c.Takes taken d

/-- `d` is reached from `c` by taking at least one character. -/
def Passes (c d : Cursor) : Prop := ∃ taken, taken ≠ [] ∧ c.Takes taken d

theorem takes_advance (c : Cursor) (n : Nat) : c.Takes (c.rest.take n) (c.advance n) :=
  ⟨(List.take_append_drop n c.rest).symm, rfl⟩

theorem takes_skipWhile (c : Cursor) (p : Char → Bool) :
    c.Takes (c.rest.takeWhile p) (c.skipWhile p) :=
  ⟨List.takeWhile_append_dropWhile.symm, rfl⟩

theorem takes_upTo? {c d : Cursor} {delimiter : String} {before : List Char}
    (h : c.upTo? delimiter = some (before, d)) : c.Takes before d := by
  obtain ⟨⟨b, f⟩, hs, he⟩ := Option.map_eq_some_iff.1 h
  obtain ⟨rfl, rfl⟩ := Prod.mk.inj he
  exact ⟨(append_of_splitFirst? hs).symm, rfl⟩

theorem Takes.length_le {c d : Cursor} {taken : List Char} (h : c.Takes taken d) :
    d.rest.length ≤ c.rest.length := by
  rw [h.1, List.length_append]
  omega

theorem Takes.length_lt {c d : Cursor} {taken : List Char} (h : c.Takes taken d)
    (hne : taken ≠ []) : d.rest.length < c.rest.length := by
  have := List.length_pos_iff.2 hne
  rw [h.1, List.length_append]
  omega

theorem Takes.trans {c d e : Cursor} {s t : List Char} (h : c.Takes s d) (k : d.Takes t e) :
    c.Takes (s ++ t) e := by
  refine ⟨by rw [h.1, k.1, List.append_assoc], ?_⟩
  rw [k.2, h.2, utf8Length_append, Nat.add_assoc]

theorem Reaches.refl (c : Cursor) : c.Reaches c := ⟨[], rfl, rfl⟩

theorem Reaches.trans {c d e : Cursor} : c.Reaches d → d.Reaches e → c.Reaches e
  | ⟨_, h⟩, ⟨_, k⟩ => ⟨_, h.trans k⟩

theorem Reaches.length_le {c d : Cursor} : c.Reaches d → d.rest.length ≤ c.rest.length
  | ⟨_, h⟩ => h.length_le

theorem Passes.length_lt {c d : Cursor} : c.Passes d → d.rest.length < c.rest.length
  | ⟨_, hne, h⟩ => h.length_lt hne

theorem Passes.reaches {c d : Cursor} : c.Passes d → c.Reaches d
  | ⟨_, _, h⟩ => ⟨_, h⟩

theorem Passes.trans {c d e : Cursor} : c.Passes d → d.Reaches e → c.Passes e
  | ⟨_, hne, h⟩, ⟨_, k⟩ => ⟨_, by simp [hne], h.trans k⟩

theorem reaches_advance (c : Cursor) (n : Nat) : c.Reaches (c.advance n) := ⟨_, c.takes_advance n⟩

theorem reaches_skipWhile (c : Cursor) (p : Char → Bool) : c.Reaches (c.skipWhile p) :=
  ⟨_, c.takes_skipWhile p⟩

theorem reaches_upTo? {c d : Cursor} {delimiter : String} {before : List Char}
    (h : c.upTo? delimiter = some (before, d)) : c.Reaches d := ⟨_, takes_upTo? h⟩

theorem passes_advance {c : Cursor} (hne : c.rest ≠ []) {n : Nat} (hn : n ≠ 0) :
    c.Passes (c.advance n) :=
  ⟨_, by simp [hne, hn], c.takes_advance n⟩

/-- Taking characters of a class takes one if the next character is in it. -/
theorem passes_skipWhile {c : Cursor} {p : Char → Bool} {x : Char} {rest : List Char}
    (hc : c.rest = x :: rest) (hx : p x = true) : c.Passes (c.skipWhile p) :=
  ⟨_, by simp [hc, hx], c.takes_skipWhile p⟩

end Cursor

end XmlQuery.Text
