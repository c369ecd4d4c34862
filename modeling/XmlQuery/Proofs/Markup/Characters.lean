import XmlQuery.Markup.Char

/-!
# Characters by their productions

XML 1.0 (fifth edition) gives the classes of characters as ranges of code points. They are written
here as they stand in the productions, and the tests of the reader are those for these ranges.

## Main definitions

* `CharRanges`: ranges of code points
* `charRanges`, `nameStartRanges`, `nameRanges`: the productions 2, 4 and 4a

## Main results

* `isChar_iff`, `isNameStart_iff`, `isNameChar_iff`: the characters of the productions
* `isNCNameStart_iff`, `isNCNameChar_iff`: the same without the colon
-/

namespace XmlQuery.Markup

/-- Ranges of code points, both ends of which belong to them. -/
abbrev CharRanges := List (Nat × Nat)

/-- The character is in one of the ranges. -/
def CharRanges.Has (ranges : CharRanges) (c : Char) : Prop :=
  ∃ r ∈ ranges, r.1 ≤ c.toNat ∧ c.toNat ≤ r.2

/-- The production 2, `Char`. -/
def charRanges : CharRanges :=
  [(0x9, 0x9), (0xA, 0xA), (0xD, 0xD), (0x20, 0xD7FF), (0xE000, 0xFFFD), (0x10000, 0x10FFFF)]

/-- The production 4, `NameStartChar`, from the colon and the letters of ASCII on. -/
def nameStartRanges : CharRanges :=
  [(0x3A, 0x3A), (0x41, 0x5A), (0x5F, 0x5F), (0x61, 0x7A), (0xC0, 0xD6), (0xD8, 0xF6),
    (0xF8, 0x2FF), (0x370, 0x37D), (0x37F, 0x1FFF), (0x200C, 0x200D), (0x2070, 0x218F),
    (0x2C00, 0x2FEF), (0x3001, 0xD7FF), (0xF900, 0xFDCF), (0xFDF0, 0xFFFD), (0x10000, 0xEFFFF)]

/-- The production 4a, `NameChar`, with hyphen, point and digits behind those of production 4. -/
def nameRanges : CharRanges :=
  nameStartRanges ++ [(0x2D, 0x2D), (0x2E, 0x2E), (0x30, 0x39), (0xB7, 0xB7), (0x300, 0x36F),
    (0x203F, 0x2040)]

variable {c : Char}

namespace CharRanges

theorem has_nil : Has [] c ↔ False := by simp [Has]

theorem has_cons {low high : Nat} {ranges : CharRanges} :
    Has ((low, high) :: ranges) c ↔ (low ≤ c.toNat ∧ c.toNat ≤ high) ∨ Has ranges c := by
  simp [Has]

theorem has_append {ranges ranges' : CharRanges} :
    Has (ranges ++ ranges') c ↔ Has ranges c ∨ Has ranges' c := by
  simp only [Has, List.mem_append, or_and_right, exists_or]

/-- Ranges that lie in others have no other characters. -/
theorem Has.mono {ranges ranges' : CharRanges} (h : Has ranges c)
    (hle : ∀ r ∈ ranges, ∃ r' ∈ ranges', r'.1 ≤ r.1 ∧ r.2 ≤ r'.2) : Has ranges' c := by
  obtain ⟨r, hr, hlow, hhigh⟩ := h
  obtain ⟨r', hr', hlow', hhigh'⟩ := hle r hr
  exact ⟨r', hr', Nat.le_trans hlow' hlow, Nat.le_trans hhigh hhigh'⟩

end CharRanges

open CharRanges

theorem char_le_iff {a b : Char} : a ≤ b ↔ a.toNat ≤ b.toNat := UInt32.le_iff_toNat_le

theorem char_eq_iff {a : Char} : c = a ↔ c.toNat = a.toNat := Char.toNat_inj.symm

/-- The characters of a document are those of their production. -/
theorem isChar_iff : isChar c = true ↔ charRanges.Has c := by
  simp only [isChar, charRanges, Bool.or_eq_true, Bool.and_eq_true, beq_iff_eq,
    decide_eq_true_iff, has_cons, has_nil, or_false]
  omega

/-- The characters that names start with are those of their production. -/
theorem isNameStart_iff : isNameStart c = true ↔ nameStartRanges.Has c := by
  simp only [isNameStart, nameStartRanges, Bool.or_eq_true, Bool.and_eq_true, beq_iff_eq,
    decide_eq_true_iff, char_le_iff, char_eq_iff, Char.reduceToNat, has_cons, has_nil, or_false]
  omega

/-- The characters of names are those of their production. -/
theorem isNameChar_iff : isNameChar c = true ↔ nameRanges.Has c := by
  rw [nameRanges, has_append, ← isNameStart_iff]
  cases h : isNameStart c with
  | true => simp only [isNameChar, h, Bool.true_or, true_or]
  | false =>
    simp only [isNameChar, h, Bool.false_or, Bool.false_eq_true, Bool.or_eq_true,
      Bool.and_eq_true, beq_iff_eq, decide_eq_true_iff, char_le_iff, char_eq_iff,
      Char.reduceToNat, has_cons, has_nil, or_false, false_or]
    omega

/-- Names are made of characters that a document may hold. -/
theorem isChar_of_isNameChar (h : isNameChar c = true) : isChar c = true :=
  isChar_iff.2 ((isNameChar_iff.1 h).mono (by decide))

theorem isNCNameStart_iff : isNCNameStart c = true ↔ nameStartRanges.Has c ∧ c ≠ ':' := by
  rw [isNCNameStart, Bool.and_eq_true, bne_iff_ne, isNameStart_iff, and_comm]

theorem isNCNameChar_iff : isNCNameChar c = true ↔ nameRanges.Has c ∧ c ≠ ':' := by
  rw [isNCNameChar, Bool.and_eq_true, bne_iff_ne, isNameChar_iff, and_comm]

end XmlQuery.Markup
