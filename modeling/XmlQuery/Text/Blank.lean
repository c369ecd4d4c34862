/-!
# White space

Two classes of white space are in use: the four characters of markup and of expressions, and
the wider Unicode property by which the content of an XML declaration is trimmed.

## Main definitions

* `isBlank`: space, tab, line feed and carriage return
* `isWhiteSpace`: the Unicode property White_Space
* `trimBlank`: a text without the blanks at its ends
-/

namespace XmlQuery.Text

/-- The white space of markup and of expressions: space, tab, line feed, carriage return. -/
def isBlank (c : Char) : Bool :=
  c == ' ' || c == '\t' || c == '\n' || c == '\r'

/-- The Unicode property White_Space. -/
def isWhiteSpace (c : Char) : Bool :=
  let n := c.toNat
  (0x9 ≤ n && n ≤ 0xD) || n == 0x20 || n == 0x85 || n == 0xA0 || n == 0x1680 ||
    (0x2000 ≤ n && n ≤ 0x200A) || n == 0x2028 || n == 0x2029 || n == 0x202F || n == 0x205F ||
    n == 0x3000

/-- A text without the characters of a class at its end. -/
def trimEnd (p : Char → Bool) (text : List Char) : List Char :=
  (text.reverse.dropWhile p).reverse

/-- A text without the blanks at its start and at its end. -/
def trimBlank (text : List Char) : List Char :=
  trimEnd isBlank (text.dropWhile isBlank)

section Trim

variable {p : Char → Bool} {text : List Char} {c : Char}

theorem trimEnd_append_of_pos {taken : List Char} (h : ∀ c ∈ taken, p c = true) :
    trimEnd p (text ++ taken) = trimEnd p text := by
  rw [trimEnd, List.reverse_append,
    List.dropWhile_append_of_pos fun c hc => h c (List.mem_reverse.1 hc), ← trimEnd]

theorem trimEnd_concat_of_neg (hc : ¬ p c = true) : trimEnd p (text ++ [c]) = text ++ [c] := by
  rw [trimEnd, List.reverse_concat, List.dropWhile_cons_of_neg hc, List.reverse_cons,
    List.reverse_reverse]

/-- What is taken from the end of a text are characters of the class. -/
theorem exists_append_of_trimEnd (p : Char → Bool) (text : List Char) :
    ∃ taken, text = trimEnd p text ++ taken ∧ ∀ c ∈ taken, p c = true := by
  refine ⟨(text.reverse.takeWhile p).reverse, ?_, fun c hc => ?_⟩
  · rw [trimEnd, ← List.reverse_append, List.takeWhile_append_dropWhile, List.reverse_reverse]
  · exact List.all_eq_true.1 (List.all_takeWhile ..) c (List.mem_reverse.1 hc)

/-- What is taken from the ends of a text are blanks. -/
theorem exists_append_of_trimBlank (text : List Char) :
    ∃ front back, text = front ++ (trimBlank text ++ back) ∧
      (∀ c ∈ front, isBlank c = true) ∧ ∀ c ∈ back, isBlank c = true := by
  obtain ⟨back, hback, hblank⟩ := exists_append_of_trimEnd isBlank (text.dropWhile isBlank)
  refine ⟨text.takeWhile isBlank, back, ?_, List.all_eq_true.1 (List.all_takeWhile ..), hblank⟩
  rw [trimBlank, ← hback, List.takeWhile_append_dropWhile]

end Trim

end XmlQuery.Text
