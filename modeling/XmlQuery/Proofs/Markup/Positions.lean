import Mathlib.Data.List.DropRight
import Mathlib.Data.Prod.Lex
import XmlQuery.Markup.Position
import XmlQuery.Proofs.Text.Bytes

/-!
# Lines and columns

The position behind some characters of a text is found in the bytes: line feeds are counted, and the
bytes behind the last one are read as characters. As a line feed is a byte of its own and occurs in
no other character, both come out as they would among the characters. One character more is one
column more, or the start of the next line, so positions grow with their places.

## Main definitions

* `Position.currentLine`: the characters behind the last line feed
* `Position.Behind`: a position is the one behind some characters
* `Position.lineColumn`: line and column, ordered by line first

## Main results

* `Position.ofOffset_encode`: the position of a place between two characters
* `Position.lineColumn_lt_step`: one character more
* `Position.strictMonoOn_lineColumn`: **a later place has a later line and column**
-/

namespace XmlQuery.Markup.Position

open Text (IsBoundary utf8Length)

variable {before after text : List Char} {c : Char} {p : Position}

/-- The characters behind the last line feed. -/
def currentLine (text : List Char) : List Char := text.rtakeWhile (· != '\n')

/-- A position is the one behind the characters `before`: line feeds are counted up to there, and
characters from the last of them on, or from the start. -/
structure Behind (before : List Char) (p : Position) : Prop where
  /-- The offset is the number of bytes. -/
  offset_eq : p.offset = utf8Length before
  /-- The line is one more than the bytes that end lines. -/
  line_eq : p.line = 1 + (Utf8.encode before).count lineFeed
  /-- The column is one more than the characters behind the last line feed. -/
  column_eq : ∃ lines last, before = lines ++ last ∧ (lines = [] ∨ lines.getLast? = some '\n') ∧
    '\n' ∉ last ∧ p.column = 1 + last.length

/-- Line and column, of which the line counts first. -/
def lineColumn (p : Position) : Nat ×ₗ Nat := toLex (p.line, p.column)

theorem lineColumn_lt_iff {q : Position} :
    p.lineColumn < q.lineColumn ↔ p.line < q.line ∨ p.line = q.line ∧ p.column < q.column :=
  Prod.Lex.toLex_lt_toLex

/-! ## Line feeds in the bytes -/

theorem encodeChar_lineFeed : String.utf8EncodeChar '\n' = [lineFeed] := rfl

theorem lineFeed_not_mem_encodeChar (hc : c ≠ '\n') : lineFeed ∉ String.utf8EncodeChar c :=
  Utf8.toUInt8_not_mem_encodeChar (a := '\n') (by decide) hc

theorem encode_concat (text : List Char) (c : Char) :
    Utf8.encode (text ++ [c]) = Utf8.encode text ++ String.utf8EncodeChar c := by
  rw [Utf8.encode_append, Utf8.encode_cons]
  exact congrArg _ (List.append_nil _)

/-- The line feeds are the bytes that end lines. -/
theorem count_lineFeed_encode (text : List Char) :
    (Utf8.encode text).count lineFeed = text.count '\n' := by
  induction text with
  | nil => rfl
  | cons c rest ih =>
    rw [Utf8.encode_cons, List.count_append, ih, List.count_cons, Nat.add_comm]
    by_cases hc : c = '\n'
    · subst hc
      rfl
    · rw [List.count_eq_zero_of_not_mem (lineFeed_not_mem_encodeChar hc),
        if_neg (by simpa using hc)]

theorem lastLine_append {bytes added : List UInt8} (h : lineFeed ∉ added) :
    lastLine (bytes ++ added) = lastLine bytes ++ added := by
  have hall : ∀ b ∈ added.reverse, (b != lineFeed) = true := fun b hb =>
    bne_iff_ne.2 (ne_of_mem_of_not_mem (List.mem_reverse.1 hb) h)
  rw [lastLine, List.reverse_append, List.takeWhile_append_of_pos hall, List.reverse_append,
    List.reverse_reverse, lastLine]

theorem currentLine_lineFeed (text : List Char) : currentLine (text ++ ['\n']) = [] :=
  List.rtakeWhile_concat_neg _ _ _ (by decide)

theorem currentLine_concat (hc : c ≠ '\n') (text : List Char) :
    currentLine (text ++ [c]) = currentLine text ++ [c] :=
  List.rtakeWhile_concat_pos _ _ _ (bne_iff_ne.2 hc)

/-- The bytes behind the last line feed are those of the characters behind it, by induction from the
end of the text. -/
theorem lastLine_encode (text : List Char) :
    lastLine (Utf8.encode text) = Utf8.encode (currentLine text) := by
  induction text using List.reverseRecOn with
  | nil => rfl
  | append_singleton text c ih =>
    rw [encode_concat]
    by_cases hc : c = '\n'
    · subst hc
      rw [currentLine_lineFeed, encodeChar_lineFeed]
      exact List.rtakeWhile_concat_neg _ _ _ (by decide)
    · rw [lastLine_append (lineFeed_not_mem_encodeChar hc), ih, currentLine_concat hc,
        encode_concat]

/-! ## The position of a place -/

/-- **The position of a place between two characters** is found among the characters. -/
theorem ofOffset_encode (before after : List Char) :
    ofOffset (Utf8.encode (before ++ after)) (utf8Length before) =
      ⟨utf8Length before, before.count '\n' + 1, (currentLine before).length + 1⟩ := by
  have hmin : min (utf8Length before) (Utf8.encode (before ++ after)).length =
      utf8Length before := by
    rw [Utf8.length_encode, Text.utf8Length_append]
    exact Nat.min_eq_left (Nat.le_add_right _ _)
  have htake : (Utf8.encode (before ++ after)).take (utf8Length before) = Utf8.encode before := by
    rw [Utf8.encode_append, ← Utf8.length_encode, List.take_left]
  rw [ofOffset, hmin, htake, count_lineFeed_encode, lastLine_encode, Utf8.pieces_encode,
    List.length_map]

theorem exists_currentLine (text : List Char) :
    ∃ lines, text = lines ++ currentLine text ∧ (lines = [] ∨ lines.getLast? = some '\n') := by
  refine ⟨text.rdropWhile (· != '\n'), (List.rdropWhile_append_rtakeWhile ..).symm, ?_⟩
  rcases List.eq_nil_or_concat (text.rdropWhile (· != '\n')) with hnil | ⟨lines, c, hconcat⟩
  · exact .inl hnil
  · have hlast := List.rdropWhile_last_not (· != '\n') text (by rw [hconcat]; simp)
    simp only [hconcat, List.concat_eq_append, List.getLast_append_singleton, bne_iff_ne, ne_eq,
      not_not] at hlast
    exact .inr (by rw [hconcat, hlast]; simp)

theorem behind_ofOffset (before after : List Char) :
    Behind before (ofOffset (Utf8.encode (before ++ after)) (utf8Length before)) := by
  obtain ⟨lines, hlines, hend⟩ := exists_currentLine before
  have hlast : '\n' ∉ currentLine before := fun hmem =>
    absurd (List.mem_rtakeWhile_imp (p := (· != '\n')) hmem) (by decide)
  rw [ofOffset_encode]
  refine ⟨rfl, ?_, lines, _, hlines, hend, hlast, Nat.add_comm _ _⟩
  rw [count_lineFeed_encode]
  exact Nat.add_comm _ _

/-! ## Order -/

/-- **One character more** is one column more, or the start of the next line. -/
theorem lineColumn_lt_step (before after : List Char) (c : Char) :
    (ofOffset (Utf8.encode (before ++ c :: after)) (utf8Length before)).lineColumn <
      (ofOffset (Utf8.encode (before ++ c :: after)) (utf8Length (before ++ [c]))).lineColumn := by
  have hstep := ofOffset_encode (before ++ [c]) after
  rw [List.append_assoc, List.singleton_append] at hstep
  rw [ofOffset_encode, hstep, lineColumn_lt_iff]
  dsimp only
  by_cases hc : c = '\n'
  · subst hc
    rw [List.count_append, List.count_singleton_self]
    exact .inl (Nat.lt_succ_self _)
  · rw [List.count_append, List.count_singleton, if_neg (by simpa using hc), currentLine_concat hc,
      List.length_append]
    exact .inr ⟨rfl, Nat.lt_succ_self _⟩

/-- Some characters more lead to a later line or column, by induction on them. -/
theorem lineColumn_lt {s : List Char} (hs : s ≠ []) (before after : List Char) :
    (ofOffset (Utf8.encode (before ++ (s ++ after))) (utf8Length before)).lineColumn <
      (ofOffset (Utf8.encode (before ++ (s ++ after))) (utf8Length (before ++ s))).lineColumn := by
  induction s generalizing before with
  | nil => exact absurd rfl hs
  | cons c s ih =>
    have hstep := lineColumn_lt_step before (s ++ after) c
    cases s with
    | nil => exact hstep
    | cons d s =>
      have hothers := ih (List.cons_ne_nil _ _) (before ++ [c])
      rw [List.append_assoc, List.singleton_append, List.append_assoc, List.singleton_append]
        at hothers
      exact hstep.trans hothers

/-- **A later place has a later line and column.** -/
theorem strictMonoOn_lineColumn (text : List Char) :
    StrictMonoOn (fun n => (ofOffset (Utf8.encode text) n).lineColumn)
      {n | IsBoundary text n} := by
  intro m hm n hn hlt
  obtain ⟨before, s, after, rfl, rfl, rfl⟩ := IsBoundary.exists_between hm hn hlt.le
  refine lineColumn_lt (fun hs => ?_) before after
  rw [hs, List.append_nil] at hlt
  exact lt_irrefl _ hlt

end XmlQuery.Markup.Position
