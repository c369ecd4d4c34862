import Mathlib.Data.List.Chain
import Mathlib.Data.List.TakeWhile
import XmlQuery.Markup.Reader
import XmlQuery.Proofs.Outcome

/-!
# What a reading can be

Text goes up to the next tag, so it is never empty and no two texts are next to each other; the
target `xml` is that of the XML declaration and of no processing instruction.

## Main definitions

* `Event.isText`: the event is plain text
* `Event.Legal`: what holds of every event that is read

## Main results

* `legal_of_mem_readAll`: every event of a reading is legal
* `isChain_readAll`: no two texts are next to each other in a reading
-/

namespace XmlQuery.Markup

open Text (Cursor)

/-- The event is plain text. -/
def Event.isText : Event → Bool
  | .text _ => true
  | _ => false

/-- What holds of every event that is read: text is not empty, and a processing instruction is not
an XML declaration. -/
def Event.Legal : Event → Prop
  | .text data => data ≠ ""
  | .instruction target _ => target ≠ "xml"
  | _ => True

/-! ## Decoding -/

theorem replaceReturns_ne_nil (newline : Char) {text : List Char} (h : text ≠ []) :
    replaceReturns newline text ≠ [] := by
  fun_cases replaceReturns newline text with
  | case1 => exact absurd rfl h
  | case2 => exact List.cons_ne_nil _ _
  | case3 => exact List.cons_ne_nil _ _

theorem normalize_ne_nil (mode : DataMode) {run : List Char} (h : run ≠ []) :
    mode.normalize run ≠ [] := by
  have hnewlines := replaceReturns_ne_nil '\n' h
  cases mode with
  | text => exact hnewlines
  | «attribute» => exact fun hnil => hnewlines (List.map_eq_nil_iff.1 hnil)

/-- Data that is not empty stands for characters. -/
theorem decodeRuns_ne_nil {mode : DataMode} {offset : Nat} {raw text : List Char} (hraw : raw ≠ [])
    (h : decodeRuns mode offset raw = .ok text) : text ≠ [] := by
  rw [decodeRuns] at h
  dsimp only at h
  split at h
  · next hdrop =>
    cases h
    -- Without an ampersand the run is the whole of the data.
    have hrun : raw.takeWhile (· != '&') = raw := by
      have happend := List.takeWhile_append_dropWhile (p := (· != '&')) (l := raw)
      rw [hdrop, List.append_nil] at happend
      exact happend
    rw [hrun]
    exact normalize_ne_nil mode hraw
  · split at h
    · cases h
    · split at h
      · cases h
      · split at h
        · cases h
        · cases h
          exact List.append_ne_nil_of_right_ne_nil _ (List.cons_ne_nil _ _)

theorem decodeData_ne_empty {here : Cursor} {mode : DataMode} {start : Nat} {raw : List Char}
    {data : String} (hraw : raw ≠ []) (h : decodeData here mode start raw = .ok data) :
    data ≠ "" := by
  rw [decodeData] at h
  split at h
  · next text htext =>
    cases h
    rw [decode] at htext
    split at htext
    · cases htext
    · exact fun hempty => decodeRuns_ne_nil hraw htext (String.ofList_eq_empty_iff.1 hempty)
  · cases h

/-! ## Events -/

/-- Text goes up to the next tag or the end. -/
theorem readText_cases {c d : Cursor} {e : Event} (h : readText c = .ok (e, d)) :
    ∃ data, e = .text data ∧ (c.rest.takeWhile (· != '<') ≠ [] → data ≠ "") ∧
      d.rest = c.rest.dropWhile (· != '<') := by
  simp only [readText, bind_eq_ok_iff] at h
  obtain ⟨-, -, data, hdata, h⟩ := h
  cases h
  exact ⟨data, rfl, fun hraw => decodeData_ne_empty hraw hdata, rfl⟩

theorem readInstruction_legal {c d : Cursor} {e : Event} (h : readInstruction c = .ok (e, d)) :
    e.isText = false ∧ e.Legal := by
  simp only [readInstruction, bind_eq_ok_iff] at h
  obtain ⟨⟨target, afterTarget⟩, -, h⟩ := h
  split at h
  · cases h
  · split at h
    · cases h
    · simp only [bind_eq_ok_iff] at h
      obtain ⟨⟨content, inner, close⟩, -, -, -, h⟩ := h
      split at h
      · -- With the target `xml` it is the XML declaration, at the start of the text.
        split at h
        · cases h
          exact ⟨rfl, trivial⟩
        · cases h
      · next htarget =>
        cases h
        exact ⟨rfl, fun hxml => htarget (String.ofList_injective hxml)⟩

theorem readComment_legal {c d : Cursor} {e : Event} (h : readComment c = .ok (e, d)) :
    e.isText = false ∧ e.Legal := by
  simp only [readComment] at h
  split at h
  · cases h
  · simp only [bind_eq_ok_iff] at h
    obtain ⟨-, -, h⟩ := h
    split at h
    · cases h
    · simp only [bind_eq_ok_iff] at h
      obtain ⟨-, -, h⟩ := h
      cases h
      exact ⟨rfl, trivial⟩

theorem readCData_legal {c d : Cursor} {e : Event} (h : readCData c = .ok (e, d)) :
    e.isText = false ∧ e.Legal := by
  simp only [readCData] at h
  split at h
  · cases h
  · simp only [bind_eq_ok_iff] at h
    obtain ⟨-, -, h⟩ := h
    cases h
    exact ⟨rfl, trivial⟩

theorem readDoctype_legal {c d : Cursor} {e : Event} (h : readDoctype c = .ok (e, d)) :
    e.isText = false ∧ e.Legal := by
  simp only [readDoctype] at h
  split at h
  · split at h
    · cases h
    · cases h
    · simp only [bind_eq_ok_iff] at h
      obtain ⟨-, -, h⟩ := h
      cases h
      exact ⟨rfl, trivial⟩
  · cases h

theorem readEndTag_legal {c d : Cursor} {e : Event} (h : readEndTag c = .ok (e, d)) :
    e.isText = false ∧ e.Legal := by
  simp only [readEndTag, bind_eq_ok_iff] at h
  obtain ⟨⟨name, afterName⟩, -, next, -, h⟩ := h
  cases h
  exact ⟨rfl, trivial⟩

theorem readStartTag_legal {c d : Cursor} {e : Event} (h : readStartTag c = .ok (e, d)) :
    e.isText = false ∧ e.Legal := by
  simp only [readStartTag, bind_eq_ok_iff] at h
  obtain ⟨⟨name, afterName⟩, -, ⟨attributes, isEmpty, next⟩, -, h⟩ := h
  cases h
  exact ⟨rfl, trivial⟩

/-- What starts with an opening sign is read as markup. -/
theorem readEvent_markup {c d : Cursor} {e : Event} (hc : c.startsWith "<" = true)
    (h : readEvent c = .ok (e, d)) : e.isText = false ∧ e.Legal := by
  rw [readEvent, if_neg (not_not_intro hc)] at h
  -- One case for each opening delimiter, in the order in which they are tried.
  repeat' split at h
  · exact readInstruction_legal h
  · exact readComment_legal h
  · exact readCData_legal h
  · exact readDoctype_legal h
  · cases h
  · exact readEndTag_legal h
  · exact readStartTag_legal h

theorem startsWith_tag_iff (c : Cursor) :
    c.startsWith "<" = true ↔ ∃ rest, c.rest = '<' :: rest := by
  rw [Cursor.startsWith, List.isPrefixOf_iff_prefix]
  constructor
  · rintro ⟨rest, hrest⟩
    exact ⟨rest, hrest.symm⟩
  · rintro ⟨rest, hrest⟩
    exact ⟨rest, hrest.symm⟩

/-- What does not start with an opening sign is read as text, up to one or to the end. -/
theorem readEvent_text {c d : Cursor} {e : Event} (hne : c.rest ≠ [])
    (hc : ¬ c.startsWith "<" = true) (h : readEvent c = .ok (e, d)) :
    e.Legal ∧ (d.rest = [] ∨ d.startsWith "<" = true) := by
  rw [readEvent, if_pos hc] at h
  obtain ⟨data, rfl, hdata, hrest⟩ := readText_cases h
  constructor
  · -- The first character is not an opening sign, so the text is not empty.
    refine hdata fun hnil => hc ?_
    rw [startsWith_tag_iff]
    cases hcr : c.rest with
    | nil => exact absurd hcr hne
    | cons x rest =>
      rw [hcr, List.takeWhile_eq_nil_iff] at hnil
      have hx : ¬ (x != '<') = true := hnil (Nat.zero_lt_succ _)
      rw [bne_iff_ne, not_not] at hx
      exact ⟨rest, by rw [hx]⟩
  · -- What stops the text is an opening sign or the end.
    rw [startsWith_tag_iff, hrest]
    cases hdrop : c.rest.dropWhile (· != '<') with
    | nil => exact .inl rfl
    | cons x rest =>
      have hx := List.head_dropWhile_not (· != '<') (hdrop ▸ List.cons_ne_nil x rest)
      simp only [hdrop, List.head_cons, bne_eq_false_iff_eq] at hx
      exact .inr ⟨rest, by rw [hx]⟩

theorem readEvent_legal {c d : Cursor} {e : Event} (hne : c.rest ≠ [])
    (h : readEvent c = .ok (e, d)) : e.Legal := by
  by_cases hc : c.startsWith "<" = true
  · exact (readEvent_markup hc h).2
  · exact (readEvent_text hne hc h).1

/-! ## Readings -/

theorem legal_of_mem_readFrom {c : Cursor} {p : Placed} (h : p ∈ (readFrom c).events) :
    p.event.Legal := by
  fun_induction readFrom c with
  | case1 => cases h
  | case2 => cases h
  | case3 c hne event next hread others ih =>
    rcases List.mem_cons.1 h with rfl | h
    · exact readEvent_legal hne hread
    · exact ih h

/-- Every event of a reading is legal. -/
theorem legal_of_mem_readAll {text : List Char} {e : Event}
    (h : e ∈ (readAll text).events.map (·.event)) : e.Legal := by
  obtain ⟨p, hp, rfl⟩ := List.mem_map.1 h
  exact legal_of_mem_readFrom hp

/-- In front of a tag no text is read. -/
theorem isText_head_readFrom {c : Cursor} (hc : c.rest = [] ∨ c.startsWith "<" = true) {p : Placed}
    (hp : p ∈ (readFrom c).events.head?) : p.event.isText = false := by
  rw [readFrom] at hp
  split at hp
  · cases hp
  · next hne =>
    split at hp
    · cases hp
    · next event next hread =>
      cases hp
      exact (readEvent_markup (hc.resolve_left hne) hread).1

/-- No two texts are next to each other from a cursor on. -/
theorem isChain_readFrom (c : Cursor) :
    (readFrom c).events.IsChain fun a b => ¬ (a.event.isText = true ∧ b.event.isText = true) := by
  fun_induction readFrom c with
  | case1 => exact .nil
  | case2 => exact .nil
  | case3 c hne event next hread others ih =>
    refine List.isChain_cons.2 ⟨fun p hp => ?_, ih⟩
    -- Text goes up to a tag, and in front of a tag no text is read.
    rintro ⟨hevent, htext⟩
    by_cases hc : c.startsWith "<" = true
    · rw [(readEvent_markup hc hread).1] at hevent
      cases hevent
    · rw [isText_head_readFrom (readEvent_text hne hc hread).2 hp] at htext
      cases htext

/-- No two texts are next to each other in a reading. -/
theorem isChain_readAll (text : List Char) :
    ((readAll text).events.map (·.event)).IsChain fun a b =>
      ¬ (a.isText = true ∧ b.isText = true) := by
  rw [List.isChain_map]
  exact isChain_readFrom _

end XmlQuery.Markup
