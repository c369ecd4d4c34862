import XmlQuery.Proofs.Document.Spelling
import XmlQuery.Proofs.Markup.EventGrammar
import XmlQuery.Proofs.Markup.Positions
import XmlQuery.Proofs.Markup.Tiling

/-!
# Where faults are

A text is refused with a fault at a byte offset, which is found by the reader at a place that it has
reached, or by the builder in an event: where the event starts, behind the opening sign of a tag, or
where an attribute starts. All these are places between characters, so that the line and the column
that are shown for a fault are those behind the characters in front of it.

## Main definitions

* `Builder.PlaceIn`: where in an event the builder finds a fault

## Main results

* `Builder.placeIn_of_step`: the faults of one step
* `isBoundary_of_placeIn`: these places are between characters
* `isBoundary_of_buildTrees`: **faults are between characters**
* `positions_exact`: **the positions of faults are exact**
-/

namespace XmlQuery

open Markup (Attribute Event ErrorKind Fault Placed Reading)
open Markup.Scanner (occursAt_of_takes isBoundary_offset)
open Namespace (Scope)
open Text (Cursor IsBoundary utf8Length)

variable {text : List Char} {c d : Cursor} {event : Event} {fault : Fault} {n : Nat}

namespace Builder

/-- Where in an event that starts at byte `offset` the builder finds a fault. -/
inductive PlaceIn (offset : Nat) : Event → Nat → Prop
  /-- Where the event starts. -/
  | start {event : Event} : PlaceIn offset event offset
  /-- At the name of a start tag, behind the opening sign. -/
  | name {written : String} {attributes : List Attribute} {isEmpty : Bool} :
    PlaceIn offset (.startTag written attributes isEmpty) (offset + 1)
  /-- Where an attribute starts. -/
  | attr {written : String} {attributes : List Attribute} {isEmpty : Bool} {a : Attribute} :
    a ∈ attributes → PlaceIn offset (.startTag written attributes isEmpty) a.offset

/-! ## Faults of the builder -/

theorem offset_of_declareAll {s : Scope} {attributes : List Attribute}
    (h : declareAll s attributes = .error fault) : ∃ a ∈ attributes, fault.offset = a.offset := by
  obtain ⟨a, ha, s', hdeclare⟩ := exists_of_foldlM_eq_error h
  rw [declare, mapError_eq_error_iff] at hdeclare
  obtain ⟨kind, -, rfl⟩ := hdeclare
  exact ⟨a, List.mem_of_mem_filter ha, rfl⟩

theorem offset_of_resolveAttributes {s : Scope} {seen : List Attribute}
    {earlier : List TreeAttribute} {attributes : List Attribute}
    (h : resolveAttributes s seen earlier attributes = .error fault) :
    ∃ a ∈ attributes, fault.offset = a.offset := by
  induction attributes generalizing seen earlier with
  | nil => cases h
  | cons a rest ih =>
    rw [resolveAttributes] at h
    split at h
    · cases h
      exact ⟨a, List.mem_cons_self, rfl⟩
    split at h
    · cases h
      exact ⟨a, List.mem_cons_self, rfl⟩
    split at h
    · cases h
      exact ⟨a, List.mem_cons_self, rfl⟩
    split at h
    · next hrest =>
      cases h
      obtain ⟨a', ha', hoffset⟩ := ih hrest
      exact ⟨a', List.mem_cons_of_mem a ha', hoffset⟩
    · cases h

theorem placeIn_of_openElement {b : Builder} {offset : Nat} {written : String}
    {attributes : List Attribute} {isEmpty : Bool}
    (h : b.openElement offset written attributes isEmpty = .error fault) :
    PlaceIn offset (.startTag written attributes isEmpty) fault.offset := by
  rw [openElement] at h
  split at h
  · cases h
    exact .start
  rcases bind_eq_error_iff.1 h with h | ⟨scope, -, h⟩
  · obtain ⟨a, ha, hoffset⟩ := offset_of_declareAll h
    exact hoffset ▸ .attr ha
  rcases bind_eq_error_iff.1 h with h | ⟨name, -, h⟩
  · obtain ⟨kind, -, rfl⟩ := mapError_eq_error_iff.1 h
    exact .name
  rcases bind_eq_error_iff.1 h with h | ⟨resolved, -, h⟩
  · obtain ⟨a, ha, hoffset⟩ := offset_of_resolveAttributes h
    exact hoffset ▸ .attr ha
  · split at h <;> cases h

/-- **The faults of one step** are in the event. -/
theorem placeIn_of_step {b : Builder} {offset : Nat} (h : b.step offset event = .error fault) :
    PlaceIn offset event fault.offset := by
  cases event with
  | startTag name attributes isEmpty => exact placeIn_of_openElement h
  | declaration | instruction | comment => cases h
  | doctype body =>
    rw [step] at h
    split at h <;> cases h
    exact .start
  | text data =>
    rw [step] at h
    split at h
    · split at h <;> cases h
      exact .start
    · cases h
  | cdata data =>
    rw [step] at h
    split at h <;> cases h
    exact .start
  | endTag name =>
    change b.closeElement offset name = .error fault at h
    rw [closeElement] at h
    split at h
    · cases h
      exact .start
    · split at h <;> cases h
      exact .start

end Builder

/-! ## Places of the text -/

/-- An attribute starts behind some of the characters of its tag. -/
theorem exists_front_of_mem {offset : Nat} {written : List Char} {attributes : List Attribute}
    (h : Markup.SpellsAttributes offset written attributes) {a : Attribute} (ha : a ∈ attributes) :
    ∃ front tail, written = front ++ tail ∧ a.offset = offset + utf8Length front := by
  induction h with
  | nil => cases ha
  | @cons offset space written others a' attributes _ _ hspells _ ih =>
    rcases List.mem_cons.1 ha with rfl | ha
    · cases hspells with
      | mk => exact ⟨space, _, List.append_assoc _ _ _, rfl⟩
    · obtain ⟨front, tail, rfl, hoffset⟩ := ih ha
      refine ⟨space ++ written ++ front, tail, (List.append_assoc ..).symm, ?_⟩
      rw [hoffset, Text.utf8Length_append (space ++ written), Nat.add_assoc]

/-- The places in an event at which the builder finds faults are between characters. -/
theorem isBoundary_of_placeIn (hc : (Cursor.ofText text).Reaches c)
    (hread : Markup.readEvent c = .ok (event, d)) (h : Builder.PlaceIn c.offset event n) :
    IsBoundary text n := by
  obtain ⟨written, htakes, hspells⟩ := Markup.spellsEvent_of_readEvent hread
  have hoccurs := occursAt_of_takes hc htakes
  cases h with
  | start => exact isBoundary_offset hc
  | name =>
    cases hspells.startTag_of with
    | mk =>
      rw [List.cons_append, ← List.singleton_append] at hoccurs
      exact hoccurs.isBoundary
  | @attr name _ isEmpty _ ha =>
    cases hspells.startTag_of with
    | @mk _ _ space _ _ _ hattributes =>
      obtain ⟨front, tail, rfl, hoffset⟩ := exists_front_of_mem hattributes ha
      rw [hoffset, Nat.add_assoc, ← Text.utf8Length_append]
      have hfront : Markup.Scanner.OccursAt text c.offset
          (('<' :: name.toList ++ front) ++ (tail ++ (space ++ Markup.tagEnd isEmpty))) := by
        simpa only [List.cons_append, List.append_assoc] using hoccurs
      exact hfront.isBoundary

/-- The events of a reading are read at places of the text, by induction on what is left. -/
theorem exists_readEvent_of_mem {c : Cursor} (hc : (Cursor.ofText text).Reaches c) :
    ∀ p ∈ (Markup.readFrom c).events, ∃ c' d, (Cursor.ofText text).Reaches c' ∧
      p.offset = c'.offset ∧ Markup.readEvent c' = .ok (p.event, d) := by
  intro p hp
  fun_induction Markup.readFrom c with
  | case1 => cases hp
  | case2 => cases hp
  | case3 c hne event next hread others ih =>
    rcases List.mem_cons.1 hp with rfl | hp
    · exact ⟨c, next, hc, rfl, hread⟩
    · exact ih (hc.trans (Markup.passes_readEvent hne hread).reaches) hp

/-- **Faults are between characters**, whether the builder or the reader finds them. -/
theorem isBoundary_of_buildTrees (h : buildTrees (Markup.readAll text) = .error fault) :
    IsBoundary text fault.offset := by
  have hends := (Markup.Scanner.tiles_readFrom (Cursor.Reaches.refl (.ofText text))).ends
  rw [← Markup.readAll] at hends
  rw [buildTrees] at h
  split at h
  · next hrun =>
    cases h
    obtain ⟨p, hp, b, hstep⟩ := exists_of_foldlM_eq_error hrun
    obtain ⟨c, d, hc, hoffset, hread⟩ := exists_readEvent_of_mem (.refl _) p hp
    exact isBoundary_of_placeIn hc hread (hoffset ▸ Builder.placeIn_of_step hstep)
  · next b _ =>
    generalize Markup.readAll text = reading at h hends
    obtain ⟨events, outcome⟩ := reading
    cases hends with
    | failed _ hboundary _ =>
      cases h
      exact hboundary
    | reached _ =>
      -- Behind the last event the place is the end of the text.
      have hend : fault.offset = utf8Length text := by
        change b.finish (utf8Length text) = .error fault at h
        rw [Builder.finish] at h
        split at h
        · cases h
          rfl
        · split at h <;> cases h
          rfl
      exact ⟨text, [], (List.append_nil text).symm, hend⟩

namespace Document

open Markup (Position ParseError)

/-- The position of what is wrong with a text is the one behind the characters in front of it. -/
theorem behind_of_parseText {e : ParseError} (h : parseText text = .error e) :
    ∃ before after, text = before ++ after ∧ e.position.Behind before := by
  rw [parseText, mapError_eq_error_iff] at h
  obtain ⟨fault, hfault, rfl⟩ := h
  rw [ofText_eq, map_eq_error_iff] at hfault
  obtain ⟨before, after, rfl, hoffset⟩ := isBoundary_of_buildTrees hfault
  refine ⟨before, after, rfl, ?_⟩
  change (Position.ofOffset _ fault.offset).Behind before
  rw [hoffset]
  exact Position.behind_ofOffset before after

/-- **The positions of faults are exact.** If a text is refused, the place that is shown is between
two characters or at an end; its line is one more than the line feeds in front of it, its column one
more than the characters since the last of them. Of any two such places of a text the later one has
the later line, or the later column in the same line, so no two have both in common. -/
theorem positions_exact (text : List Char) :
    (∀ e, parseText text = .error e →
      e.position.offset ≤ (Utf8.encode text).length ∧ IsBoundary text e.position.offset ∧
        ∃ before after, text = before ++ after ∧ e.position.Behind before) ∧
    StrictMonoOn (fun n => (Position.ofOffset (Utf8.encode text) n).lineColumn)
      {n | IsBoundary text n} ∧
    ∀ m n, IsBoundary text m → IsBoundary text n →
      (Position.ofOffset (Utf8.encode text) m).line =
        (Position.ofOffset (Utf8.encode text) n).line →
      (Position.ofOffset (Utf8.encode text) m).column =
        (Position.ofOffset (Utf8.encode text) n).column → m = n := by
  have hmono := Position.strictMonoOn_lineColumn text
  refine ⟨fun e he => ?_, hmono, fun m n hm hn hline hcolumn => ?_⟩
  · obtain ⟨before, after, rfl, hbehind⟩ := behind_of_parseText he
    refine ⟨?_, ⟨before, after, rfl, hbehind.offset_eq⟩, before, after, rfl, hbehind⟩
    rw [Utf8.length_encode, Text.utf8Length_append, hbehind.offset_eq]
    exact Nat.le_add_right _ _
  · refine hmono.injOn hm hn ?_
    change toLex _ = toLex _
    rw [hline, hcolumn]

/-- The end of a CDATA section in the text of an element, behind one character in the second
line. -/
theorem positions_exact_second_line :
    parseText "<r>é\nü]]></r>".toList = .error ⟨⟨8, 2, 2⟩, .cdataEndInText⟩ ∧
      ∃ before after, "<r>é\nü]]></r>".toList = before ++ after ∧
        Position.Behind before ⟨8, 2, 2⟩ := by
  have hparse : parseText "<r>é\nü]]></r>".toList = .error ⟨⟨8, 2, 2⟩, .cdataEndInText⟩ := by
    with_unfolding_all rfl
  exact ⟨hparse, ((positions_exact _).1 _ hparse).2.2⟩

end Document

end XmlQuery
