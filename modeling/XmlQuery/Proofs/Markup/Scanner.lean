import XmlQuery.Markup.Reader
import XmlQuery.Proofs.Outcome
import XmlQuery.Proofs.Text.Bytes
import XmlQuery.Proofs.Text.Delimiters

/-!
# Scanning bytes

The reader is described again, as it works on the bytes of a text: a scanner knows the whole text
and the offset at which it stands, and finds what comes next by searches of bytes and by slices
between offsets that it computes. A slice out of range or inside of a character stops it. The
offsets of cursors are between characters, and at these a scanner makes the moves that a cursor
makes.

## Main definitions

* `Scanner.Halt`: why a scanner stops
* `Scanner.slice`, `Scanner.bytesFrom`: slices, which may be bad
* `Scanner.Stops`, `Scanner.Lands`: a scanner fails, or arrives, as the reader does

## Main results

* `Scanner.slice_eq`, `Scanner.remaining_eq`: slices between cursors
* `Scanner.advance_eq`, `Scanner.skipBlanks_eq`, `Scanner.find_eq`, `Scanner.agree_expect`,
  `Scanner.agree_readName`: the moves of a scanner are those of a cursor
-/

namespace XmlQuery.Markup

open Text (Cursor IsBoundary slice? utf8Length utf8Length_append utf8Length_cons utf8Length_nil)
open Utf8 (IsAscii encode encode_append firstOf? indexOf? isOneOf length_encode)

namespace Scanner

/-- Why a scanner stops. -/
inductive Halt
  /-- The text is not what it has to be. -/
  | failed (failure : Failure)
  /-- A slice is out of range, or cuts a character. -/
  | badSlice
  deriving DecidableEq

variable (text : List Char)

/-! ## Moves -/

/-- The characters between two offsets. -/
def slice (start stop : Nat) : Except Halt (List Char) :=
  match slice? text start stop with
  | some s => .ok s
  | none => .error .badSlice

/-- The bytes from an index on. -/
def bytesFrom (bytes : List UInt8) (index : Nat) : Except Halt (List UInt8) :=
  if index ≤ bytes.length then .ok (bytes.drop index) else .error .badSlice

/-- The characters from an offset on. -/
def remaining (position : Nat) : Except Halt (List Char) :=
  slice text position (utf8Length text)

/-- The byte at an offset. -/
def peek (position : Nat) : Option UInt8 := (encode text)[position]?

/-- The offset so many bytes on, but not behind the end. -/
def advance (position n : Nat) : Nat := min (position + n) (utf8Length text)

/-- White space, as a scanner knows it. -/
def blanks : List Char := [' ', '\t', '\n', '\r']

/-- The offset after white space. -/
def skipBlanks (position : Nat) : Nat :=
  position + (((encode text).drop position).takeWhile (isOneOf blanks)).length

/-- A delimiter comes next. -/
def startsWith (position : Nat) (delimiter : String) : Except Halt Bool := do
  let rest ← remaining text position
  .ok (delimiter.toList.isPrefixOf rest)

/-- The offset of the next of some ASCII characters. -/
def findFirst (position : Nat) (chars : List Char) : Except Halt (Option Nat) := do
  let rest ← remaining text position
  .ok ((firstOf? chars (encode rest)).map (position + ·))

/-- The offset of the next occurrence of a delimiter. -/
def find (position : Nat) (delimiter : String) : Except Halt (Option Nat) := do
  let rest ← remaining text position
  .ok ((indexOf? (encode delimiter.toList) (encode rest)).map (position + ·))

/-- The name that comes next, and the offset after it. -/
def name? (position : Nat) : Except Halt (Option (List Char × Nat)) := do
  match ← remaining text position with
  | [] => .ok none
  | first :: others =>
    if isNameStart first then
      let stop :=
        if others.all isNameChar then utf8Length text
        else position + utf8Length (first :: others.takeWhile isNameChar)
      let name ← slice text position stop
      .ok (some (name, stop))
    else .ok none

/-- A fault at an offset, found by a scanner that stands at another. -/
def failAt (position offset : Nat) (kind : ErrorKind) : Halt := .failed ⟨⟨offset, kind⟩, position⟩

/-- Something else than what was looked for stands at an offset, or the text has ended. -/
def missing (position : Nat) (what : Expected) : Halt :=
  failAt position position
    (if utf8Length text ≤ position then .unexpectedEof else .expected what)

/-- The offset after a delimiter, which has to come next. -/
def expect (position : Nat) (delimiter : String) (what : Expected) : Except Halt Nat := do
  if ← startsWith text position delimiter then
    .ok (advance text position (utf8Length delimiter.toList))
  else .error (missing text position what)

/-- The name that has to come next. -/
def readName (position : Nat) (what : Expected) : Except Halt (List Char × Nat) := do
  match ← name? text position with
  | some found => .ok found
  | none => .error (missing text position what)

/-! ## Cursors -/

variable {text : List Char} {c d : Cursor} {taken : List Char} {delimiter : String}

theorem bytesFrom_append (before rest : List Char) :
    bytesFrom (encode (before ++ rest)) (utf8Length before) = .ok (encode rest) := by
  rw [bytesFrom, if_pos, Utf8.drop_encode]
  rw [length_encode, utf8Length_append]
  exact Nat.le_add_right _ _

theorem exists_before (hc : (Cursor.ofText text).Reaches c) :
    ∃ before, text = before ++ c.rest ∧ c.offset = utf8Length before := by
  obtain ⟨before, hrest, hoffset⟩ := hc
  exact ⟨before, hrest, hoffset.trans (Nat.zero_add _)⟩

theorem isBoundary_offset (hc : (Cursor.ofText text).Reaches c) : IsBoundary text c.offset := by
  obtain ⟨before, htext, hoffset⟩ := exists_before hc
  exact ⟨before, c.rest, htext, hoffset⟩

theorem slice?_eq_of_takes (hc : (Cursor.ofText text).Reaches c) (htakes : c.Takes taken d) :
    slice? text c.offset d.offset = some taken := by
  obtain ⟨before, rfl, hoffset⟩ := exists_before hc
  rw [htakes.2, htakes.1, hoffset]
  exact Text.slice?_append before taken d.rest

/-- A slice between two cursors holds what is taken from one to the other. -/
theorem slice_eq (hc : (Cursor.ofText text).Reaches c) (htakes : c.Takes taken d) :
    slice text c.offset d.offset = .ok taken := by
  rw [slice, slice?_eq_of_takes hc htakes]

/-- **A slice is good** if its bounds are in order, in range and between characters. -/
theorem slice_isOk_iff {start stop : Nat} :
    (∃ s, slice text start stop = .ok s) ↔
      start ≤ stop ∧ IsBoundary text start ∧ IsBoundary text stop := by
  rw [← Text.slice?_isSome_iff, Option.isSome_iff_exists]
  refine exists_congr fun s => ?_
  rw [slice]
  cases slice? text start stop <;> simp

theorem length_eq (hc : (Cursor.ofText text).Reaches c) :
    utf8Length text = c.offset + utf8Length c.rest := by
  obtain ⟨before, htext, hoffset⟩ := exists_before hc
  rw [hoffset, ← utf8Length_append, ← htext]

theorem remaining_eq (hc : (Cursor.ofText text).Reaches c) :
    remaining text c.offset = .ok c.rest := by
  have hend : c.Takes c.rest ⟨utf8Length text, []⟩ := ⟨(List.append_nil _).symm, length_eq hc⟩
  exact slice_eq hc hend

theorem drop_encode (hc : (Cursor.ofText text).Reaches c) :
    (encode text).drop c.offset = encode c.rest := by
  obtain ⟨before, htext, hoffset⟩ := exists_before hc
  rw [hoffset, htext]
  exact Utf8.drop_encode before c.rest

theorem peek_eq (hc : (Cursor.ofText text).Reaches c) :
    peek text c.offset = (encode c.rest).head? := by
  rw [peek, ← drop_encode hc, List.head?_drop]

/-- The text has ended at a cursor of which nothing is left. -/
theorem length_le_offset_iff (hc : (Cursor.ofText text).Reaches c) :
    utf8Length text ≤ c.offset ↔ c.rest = [] := by
  rw [length_eq hc]
  constructor
  · exact fun hle => Text.eq_nil_of_utf8Length (by omega)
  · intro hrest
    rw [hrest, utf8Length_nil]
    exact Nat.le_refl _

theorem offset_le (hc : (Cursor.ofText text).Reaches c) : c.offset ≤ utf8Length text := by
  rw [length_eq hc]
  exact Nat.le_add_right _ _

theorem advance_eq (hc : (Cursor.ofText text).Reaches c) (htakes : c.Takes taken d) :
    advance text c.offset (utf8Length taken) = d.offset := by
  have hd := offset_le (hc.trans ⟨taken, htakes⟩)
  rw [htakes.2] at hd ⊢
  exact Nat.min_eq_left hd

/-- As many bytes are passed over as characters, if these are of ASCII. -/
theorem advance_length (hc : (Cursor.ofText text).Reaches c) {n : Nat}
    (hn : utf8Length (c.rest.take n) = n) : advance text c.offset n = (c.advance n).offset := by
  have h := advance_eq hc (c.takes_advance n)
  rwa [hn] at h

theorem advance_of_startsWith (hc : (Cursor.ofText text).Reaches c)
    (hstarts : c.startsWith delimiter = true) :
    advance text c.offset (utf8Length delimiter.toList) =
      (c.advance delimiter.length).offset := by
  obtain ⟨d, hd⟩ := Cursor.startsWith_iff.1 hstarts
  rw [advance_eq hc hd, ← String.length_toList, hd.advance_eq]

theorem isBlank_eq (x : Char) : Text.isBlank x = decide (x ∈ blanks) := by
  rw [Bool.eq_iff_iff]
  simp [Text.isBlank, blanks, or_assoc]

theorem skipBlanks_eq (hc : (Cursor.ofText text).Reaches c) :
    skipBlanks text c.offset = (Markup.skipBlanks c).offset := by
  have hclass : Text.isBlank = fun x => decide (x ∈ blanks) := funext isBlank_eq
  rw [skipBlanks, drop_encode hc, Utf8.takeWhile_encode (by decide), length_encode,
    Markup.skipBlanks, Cursor.skipWhile, hclass]
  rfl

/-- White space is skipped where some comes next. -/
theorem lt_skipBlanks_iff (hc : (Cursor.ofText text).Reaches c) :
    c.offset < skipBlanks text c.offset ↔ atBlank c = true := by
  rw [skipBlanks_eq hc, Markup.skipBlanks, Cursor.skipWhile, Cursor.past, atBlank]
  cases hrest : c.rest with
  | nil => simp
  | cons x rest =>
    have hpos := x.utf8Size_pos
    by_cases hx : Text.isBlank x = true
    · simp [hx]
      omega
    · simp [hx]

theorem startsWith_eq (hc : (Cursor.ofText text).Reaches c) (delimiter : String) :
    startsWith text c.offset delimiter = .ok (c.startsWith delimiter) := by
  rw [startsWith, remaining_eq hc]
  rfl

/-- A delimiter is found where a cursor finds it. -/
theorem find_eq (hc : (Cursor.ofText text).Reaches c) :
    find text c.offset delimiter = .ok ((c.upTo? delimiter).map (·.2.offset)) := by
  rw [find, remaining_eq hc]
  change Except.ok _ = Except.ok _
  rw [Utf8.indexOf?_encode, Cursor.upTo?, Option.map_map, Option.map_map]
  rfl

/-- An ASCII character is found where a cursor finds it. -/
theorem findFirst_eq {a : Char} (ha : a.toNat ≤ 0x7F) (hc : (Cursor.ofText text).Reaches c) :
    findFirst text c.offset [a] =
      .ok ((c.upTo? (String.singleton a)).map (·.2.offset)) := by
  have hascii : IsAscii [a] := List.forall_mem_singleton.2 ha
  rw [findFirst, remaining_eq hc, Cursor.upTo?, String.toList_singleton]
  change Except.ok _ = Except.ok _
  congr 1
  obtain ⟨front, tail, hrest, hfront, htail⟩ := Text.exists_front [a] c.rest
  rw [hrest]
  rcases htail with rfl | ⟨x, hx, rest, rfl⟩
  · have hnone : ¬ [a] <:+: front := fun h => hfront a (h.subset (List.mem_singleton_self a))
      (List.mem_singleton_self a)
    rw [List.append_nil, Utf8.firstOf?_eq_none hascii hfront,
      Text.splitFirst?_eq_none_iff.2 hnone]
    rfl
  · obtain rfl := List.mem_singleton.1 hx
    have hnone : ¬ [] ++ [x] <:+: front := fun h => hfront x (h.subset (List.mem_singleton_self x))
      (List.mem_singleton_self x)
    have hsplit := @Text.splitFirst?_append [] front x List.not_mem_nil hnone rest
    rw [List.nil_append, List.singleton_append] at hsplit
    rw [Utf8.firstOf?_append_cons hascii hfront hx, hsplit]
    rfl

theorem name?_eq (hc : (Cursor.ofText text).Reaches c) :
    name? text c.offset =
      .ok ((Markup.name? c).map fun found => (found.1, found.2.offset)) := by
  rw [name?, remaining_eq hc, Markup.name?]
  change (match c.rest with | [] => _ | first :: others => _) = _
  cases hrest : c.rest with
  | nil => rfl
  | cons first others =>
    dsimp only
    by_cases hfirst : isNameStart first = true
    case neg => rw [if_neg hfirst, if_neg hfirst]; rfl
    rw [if_pos hfirst, if_pos hfirst]
    -- The name goes on to the end of the text if all characters belong to it.
    have htakes : c.Takes (first :: others.takeWhile isNameChar)
        (c.past (first :: others.takeWhile isNameChar) (others.dropWhile isNameChar)) :=
      ⟨by simp [hrest, Cursor.past], rfl⟩
    have hstop : (if others.all isNameChar then utf8Length text
        else c.offset + utf8Length (first :: others.takeWhile isNameChar)) =
          (c.past (first :: others.takeWhile isNameChar) (others.dropWhile isNameChar)).offset := by
      by_cases hall : others.all isNameChar = true
      · rw [if_pos hall, length_eq hc, hrest, Cursor.past,
          List.takeWhile_eq_self_iff.2 (List.all_eq_true.1 hall)]
      · rw [if_neg hall]
        rfl
    rw [hstop, slice_eq hc htakes]
    rfl

/-! ## Agreement -/

variable (text) in
/-- What stops a scanner is what stops the reader, which then is at a place between characters, as
is the fault. -/
structure Stops (failure : Failure) (halt : Halt) : Prop where
  /-- It is the same failure. -/
  halt_eq : halt = .failed failure
  /-- Where the scanner stops. -/
  stopped : IsBoundary text failure.stopped
  /-- Where the fault is. -/
  fault : IsBoundary text failure.fault.offset

variable (text) in
/-- A cursor stands in the text, at the offset of a scanner. -/
structure Stands (c : Cursor) (position : Nat) : Prop where
  /-- The offset is that of the cursor. -/
  position_eq : position = c.offset
  /-- The cursor stands in the text. -/
  reaches : (Cursor.ofText text).Reaches c

variable (text) in
/-- A scanner finds what the reader finds, and arrives at the offset of the cursor at which the
reader arrives. -/
inductive Lands {α : Type} : α × Cursor → α × Nat → Prop
  /-- The same is found. -/
  | intro (a : α) (d : Cursor) : (Cursor.ofText text).Reaches d → Lands (a, d) (a, d.offset)

variable (text) in
/-- The characters `s` stand at a byte offset of the text. -/
def OccursAt (start : Nat) (s : List Char) : Prop :=
  ∃ before after, text = before ++ (s ++ after) ∧ start = utf8Length before

variable {what : Expected} {kind : ErrorKind} {start offset : Nat} {s front tail : List Char}

theorem Stands.lands {α : Type} {position : Nat} (a : α) (h : Stands text c position) :
    Lands text (a, c) (a, position) := by
  obtain ⟨rfl, hc⟩ := h
  exact .intro a c hc

theorem occursAt_of_takes (hc : (Cursor.ofText text).Reaches c) (htakes : c.Takes taken d) :
    OccursAt text c.offset taken := by
  obtain ⟨before, htext, hoffset⟩ := exists_before hc
  exact ⟨before, d.rest, by rw [htext, htakes.1], hoffset⟩

/-- Inside of what stands in a text, the places between characters are such places of the text. -/
theorem OccursAt.isBoundary (h : OccursAt text start (front ++ tail)) :
    IsBoundary text (start + utf8Length front) := by
  obtain ⟨before, after, rfl, rfl⟩ := h
  exact ⟨before ++ front, tail ++ after, by simp only [List.append_assoc],
    (utf8Length_append _ _).symm⟩

theorem stops_failAt (hc : (Cursor.ofText text).Reaches c) (hoffset : IsBoundary text offset) :
    Stops text (Markup.failAt c offset kind) (failAt c.offset offset kind) :=
  ⟨rfl, isBoundary_offset hc, hoffset⟩

theorem stops_missing (hc : (Cursor.ofText text).Reaches c) :
    Stops text (Markup.missing c what) (missing text c.offset what) := by
  have hkind : (if utf8Length text ≤ c.offset then ErrorKind.unexpectedEof else .expected what) =
      if c.rest.isEmpty then .unexpectedEof else .expected what := by
    simp only [length_le_offset_iff hc, List.isEmpty_iff]
  rw [missing, hkind]
  exact stops_failAt hc (isBoundary_offset hc)

theorem agree_expect (hc : (Cursor.ofText text).Reaches c) (delimiter : String)
    (what : Expected) :
    Agree (Stops text) (Stands text) (Markup.expect c delimiter what)
      (expect text c.offset delimiter what) := by
  rw [expect, startsWith_eq hc, Markup.expect]
  refine Agree.ite (fun hstarts => ?_) fun _ => .error (stops_missing hc)
  rw [advance_of_startsWith hc hstarts]
  exact .ok ⟨rfl, hc.trans (c.reaches_advance _)⟩

theorem agree_readName (hc : (Cursor.ofText text).Reaches c) (what : Expected) :
    Agree (Stops text) (Lands text) (Markup.readName c what) (readName text c.offset what) := by
  rw [readName, name?_eq hc, Markup.readName]
  cases hname : Markup.name? c with
  | none => exact .error (stops_missing hc)
  | some found => exact .ok (.intro found.1 found.2 (hc.trans ⟨_, takes_name? hname⟩))

end Scanner

end XmlQuery.Markup
