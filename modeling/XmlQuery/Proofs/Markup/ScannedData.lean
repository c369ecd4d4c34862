import XmlQuery.Proofs.Markup.Decoding
import XmlQuery.Proofs.Markup.Scanner
import XmlQuery.Proofs.Outcome

/-!
# Character data in bytes

Character data is decoded in rounds: each one takes a reference, a line end, a character that is
replaced, or as many bytes as stand for themselves. The offsets between the rounds come from
searches of the bytes. They lie between characters, and the rounds together find what decoding
finds.

## Main definitions

* `Scanner.decodeStep`, `Scanner.decodeFrom`, `Scanner.decode`: a round, the rounds from an index
  on, and all rounds

## Main results

* `Scanner.decodeStep_progress`: a round takes at least one byte
* `Scanner.decodeStep_cases`: what a round does between two characters
* `Scanner.decode_eq`: the rounds together decode
* `Scanner.agree_decode`: a scanner decodes as the reader does
-/

namespace XmlQuery.Markup.Scanner

open Text (Cursor slice? utf8Length utf8Length_append utf8Length_cons utf8Length_nil)
open Utf8 (IsAscii encode firstOf? isOneOf length_encode)

/-- The ASCII characters that may stand for something else in character data. -/
def marks : DataMode → List Char
  | .text => ['&', '\r']
  | .attribute => ['&', '\r', '\n', '\t']

/-- What a line end stands for. -/
def newline : DataMode → Char
  | .text => '\n'
  | .attribute => ' '

/-- The round at the ampersand of a reference. -/
def decodeReference (position start : Nat) (raw : List Char) (index : Nat) :
    Except Halt (Option (List Char × Nat)) := do
  let tail ← bytesFrom (encode raw) index
  match firstOf? [';'] tail with
  | none => .error (failAt position (start + index) .malformedReference)
  | some i =>
    let semicolon := index + i
    let body ← slice raw (index + 1) semicolon
    match resolveReference body with
    | .error kind => .error (failAt position (start + index) kind)
    | .ok c => .ok (some ([c], semicolon + 1))

/-- The round at a byte that stands for itself. -/
def decodeChunk (mode : DataMode) (raw : List Char) (index : Nat) :
    Except Halt (Option (List Char × Nat)) := do
  let tail ← bytesFrom (encode raw) index
  let next :=
    match firstOf? (marks mode) tail with
    | some i => index + i
    | none => (encode raw).length
  let chunk ← slice raw index next
  .ok (some (chunk, next))

/-- A round at an index of character data, which starts at byte `start`, by a scanner that stands at
`position`: the characters that come out, and the index of the next round; none at the end. -/
def decodeStep (position start : Nat) (mode : DataMode) (raw : List Char) (index : Nat) :
    Except Halt (Option (List Char × Nat)) :=
  let bytes := encode raw
  match bytes[index]? with
  | none => .ok none
  | some b =>
    if b = '&'.toUInt8 then decodeReference position start raw index
    else if b = '\r'.toUInt8 then
      let size := if bytes[index + 1]? = some '\n'.toUInt8 then 2 else 1
      .ok (some ([newline mode], index + size))
    else if mode = .attribute ∧ (b = '\n'.toUInt8 ∨ b = '\t'.toUInt8) then
      .ok (some ([' '], index + 1))
    else decodeChunk mode raw index

variable {position start index next : Nat} {mode : DataMode} {raw chars : List Char}

theorem isOneOf_marks {b : UInt8} (hampersand : ¬ b = '&'.toUInt8) (hreturn : ¬ b = '\r'.toUInt8)
    (hblank : ¬ (mode = .attribute ∧ (b = '\n'.toUInt8 ∨ b = '\t'.toUInt8))) :
    isOneOf (marks mode) b = false := by
  simp only [isOneOf, List.any_eq_false, beq_iff_eq]
  rintro c hc rfl
  cases mode with
  | text => rcases List.mem_pair.1 hc with rfl | rfl <;> contradiction
  | «attribute» =>
    simp only [marks, List.mem_cons, List.not_mem_nil, or_false] at hc
    rcases hc with rfl | rfl | rfl | rfl
    · contradiction
    · contradiction
    · exact hblank ⟨rfl, .inl rfl⟩
    · exact hblank ⟨rfl, .inr rfl⟩

theorem lt_of_decodeReference
    (h : decodeReference position start raw index = .ok (some (chars, next))) : index < next := by
  obtain ⟨tail, -, h⟩ := bind_eq_ok_iff.1 h
  split at h
  · cases h
  · obtain ⟨body, -, h⟩ := bind_eq_ok_iff.1 h
    split at h
    · cases h
    · cases h
      omega

/-- If the byte at an index is no mark, the next mark comes later. -/
theorem lt_of_decodeChunk (hindex : index < (encode raw).length)
    (hmark : isOneOf (marks mode) (encode raw)[index] = false)
    (h : decodeChunk mode raw index = .ok (some (chars, next))) : index < next := by
  obtain ⟨tail, htail, h⟩ := bind_eq_ok_iff.1 h
  obtain ⟨chunk, -, h⟩ := bind_eq_ok_iff.1 h
  rw [bytesFrom, if_pos (Nat.le_of_lt hindex)] at htail
  cases htail
  cases h
  split
  · next i hi =>
    rw [List.drop_eq_getElem_cons hindex, firstOf?, List.findIdx?_cons, hmark] at hi
    obtain ⟨j, -, rfl⟩ := Option.map_eq_some_iff.1 hi
    exact Nat.lt_add_of_pos_right j.succ_pos
  · exact hindex

/-- **A round takes at least one byte.** -/
theorem decodeStep_progress
    (h : decodeStep position start mode raw index = .ok (some (chars, next))) :
    index < (encode raw).length ∧ index < next := by
  unfold decodeStep at h
  dsimp only at h
  split at h
  · cases h
  · next b hb =>
    obtain ⟨hindex, rfl⟩ := List.getElem?_eq_some_iff.1 hb
    refine ⟨hindex, ?_⟩
    split at h
    · exact lt_of_decodeReference h
    · next hampersand =>
      split at h
      · cases h
        split <;> omega
      · next hreturn =>
        split at h
        · cases h
          omega
        · next hblank =>
          exact lt_of_decodeChunk hindex (isOneOf_marks hampersand hreturn hblank) h

/-- The rounds from an index on, after those that put out `out`. -/
def decodeFrom (position start : Nat) (mode : DataMode) (raw : List Char) (index : Nat)
    (out : List Char) : Except Halt (List Char) :=
  match _h : decodeStep position start mode raw index with
  | .error halt => .error halt
  | .ok none => .ok out
  | .ok (some (chars, next)) => decodeFrom position start mode raw next (out ++ chars)
termination_by (encode raw).length - index
decreasing_by
  have := decodeStep_progress _h
  omega

/-- Character data that starts at byte `start`, decoded by a scanner that stands at `position`. -/
def decode (position start : Nat) (mode : DataMode) (raw : List Char) :
    Except Halt (List Char) :=
  match firstInvalid? start raw with
  | some fault => .error (failAt position fault.offset fault.kind)
  | none =>
    match firstOf? (marks mode) (encode raw) with
    | none => .ok raw
    | some first => do
      let front ← slice raw 0 first
      decodeFrom position start mode raw first front

/-! ## Rounds between characters -/

variable {before rest body : List Char} {offset : Nat}

theorem isAscii_marks (mode : DataMode) : IsAscii (marks mode) := by
  cases mode <;> decide

theorem shown_of_not_mem_marks {c : Char} (hc : c ∉ marks mode) : mode.shown c = c := by
  cases mode with
  | text => rfl
  | «attribute» =>
    refine if_neg ?_
    rintro (rfl | rfl)
    · exact hc (by decide)
    · exact hc (by decide)

theorem shown_newline (mode : DataMode) : mode.shown '\n' = newline mode := by
  cases mode <;> rfl

/-- What holds no marks is decoded apart from what follows it, and stands for itself. -/
theorem decodeRuns_unmarked {run : List Char} (hrun : ∀ c ∈ run, c ∉ marks mode)
    (rest : List Char) :
    decodeRuns mode offset (run ++ rest) =
      (decodeRuns mode (offset + utf8Length run) rest).map (run ++ ·) := by
  induction run generalizing offset with
  | nil =>
    rw [List.nil_append, utf8Length_nil, Nat.add_zero]
    cases decodeRuns mode offset rest <;> rfl
  | cons c run ih =>
    obtain ⟨hc, hrun⟩ := List.forall_mem_cons.1 hrun
    have hampersand : c ≠ '&' := by rintro rfl; exact hc (by cases mode <;> decide)
    have hreturn : c ≠ '\r' := by rintro rfl; exact hc (by cases mode <;> decide)
    rw [List.cons_append, decodeRuns_cons hampersand hreturn, ih hrun, shown_of_not_mem_marks hc,
      utf8Length_cons, Nat.add_assoc]
    cases decodeRuns mode (offset + (c.utf8Size + utf8Length run)) rest <;> rfl

/-- What a round does in front of the rest of the data: the data ends, decoding fails, or it takes
characters from the front of the rest and puts out what these stand for. -/
inductive Round (position offset : Nat) (mode : DataMode) (before : List Char) :
    (rest : List Char) → Except Halt (Option (List Char × Nat)) → Prop
  /-- The data ends. -/
  | ends : Round position offset mode before [] (.ok none)
  /-- Decoding fails. -/
  | fails {rest : List Char} {fault : Fault} : decodeRuns mode offset rest = .error fault →
    Round position offset mode before rest (.error (.failed ⟨fault, position⟩))
  /-- Characters are taken. -/
  | takes {taken rest chars : List Char} : taken ≠ [] →
    decodeRuns mode offset (taken ++ rest) =
      (decodeRuns mode (offset + utf8Length taken) rest).map (chars ++ ·) →
    Round position offset mode before (taken ++ rest)
      (.ok (some (chars, utf8Length (before ++ taken))))

theorem slice_append (before s after : List Char) :
    slice (before ++ (s ++ after)) (utf8Length before) (utf8Length before + utf8Length s) =
      .ok s := by
  rw [slice, Text.slice?_append]

theorem utf8Length_reference (body : List Char) :
    utf8Length ('&' :: body ++ [';']) = utf8Length body + 2 := by
  rw [utf8Length_append, utf8Length_cons]
  change 1 + utf8Length body + 1 = _
  omega

theorem round_reference (start : Nat) (before rest : List Char) :
    Round position (start + utf8Length before) mode before ('&' :: rest)
      (decodeReference position start (before ++ '&' :: rest) (utf8Length before)) := by
  rw [decodeReference, bytesFrom_append]
  rw [ok_bind]
  by_cases hsemicolon : ';' ∈ rest
  · obtain ⟨body, after, rfl, hbody⟩ := List.eq_append_cons_of_mem hsemicolon
    have hfront : ∀ c ∈ '&' :: body, c ∉ [';'] := by
      rintro c hc hmem
      obtain rfl := List.mem_singleton.1 hmem
      exact (List.mem_cons.1 hc).elim (by decide) hbody
    have hdecoded := decodeRuns_semicolon mode (start + utf8Length before) hbody after
    have hindex : utf8Length (before ++ ['&']) = utf8Length before + 1 := utf8Length_append _ _
    have hsemicolon : utf8Length before + utf8Length ('&' :: body) =
        utf8Length before + 1 + utf8Length body := by
      rw [utf8Length_cons, ← Nat.add_assoc]
      rfl
    have hslice : slice (before ++ ('&' :: body ++ ';' :: after)) (utf8Length before + 1)
        (utf8Length before + 1 + utf8Length body) = .ok body := by
      have h := slice_append (before ++ ['&']) body (';' :: after)
      rwa [List.append_assoc, hindex] at h
    rw [← List.cons_append,
      Utf8.firstOf?_append_cons (by decide) hfront (List.mem_singleton_self _)]
    dsimp only
    rw [hsemicolon, hslice]
    change Round _ _ _ _ _ (match resolveReference body with | .error kind => _ | .ok c => _)
    cases hresolved : resolveReference body with
    | error kind =>
      rw [hresolved] at hdecoded
      exact .fails hdecoded
    | ok c =>
      rw [hresolved, Nat.add_assoc, ← utf8Length_reference] at hdecoded
      have htakes := @Round.takes position (start + utf8Length before) mode before
        ('&' :: body ++ [';']) after [c] (List.cons_ne_nil _ _)
        (by rw [List.append_assoc]; exact hdecoded)
      rw [utf8Length_append, utf8Length_reference, List.append_assoc] at htakes
      have hend : utf8Length before + 1 + utf8Length body + 1 =
          utf8Length before + (utf8Length body + 2) := by omega
      rw [hend]
      exact htakes
  · have hfront : ∀ c ∈ '&' :: rest, c ∉ [';'] := by
      rintro c hc hmem
      obtain rfl := List.mem_singleton.1 hmem
      exact (List.mem_cons.1 hc).elim (by decide) hsemicolon
    rw [Utf8.firstOf?_eq_none (by decide) hfront]
    exact .fails (decodeRuns_loose hsemicolon)

theorem round_chunk (start : Nat) (before rest : List Char) (hrest : rest ≠ [])
    (hmark : ∀ c ∈ rest.head?, c ∉ marks mode) :
    Round position (start + utf8Length before) mode before rest
      (decodeChunk mode (before ++ rest) (utf8Length before)) := by
  obtain ⟨chunk, tail, rfl, hchunk, htail⟩ := Text.exists_front (marks mode) rest
  have hne : chunk ≠ [] := by
    rintro rfl
    rcases htail with rfl | ⟨c, hc, after, rfl⟩
    · exact hrest rfl
    · exact hmark c rfl hc
  have hnext : (match firstOf? (marks mode) (encode (chunk ++ tail)) with
      | some i => utf8Length before + i
      | none => (encode (before ++ (chunk ++ tail))).length) =
        utf8Length before + utf8Length chunk := by
    rcases htail with rfl | ⟨c, hc, after, rfl⟩
    · rw [List.append_nil, Utf8.firstOf?_eq_none (isAscii_marks mode) hchunk]
      exact (length_encode _).trans (utf8Length_append _ _)
    · rw [Utf8.firstOf?_append_cons (isAscii_marks mode) hchunk hc]
  rw [decodeChunk, bytesFrom_append, ok_bind]
  dsimp only
  rw [hnext, slice_append, ← utf8Length_append]
  exact .takes hne (decodeRuns_unmarked hchunk tail)

theorem round_return (start : Nat) (before rest : List Char) :
    Round position (start + utf8Length before) mode before ('\r' :: rest)
      (.ok (some ([newline mode], utf8Length before +
        if (encode (before ++ '\r' :: rest))[utf8Length before + 1]? = some '\n'.toUInt8 then 2
        else 1))) := by
  have hnext : (encode (before ++ '\r' :: rest))[utf8Length before + 1]? = (encode rest).head? := by
    have h := Utf8.getElem?_encode (before ++ ['\r']) rest
    rwa [List.append_assoc, utf8Length_append] at h
  rw [hnext]
  by_cases hfeed : rest.head? = some '\n'
  · rw [if_pos ((Utf8.head?_encode_eq_some_iff (by decide)).2 hfeed), ← shown_newline]
    obtain ⟨rest, rfl⟩ := List.head?_eq_some_iff.1 hfeed
    have htakes := @Round.takes position (start + utf8Length before) mode before ['\r', '\n'] rest
      [mode.shown '\n'] (List.cons_ne_nil _ _) decodeRuns_crlf
    rwa [utf8Length_append] at htakes
  · rw [if_neg (mt (Utf8.head?_encode_eq_some_iff (by decide)).1 hfeed), ← shown_newline]
    have htakes := @Round.takes position (start + utf8Length before) mode before ['\r'] rest
      [mode.shown '\n'] (List.cons_ne_nil _ _) (decodeRuns_return hfeed)
    rwa [utf8Length_append] at htakes

theorem round_blank {c : Char} (hc : c = '\n' ∨ c = '\t') (start : Nat) (before rest : List Char) :
    Round position (start + utf8Length before) .attribute before (c :: rest)
      (.ok (some ([' '], utf8Length before + 1))) := by
  have hsize : c.utf8Size = 1 := by rcases hc with rfl | rfl <;> rfl
  have hplain : c ≠ '&' ∧ c ≠ '\r' := by rcases hc with rfl | rfl <;> decide
  have hshown : DataMode.attribute.shown c = ' ' := if_pos hc
  have hlength : utf8Length [c] = c.utf8Size := by
    rw [utf8Length_cons, utf8Length_nil, Nat.add_zero]
  have hdecoded := @decodeRuns_cons .attribute (start + utf8Length before) c rest hplain.1 hplain.2
  rw [← hlength, hshown] at hdecoded
  have htakes := @Round.takes position (start + utf8Length before) .attribute before [c] rest
    [' '] (List.cons_ne_nil _ _) hdecoded
  rwa [utf8Length_append, hlength, hsize] at htakes

/-- **A round between two characters** ends, fails or takes what decoding does. The cases are those
of the first byte of the rest. -/
theorem decodeStep_round (start : Nat) (before rest : List Char) :
    Round position (start + utf8Length before) mode before rest
      (decodeStep position start mode (before ++ rest) (utf8Length before)) := by
  rw [decodeStep]
  dsimp only
  rw [Utf8.getElem?_encode]
  cases rest with
  | nil => exact .ends
  | cons c rest =>
    obtain ⟨b, hb, hhead⟩ := Utf8.exists_head?_encode c rest
    have hbyte : ∀ a : Char, a.toNat ≤ 0x7F → (b = a.toUInt8 ↔ c = a) :=
      fun a ha => Utf8.eq_toUInt8_iff ha hb
    rw [hhead]
    simp only [hbyte '&' (by decide), hbyte '\r' (by decide), hbyte '\n' (by decide),
      hbyte '\t' (by decide)]
    by_cases hampersand : c = '&'
    · subst hampersand
      exact round_reference start before rest
    by_cases hreturn : c = '\r'
    · subst hreturn
      exact round_return start before rest
    rw [if_neg hampersand, if_neg hreturn]
    by_cases hblank : mode = .attribute ∧ (c = '\n' ∨ c = '\t')
    · rw [if_pos hblank]
      obtain ⟨rfl, hc⟩ := hblank
      exact round_blank hc start before rest
    · rw [if_neg hblank]
      refine round_chunk start before (c :: rest) (List.cons_ne_nil _ _) ?_
      rintro _ ⟨⟩ hmem
      cases mode with
      | text => exact (List.mem_pair.1 hmem).elim hampersand hreturn
      | «attribute» =>
        simp only [marks, List.mem_cons, List.not_mem_nil, or_false] at hmem
        rcases hmem with h | h | h
        · exact hampersand h
        · exact hreturn h
        · exact hblank ⟨rfl, h⟩

/-! ## All rounds -/

/-- A fault that is found by a scanner stops it. -/
def settle {α : Type} (position : Nat) (outcome : Except Fault α) : Except Halt α :=
  outcome.mapError fun fault => .failed ⟨fault, position⟩

/-- The rounds from a place between characters on decode what is left. The induction is on the
number of characters left. -/
theorem decodeFrom_eq (start : Nat) (before rest out : List Char) :
    decodeFrom position start mode (before ++ rest) (utf8Length before) out =
      settle position
        ((decodeRuns mode (start + utf8Length before) rest).map (out ++ ·)) := by
  have hround := @decodeStep_round position mode start before rest
  rw [decodeFrom]
  generalize decodeStep position start mode (before ++ rest) (utf8Length before) = step at hround
  cases hround with
  | ends =>
    rw [decodeRuns_nil]
    exact congrArg Except.ok (List.append_nil out).symm
  | fails hfault =>
    rw [hfault]
    rfl
  | @takes taken rest chars hne hdecoded =>
    dsimp only
    rw [← List.append_assoc, decodeFrom_eq start (before ++ taken) rest (out ++ chars), hdecoded,
      utf8Length_append, Nat.add_assoc]
    cases decodeRuns mode (start + (utf8Length before + utf8Length taken)) rest with
    | error fault => rfl
    | ok decoded => exact congrArg Except.ok (List.append_assoc out chars decoded)
termination_by rest.length
decreasing_by
  have := List.length_pos_iff.2 hne
  simp only [List.length_append, *]
  omega

/-- **The rounds together decode.** -/
theorem decode_eq (position start : Nat) (mode : DataMode) (raw : List Char) :
    decode position start mode raw = settle position (Markup.decode mode start raw) := by
  rw [decode, Markup.decode]
  cases firstInvalid? start raw with
  | some fault => rfl
  | none =>
    dsimp only
    obtain ⟨front, tail, rfl, hfront, htail⟩ := Text.exists_front (marks mode) raw
    rcases htail with rfl | ⟨c, hc, rest, rfl⟩
    · rw [decodeRuns_unmarked hfront, decodeRuns_nil, List.append_nil,
        Utf8.firstOf?_eq_none (isAscii_marks mode) hfront]
      exact congrArg Except.ok (List.append_nil front).symm
    · have hslice : slice (front ++ c :: rest) 0 (utf8Length front) = .ok front := by
        have h := slice_append [] front (c :: rest)
        rwa [List.nil_append, utf8Length_nil, Nat.zero_add] at h
      rw [Utf8.firstOf?_append_cons (isAscii_marks mode) hfront hc]
      dsimp only
      rw [hslice, decodeRuns_unmarked hfront]
      exact decodeFrom_eq start front (c :: rest) front

/-! ## Faults -/

theorem firstInvalid?_fault {fault : Fault} (h : firstInvalid? offset raw = some fault) :
    ∃ front tail, raw = front ++ tail ∧ fault.offset = offset + utf8Length front := by
  induction raw generalizing offset with
  | nil => cases h
  | cons c rest ih =>
    rw [firstInvalid?] at h
    split at h
    · obtain ⟨front, tail, rfl, hoffset⟩ := ih h
      exact ⟨c :: front, tail, rfl, by rw [hoffset, utf8Length_cons, Nat.add_assoc]⟩
    · cases h
      exact ⟨[], c :: rest, rfl, rfl⟩

/-- A place in the rest of some data is one behind the front. -/
theorem exists_place_append {fault : Nat} (taken : List Char)
    (h : ∃ front tail, raw = front ++ tail ∧ fault = offset + utf8Length taken + utf8Length front) :
    ∃ front tail, taken ++ raw = front ++ tail ∧ fault = offset + utf8Length front := by
  obtain ⟨front, tail, rfl, rfl⟩ := h
  refine ⟨taken ++ front, tail, (List.append_assoc ..).symm, ?_⟩
  rw [utf8Length_append, Nat.add_assoc]

theorem decodeRuns_fault {raw : List Char} {offset : Nat} {fault : Fault}
    (h : decodeRuns mode offset raw = .error fault) :
    ∃ front tail, raw = front ++ tail ∧ fault.offset = offset + utf8Length front := by
  induction raw using rawData_induction generalizing offset with
  | nil =>
    rw [decodeRuns_nil] at h
    cases h
  | plain c raw hampersand hreturn ih =>
    rw [decodeRuns_cons hampersand hreturn, map_eq_error_iff] at h
    exact exists_place_append [c] (by simpa [utf8Length_cons, utf8Length_nil] using ih h)
  | crlf raw ih =>
    rw [decodeRuns_crlf, map_eq_error_iff] at h
    exact exists_place_append ['\r', '\n'] (ih h)
  | lone raw hfeed ih =>
    rw [decodeRuns_return hfeed, map_eq_error_iff] at h
    exact exists_place_append ['\r'] (ih h)
  | reference body raw hbody ih =>
    rw [decodeRuns_semicolon mode offset hbody] at h
    split at h
    · cases h
      exact ⟨[], _, rfl, rfl⟩
    · rw [map_eq_error_iff] at h
      have hplace := exists_place_append ('&' :: body ++ [';']) (by
        rw [utf8Length_reference, ← Nat.add_assoc]
        exact ih h)
      rwa [List.append_assoc] at hplace
  | unterminated raw hraw =>
    rw [decodeRuns_loose hraw] at h
    cases h
    exact ⟨[], _, rfl, rfl⟩

/-- A fault in character data is at a place between two characters of it. -/
theorem decode_fault {fault : Fault} (h : Markup.decode mode offset raw = .error fault) :
    ∃ front tail, raw = front ++ tail ∧ fault.offset = offset + utf8Length front := by
  rw [Markup.decode] at h
  split at h
  · next hinvalid =>
    cases h
    exact firstInvalid?_fault hinvalid
  · exact decodeRuns_fault h

/-- **A scanner decodes as the reader does.** -/
theorem agree_decode {text : List Char} {c : Cursor}
    (hc : (Cursor.ofText text).Reaches c) (hraw : OccursAt text start raw) (mode : DataMode) :
    Agree (Stops text) Eq (decodeData c mode start raw)
      ((decode c.offset start mode raw).map String.ofList) := by
  rw [decode_eq, decodeData]
  cases hdecoded : Markup.decode mode start raw with
  | ok decoded => exact .ok rfl
  | error fault =>
    obtain ⟨front, tail, rfl, hoffset⟩ := decode_fault hdecoded
    exact .error (stops_failAt hc (hoffset ▸ hraw.isBoundary))

end XmlQuery.Markup.Scanner
