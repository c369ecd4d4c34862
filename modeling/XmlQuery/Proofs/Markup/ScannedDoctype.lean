import XmlQuery.Proofs.Markup.Rewriting
import XmlQuery.Proofs.Markup.Scanner

/-!
# The end of a document type declaration in bytes

The end of a document type declaration is searched for byte by byte, so that the search goes through
the inside of characters. There it changes nothing but its index, since no sign that matters to it
is a byte of another character; it jumps over comments alone, from one ASCII character to another.

## Main definitions

* `Scanner.Search`: where the search has arrived
* `Scanner.searchStep`, `Scanner.searchFrom`: one byte or one comment, and all that are left

## Main results

* `Scanner.searchStep_progress`: a step takes at least one byte
* `Scanner.agree_searchFrom`: the search finds the end that the reader finds
-/

namespace XmlQuery.Markup.Scanner

open Text (Cursor IsBoundary utf8Length utf8Length_append utf8Length_cons utf8Length_nil)
open Utf8 (IsAscii encode encode_append encode_cons indexOf? length_encode)

/-- Where the search for the end of a document type declaration has arrived. -/
structure Search where
  /-- The quote of the literal in which it is. -/
  quote : Option UInt8
  /-- The number of brackets in which it is. -/
  depth : Nat
  /-- The index of the next byte. -/
  index : Nat

/-- One step of the search in the bytes from `base` on, for a declaration that starts at `start` and
a scanner that stands at `position`: what comes next, or the offset of the closing sign. -/
def searchStep (position start base : Nat) (bytes : List UInt8) (s : Search) :
    Except Halt (Search ⊕ Nat) :=
  match bytes[s.index]? with
  | none => .error (failAt position start .unexpectedEof)
  | some b =>
    match s.quote with
    | some q => .ok (.inl ⟨if b = q then none else some q, s.depth, s.index + 1⟩)
    | none =>
      if b = '"'.toUInt8 ∨ b = '\''.toUInt8 then .ok (.inl ⟨some b, s.depth, s.index + 1⟩)
      else if b = '['.toUInt8 then .ok (.inl ⟨none, s.depth + 1, s.index + 1⟩)
      else if b = ']'.toUInt8 then .ok (.inl ⟨none, s.depth - 1, s.index + 1⟩)
      else if b = '<'.toUInt8 then do
        let tail ← bytesFrom bytes s.index
        if (encode "<!--".toList).isPrefixOf tail then
          let inner ← bytesFrom bytes (s.index + 4)
          match indexOf? (encode "-->".toList) inner with
          | none => .error (failAt position (base + s.index) .unexpectedEof)
          | some close => .ok (.inl ⟨none, s.depth, s.index + (4 + close + 2) + 1⟩)
        else .ok (.inl ⟨none, s.depth, s.index + 1⟩)
      else if b = '>'.toUInt8 ∧ s.depth = 0 then .ok (.inr (base + s.index))
      else .ok (.inl ⟨none, s.depth, s.index + 1⟩)

variable {position start base : Nat} {bytes : List UInt8} {s s' : Search}

/-- **A step takes at least one byte.** -/
theorem searchStep_progress (h : searchStep position start base bytes s = .ok (.inl s')) :
    s.index < bytes.length ∧ s.index < s'.index := by
  unfold searchStep at h
  split at h
  · cases h
  · next b hb =>
    refine ⟨(List.getElem?_eq_some_iff.1 hb).1, ?_⟩
    simp only [bind, Except.bind] at h
    repeat' split at h
    all_goals cases h
    all_goals dsimp only
    all_goals omega

/-- The search from a place on. -/
def searchFrom (position start base : Nat) (bytes : List UInt8) (s : Search) : Except Halt Nat :=
  match _h : searchStep position start base bytes s with
  | .error halt => .error halt
  | .ok (.inr stop) => .ok stop
  | .ok (.inl s') => searchFrom position start base bytes s'
termination_by bytes.length - s.index
decreasing_by
  have := searchStep_progress _h
  omega

/-- What a step finds decides how the search goes on. -/
theorem searchFrom_eq (s : Search) :
    searchFrom position start base bytes s =
      match searchStep position start base bytes s with
      | .error halt => .error halt
      | .ok (.inr stop) => .ok stop
      | .ok (.inl s') => searchFrom position start base bytes s' := by
  rw [searchFrom]
  split <;> next h => rw [h]

/-! ## Characters -/

variable {quote : Option Char} {depth index offset : Nat} {c : Char} {front rest : List Char}

/-- The quote in force behind a character. -/
def nextQuote (quote : Option Char) (c : Char) : Option Char :=
  match quote with
  | some q => if c = q then none else some q
  | none => if c = '"' ∨ c = '\'' then some c else none

/-- The number of brackets behind a character. -/
def nextDepth (quote : Option Char) (depth : Nat) (c : Char) : Nat :=
  match quote with
  | some _ => depth
  | none => if c = '[' then depth + 1 else if c = ']' then depth - 1 else depth

/-- Where the search is in front of a character. -/
def Search.inFront (quote : Option Char) (depth index : Nat) : Search :=
  ⟨quote.map Char.toUInt8, depth, index⟩

/-- A character neither closes the declaration nor starts a comment. -/
def IsPassed (quote : Option Char) (depth : Nat) (c : Char) (rest : List Char) : Prop :=
  quote = none → ¬ (c = '>' ∧ depth = 0) ∧ ¬ (c = '<' ∧ "!--".toList.isPrefixOf rest = true)

theorem doctypeLength_of_isPassed (h : IsPassed quote depth c rest) (offset : Nat) :
    doctypeLength quote depth offset (c :: rest) =
      (doctypeLength (nextQuote quote c) (nextDepth quote depth c) (offset + c.utf8Size) rest).map
        (· + 1) := by
  cases quote with
  | some q => rw [doctypeLength]; rfl
  | none => exact doctypeLength_cons (h rfl).1 (h rfl).2 offset

theorem isAscii_nextQuote (hquote : ∀ q ∈ quote, q.toNat ≤ 0x7F) (c : Char) :
    ∀ q ∈ nextQuote quote c, q.toNat ≤ 0x7F := by
  intro q hq
  cases quote with
  | some q' =>
    rw [nextQuote] at hq
    split at hq
    · cases hq
    · exact hquote q hq
  | none =>
    rw [nextQuote] at hq
    split at hq
    · next hc =>
      cases hq
      rcases hc with rfl | rfl <;> decide
    · cases hq

/-- Each byte of a character that is passed changes the search as the character does. -/
theorem searchStep_byte {b : UInt8} (hquote : ∀ q ∈ quote, q.toNat ≤ 0x7F)
    (hb : bytes[index]? = some b) (hmem : b ∈ String.utf8EncodeChar c)
    (hclose : quote = none → ¬ (c = '>' ∧ depth = 0))
    (hcomment : quote = none → c = '<' →
      (encode "<!--".toList).isPrefixOf (bytes.drop index) = false) :
    searchStep position start base bytes (.inFront quote depth index) =
      .ok (.inl (.inFront (nextQuote quote c) (nextDepth quote depth c) (index + 1))) := by
  have hbyte : ∀ a : Char, a.toNat ≤ 0x7F → (b = a.toUInt8 ↔ c = a) :=
    fun a ha => Utf8.eq_toUInt8_iff ha hmem
  have htail : bytesFrom bytes index = .ok (bytes.drop index) :=
    if_pos (Nat.le_of_lt (List.getElem?_eq_some_iff.1 hb).1)
  simp only [searchStep, Search.inFront, hb]
  cases quote with
  | some q =>
    simp only [Option.map_some, hbyte q (hquote q rfl), nextQuote, nextDepth]
    split <;> rfl
  | none =>
    simp only [Option.map_none, hbyte '"' (by decide), hbyte '\'' (by decide),
      hbyte '[' (by decide), hbyte ']' (by decide), hbyte '<' (by decide), hbyte '>' (by decide),
      nextQuote, nextDepth, htail]
    by_cases hsign : c = '"' ∨ c = '\''
    · have hbrackets : c ≠ '[' ∧ c ≠ ']' := by rcases hsign with rfl | rfl <;> decide
      obtain rfl : b = c.toUInt8 := by
        rcases hsign with rfl | rfl
        · exact (hbyte _ (by decide)).2 rfl
        · exact (hbyte _ (by decide)).2 rfl
      rw [if_pos hsign, if_pos hsign, if_neg hbrackets.1, if_neg hbrackets.2]
      rfl
    rw [if_neg hsign, if_neg hsign]
    by_cases hopens : c = '['
    · rw [if_pos hopens, if_pos hopens]
      rfl
    rw [if_neg hopens, if_neg hopens]
    by_cases hcloses : c = ']'
    · rw [if_pos hcloses, if_pos hcloses]
      rfl
    rw [if_neg hcloses, if_neg hcloses, if_neg (hclose rfl)]
    by_cases hangle : c = '<'
    · rw [if_pos hangle]
      change (if (encode "<!--".toList).isPrefixOf (bytes.drop index) = true then _ else _) = _
      rw [hcomment rfl hangle]
      rfl
    · rw [if_neg hangle]
      rfl

/-- No sign matters to the search that is not of ASCII. -/
theorem next_eq_self (hquote : ∀ q ∈ quote, q.toNat ≤ 0x7F) (hc : ¬ c.toNat ≤ 0x7F) :
    nextQuote quote c = quote ∧ nextDepth quote depth c = depth := by
  have hne : ∀ a : Char, a.toNat ≤ 0x7F → c ≠ a := by
    rintro a ha rfl
    exact hc ha
  cases quote with
  | some q => exact ⟨if_neg (hne q (hquote q rfl)), rfl⟩
  | none =>
    refine ⟨if_neg ?_, ?_⟩
    · exact not_or.2 ⟨hne _ (by decide), hne _ (by decide)⟩
    · rw [nextDepth, if_neg (hne _ (by decide)), if_neg (hne _ (by decide))]

/-- **The search goes through a character** as through one sign, however many bytes it has. -/
theorem searchFrom_char (hquote : ∀ q ∈ quote, q.toNat ≤ 0x7F)
    (hpassed : IsPassed quote depth c rest) (front : List Char) :
    searchFrom position start base (encode (front ++ c :: rest))
        (.inFront quote depth (utf8Length front)) =
      searchFrom position start base (encode (front ++ c :: rest))
        (.inFront (nextQuote quote c) (nextDepth quote depth c) (utf8Length (front ++ [c]))) := by
  have hlength : utf8Length (front ++ [c]) = utf8Length front + c.utf8Size := by
    rw [utf8Length_append, utf8Length_cons, utf8Length_nil, Nat.add_zero]
  by_cases hc : c.toNat ≤ 0x7F
  · obtain ⟨b, hb, hhead⟩ := Utf8.exists_head?_encode c rest
    rw [← Utf8.getElem?_encode front] at hhead
    have hcomment : quote = none → c = '<' → (encode "<!--".toList).isPrefixOf
        ((encode (front ++ c :: rest)).drop (utf8Length front)) = false := by
      rintro hnone rfl
      rw [Utf8.drop_encode, Utf8.isPrefixOf_encode]
      exact Bool.eq_false_iff.2 fun h => (hpassed hnone).2 ⟨rfl, h⟩
    have hsize : c.utf8Size = 1 := by
      rw [← String.length_utf8EncodeChar, Utf8.encodeChar_ascii hc]
      rfl
    rw [searchFrom_eq, searchStep_byte hquote hhead hb (fun h => (hpassed h).1) hcomment, hlength,
      hsize]
  · obtain ⟨hnextQuote, hnextDepth⟩ := @next_eq_self quote depth c hquote hc
    rw [hnextQuote, hnextDepth, hlength]
    -- Nothing but the index changes, by induction on the number of bytes that are passed.
    suffices h : ∀ k ≤ c.utf8Size, searchFrom position start base (encode (front ++ c :: rest))
        (.inFront quote depth (utf8Length front)) =
          searchFrom position start base (encode (front ++ c :: rest))
            (.inFront quote depth (utf8Length front + k)) from h _ (Nat.le_refl _)
    intro k hk
    induction k with
    | zero => rfl
    | succ k ih =>
      rw [← String.length_utf8EncodeChar] at hk
      have hbyte : (encode (front ++ c :: rest))[utf8Length front + k]? =
          some (String.utf8EncodeChar c)[k] := by
        rw [← List.getElem?_drop, Utf8.drop_encode, encode_cons,
          List.getElem?_append_left hk, List.getElem?_eq_getElem hk]
      have hstep := @searchStep_byte position start base _ _ depth _ c _ hquote hbyte
        (List.getElem_mem hk)
        (fun _ h => hc (h.1 ▸ (by decide)))
        (fun _ h => absurd (h ▸ (by decide)) hc)
      rw [ih (Nat.le_of_lt (by rwa [← String.length_utf8EncodeChar])), searchFrom_eq, hstep,
        hnextQuote, hnextDepth]
      rfl

/-! ## Comments and the end -/

/-- A comment is passed over as a whole, or has no end. -/
theorem searchStep_comment (front after : List Char) (depth : Nat) :
    searchStep position start base (encode (front ++ ("<!--".toList ++ after)))
        (.inFront none depth (utf8Length front)) =
      match Text.splitFirst? "-->".toList after with
      | none => .error (failAt position (base + utf8Length front) .unexpectedEof)
      | some (content, _) =>
        .ok (.inl (.inFront none depth (utf8Length front + (4 + utf8Length content + 2) + 1))) := by
  have hbyte : (encode (front ++ ("<!--".toList ++ after)))[utf8Length front]? =
      some '<'.toUInt8 := by
    rw [Utf8.getElem?_encode]
    rfl
  have hinner : bytesFrom (encode (front ++ ("<!--".toList ++ after))) (utf8Length front + 4) =
      .ok (encode after) := by
    have h := bytesFrom_append (front ++ "<!--".toList) after
    rwa [List.append_assoc, utf8Length_append] at h
  have hstarts : (encode "<!--".toList).isPrefixOf (encode ("<!--".toList ++ after)) = true := by
    rw [Utf8.isPrefixOf_encode, List.isPrefixOf_iff_prefix]
    exact List.prefix_append _ _
  simp only [searchStep, Search.inFront, Option.map_none, hbyte]
  rw [if_neg (by decide), if_neg (by decide), if_neg (by decide), if_pos trivial, bytesFrom_append,
    ok_bind, if_pos hstarts, hinner, ok_bind, Utf8.indexOf?_encode]
  cases Text.splitFirst? "-->".toList after <;> rfl

theorem searchStep_close (front after : List Char) :
    searchStep position start base (encode (front ++ '>' :: after))
      (.inFront none 0 (utf8Length front)) = .ok (.inr (base + utf8Length front)) := by
  have hbyte : (encode (front ++ '>' :: after))[utf8Length front]? = some '>'.toUInt8 := by
    rw [Utf8.getElem?_encode]
    rfl
  simp only [searchStep, Search.inFront, Option.map_none, hbyte]
  rfl

/-- The reader and a scanner do not find the end: the text ends, maybe in a comment, which starts
between two characters. -/
inductive EndFails (position start offset : Nat) (rest : List Char) : DoctypeEnd → Halt → Prop
  /-- The text ends. -/
  | missing : EndFails position start offset rest .missing (failAt position start .unexpectedEof)
  /-- The text ends in a comment. -/
  | inComment {front behind : List Char} : rest = front ++ behind →
    EndFails position start offset rest (.inComment (offset + utf8Length front))
      (failAt position (offset + utf8Length front) .unexpectedEof)

/-- The reader and a scanner find the end at the same sign, behind `n` characters. -/
def EndsAt (offset : Nat) (rest : List Char) (n stop : Nat) : Prop :=
  ∃ body after, rest = body ++ '>' :: after ∧ n = body.length ∧ stop = offset + utf8Length body

/-- What is found behind some characters is found from them on. -/
theorem agree_prepend {x : Except DoctypeEnd Nat} {y : Except Halt Nat} (passed : List Char)
    (h : Agree (EndFails position start (offset + utf8Length passed) rest)
      (EndsAt (offset + utf8Length passed) rest) x y) :
    Agree (EndFails position start offset (passed ++ rest)) (EndsAt offset (passed ++ rest))
      (x.map (· + passed.length)) y := by
  cases h with
  | error hfails =>
    refine .error ?_
    cases hfails with
    | missing => exact .missing
    | @inComment front behind hrest =>
      rw [Nat.add_assoc, ← utf8Length_append]
      exact .inComment (by rw [hrest, List.append_assoc])
  | ok hends =>
    obtain ⟨body, after, rfl, rfl, rfl⟩ := hends
    refine .ok ⟨passed ++ body, after, (List.append_assoc _ _ _).symm, ?_, ?_⟩
    · rw [List.length_append, Nat.add_comm]
    · rw [utf8Length_append, Nat.add_assoc]

/-- Behind a comment the search goes on where the reader does. -/
theorem agree_searchFrom_comment {after : List Char}
    (hbehind : ∀ behind, behind.length < after.length → ∀ front offset,
      offset = base + utf8Length front →
      Agree (EndFails position start offset behind) (EndsAt offset behind)
        (doctypeLength none depth offset behind)
        (searchFrom position start base (encode (front ++ behind))
          (.inFront none depth (utf8Length front))))
    (front : List Char) (hoffset : offset = base + utf8Length front) :
    Agree (EndFails position start offset ("<!--".toList ++ after))
      (EndsAt offset ("<!--".toList ++ after))
      (doctypeLength none depth offset ("<!--".toList ++ after))
      (searchFrom position start base (encode (front ++ ("<!--".toList ++ after)))
        (.inFront none depth (utf8Length front))) := by
  rw [doctypeLength_comment, searchFrom_eq, searchStep_comment]
  cases hsplit : Text.splitFirst? "-->".toList after with
  | none =>
    rw [← hoffset]
    exact .error (.inComment (@List.nil_append _ _).symm)
  | some parts =>
    obtain ⟨content, close⟩ := parts
    obtain ⟨⟨behind, rfl⟩, -⟩ := Text.first_of_splitFirst? hsplit
    obtain rfl := Text.append_of_splitFirst? hsplit
    have hlt : behind.length < (content ++ ("-->".toList ++ behind)).length := by
      rw [List.length_append, List.length_append]
      exact (Nat.lt_add_of_pos_left (by decide)).trans_le (Nat.le_add_left _ _)
    -- The comment is taken as a whole, with its closing delimiter.
    let comment := "<!--".toList ++ content ++ "-->".toList
    have hassoc : "<!--".toList ++ (content ++ ("-->".toList ++ behind)) = comment ++ behind := by
      simp only [comment, List.append_assoc]
    have hindex : utf8Length front + (4 + utf8Length content + 2) + 1 =
        utf8Length (front ++ comment) := by
      rw [utf8Length_append front, utf8Length_append, utf8Length_append, Nat.add_assoc]
      rfl
    have hgoes := hbehind behind hlt (front ++ comment) (offset + utf8Length comment)
      (by rw [hoffset, utf8Length_append front, Nat.add_assoc])
    rw [List.append_assoc] at hgoes
    dsimp only
    rw [hassoc, hindex]
    exact agree_prepend comment hgoes

/-- **The search finds the end that the reader finds**, by induction on what is left. -/
theorem agree_searchFrom {quote : Option Char} {offset : Nat}
    (hquote : ∀ q ∈ quote, q.toNat ≤ 0x7F) (depth : Nat) (front rest : List Char)
    (hoffset : offset = base + utf8Length front) :
    Agree (EndFails position start offset rest) (EndsAt offset rest)
      (doctypeLength quote depth offset rest)
      (searchFrom position start base (encode (front ++ rest))
        (.inFront quote depth (utf8Length front))) := by
  match rest with
  | [] =>
    have hbyte : (encode (front ++ []))[utf8Length front]? = none := by
      rw [Utf8.getElem?_encode]
      rfl
    rw [doctypeLength, searchFrom_eq, searchStep]
    simp only [Search.inFront, hbyte]
    exact .error .missing
  | c :: rest =>
    by_cases hpassed : IsPassed quote depth c rest
    · have hlength : utf8Length [c] = c.utf8Size := by
        rw [utf8Length_cons, utf8Length_nil, Nat.add_zero]
      have hnext : offset + utf8Length [c] = base + utf8Length (front ++ [c]) := by
        rw [hoffset, utf8Length_append, Nat.add_assoc]
      have hgoes := agree_searchFrom (isAscii_nextQuote hquote c) (nextDepth quote depth c)
        (front ++ [c]) rest hnext
      rw [searchFrom_char hquote hpassed, doctypeLength_of_isPassed hpassed, ← hlength]
      rw [List.append_assoc] at hgoes
      exact agree_prepend [c] hgoes
    obtain rfl : quote = none :=
      Decidable.byContradiction fun h => hpassed fun hnone => absurd hnone h
    by_cases hsign : c = '>' ∧ depth = 0
    · obtain ⟨rfl, rfl⟩ := hsign
      rw [doctypeLength, if_pos ⟨rfl, rfl⟩, searchFrom_eq, searchStep_close, ← hoffset]
      exact .ok ⟨[], rest, rfl, rfl, rfl⟩
    · have hcomment : c = '<' ∧ "!--".toList.isPrefixOf rest = true :=
        Decidable.byContradiction fun h => hpassed fun _ => ⟨hsign, h⟩
      obtain ⟨after, hafter⟩ := List.isPrefixOf_iff_prefix.1 hcomment.2
      have hlength : rest.length = 3 + after.length := by
        rw [← hafter, List.length_append]
        rfl
      rw [hcomment.1, ← hafter]
      exact agree_searchFrom_comment
        (fun behind _ front _ hoffset => agree_searchFrom hquote depth front behind hoffset)
        front hoffset
termination_by rest.length
decreasing_by
  all_goals simp only [List.length_cons]
  all_goals omega

end XmlQuery.Markup.Scanner
