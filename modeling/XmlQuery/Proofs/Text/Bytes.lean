import XmlQuery.Proofs.Encoding.Utf8
import XmlQuery.Text.Cursor

/-!
# Texts as bytes

A text may be cut at byte offsets, which then have to lie between its characters, and it may be
searched as the sequence of its bytes. The two fit together: the first byte of a character is none
of those inside of one, so that a search of the bytes finds what a search of the characters finds.
The bytes of ASCII characters occur in no other character at all.

## Main definitions

* `IsBoundary`: a byte offset lies between two characters, or at an end of the text
* `slice?`: the characters between two byte offsets
* `indexOf?`, `firstOf?`: the searches of bytes

## Main results

* `slice?_isSome_iff`: what is sliced is in range, and cuts no character
* `indexOf?_encode`: the first occurrence of a text is found in the bytes
* `isPrefixOf_encode`, `isSuffixOf_encode`: so is one at the front or at the end
* `firstOf?_append_cons`: so is the first character out of some
-/

namespace XmlQuery.Text

variable {text before after s : List Char} {n start stop : Nat}

/-! ## Slices -/

/-- A byte offset is one at which a character starts, or the end of the text. -/
def IsBoundary (text : List Char) (n : Nat) : Prop :=
  ∃ before after, text = before ++ after ∧ n = utf8Length before

/-- The characters in front of a byte offset, and those from it on; none if the text has fewer
bytes, or if the offset is inside of a character. -/
def splitAtByte? : Nat → List Char → Option (List Char × List Char)
  | 0, text => some ([], text)
  | _ + 1, [] => none
  | n + 1, c :: rest =>
    if c.utf8Size ≤ n + 1 then
      (splitAtByte? (n + 1 - c.utf8Size) rest).map fun (before, after) => (c :: before, after)
    else none

/-- The characters between two byte offsets; none if these are out of order or out of range, or if
one of them is inside of a character. -/
def slice? (text : List Char) (start stop : Nat) : Option (List Char) :=
  if start ≤ stop then
    (splitAtByte? start text).bind fun parts =>
      (splitAtByte? (stop - start) parts.2).map (·.1)
  else none

theorem eq_nil_of_utf8Length (h : utf8Length text = 0) : text = [] := by
  cases text with
  | nil => rfl
  | cons c rest =>
    have := c.utf8Size_pos
    rw [utf8Length_cons] at h
    omega

/-- What takes characters goes on in the text. -/
theorem Cursor.Passes.offset_lt {c d : Cursor} (h : c.Passes d) : c.offset < d.offset := by
  obtain ⟨taken, hne, htakes⟩ := h
  have hpos : utf8Length taken ≠ 0 := fun hzero => hne (eq_nil_of_utf8Length hzero)
  rw [htakes.2]
  omega

theorem splitAtByte?_eq_some_iff :
    splitAtByte? n text = some (before, after) ↔
      text = before ++ after ∧ n = utf8Length before := by
  constructor
  · intro h
    fun_induction splitAtByte? n text generalizing before with
    | case1 text =>
      cases h
      exact ⟨rfl, rfl⟩
    | case2 => cases h
    | case3 n c rest hsize ih =>
      obtain ⟨⟨before', _⟩, hsplit, heq⟩ := Option.map_eq_some_iff.1 h
      cases heq
      obtain ⟨rfl, hlength⟩ := ih hsplit
      exact ⟨rfl, by rw [utf8Length_cons]; omega⟩
    | case4 => cases h
  · rintro ⟨rfl, rfl⟩
    induction before with
    | nil => cases after <;> rfl
    | cons c before ih =>
      have hpos := c.utf8Size_pos
      obtain ⟨m, hm⟩ : ∃ m, utf8Length (c :: before) = m + 1 :=
        ⟨_, (Nat.succ_pred_eq_of_pos (by rw [utf8Length_cons]; omega)).symm⟩
      have hrest : m + 1 - c.utf8Size = utf8Length before := by
        rw [← hm, utf8Length_cons, Nat.add_sub_cancel_left]
      have hle : c.utf8Size ≤ m + 1 := by
        rw [← hm, utf8Length_cons]
        exact Nat.le_add_right _ _
      rw [hm, List.cons_append, splitAtByte?, if_pos hle, hrest, ih]
      rfl

/-- The characters between two offsets are those between two parts of the text. -/
theorem slice?_append (before s after : List Char) :
    slice? (before ++ (s ++ after)) (utf8Length before) (utf8Length before + utf8Length s) =
      some s := by
  rw [slice?, if_pos (Nat.le_add_right _ _), splitAtByte?_eq_some_iff.2 ⟨rfl, rfl⟩,
    Option.bind_some, Nat.add_sub_cancel_left, splitAtByte?_eq_some_iff.2 ⟨rfl, rfl⟩]
  rfl

/-- Of two places between characters, the later one is reached from the other by characters. -/
theorem IsBoundary.exists_between (hstart : IsBoundary text start) (hstop : IsBoundary text stop)
    (hle : start ≤ stop) : ∃ before s after, text = before ++ (s ++ after) ∧
      start = utf8Length before ∧ stop = utf8Length (before ++ s) := by
  obtain ⟨before, rest, rfl, rfl⟩ := hstart
  obtain ⟨front, after, hfront, rfl⟩ := hstop
  -- Of two beginnings of the text, the one with more bytes goes on from the other.
  rcases List.append_eq_append_iff.1 hfront with ⟨s, rfl, rfl⟩ | ⟨s, rfl, rfl⟩
  · exact ⟨before, s, after, rfl, rfl, rfl⟩
  · rw [utf8Length_append] at hle
    have hs : s = [] := eq_nil_of_utf8Length (by omega)
    exact ⟨front, [], rest, by rw [hs, List.append_nil, List.nil_append],
      by rw [hs, List.append_nil], by rw [List.append_nil]⟩

/-- **What is sliced is in range, and cuts no character.** -/
theorem slice?_isSome_iff :
    (slice? text start stop).isSome ↔
      start ≤ stop ∧ IsBoundary text start ∧ IsBoundary text stop := by
  constructor
  · intro h
    rw [slice?] at h
    by_cases hle : start ≤ stop
    case neg =>
      rw [if_neg hle] at h
      cases h
    rw [if_pos hle] at h
    obtain ⟨s, hs⟩ := Option.isSome_iff_exists.1 h
    obtain ⟨⟨before, rest⟩, hstart, hmap⟩ := Option.bind_eq_some_iff.1 hs
    obtain ⟨⟨s', after⟩, hstop, rfl⟩ := Option.map_eq_some_iff.1 hmap
    obtain ⟨rfl, rfl⟩ := splitAtByte?_eq_some_iff.1 hstart
    obtain ⟨rfl, hlength⟩ := splitAtByte?_eq_some_iff.1 hstop
    refine ⟨hle, ⟨before, s' ++ after, rfl, rfl⟩, before ++ s', after, ?_, ?_⟩
    · rw [List.append_assoc]
    · rw [utf8Length_append]
      omega
  · rintro ⟨hle, hstart, hstop⟩
    obtain ⟨before, s, after, rfl, rfl, rfl⟩ := hstart.exists_between hstop hle
    rw [utf8Length_append, slice?_append]
    rfl

/-- A text goes on without some characters up to its end or up to one of them. -/
theorem exists_front (chars text : List Char) :
    ∃ front tail, text = front ++ tail ∧ (∀ c ∈ front, c ∉ chars) ∧
      (tail = [] ∨ ∃ c ∈ chars, ∃ rest, tail = c :: rest) := by
  induction text with
  | nil => exact ⟨[], [], rfl, nofun, .inl rfl⟩
  | cons c text ih =>
    by_cases hc : c ∈ chars
    · exact ⟨[], c :: text, rfl, nofun, .inr ⟨c, hc, text, rfl⟩⟩
    · obtain ⟨front, tail, rfl, hfront, htail⟩ := ih
      exact ⟨c :: front, tail, rfl, List.forall_mem_cons.2 ⟨hc, hfront⟩, htail⟩

end XmlQuery.Text

namespace XmlQuery.Utf8

open Text (utf8Length)

variable {text : List Char} {c : Char} {bytes needle : List UInt8} {chars pattern : List Char}

/-! ## Searches -/

theorem encode_append (before after : List Char) :
    encode (before ++ after) = encode before ++ encode after :=
  List.flatMap_append

theorem length_encode (text : List Char) : (encode text).length = utf8Length text := by
  induction text with
  | nil => rfl
  | cons c rest ih =>
    rw [encode_cons, List.length_append, ih, String.length_utf8EncodeChar, Text.utf8Length_cons]

theorem drop_encode (before after : List Char) :
    (encode (before ++ after)).drop (utf8Length before) = encode after := by
  rw [encode_append, ← length_encode, List.drop_left]

/-- The index of the first occurrence of a byte sequence in another. -/
def indexOf? (needle : List UInt8) : List UInt8 → Option Nat
  | [] => if needle.isEmpty then some 0 else none
  | b :: rest =>
    if needle.isPrefixOf (b :: rest) then some 0 else (indexOf? needle rest).map (· + 1)

/-- A byte is that of one of some ASCII characters. -/
def isOneOf (chars : List Char) (b : UInt8) : Bool :=
  chars.any fun c => c.toUInt8 == b

/-- The index of the first byte that is one of some ASCII characters. -/
def firstOf? (chars : List Char) (bytes : List UInt8) : Option Nat :=
  bytes.findIdx? (isOneOf chars)

/-- All characters of a text are of ASCII. -/
def IsAscii (text : List Char) : Prop := ∀ c ∈ text, c.toNat ≤ 0x7F

instance (text : List Char) : Decidable (IsAscii text) :=
  @List.decidableBAll Char (fun c => c.toNat ≤ 0x7F) _ text

theorem encodeChar_ascii (h : c.toNat ≤ 0x7F) : String.utf8EncodeChar c = [c.toUInt8] :=
  encodeChar_one h

theorem toNat_toUInt8 (h : c.toNat ≤ 0x7F) : c.toUInt8.toNat = c.toNat := by
  change (UInt8.ofNat c.toNat).toNat = c.toNat
  exact UInt8.toNat_ofNat_of_lt' (by change c.toNat < 256; omega)

theorem toUInt8_inj {d : Char} (hc : c.toNat ≤ 0x7F) (hd : d.toNat ≤ 0x7F) :
    c.toUInt8 = d.toUInt8 ↔ c = d := by
  refine ⟨fun h => ?_, congrArg _⟩
  have hnat := congrArg UInt8.toNat h
  rw [toNat_toUInt8 hc, toNat_toUInt8 hd] at hnat
  exact Char.toNat_inj.1 hnat

theorem toUInt8_not_mem_encodeChar {a : Char} (ha : a.toNat ≤ 0x7F) (hne : c ≠ a) :
    a.toUInt8 ∉ String.utf8EncodeChar c := by
  intro hmem
  by_cases hc : c.toNat ≤ 0x7F
  · rw [encodeChar_ascii hc, List.mem_singleton, toUInt8_inj ha hc] at hmem
    exact hne hmem.symm
  · have := le_of_mem_encodeChar (Nat.lt_of_not_le hc) _ hmem
    rw [toNat_toUInt8 ha] at this
    omega

theorem eq_toUInt8_iff {a : Char} {b : UInt8} (ha : a.toNat ≤ 0x7F)
    (hb : b ∈ String.utf8EncodeChar c) : b = a.toUInt8 ↔ c = a := by
  refine ⟨fun hba => Decidable.byContradiction fun hc => ?_, ?_⟩
  · exact toUInt8_not_mem_encodeChar ha hc (hba ▸ hb)
  · rintro rfl
    rwa [encodeChar_ascii ha, List.mem_singleton] at hb

/-- The first byte of a text is one of its first character. -/
theorem exists_head?_encode (c : Char) (rest : List Char) :
    ∃ b ∈ String.utf8EncodeChar c, (encode (c :: rest)).head? = some b := by
  obtain ⟨b, bytes, hcons, -⟩ := exists_encodeChar_eq_cons c
  refine ⟨b, hcons ▸ List.mem_cons_self, ?_⟩
  rw [encode_cons, hcons]
  rfl

theorem getElem?_encode (before after : List Char) :
    (encode (before ++ after))[utf8Length before]? = (encode after).head? := by
  rw [← List.head?_drop, drop_encode]

/-- An ASCII character comes next if its byte does. -/
theorem head?_encode_eq_some_iff {a : Char} (ha : a.toNat ≤ 0x7F) :
    (encode text).head? = some a.toUInt8 ↔ text.head? = some a := by
  cases text with
  | nil => exact ⟨nofun, nofun⟩
  | cons c rest =>
    obtain ⟨b, hb, hhead⟩ := exists_head?_encode c rest
    rw [hhead, List.head?_cons, Option.some_inj, Option.some_inj, eq_toUInt8_iff ha hb]

/-! ### Patterns -/

/-- A text stands at the front of another one if it does in the bytes. -/
theorem isPrefixOf_encode (pattern text : List Char) :
    (encode pattern).isPrefixOf (encode text) = pattern.isPrefixOf text := by
  rw [Bool.eq_iff_iff, List.isPrefixOf_iff_prefix, List.isPrefixOf_iff_prefix]
  induction pattern generalizing text with
  | nil => exact iff_of_true List.nil_prefix List.nil_prefix
  | cons a pattern ih =>
    obtain ⟨b, bytes, hbytes, -⟩ := exists_encodeChar_eq_cons a
    cases text with
    | nil =>
      rw [encode_cons, hbytes]
      exact iff_of_false (fun h => nomatch List.prefix_nil.1 h)
        fun h => nomatch List.prefix_nil.1 h
    | cons c text =>
      rw [List.cons_prefix_cons, ← ih, encode_cons, encode_cons]
      constructor
      · rintro ⟨tail, htail⟩
        rw [List.append_assoc] at htail
        obtain ⟨hac, htext⟩ := encodeChar_append_inj htail
        exact ⟨hac, tail, htext⟩
      · rintro ⟨rfl, hprefix⟩
        exact (List.prefix_append_right_inj _).2 hprefix

/-- A text stands at the end of another one if it does in the bytes: no text starts inside of a
character. -/
theorem isSuffixOf_encode (pattern text : List Char) :
    (encode pattern).isSuffixOf (encode text) = pattern.isSuffixOf text := by
  rw [Bool.eq_iff_iff, List.isSuffixOf_iff_suffix, List.isSuffixOf_iff_suffix]
  constructor
  case mpr =>
    rintro ⟨front, rfl⟩
    exact ⟨encode front, (encode_append front pattern).symm⟩
  intro h
  cases pattern with
  | nil => exact List.nil_suffix
  | cons a pattern =>
    obtain ⟨first, tail, hfirst, hlead, -⟩ := exists_encodeChar_eq_cons a
    have hneedle : encode (a :: pattern) = first :: (tail ++ encode pattern) := by
      rw [encode_cons, hfirst, List.cons_append]
    induction text with
    | nil =>
      rw [hneedle] at h
      cases List.suffix_nil.1 h
    | cons c text ih =>
      obtain ⟨skipped, hskipped⟩ := h
      rw [encode_cons c] at hskipped
      rcases List.append_eq_append_iff.1 hskipped with ⟨inside, hc, hfound⟩ | ⟨more, -, htext⟩
      · cases inside with
        | nil => exact (ih ⟨[], hfound⟩).trans (List.suffix_cons c text)
        | cons b inside =>
          -- What starts with the first byte of the pattern is not inside of the character.
          obtain ⟨rfl, -⟩ := List.cons.inj (hneedle.symm.trans hfound)
          obtain ⟨lead, follow, hbytes, -, hfollow⟩ := exists_encodeChar_eq_cons c
          rw [hbytes] at hc
          cases skipped with
          | nil =>
            have heq : encode (a :: pattern) = encode (c :: text) := hskipped
            exact encode_injective heq ▸ List.suffix_refl _
          | cons x skipped =>
            obtain ⟨-, rfl⟩ := List.cons.inj hc
            exact absurd (hfollow first (by simp)) hlead
      · exact (ih ⟨more, htext.symm⟩).trans (List.suffix_cons c text)

/-- Bytes are passed over that do not start what is looked for. -/
theorem indexOf?_append {b : UInt8} {skipped : List UInt8} (hb : b ∉ skipped)
    (bytes : List UInt8) :
    indexOf? (b :: needle) (skipped ++ bytes) =
      (indexOf? (b :: needle) bytes).map (skipped.length + ·) := by
  induction skipped with
  | nil =>
    simp only [List.nil_append, List.length_nil, Nat.zero_add]
    exact Option.map_id'.symm
  | cons x skipped ih =>
    obtain ⟨hx, hskipped⟩ : b ≠ x ∧ b ∉ skipped := by simpa using hb
    rw [List.cons_append, indexOf?, if_neg, ih hskipped, Option.map_map]
    · congr 1
      funext i
      change skipped.length + i + 1 = skipped.length + 1 + i
      omega
    · rw [List.isPrefixOf_cons_cons, beq_false_of_ne hx]
      exact Bool.false_ne_true

/-- **The first occurrence of a text is found in the bytes**, at the offset at which it is found in
the characters: its first byte is none of those inside of a character. -/
theorem indexOf?_encode (pattern text : List Char) :
    indexOf? (encode pattern) (encode text) =
      (Text.splitFirst? pattern text).map fun split => utf8Length split.1 := by
  cases pattern with
  | nil =>
    have hindex : ∀ bytes, indexOf? [] bytes = some 0 := fun bytes => by cases bytes <;> rfl
    have hsplit : Text.splitFirst? [] text = some ([], text) := by cases text <;> rfl
    rw [hsplit]
    exact hindex _
  | cons a pattern =>
    obtain ⟨first, tail, hfirst, hlead, -⟩ := exists_encodeChar_eq_cons a
    have hneedle : encode (a :: pattern) = first :: (tail ++ encode pattern) := by
      rw [encode_cons, hfirst, List.cons_append]
    induction text with
    | nil =>
      rw [hneedle]
      rfl
    | cons c text ih =>
      have hstarts := isPrefixOf_encode (a :: pattern) (c :: text)
      obtain ⟨b, bytes, hbytes, -, hfollow⟩ := exists_encodeChar_eq_cons c
      have hsize : c.utf8Size = bytes.length + 1 := by
        rw [← String.length_utf8EncodeChar, hbytes, List.length_cons]
      rw [encode_cons c text, hbytes, List.cons_append] at hstarts ⊢
      rw [indexOf?, hstarts, Text.splitFirst?]
      split
      · rfl
      · rw [hneedle, indexOf?_append fun hmem => hlead (hfollow first hmem), ← hneedle, ih]
        simp only [Option.map_map]
        congr 1
        funext split
        simp only [Function.comp_apply, Text.utf8Length_cons, hsize]
        omega

/-! ### Characters -/

/-- Each byte of a character is one of some ASCII characters if the character is. -/
theorem isOneOf_of_mem_encodeChar (hascii : IsAscii chars) {b : UInt8}
    (hb : b ∈ String.utf8EncodeChar c) : isOneOf chars b = decide (c ∈ chars) := by
  rw [Bool.eq_iff_iff, decide_eq_true_iff, isOneOf, List.any_eq_true]
  constructor
  · rintro ⟨a, ha, hab⟩
    rwa [(eq_toUInt8_iff (hascii a ha) hb).1 (beq_iff_eq.1 hab).symm]
  · exact fun hc => ⟨c, hc, beq_iff_eq.2 ((eq_toUInt8_iff (hascii c hc) hb).2 rfl).symm⟩

theorem isOneOf_of_mem_encode (hascii : IsAscii chars) (h : ∀ c ∈ text, c ∉ chars) {b : UInt8}
    (hb : b ∈ encode text) : isOneOf chars b = false := by
  obtain ⟨c, hc, hmem⟩ := List.mem_flatMap.1 hb
  rw [isOneOf_of_mem_encodeChar hascii hmem, decide_eq_false_iff_not]
  exact h c hc

theorem firstOf?_eq_none (hascii : IsAscii chars) (h : ∀ c ∈ text, c ∉ chars) :
    firstOf? chars (encode text) = none :=
  List.findIdx?_eq_none_iff.2 fun _ hb => isOneOf_of_mem_encode hascii h hb

/-- **The first character out of some is found in the bytes.** -/
theorem firstOf?_append_cons (hascii : IsAscii chars) (h : ∀ c ∈ text, c ∉ chars) (hc : c ∈ chars)
    (rest : List Char) : firstOf? chars (encode (text ++ c :: rest)) = some (utf8Length text) := by
  have hbyte : isOneOf chars c.toUInt8 = true :=
    List.any_eq_true.2 ⟨c, hc, beq_self_eq_true _⟩
  rw [encode_append, firstOf?, List.findIdx?_append, ← firstOf?, firstOf?_eq_none hascii h,
    encode_cons, encodeChar_ascii (hascii c hc), List.singleton_append, List.findIdx?_cons, hbyte,
    length_encode]
  simp

/-- The bytes of characters out of some are those that are. -/
theorem takeWhile_encode (hascii : IsAscii chars) (text : List Char) :
    (encode text).takeWhile (isOneOf chars) =
      encode (text.takeWhile fun c => decide (c ∈ chars)) := by
  induction text with
  | nil => rfl
  | cons c text ih =>
    have hbytes : ∀ b ∈ String.utf8EncodeChar c, isOneOf chars b = decide (c ∈ chars) :=
      fun b hb => isOneOf_of_mem_encodeChar hascii hb
    rw [encode_cons, List.takeWhile_cons]
    split
    · next hc =>
      rw [List.takeWhile_append_of_pos fun b hb => (hbytes b hb).trans hc, ih, encode_cons]
    · next hc =>
      obtain ⟨b, bytes, hcons, -⟩ := exists_encodeChar_eq_cons c
      have hb : isOneOf chars b = decide (c ∈ chars) := hbytes b (hcons ▸ List.mem_cons_self)
      rw [hcons, List.cons_append, List.takeWhile_cons_of_neg (by rw [hb]; exact hc)]
      rfl

end XmlQuery.Utf8
