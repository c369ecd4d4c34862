import XmlQuery.Document.Parse
import XmlQuery.Proofs.Document.WellFormed
import XmlQuery.Proofs.Encoding.Utf16
import XmlQuery.Proofs.Encoding.Utf8

/-!
# Documents in several encodings

A text is the same document in UTF-8 and in both orders of UTF-16, if a byte order mark says which
it is, and without a mark if it starts as a document does. The mark is taken off once, so that a
text may start with the character that the mark encodes.

## Main results

* `toUtf8_of_utf16`, `toUtf8_of_utf8`: a text is converted to its bytes in UTF-8
* `toUtf8_eq_none_iff`: the byte sequences that are not converted
* `parse_encoded`: **the encoding of a text does not matter**
-/

namespace XmlQuery

open Utf16 (ByteOrder Unpaired encodeBytes)

variable {bytes : List UInt8} {text rest : List Char} {order : ByteOrder}

/-! ## Conversion -/

theorem Encoding.unmark_mark_append (e : Encoding) (bytes : List UInt8) :
    e.unmark (e.mark ++ bytes) = bytes := by
  rw [unmark, if_pos, List.drop_left]
  exact List.isPrefixOf_iff_prefix.2 (List.prefix_append _ _)

theorem toUtf8_of_utf16 (hdetect : Encoding.detect bytes = .utf16 order)
    (hbody : (Encoding.utf16 order).unmark bytes = encodeBytes order text) :
    toUtf8 bytes = some (Utf8.encode text) := by
  simp only [toUtf8, hdetect, hbody]
  rw [Utf16.units_encodeBytes, Option.bind_some, Utf16.decode_encode]
  rfl

theorem toUtf8_of_utf8 (hdetect : Encoding.detect bytes = .utf8) :
    toUtf8 bytes = some (Encoding.utf8.unmark bytes) := by
  simp only [toUtf8, hdetect]

/-- What is taken for UTF-16 is not converted if a byte or a surrogate is left over. -/
theorem toUtf8_eq_none_iff (hdetect : Encoding.detect bytes = .utf16 order) :
    toUtf8 bytes = none ↔
      ((Encoding.utf16 order).unmark bytes).length % 2 = 1 ∨
        ∃ us : List Nat, (∀ u ∈ us, u < 0x10000) ∧
          us.flatMap order.bytes = (Encoding.utf16 order).unmark bytes ∧ Unpaired us := by
  simp only [toUtf8, hdetect]
  rw [Option.map_eq_none_iff, Option.bind_eq_none_iff, ← @Utf16.units_eq_none_iff order]
  simp only [Utf16.decode_eq_none_iff, ← and_assoc, ← Utf16.units_eq_some_iff]
  cases Utf16.units order ((Encoding.utf16 order).unmark bytes) with
  | none => simp
  | some us => simp

/-! ## Encodings without a mark -/

/-- Only the null character starts with a null byte. -/
theorem ne_zero_of_mem_head?_encode (h : rest.head? ≠ some '\x00') :
    ∀ b ∈ (Utf8.encode rest).head?, b ≠ 0 := by
  intro b hb
  rintro rfl
  cases rest with
  | nil => cases hb
  | cons c rest =>
    rw [Utf8.encode_cons] at hb
    by_cases hascii : c.toNat ≤ 0x7F
    · rw [Utf8.encodeChar_one hascii] at hb
      have hzero : UInt8.ofNat c.toNat = 0 := Option.some.inj hb
      have hcode : c.toNat = 0 := by
        have hlt : c.toNat < 256 := Nat.lt_of_le_of_lt hascii (by decide)
        rw [← UInt8.toNat_ofNat_of_lt' hlt, hzero]
        rfl
      exact h (congrArg some (Char.toNat_inj.1 hcode))
    · have hne : String.utf8EncodeChar c ≠ [] := by
        rw [← List.length_pos_iff, String.length_utf8EncodeChar]
        exact c.utf8Size_pos
      rw [List.head?_append_of_ne_nil _ hne] at hb
      have hmem := List.mem_of_mem_head? hb
      exact absurd (Utf8.le_of_mem_encodeChar (Nat.lt_of_not_le hascii) 0 hmem)
        (by decide)

/-- Without a mark, the first two bytes of a document tell in which order they are. -/
theorem detect_encode (h : rest.head? ≠ some '\x00') :
    Encoding.detect (0x3C :: Utf8.encode rest) = .utf8 := by
  have hne := ne_zero_of_mem_head?_encode h
  cases hrest : Utf8.encode rest with
  | nil => rfl
  | cons b bytes =>
    rw [hrest] at hne
    have hb : b ≠ 0 := hne b rfl
    unfold Encoding.detect
    split <;> simp_all

/-! ## Parsing -/

namespace Document

open Markup (ParseError)

theorem parse_of_toUtf8 (h : toUtf8 bytes = some (Utf8.encode text)) :
    parse bytes = parseText text := by
  simp only [parse, h, Utf8.decode_encode]

/-- Bytes that are taken for UTF-16 and are not are refused at their start. -/
theorem parse_of_toUtf8_eq_none (h : toUtf8 bytes = none) :
    parse bytes = .error ⟨⟨0, 1, 1⟩, .invalidUtf16⟩ := by
  simp only [parse, h]
  rfl

/-- **The encoding of a text does not matter.** Every text is the same document, or has the same
fault at the same place, in UTF-8 and in both orders of UTF-16 behind the byte order mark, and if it
starts as a document does, without the mark too. What is taken for UTF-16 is refused if a byte or a
surrogate is left over, and only then. -/
theorem parse_encoded (text : List Char) :
    (parse (0xEF :: 0xBB :: 0xBF :: Utf8.encode text) = parseText text ∧
      parse (0xFF :: 0xFE :: encodeBytes .little text) = parseText text ∧
      parse (0xFE :: 0xFF :: encodeBytes .big text) = parseText text) ∧
    (text.head? = some '<' → text[1]? ≠ some '\x00' →
      parse (Utf8.encode text) = parseText text ∧
      parse (encodeBytes .little text) = parseText text ∧
      parse (encodeBytes .big text) = parseText text) ∧
    ∀ bytes order, Encoding.detect bytes = .utf16 order →
      (toUtf8 bytes = none ↔
        ((Encoding.utf16 order).unmark bytes).length % 2 = 1 ∨
          ∃ us : List Nat, (∀ u ∈ us, u < 0x10000) ∧
            us.flatMap order.bytes = (Encoding.utf16 order).unmark bytes ∧ Unpaired us) ∧
      (toUtf8 bytes = none → parse bytes = .error ⟨⟨0, 1, 1⟩, .invalidUtf16⟩) := by
  refine ⟨⟨?_, ?_, ?_⟩, fun hopen hnull => ?_, fun bytes order hdetect =>
    ⟨toUtf8_eq_none_iff hdetect, parse_of_toUtf8_eq_none⟩⟩
  · have hbody := Encoding.utf8.unmark_mark_append (Utf8.encode text)
    exact parse_of_toUtf8 ((toUtf8_of_utf8 rfl).trans (congrArg some hbody))
  · exact parse_of_toUtf8 (toUtf8_of_utf16 rfl (Encoding.unmark_mark_append _ _))
  · exact parse_of_toUtf8 (toUtf8_of_utf16 rfl (Encoding.unmark_mark_append _ _))
  · obtain ⟨rest, rfl⟩ := List.head?_eq_some_iff.1 hopen
    have hrest : rest.head? ≠ some '\x00' := by rwa [List.head?_eq_getElem?]
    exact ⟨parse_of_toUtf8 (toUtf8_of_utf8 (detect_encode hrest)),
      parse_of_toUtf8 (toUtf8_of_utf16 rfl rfl), parse_of_toUtf8 (toUtf8_of_utf16 rfl rfl)⟩

/-- A document without a mark, and the first half of a surrogate pair behind one. -/
theorem parse_encoded_sample :
    sample.head? = some '<' ∧ sample[1]? ≠ some '\x00' ∧
      parse (encodeBytes .big sample) = .ok (ofTrees [sampleTree]) ∧
      Encoding.detect [0xFF, 0xFE, 0x3D, 0xD8] = .utf16 .little ∧
      parse [0xFF, 0xFE, 0x3D, 0xD8] = .error ⟨⟨0, 1, 1⟩, .invalidUtf16⟩ := by
  have hopen : sample.head? = some '<' := rfl
  have hnull : sample[1]? ≠ some '\x00' := by decide
  have hdetect : Encoding.detect [0xFF, 0xFE, 0x3D, 0xD8] = .utf16 .little := rfl
  have hunpaired : Unpaired [0xD83D] := ⟨[], 0xD83D, [], rfl, .inl ⟨by decide, by decide⟩⟩
  obtain ⟨-, hplain, hutf16⟩ := parse_encoded sample
  obtain ⟨hnone, herror⟩ := hutf16 _ _ hdetect
  exact ⟨hopen, hnull, (hplain hopen hnull).2.2.trans parseText_sample, hdetect,
    herror (hnone.2 (.inr ⟨[0xD83D], by decide, rfl, hunpaired⟩))⟩

end Document

end XmlQuery
