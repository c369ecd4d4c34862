import Mathlib.Tactic.SplitIfs
import XmlQuery.Encoding.Utf8

/-!
# Reading back UTF-8

The bytes of a character are one piece of the byte sequence in which they stand: its first byte
announces how many bytes follow and in which range the next one is, and each byte that follows is in
the range that is pending.

## Main results

* `encodeChar_one`, `encodeChar_two`, `encodeChar_three`, `encodeChar_four`: the bytes of a
  character
* `le_of_mem_encodeChar`: no byte of another character is taken for one of ASCII
* `exists_encodeChar_eq_cons`: only the first byte of a character is one that starts a character
* `exists_lead_three`, `exists_lead_four`: what the first byte of a long character announces
* `piecesFrom_encodeChar`: a character is read as one piece
* `decode_encode`: a text is read back from its bytes
-/

namespace XmlQuery.Utf8

variable {n : Nat} {c : Char} {rest : List UInt8}

/-! ## The bytes of a character -/

theorem encodeChar_one (h : c.toNat ≤ 0x7F) : String.utf8EncodeChar c = [UInt8.ofNat c.toNat] :=
  if_pos h

theorem encodeChar_two (hlow : 0x7F < c.toNat) (hhigh : c.toNat ≤ 0x7FF) :
    String.utf8EncodeChar c =
      [UInt8.ofNat (c.toNat / 64 % 32 + 192), UInt8.ofNat (c.toNat % 64 + 128)] :=
  (if_neg (Nat.not_le_of_lt hlow)).trans (if_pos hhigh)

theorem encodeChar_three (hlow : 0x7FF < c.toNat) (hhigh : c.toNat ≤ 0xFFFF) :
    String.utf8EncodeChar c =
      [UInt8.ofNat (c.toNat / 4096 % 16 + 224), UInt8.ofNat (c.toNat / 64 % 64 + 128),
        UInt8.ofNat (c.toNat % 64 + 128)] := by
  have hone : ¬ c.toNat ≤ 0x7F := by omega
  exact (if_neg hone).trans <| (if_neg (Nat.not_le_of_lt hlow)).trans (if_pos hhigh)

theorem encodeChar_four (hlow : 0xFFFF < c.toNat) :
    String.utf8EncodeChar c =
      [UInt8.ofNat (c.toNat / 262144 % 8 + 240), UInt8.ofNat (c.toNat / 4096 % 64 + 128),
        UInt8.ofNat (c.toNat / 64 % 64 + 128), UInt8.ofNat (c.toNat % 64 + 128)] := by
  have hone : ¬ c.toNat ≤ 0x7F := by omega
  have htwo : ¬ c.toNat ≤ 0x7FF := by omega
  exact (if_neg hone).trans <| (if_neg htwo).trans (if_neg (Nat.not_le_of_lt hlow))

/-- All bytes of a character beyond ASCII are greater than those of ASCII characters. -/
theorem le_of_mem_encodeChar (h : 0x7F < c.toNat) :
    ∀ b ∈ String.utf8EncodeChar c, 0x80 ≤ b.toNat := by
  intro b hb
  have hof : ∀ m, 0x80 ≤ m → m < 256 → 0x80 ≤ (UInt8.ofNat m).toNat := fun m hlow hhigh => by
    rwa [UInt8.toNat_ofNat_of_lt' hhigh]
  by_cases htwo : c.toNat ≤ 0x7FF
  · rw [encodeChar_two h htwo] at hb
    simp only [List.mem_cons, List.not_mem_nil, or_false] at hb
    rcases hb with rfl | rfl <;> exact hof _ (by omega) (by omega)
  by_cases hthree : c.toNat ≤ 0xFFFF
  · rw [encodeChar_three (by omega) hthree] at hb
    simp only [List.mem_cons, List.not_mem_nil, or_false] at hb
    rcases hb with rfl | rfl | rfl <;> exact hof _ (by omega) (by omega)
  · rw [encodeChar_four (by omega)] at hb
    simp only [List.mem_cons, List.not_mem_nil, or_false] at hb
    rcases hb with rfl | rfl | rfl | rfl <;> exact hof _ (by omega) (by omega)

/-- The byte is one of those that follow the first byte of a character. -/
def Follows (b : UInt8) : Prop := 0x80 ≤ b.toNat ∧ b.toNat ≤ 0xBF

/-- **A character starts with its first byte alone**: all others follow, in it and in every other
character. -/
theorem exists_encodeChar_eq_cons (c : Char) :
    ∃ b bytes, String.utf8EncodeChar c = b :: bytes ∧ ¬ Follows b ∧ ∀ x ∈ bytes, Follows x := by
  have hfirst : ∀ m, m < 0x80 ∨ 0xBF < m → m < 256 → ¬ Follows (UInt8.ofNat m) := by
    intro m hm hlt h
    rw [Follows, UInt8.toNat_ofNat_of_lt' hlt] at h
    omega
  have hnext : ∀ m, Follows (UInt8.ofNat (m % 64 + 128)) := by
    intro m
    rw [Follows, UInt8.toNat_ofNat_of_lt' (by change _ < 256; omega)]
    omega
  by_cases hone : c.toNat ≤ 0x7F
  · exact ⟨_, _, encodeChar_one hone, hfirst _ (by omega) (by omega), nofun⟩
  by_cases htwo : c.toNat ≤ 0x7FF
  · exact ⟨_, _, encodeChar_two (by omega) htwo, hfirst _ (by omega) (by omega),
      List.forall_mem_singleton.2 (hnext _)⟩
  by_cases hthree : c.toNat ≤ 0xFFFF
  · exact ⟨_, _, encodeChar_three (by omega) hthree, hfirst _ (by omega) (by omega),
      List.forall_mem_cons.2 ⟨hnext _, List.forall_mem_singleton.2 (hnext _)⟩⟩
  · exact ⟨_, _, encodeChar_four (by omega), hfirst _ (by omega) (by omega),
      List.forall_mem_cons.2 ⟨hnext _, List.forall_mem_cons.2
        ⟨hnext _, List.forall_mem_singleton.2 (hnext _)⟩⟩⟩

/-! ## First bytes -/

theorem lead_one (h : n ≤ 0x7F) : lead n = .single :=
  if_pos (Nat.lt_succ_of_le h)

theorem lead_two (hlow : 0x7F < n) (hhigh : n ≤ 0x7FF) :
    lead (n / 64 % 32 + 192) = .more 1 0x80 0xBF (n / 64) := by
  rw [lead, if_neg (by omega), if_neg (by omega), if_pos (by omega), Lead.more.injEq]
  omega

/-- The first byte of a character of three bytes; after some of them fewer bytes may follow. -/
theorem exists_lead_three (hlow : 0x7FF < n) (hhigh : n ≤ 0xFFFF)
    (hvalid : n < 0xD800 ∨ 0xDFFF < n) :
    ∃ low high, lead (n / 4096 % 16 + 224) = .more 2 low high (n / 4096) ∧
      low ≤ n / 64 % 64 + 128 ∧ n / 64 % 64 + 128 ≤ high := by
  rw [lead, if_neg (by omega), if_neg (by omega), if_neg (by omega)]
  split_ifs with hfirst hsurrogate
  · exact ⟨0xA0, 0xBF, by rw [Lead.more.injEq]; omega, by omega, by omega⟩
  · exact ⟨0x80, 0x9F, by rw [Lead.more.injEq]; omega, by omega, by omega⟩
  · exact ⟨0x80, 0xBF, by rw [Lead.more.injEq]; omega, by omega, by omega⟩
  all_goals omega

/-- The first byte of a character of four bytes; after some of them fewer bytes may follow. -/
theorem exists_lead_four (hlow : 0xFFFF < n) (hhigh : n < 0x110000) :
    ∃ low high, lead (n / 262144 % 8 + 240) = .more 3 low high (n / 262144) ∧
      low ≤ n / 4096 % 64 + 128 ∧ n / 4096 % 64 + 128 ≤ high := by
  rw [lead, if_neg (by omega), if_neg (by omega), if_neg (by omega), if_neg (by omega),
    if_neg (by omega), if_neg (by omega)]
  split_ifs with hfirst hmiddle hlast
  · exact ⟨0x90, 0xBF, by rw [Lead.more.injEq]; omega, by omega, by omega⟩
  · exact ⟨0x80, 0xBF, by rw [Lead.more.injEq]; omega, by omega, by omega⟩
  · exact ⟨0x80, 0x8F, by rw [Lead.more.injEq]; omega, by omega, by omega⟩
  · omega

/-! ## Pieces -/

theorem piecesFrom_single {b : Nat} (hb : b < 256) (h : lead b = .single) :
    piecesFrom none (UInt8.ofNat b :: rest) =
      ⟨some (Char.ofNat b), 1⟩ :: piecesFrom none rest := by
  rw [piecesFrom, UInt8.toNat_ofNat_of_lt' hb, step, start, h]
  rfl

/-- A first byte leaves the bytes pending that it announces. -/
theorem piecesFrom_lead {b count low high code : Nat} (hb : b < 256)
    (h : lead b = .more count low high code) :
    piecesFrom none (UInt8.ofNat b :: rest) =
      piecesFrom (some ⟨count - 1, low, high, code, 1⟩) rest := by
  rw [piecesFrom, UInt8.toNat_ofNat_of_lt' hb, step, start, h]
  rfl

/-- A byte that is pending leaves the others pending. -/
theorem piecesFrom_owed {b owed low high code size : Nat} (hb : b < 256) (hlow : low ≤ b)
    (hhigh : b ≤ high) :
    piecesFrom (some ⟨owed + 1, low, high, code, size⟩) (UInt8.ofNat b :: rest) =
      piecesFrom (some ⟨owed, 0x80, 0xBF, code * 64 + (b - 0x80), size + 1⟩) rest := by
  rw [piecesFrom, UInt8.toNat_ofNat_of_lt' hb, step, if_pos ⟨hlow, hhigh⟩]
  rfl

/-- The last byte that is pending ends a character. -/
theorem piecesFrom_last {b low high code size : Nat} (hb : b < 256) (hlow : low ≤ b)
    (hhigh : b ≤ high) :
    piecesFrom (some ⟨0, low, high, code, size⟩) (UInt8.ofNat b :: rest) =
      ⟨some (Char.ofNat (code * 64 + (b - 0x80))), size + 1⟩ :: piecesFrom none rest := by
  rw [piecesFrom, UInt8.toNat_ofNat_of_lt' hb, step, if_pos ⟨hlow, hhigh⟩]
  rfl

/-- **The bytes of a character are one piece.** The cases are the numbers of bytes. -/
theorem piecesFrom_encodeChar (c : Char) (rest : List UInt8) :
    piecesFrom none (String.utf8EncodeChar c ++ rest) =
      ⟨some c, c.utf8Size⟩ :: piecesFrom none rest := by
  have hvalid : c.toNat < 0xD800 ∨ 0xDFFF < c.toNat ∧ c.toNat < 0x110000 := c.valid
  have hback : ∀ m, m = c.toNat → Char.ofNat m = c := fun m hm => hm ▸ Char.ofNat_toNat c
  rw [← String.length_utf8EncodeChar c]
  by_cases hone : c.toNat ≤ 0x7F
  · rw [encodeChar_one hone, List.cons_append, List.nil_append,
      piecesFrom_single (by omega) (lead_one hone), hback _ rfl]
    rfl
  by_cases htwo : c.toNat ≤ 0x7FF
  · rw [encodeChar_two (by omega) htwo, List.cons_append, List.cons_append, List.nil_append,
      piecesFrom_lead (by omega) (lead_two (by omega) htwo),
      piecesFrom_last (by omega) (by omega) (by omega), hback _ (by omega)]
    rfl
  by_cases hthree : c.toNat ≤ 0xFFFF
  · obtain ⟨low, high, hlead, hlow, hhigh⟩ :=
      exists_lead_three (n := c.toNat) (by omega) hthree (by omega)
    rw [encodeChar_three (by omega) hthree, List.cons_append, List.cons_append, List.cons_append,
      List.nil_append, piecesFrom_lead (by omega) hlead, piecesFrom_owed (by omega) hlow hhigh,
      piecesFrom_last (by omega) (by omega) (by omega), hback _ (by omega)]
    rfl
  · obtain ⟨low, high, hlead, hlow, hhigh⟩ := exists_lead_four (n := c.toNat) (by omega) (by omega)
    rw [encodeChar_four (by omega), List.cons_append, List.cons_append, List.cons_append,
      List.cons_append, List.nil_append, piecesFrom_lead (by omega) hlead,
      piecesFrom_owed (by omega) hlow hhigh, piecesFrom_owed (by omega) (by omega) (by omega),
      piecesFrom_last (by omega) (by omega) (by omega), hback _ (by omega)]
    rfl

/-- Bytes start with those of one character at most. -/
theorem encodeChar_append_inj {d : Char} {rest' : List UInt8}
    (h : String.utf8EncodeChar c ++ rest = String.utf8EncodeChar d ++ rest') :
    c = d ∧ rest = rest' := by
  have hpieces := congrArg (piecesFrom none) h
  rw [piecesFrom_encodeChar, piecesFrom_encodeChar, List.cons.injEq, Piece.mk.injEq] at hpieces
  obtain rfl := Option.some.inj hpieces.1.1
  exact ⟨rfl, List.append_cancel_left h⟩

/-! ## Texts -/

theorem encode_cons (c : Char) (text : List Char) :
    encode (c :: text) = String.utf8EncodeChar c ++ encode text := rfl

theorem pieces_encode (text : List Char) :
    pieces (encode text) = text.map fun c => ⟨some c, c.utf8Size⟩ := by
  induction text with
  | nil => rfl
  | cons c text ih =>
    rw [encode_cons, pieces, piecesFrom_encodeChar, List.map_cons, ← ih]
    rfl

theorem text_map_some (text : List Char) (offset : Nat) :
    Piece.text offset (text.map fun c => ⟨some c, c.utf8Size⟩) = .ok text := by
  induction text generalizing offset with
  | nil => rfl
  | cons c text ih => rw [List.map_cons, Piece.text, ih]

/-- **A text is read back from its bytes.** -/
theorem decode_encode (text : List Char) : decode (encode text) = .ok text := by
  rw [decode, pieces_encode, text_map_some]

/-- Texts of the same bytes are the same. -/
theorem encode_injective : Function.Injective encode := fun text text' h =>
  Except.ok.inj ((decode_encode text).symm.trans ((congrArg decode h).trans (decode_encode text')))

end XmlQuery.Utf8
