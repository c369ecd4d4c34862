import Mathlib.Tactic.SplitIfs
import XmlQuery.Encoding.Utf16

/-!
# Reading back UTF-16

Both orders of the bytes of code units are read back, and so are the code units of a text. What is
no text is recognised by single surrogates: the first half of a pair without the second one behind
it, or the second half without the first one in front of it. That the two halves are told apart by
their ranges makes this a matter of neighbours only.

## Main definitions

* `encodeBytes`: the bytes of a text in UTF-16
* `Unpaired`: a surrogate stands alone

## Main results

* `units_eq_some_iff`: the byte sequences of code units
* `decode_encode`: a text is read back from its code units
* `decode_eq_none_iff`: **what is no text has an unpaired surrogate**
-/

namespace XmlQuery.Utf16

variable {order : ByteOrder} {u v : Nat} {rest : List Nat} {bytes : List UInt8}

/-- The bytes of a text. -/
def encodeBytes (order : ByteOrder) (text : List Char) : List UInt8 :=
  (encode text).flatMap order.bytes

/-! ## Bytes -/

/-- The two bytes of a code unit are read back. -/
theorem units_bytes_append (order : ByteOrder) (hu : u < 0x10000) (bytes : List UInt8) :
    units order (order.bytes u ++ bytes) = (units order bytes).map (u :: ·) := by
  have hlow : (UInt8.ofNat (u % 256)).toNat = u % 256 :=
    UInt8.toNat_ofNat_of_lt' (Nat.mod_lt u (by decide))
  have hhigh : (UInt8.ofNat (u / 256)).toNat = u / 256 :=
    UInt8.toNat_ofNat_of_lt' (Nat.div_lt_of_lt_mul hu)
  have hunit : u / 256 * 256 + u % 256 = u := by omega
  cases order with
  | little =>
    rw [ByteOrder.bytes, List.cons_append, List.cons_append, List.nil_append, units,
      ByteOrder.unit, hlow, hhigh, hunit]
  | big =>
    rw [ByteOrder.bytes, List.cons_append, List.cons_append, List.nil_append, units,
      ByteOrder.unit, hlow, hhigh, hunit]

theorem unit_lt (order : ByteOrder) (a b : UInt8) : order.unit a b < 0x10000 := by
  have ha := a.toNat_lt
  have hb := b.toNat_lt
  cases order with
  | little =>
    rw [ByteOrder.unit]
    omega
  | big =>
    rw [ByteOrder.unit]
    omega

theorem bytes_unit (order : ByteOrder) (a b : UInt8) : order.bytes (order.unit a b) = [a, b] := by
  have hsplit : ∀ x y : UInt8, (x.toNat * 256 + y.toNat) / 256 = x.toNat ∧
      (x.toNat * 256 + y.toNat) % 256 = y.toNat := fun x y => by
    have := y.toNat_lt
    omega
  cases order with
  | little =>
    rw [ByteOrder.unit, ByteOrder.bytes, (hsplit b a).1, (hsplit b a).2, UInt8.ofNat_toNat,
      UInt8.ofNat_toNat]
  | big =>
    rw [ByteOrder.unit, ByteOrder.bytes, (hsplit a b).1, (hsplit a b).2, UInt8.ofNat_toNat,
      UInt8.ofNat_toNat]

theorem units_flatMap_bytes {us : List Nat} (h : ∀ u ∈ us, u < 0x10000) :
    units order (us.flatMap order.bytes) = some us := by
  induction us with
  | nil => rfl
  | cons u us ih =>
    rw [List.forall_mem_cons] at h
    rw [List.flatMap_cons, units_bytes_append order h.1, ih h.2]
    rfl

/-- The byte sequences that are read as code units are those that are written for them. -/
theorem units_eq_some_iff {us : List Nat} :
    units order bytes = some us ↔
      (∀ u ∈ us, u < 0x10000) ∧ us.flatMap order.bytes = bytes := by
  refine ⟨fun h => ?_, fun ⟨hus, hbytes⟩ => hbytes ▸ units_flatMap_bytes hus⟩
  fun_induction units order bytes generalizing us with
  | case1 =>
    cases h
    exact ⟨nofun, rfl⟩
  | case2 => cases h
  | case3 a b rest ih =>
    obtain ⟨others, hothers, rfl⟩ := Option.map_eq_some_iff.1 h
    obtain ⟨hlt, hbytes⟩ := ih hothers
    refine ⟨List.forall_mem_cons.2 ⟨unit_lt order a b, hlt⟩, ?_⟩
    rw [List.flatMap_cons, bytes_unit, hbytes]
    rfl

/-- Only an odd number of bytes makes up no code units. -/
theorem units_eq_none_iff : units order bytes = none ↔ bytes.length % 2 = 1 := by
  fun_induction units order bytes with
  | case1 => exact ⟨nofun, nofun⟩
  | case2 => exact ⟨fun _ => rfl, fun _ => rfl⟩
  | case3 a b rest ih =>
    rw [Option.map_eq_none_iff, ih, List.length_cons, List.length_cons]
    omega

/-! ## Surrogates -/

/-- A surrogate stands alone: behind a first half there is no second half, or in front of a second
half there is no first half. -/
def Unpaired (us : List Nat) : Prop :=
  ∃ before u behind, us = before ++ u :: behind ∧
    (isHigh u = true ∧ ¬ behind.head?.any isLow = true ∨
      isLow u = true ∧ ¬ before.getLast?.any isHigh = true)

/-- No code unit is both halves. -/
theorem isLow_of_isHigh (h : isHigh u = true) : isLow u = false := by
  simp only [isHigh, isLow, Bool.and_eq_true, decide_eq_true_eq, Bool.and_eq_false_iff,
    decide_eq_false_iff_not] at *
  omega

theorem isHigh_of_isLow (h : isLow u = true) : isHigh u = false := by
  rw [Bool.eq_false_iff]
  intro hhigh
  rw [isLow_of_isHigh hhigh] at h
  cases h

theorem not_unpaired_nil : ¬ Unpaired [] := by
  rintro ⟨before, u, behind, hus, -⟩
  cases before <;> cases hus

theorem unpaired_of_isLow (h : isLow u = true) : Unpaired (u :: rest) :=
  ⟨[], u, rest, rfl, .inr ⟨h, Bool.false_ne_true⟩⟩

theorem unpaired_of_isHigh (h : isHigh u = true) (hrest : ¬ rest.head?.any isLow = true) :
    Unpaired (u :: rest) :=
  ⟨[], u, rest, rfl, .inl ⟨h, hrest⟩⟩

theorem getLast?_append_cons (front : List Nat) (u : Nat) (rest : List Nat) :
    (front ++ u :: rest).getLast? = (u :: rest).getLast? := by
  rw [List.getLast?_append, List.getLast?_cons, Option.some_or]

/-- Behind code units that do not end with a first half, what stands alone does so by itself. -/
theorem unpaired_append_iff {front : List Nat} (hfront : ¬ front.getLast?.any isHigh = true) :
    Unpaired (front ++ rest) ↔ Unpaired front ∨ Unpaired rest := by
  constructor
  · rintro ⟨before, w, behind, hus, hw⟩
    -- The surrogate is in the rest, or in front of it and then not at the end as a first half.
    rcases List.append_eq_append_iff.1 hus with ⟨more, rfl, hrest⟩ | ⟨more, rfl, hrest⟩
    · refine .inr ⟨more, w, behind, hrest, hw.imp_right fun ⟨hlow, hbefore⟩ => ⟨hlow, ?_⟩⟩
      cases more with
      | nil => exact Bool.false_ne_true
      | cons x more => rwa [getLast?_append_cons] at hbefore
    · cases more with
      | nil =>
        rw [List.append_nil] at hfront
        exact .inr ⟨[], w, behind, hrest.symm, hw.imp_right fun ⟨hlow, _⟩ =>
          ⟨hlow, Bool.false_ne_true⟩⟩
      | cons x more =>
        cases hrest
        refine .inl ⟨before, w, more, rfl, hw.imp_left fun ⟨hhigh, hbehind⟩ => ⟨hhigh, ?_⟩⟩
        cases more with
        | nil => exact Bool.false_ne_true
        | cons y more => exact hbehind
  · rintro (⟨before, w, behind, rfl, hw⟩ | ⟨before, w, behind, rfl, hw⟩)
    · refine ⟨before, w, behind ++ rest, by rw [List.append_assoc, List.cons_append],
        hw.imp_left fun ⟨hhigh, hbehind⟩ => ⟨hhigh, ?_⟩⟩
      cases behind with
      | nil => exact absurd (by rwa [List.getLast?_concat]) hfront
      | cons y behind => exact hbehind
    · refine ⟨front ++ before, w, behind, (List.append_assoc _ _ _).symm,
        hw.imp_right fun ⟨hlow, hbefore⟩ => ⟨hlow, ?_⟩⟩
      cases before with
      | nil => rwa [List.append_nil]
      | cons x before => rwa [getLast?_append_cons]

/-- A code unit that is no surrogate changes nothing. -/
theorem unpaired_cons_iff (hhigh : isHigh u = false) (hlow : isLow u = false) :
    Unpaired (u :: rest) ↔ Unpaired rest := by
  have hone : ¬ Unpaired [u] := by
    rintro ⟨before, w, behind, hus, hw⟩
    rcases List.cons_eq_append_iff.1 hus with ⟨rfl, hus⟩ | ⟨more, rfl, hnil⟩
    · cases hus
      rcases hw with ⟨hw, -⟩ | ⟨hw, -⟩
      · cases hhigh.symm.trans hw
      · cases hlow.symm.trans hw
    · cases more <;> cases hnil
  have happend := @unpaired_append_iff rest [u] (by simp [hhigh])
  rw [List.singleton_append] at happend
  rw [happend, or_iff_right hone]

/-- A pair changes nothing. -/
theorem unpaired_pair_iff (hu : isHigh u = true) (hv : isLow v = true) :
    Unpaired (u :: v :: rest) ↔ Unpaired rest := by
  have hpair : ¬ Unpaired [u, v] := by
    rintro ⟨before, w, behind, hus, hw⟩
    rcases List.cons_eq_append_iff.1 hus with ⟨rfl, hus⟩ | ⟨more, rfl, hmore⟩
    · cases hus
      rcases hw with ⟨-, hbehind⟩ | ⟨hw, -⟩
      · exact hbehind hv
      · cases (isLow_of_isHigh hu).symm.trans hw
    · rcases List.cons_eq_append_iff.1 hmore with ⟨rfl, hus⟩ | ⟨more, rfl, hnil⟩
      · cases hus
        rcases hw with ⟨hw, -⟩ | ⟨-, hbefore⟩
        · cases (isHigh_of_isLow hv).symm.trans hw
        · exact hbefore hu
      · cases more <;> cases hnil
  have happend := @unpaired_append_iff rest [u, v] (by simp [isHigh_of_isLow hv])
  rw [List.cons_append, List.singleton_append] at happend
  rw [happend, or_iff_right hpair]

/-! ## Texts -/

theorem decode_cons (hhigh : isHigh u = false) (hlow : isLow u = false) (rest : List Nat) :
    decode (u :: rest) = (decode rest).map (Char.ofNat u :: ·) := by
  cases rest with
  | nil => simp [decode, hhigh, hlow]
  | cons v rest => simp [decode, hhigh, hlow]

theorem decode_pair (hu : isHigh u = true) (hv : isLow v = true) (rest : List Nat) :
    decode (u :: v :: rest) = (decode rest).map
      (Char.ofNat (0x10000 + (u - 0xD800) * 0x400 + (v - 0xDC00)) :: ·) := by
  rw [decode, if_pos hu, if_pos hv]

/-- The code units of a character are read back. -/
theorem decode_encodeChar_append (c : Char) (rest : List Nat) :
    decode (encodeChar c ++ rest) = (decode rest).map (c :: ·) := by
  have hvalid : c.toNat < 0xD800 ∨ 0xDFFF < c.toNat ∧ c.toNat < 0x110000 := c.valid
  have hback : ∀ n, n = c.toNat → Char.ofNat n = c := fun n hn => hn ▸ Char.ofNat_toNat c
  rw [encodeChar]
  split_ifs with hsize
  · have hhigh : isHigh c.toNat = false := by
      simp only [isHigh, Bool.and_eq_false_iff, decide_eq_false_iff_not]
      omega
    have hlow : isLow c.toNat = false := by
      simp only [isLow, Bool.and_eq_false_iff, decide_eq_false_iff_not]
      omega
    rw [List.singleton_append, decode_cons hhigh hlow, Char.ofNat_toNat]
  · have hhigh : isHigh (0xD800 + (c.toNat - 0x10000) / 0x400) = true := by
      simp only [isHigh, Bool.and_eq_true, decide_eq_true_eq]
      omega
    have hlow : isLow (0xDC00 + (c.toNat - 0x10000) % 0x400) = true := by
      simp only [isLow, Bool.and_eq_true, decide_eq_true_eq]
      omega
    rw [List.cons_append, List.singleton_append, decode_pair hhigh hlow, hback _ (by omega)]

theorem encode_cons (c : Char) (text : List Char) :
    encode (c :: text) = encodeChar c ++ encode text := rfl

/-- **A text is read back from its code units.** -/
theorem decode_encode (text : List Char) : decode (encode text) = some text := by
  induction text with
  | nil => rfl
  | cons c text ih =>
    rw [encode_cons, decode_encodeChar_append, ih]
    rfl

theorem lt_of_mem_encode {text : List Char} : ∀ u ∈ encode text, u < 0x10000 := by
  intro u hu
  obtain ⟨c, -, hu⟩ := List.mem_flatMap.1 hu
  have hvalid : c.toNat < 0xD800 ∨ 0xDFFF < c.toNat ∧ c.toNat < 0x110000 := c.valid
  rw [encodeChar] at hu
  split_ifs at hu with hsize
  · obtain rfl := List.mem_singleton.1 hu
    exact hsize
  · simp only [List.mem_cons, List.not_mem_nil, or_false] at hu
    omega

/-- The bytes of a text are those of its code units. -/
theorem units_encodeBytes (order : ByteOrder) (text : List Char) :
    units order (encodeBytes order text) = some (encode text) :=
  units_flatMap_bytes lt_of_mem_encode

/-- **What is no text has an unpaired surrogate**, along the decoder: it takes pairs and other code
units off the front. -/
theorem decode_eq_none_iff {us : List Nat} : decode us = none ↔ Unpaired us := by
  fun_induction decode us with
  | case1 => exact iff_of_false nofun not_unpaired_nil
  | case2 u hu =>
    refine iff_of_true rfl ?_
    rw [Bool.or_eq_true] at hu
    exact hu.elim (unpaired_of_isHigh · Bool.false_ne_true) unpaired_of_isLow
  | case3 u hu =>
    rw [Bool.or_eq_true, not_or, Bool.not_eq_true, Bool.not_eq_true] at hu
    rw [unpaired_cons_iff hu.1 hu.2]
    exact iff_of_false nofun not_unpaired_nil
  | case4 u v rest hu hv ih => rw [Option.map_eq_none_iff, ih, unpaired_pair_iff hu hv]
  | case5 u v rest hu hv => exact iff_of_true rfl (unpaired_of_isHigh hu hv)
  | case6 u v rest hu hlow => exact iff_of_true rfl (unpaired_of_isLow hlow)
  | case7 u v rest hu hlow ih =>
    rw [Option.map_eq_none_iff, ih,
      unpaired_cons_iff (Bool.eq_false_iff.2 hu) (Bool.eq_false_iff.2 hlow)]

end XmlQuery.Utf16
