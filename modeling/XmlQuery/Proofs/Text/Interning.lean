import Mathlib.Data.List.Induction
import Mathlib.Data.List.Nodup
import XmlQuery.Proofs.Text.Bytes
import XmlQuery.Text.Pool

/-!
# Interning

A pool stands for the list of its strings: the empty one, and those that were interned, in the order
in which they first came. The list says what is in the buffer, where each string is in it, and by
which numbers a hash is looked up. The number of a string is its index in the list, so that strings
with equal hashes are told apart, and numbers stand for strings as long as they fit into 32 bits.

## Main definitions

* `distinct`: the strings of a pool after some calls
* `Fits`: strings that have few enough bytes
* `Holds`: a pool stands for a list of strings
* `Tiles`: the entries of a pool are parts of its buffer that follow one another
* `History`: a pool and the numbers that it has given
* `Interned`: what holds of a pool and its numbers after some calls

## Main results

* `Holds.get_number`: a number stands for its string
* `Holds.intern`: interning adds a string to the list, or finds it there
* `Holds.tiles`: the entries tile the buffer
* `run_eq`: what a pool is and what it answered after any calls
* `interned_run`: **numbers stand for strings, one for each, whatever the hash**
-/

namespace XmlQuery.Text.Pool

variable {hash : String → UInt64} {strings front back calls : List String} {s : String}
  {p : Pool hash}

/-! ## Lists of strings -/

/-- The strings of a pool after some calls: the empty one, and the others in the order in which they
first came. -/
def distinct (calls : List String) : List String := ("" :: calls).eraseDups

/-- The number of a string in a list. -/
def number (strings : List String) (s : String) : UInt32 := .ofNat (strings.idxOf s)

/-- The part of a buffer that a string has behind other ones. -/
def spanBehind (front : List String) (s : String) : Span :=
  ⟨.ofNat (String.join front).utf8ByteSize, .ofNat s.utf8ByteSize⟩

/-- Where a part of a buffer ends, as it is computed. -/
def stop (x : Span) : Nat := (x.offset + x.size).toNat

/-- Strings have so few bytes that 32 bits count them. -/
def Fits (strings : List String) : Prop := (String.join strings).utf8ByteSize < UInt32.size

instance (strings : List String) : Decidable (Fits strings) := Nat.decLt _ _

theorem mem_distinct : s ∈ distinct calls ↔ s = "" ∨ s ∈ calls := by
  rw [distinct, List.mem_eraseDups, List.mem_cons]

/-- Strings with one more, which comes behind the others if it is new. -/
def add (strings : List String) (s : String) : List String :=
  if s ∈ strings then strings else strings ++ [s]

theorem isPrefix_add (strings : List String) (s : String) : strings <+: add strings s := by
  rw [add]
  split
  · exact List.prefix_refl strings
  · exact List.prefix_append strings [s]

/-- A call adds a string. -/
theorem distinct_concat (calls : List String) (s : String) :
    distinct (calls ++ [s]) = add (distinct calls) s := by
  have hmem : s ∈ distinct calls ↔ s ∈ "" :: calls := List.mem_eraseDups
  rw [distinct, ← List.cons_append, List.eraseDups_append, ← distinct, List.removeAll,
    List.filter_cons, List.elem_eq_mem, List.filter_nil, add]
  by_cases hs : s ∈ distinct calls
  · rw [if_pos hs, decide_eq_true (hmem.1 hs)]
    exact List.append_nil _
  · rw [if_neg hs, decide_eq_false (mt hmem.2 hs)]
    rfl

theorem isPrefix_distinct (calls later : List String) :
    distinct calls <+: distinct (calls ++ later) := by
  rw [distinct, distinct, ← List.cons_append, List.eraseDups_append]
  exact List.prefix_append _ _

/-- A string keeps its number when others come behind it. -/
theorem number_of_isPrefix {longer : List String} (h : strings <+: longer) (hs : s ∈ strings) :
    number longer s = number strings s := by
  obtain ⟨back, rfl⟩ := h
  rw [number, number, List.idxOf_append_of_mem hs]

/-- A new string gets the next number. -/
theorem number_concat (hs : s ∉ strings) :
    number (strings ++ [s]) s = .ofNat strings.length := by
  rw [number, List.idxOf_append, if_neg hs, List.idxOf_cons_self, Nat.zero_add]

theorem utf8ByteSize_join_concat (front : List String) (s : String) :
    (String.join (front ++ [s])).utf8ByteSize =
      (String.join front).utf8ByteSize + s.utf8ByteSize := by
  rw [String.join_append, String.utf8ByteSize_append, String.join_cons, String.join_nil,
    String.append_empty]

theorem Fits.of_isPrefix {longer : List String} (h : Fits longer) (hlonger : strings <+: longer) :
    Fits strings := by
  obtain ⟨back, rfl⟩ := hlonger
  rw [Fits, String.join_append, String.utf8ByteSize_append] at h
  exact Nat.lt_of_le_of_lt (Nat.le_add_right _ _) h

/-- There is a byte for each string that is not empty. -/
theorem length_le_of_not_mem (h : "" ∉ strings) :
    strings.length ≤ (String.join strings).utf8ByteSize := by
  induction strings with
  | nil => exact Nat.le_refl 0
  | cons s rest ih =>
    obtain ⟨hs, hrest⟩ := not_or.1 (mt List.mem_cons.2 h)
    have hpos : 0 < s.utf8ByteSize :=
      Nat.pos_of_ne_zero fun hzero => hs (String.utf8ByteSize_eq_zero_iff.1 hzero).symm
    have hle := ih hrest
    rw [List.length_cons, String.join_cons, String.utf8ByteSize_append]
    omega

/-- A string stands behind as many as its number says. -/
theorem exists_split (h : s ∈ strings) :
    ∃ front back, strings = front ++ s :: back ∧ strings.idxOf s = front.length := by
  obtain ⟨front, back, rfl, hnot⟩ := List.eq_append_cons_of_mem h
  refine ⟨front, back, rfl, ?_⟩
  rw [List.idxOf_append, if_neg hnot, List.idxOf_cons_self, Nat.zero_add]

/-- Where the part of a string starts and ends is computed without overflow. -/
theorem toNat_spanBehind (h : Fits (front ++ s :: back)) :
    (spanBehind front s).offset.toNat = (String.join front).utf8ByteSize ∧
      (spanBehind front s).size.toNat = s.utf8ByteSize ∧
      stop (spanBehind front s) = (String.join front).utf8ByteSize + s.utf8ByteSize := by
  rw [Fits, String.join_append, String.join_cons, String.utf8ByteSize_append,
    String.utf8ByteSize_append] at h
  have hoffset : (spanBehind front s).offset.toNat = (String.join front).utf8ByteSize :=
    UInt32.toNat_ofNat_of_lt' (by omega)
  have hsize : (spanBehind front s).size.toNat = s.utf8ByteSize :=
    UInt32.toNat_ofNat_of_lt' (by omega)
  refine ⟨hoffset, hsize, ?_⟩
  have hsum : (String.join front).utf8ByteSize + s.utf8ByteSize < UInt32.size := by omega
  rw [stop, UInt32.toNat_add, hoffset, hsize]
  exact Nat.mod_eq_of_lt hsum

/-! ## What a pool stands for -/

/-- A pool stands for a list of strings, of which the empty one is the first. -/
structure Holds (strings : List String) (p : Pool hash) : Prop where
  /-- The empty string has the number 0. -/
  head : strings.head? = some ""
  /-- Every string is there once. -/
  nodup : strings.Nodup
  /-- The buffer has the strings back to back. -/
  data_eq : p.data = (String.join strings).toUTF8
  /-- There is an entry for each. -/
  size_eq : p.entries.size = strings.length
  /-- It is the part of the buffer that the string has behind those in front of it. -/
  entry : ∀ front s back, strings = front ++ s :: back →
    p.entries[front.length]? = some (spanBehind front s)
  /-- A hash is that of the strings whose numbers are found by it. -/
  mem_bucket : ∀ h id, id ∈ p.bucket h ↔
    ∃ s ∈ strings, s ≠ "" ∧ hash s = h ∧ id = number strings s

theorem holds_empty : Holds [""] (empty : Pool hash) where
  head := rfl
  nodup := List.nodup_singleton ""
  data_eq := rfl
  size_eq := rfl
  entry front s back h := by
    cases front with
    | nil =>
      obtain ⟨rfl, -⟩ := List.cons.inj h
      rfl
    | cons t front => simp at h
  mem_bucket h id := by
    rw [bucket, empty, Std.HashMap.getD_empty]
    refine iff_of_false nofun ?_
    rintro ⟨s, hs, hne, -⟩
    exact hne (List.mem_singleton.1 hs)

theorem bucket_push (p : Pool hash) (s : String) (k : UInt64) :
    (p.push s).bucket k =
      if hash s = k then p.bucket k ++ [.ofNat p.entries.size] else p.bucket k := by
  rw [bucket, push, Std.HashMap.getD_insert]
  by_cases hk : hash s = k
  · rw [if_pos (beq_iff_eq.2 hk), if_pos hk, hk]
  · rw [if_neg (fun hbeq => hk (eq_of_beq hbeq)), if_neg hk, bucket]

namespace Holds

theorem empty_mem (h : Holds strings p) : "" ∈ strings := List.mem_of_head? h.head

/-- The strings are few enough to be numbered. -/
theorem toNat_number (h : Holds strings p) (hfits : Fits strings) (hs : s ∈ strings) :
    (number strings s).toNat = strings.idxOf s := by
  have hlt : strings.idxOf s < strings.length := List.idxOf_lt_length_of_mem hs
  obtain ⟨rest, rfl⟩ := List.head?_eq_some_iff.1 h.head
  have hrest : rest.length ≤ (String.join rest).utf8ByteSize :=
    length_le_of_not_mem (List.nodup_cons.1 h.nodup).1
  rw [Fits, String.join_cons, String.empty_append] at hfits
  rw [List.length_cons] at hlt
  exact UInt32.toNat_ofNat_of_lt' (by omega)

/-- The part of a string in the buffer holds it. -/
theorem slice_eq (h : Holds (front ++ s :: back) p) (hfits : Fits (front ++ s :: back)) :
    p.slice (spanBehind front s) = s := by
  obtain ⟨hoffset, -, hstop⟩ := toNat_spanBehind hfits
  have hdata : p.data.extract (String.join front).utf8ByteSize
      ((String.join front).utf8ByteSize + s.utf8ByteSize) = s.toUTF8 := by
    rw [h.data_eq, String.join_append, String.join_cons]
    simp only [String.toUTF8_eq_toByteArray, String.toByteArray_append]
    exact (ByteArray.extract_append_size_add' (i := 0) String.size_toByteArray.symm).trans
      (ByteArray.extract_append_eq_left String.size_toByteArray.symm)
  have hutf8 : String.fromUTF8? s.toUTF8 = some s := dif_pos s.isValidUTF8
  rw [slice, hoffset, ← stop, hstop, hdata, hutf8]
  rfl

/-- **A number stands for its string.** -/
theorem get_number (h : Holds strings p) (hfits : Fits strings) (hs : s ∈ strings) :
    p.get (number strings s) = s := by
  rw [get, h.toNat_number hfits hs]
  obtain ⟨front, back, rfl, hindex⟩ := exists_split hs
  rw [hindex, h.entry front s back rfl, Option.map_some, h.slice_eq hfits]
  rfl

/-- Strings with one number are one string. -/
theorem number_inj (h : Holds strings p) (hfits : Fits strings) {t : String} (hs : s ∈ strings)
    (ht : t ∈ strings) : number strings s = number strings t ↔ s = t := by
  refine ⟨fun heq => ?_, congrArg _⟩
  rw [← h.get_number hfits hs, heq, h.get_number hfits ht]

theorem number_empty (h : Holds strings p) : number strings "" = 0 := by
  obtain ⟨rest, rfl⟩ := List.head?_eq_some_iff.1 h.head
  rw [number, List.idxOf_cons_self]
  rfl

/-- A number that is not given stands for the empty string. -/
theorem get_of_le (h : Holds strings p) {id : UInt32} (hid : strings.length ≤ id.toNat) :
    p.get id = "" := by
  rw [get, Array.getElem?_eq_none (h.size_eq ▸ hid)]
  rfl

/-- Strings with equal hashes are told apart, as their numbers stand for them. -/
theorem find?_eq (h : Holds strings p) (hfits : Fits strings) (s : String) :
    p.find? s = if s ∈ strings then some (number strings s) else none := by
  by_cases hempty : s = ""
  · rw [find?, if_pos hempty, hempty, if_pos h.empty_mem, h.number_empty]
  · rw [find?, if_neg hempty]
    cases hfind : (p.bucket (hash s)).find? (p.get · == s) with
    | some id =>
      have hid := List.mem_of_find?_eq_some hfind
      have hget : p.get id = s := by simpa using List.find?_some hfind
      obtain ⟨t, ht, -, -, rfl⟩ := (h.mem_bucket _ _).1 hid
      rw [h.get_number hfits ht] at hget
      subst hget
      rw [if_pos ht]
    | none =>
      rw [if_neg]
      intro hs
      refine List.find?_eq_none.1 hfind _ ((h.mem_bucket _ _).2 ⟨s, hs, hempty, rfl, rfl⟩) ?_
      exact beq_iff_eq.2 (h.get_number hfits hs)

/-- A new string comes behind the others. -/
theorem push (h : Holds strings p) (hs : s ∉ strings) : Holds (strings ++ [s]) (p.push s) where
  head := by
    obtain ⟨rest, hrest⟩ := List.head?_eq_some_iff.1 h.head
    rw [hrest]
    rfl
  nodup := by
    rw [← List.concat_eq_append]
    exact h.nodup.concat hs
  data_eq := by
    rw [Pool.push, h.data_eq, String.join_append]
    simp [String.join]
  size_eq := by
    rw [Pool.push, Array.size_push, h.size_eq, List.length_append, List.length_singleton]
  entry front t back heq := by
    rw [Pool.push, Array.getElem?_push]
    rcases List.eq_nil_or_concat' back with rfl | ⟨back, u, rfl⟩
    · -- The string is the new one.
      obtain ⟨rfl, hst⟩ := List.append_inj' heq rfl
      obtain ⟨rfl, -⟩ := List.cons.inj hst
      rw [if_pos h.size_eq.symm, h.data_eq]
      rfl
    · rw [← List.cons_append, ← List.append_assoc] at heq
      obtain ⟨rfl, -⟩ := List.append_inj' heq rfl
      have hlt : front.length < p.entries.size := by
        rw [h.size_eq]
        simp
      rw [if_neg (Nat.ne_of_lt hlt), h.entry front t back rfl]
  mem_bucket k id := by
    have hnumber : ∀ t ∈ strings, number (strings ++ [s]) t = number strings t := fun t ht =>
      number_of_isPrefix (List.prefix_append strings [s]) ht
    have hmem : id ∈ (p.push s).bucket k ↔
        id ∈ p.bucket k ∨ hash s = k ∧ id = number (strings ++ [s]) s := by
      rw [bucket_push, number_concat hs, h.size_eq]
      split
      · next hk => rw [List.mem_append, List.mem_singleton, and_iff_right hk]
      · next hk => rw [or_iff_left fun hnew => hk hnew.1]
    rw [hmem, h.mem_bucket]
    constructor
    · rintro (⟨t, ht, hne, hk, rfl⟩ | ⟨hk, rfl⟩)
      · exact ⟨t, List.mem_append_left _ ht, hne, hk, (hnumber t ht).symm⟩
      · exact ⟨s, by simp, fun hempty => hs (hempty ▸ h.empty_mem), hk, rfl⟩
    · rintro ⟨t, ht, hne, hk, rfl⟩
      rcases List.mem_append.1 ht with ht | ht
      · exact .inl ⟨t, ht, hne, hk, hnumber t ht⟩
      · obtain rfl := List.mem_singleton.1 ht
        exact .inr ⟨hk, rfl⟩

/-- **Interning finds a string or adds it**, and gives its number. -/
theorem intern (h : Holds strings p) (hfits : Fits strings) (s : String) :
    (p.intern s).1 = number (add strings s) s ∧ Holds (add strings s) (p.intern s).2 := by
  rw [Pool.intern, h.find?_eq hfits, add]
  by_cases hs : s ∈ strings
  · rw [if_pos hs, if_pos hs]
    exact ⟨rfl, h⟩
  · rw [if_neg hs, if_neg hs]
    exact ⟨by rw [number_concat hs, h.size_eq], h.push hs⟩

/-! ### Entries -/

theorem exists_of_getElem? (h : Holds strings p) {i : Nat} {x : Span}
    (hx : p.entries[i]? = some x) :
    ∃ front s back, strings = front ++ s :: back ∧ front.length = i ∧ x = spanBehind front s := by
  have hi : i < strings.length := by
    rw [← h.size_eq]
    exact (Array.getElem?_eq_some_iff.1 hx).1
  have hlength : (strings.take i).length = i := List.length_take_of_le (Nat.le_of_lt hi)
  have hsplit : strings = strings.take i ++ strings[i] :: strings.drop (i + 1) := by
    rw [← List.drop_eq_getElem_cons hi, List.take_append_drop]
  have hentry := h.entry _ _ _ hsplit
  rw [hlength, hx, Option.some_inj] at hentry
  exact ⟨_, _, _, hsplit, hlength, hentry⟩

/-- What is between two entries are the strings that are. -/
theorem exists_between (h : Holds strings p) (hfits : Fits strings) {i j : Nat} {x y : Span}
    (hij : i < j) (hx : p.entries[i]? = some x) (hy : p.entries[j]? = some y) :
    ∃ between : List String, i + 1 + between.length = j ∧
      y.offset.toNat = stop x + (String.join between).utf8ByteSize := by
  obtain ⟨front, s, back, hs, rfl, rfl⟩ := h.exists_of_getElem? hx
  obtain ⟨front', t, back', ht, rfl, rfl⟩ := h.exists_of_getElem? hy
  obtain ⟨-, -, hstop⟩ := toNat_spanBehind (hs ▸ hfits)
  obtain ⟨hoffset, -⟩ := toNat_spanBehind (ht ▸ hfits)
  have hleft : front ++ [s] <+: strings := ⟨back, by rw [hs, ← List.append_cons]⟩
  have hright : front' <+: strings := ⟨t :: back', ht.symm⟩
  obtain ⟨between, rfl⟩ := List.prefix_of_prefix_length_le hleft hright
    (by rwa [List.length_append, List.length_singleton])
  refine ⟨between, by rw [List.length_append, List.length_append, List.length_singleton], ?_⟩
  rw [hoffset, hstop, String.join_append, String.utf8ByteSize_append, utf8ByteSize_join_concat]

theorem exists_of_mem (h : Holds strings p) {x : Span} (hx : x ∈ p.entries) :
    ∃ front s back, strings = front ++ s :: back ∧ x = spanBehind front s := by
  obtain ⟨i, hi⟩ := Array.mem_iff_getElem?.1 hx
  obtain ⟨front, s, back, hs, -, rfl⟩ := h.exists_of_getElem? hi
  exact ⟨front, s, back, hs, rfl⟩

theorem size_data (h : Holds strings p) : p.data.size = (String.join strings).utf8ByteSize := by
  rw [h.data_eq, String.toUTF8_eq_toByteArray, String.size_toByteArray]

end Holds

/-- The entries of a pool are the parts of its buffer that strings have back to back. -/
structure Tiles (strings : List String) (p : Pool hash) : Prop where
  /-- The buffer has the strings back to back. -/
  data_eq : p.data = (String.join strings).toUTF8
  /-- The entries hold the strings, in their order. -/
  slices : p.entries.toList.map p.slice = strings
  /-- The first entry starts at the front of the buffer. -/
  first : ∀ x, p.entries[0]? = some x → x.offset = 0
  /-- Each other one starts where the one in front of it ends. -/
  consecutive : ∀ (i : Nat) (x y : Span), p.entries[i]? = some x → p.entries[i + 1]? = some y →
    y.offset.toNat = stop x
  /-- The last one ends at the end of the buffer. -/
  last : ∀ x, p.entries.back? = some x → stop x = p.data.size
  /-- No two overlap. -/
  disjoint : ∀ (i j : Nat) (x y : Span), i < j → p.entries[i]? = some x → p.entries[j]? = some y →
    stop x ≤ y.offset.toNat
  /-- No end overflows or is beyond the buffer. -/
  in_range : ∀ x ∈ p.entries, stop x = x.offset.toNat + x.size.toNat ∧ stop x ≤ p.data.size
  /-- Entries start and end between characters. -/
  boundaries : ∀ x ∈ p.entries, IsBoundary (String.join strings).toList x.offset.toNat ∧
    IsBoundary (String.join strings).toList (stop x)

theorem utf8Length_toList (s : String) : utf8Length s.toList = s.utf8ByteSize := by
  rw [← Utf8.length_encode, ← String.size_toByteArray, ← String.utf8Encode_toList, List.utf8Encode,
    List.size_toByteArray]
  rfl

/-- Between strings that stand back to back, no character is cut. -/
theorem isBoundary_join (front back : List String) :
    IsBoundary (String.join (front ++ back)).toList (String.join front).utf8ByteSize := by
  refine ⟨(String.join front).toList, (String.join back).toList, ?_, (utf8Length_toList _).symm⟩
  rw [String.join_append, String.toList_append]

/-- **The entries of a pool tile its buffer.** -/
theorem Holds.tiles (h : Holds strings p) (hfits : Fits strings) : Tiles strings p where
  data_eq := h.data_eq
  slices := by
    refine List.ext_getElem? fun i => ?_
    rw [List.getElem?_map, Array.getElem?_toList]
    cases hx : p.entries[i]? with
    | none =>
      rw [Array.getElem?_eq_none_iff, h.size_eq] at hx
      exact (List.getElem?_eq_none hx).symm
    | some x =>
      obtain ⟨front, s, back, rfl, rfl, rfl⟩ := h.exists_of_getElem? hx
      rw [Option.map_some, h.slice_eq hfits]
      simp
  first x hx := by
    obtain ⟨front, s, back, -, hlength, rfl⟩ := h.exists_of_getElem? hx
    rw [List.eq_nil_of_length_eq_zero hlength]
    rfl
  consecutive i x y hx hy := by
    obtain ⟨between, hlength, hoffset⟩ := h.exists_between hfits (Nat.lt_succ_self i) hx hy
    obtain rfl := List.eq_nil_of_length_eq_zero (by omega : between.length = 0)
    exact hoffset
  last x hx := by
    rw [Array.back?_eq_getElem?] at hx
    obtain ⟨front, s, back, rfl, hlength, rfl⟩ := h.exists_of_getElem? hx
    have hback : back = [] := by
      rw [h.size_eq, List.length_append, List.length_cons] at hlength
      exact List.eq_nil_of_length_eq_zero (by omega)
    rw [(toNat_spanBehind hfits).2.2, h.size_data, hback, utf8ByteSize_join_concat]
  disjoint i j x y hij hx hy := by
    obtain ⟨between, -, hoffset⟩ := h.exists_between hfits hij hx hy
    rw [hoffset]
    exact Nat.le_add_right _ _
  in_range x hx := by
    obtain ⟨front, s, back, rfl, rfl⟩ := h.exists_of_mem hx
    obtain ⟨hoffset, hsize, hstop⟩ := toNat_spanBehind hfits
    rw [hoffset, hsize, hstop, h.size_data, String.join_append, String.join_cons,
      String.utf8ByteSize_append, String.utf8ByteSize_append]
    exact ⟨rfl, by omega⟩
  boundaries x hx := by
    obtain ⟨front, s, back, rfl, rfl⟩ := h.exists_of_mem hx
    obtain ⟨hoffset, -, hstop⟩ := toNat_spanBehind hfits
    have hend := isBoundary_join (front ++ [s]) back
    rw [← List.append_cons, utf8ByteSize_join_concat] at hend
    rw [hoffset, hstop]
    exact ⟨isBoundary_join front (s :: back), hend⟩

/-! ## Calls -/

/-- A pool, and the strings that were interned with the numbers that they got. -/
structure History (hash : String → UInt64) where
  /-- The pool. -/
  pool : Pool hash
  /-- The strings and their numbers, the last one behind the others. -/
  numbers : List (String × UInt32)

/-- A string is interned. -/
def History.call (h : History hash) (s : String) : History hash :=
  ⟨(h.pool.intern s).2, h.numbers ++ [(s, (h.pool.intern s).1)]⟩

/-- Strings are interned in order, the first one into a new pool. -/
def run (hash : String → UInt64) (calls : List String) : History hash :=
  calls.foldl History.call ⟨empty, []⟩

theorem run_concat (hash : String → UInt64) (calls : List String) (s : String) :
    run hash (calls ++ [s]) = (run hash calls).call s := List.foldl_concat ..

/-- **A pool stands for the strings of its calls**, and has numbered them so. -/
theorem run_eq (hash : String → UInt64) (hfits : Fits (distinct calls)) :
    Holds (distinct calls) (run hash calls).pool ∧
      (run hash calls).numbers = calls.map fun s => (s, number (distinct calls) s) := by
  induction calls using List.reverseRecOn with
  | nil => exact ⟨holds_empty, rfl⟩
  | append_singleton calls s ih =>
    rw [distinct_concat] at hfits ⊢
    have hlonger := isPrefix_add (distinct calls) s
    obtain ⟨hholds, hnumbers⟩ := ih (hfits.of_isPrefix hlonger)
    obtain ⟨hnumber, hintern⟩ := hholds.intern (hfits.of_isPrefix hlonger) s
    have hold : ∀ t ∈ calls, number (add (distinct calls) s) t = number (distinct calls) t :=
      fun t ht => number_of_isPrefix hlonger (mem_distinct.2 (.inr ht))
    rw [run_concat, History.call]
    refine ⟨hintern, ?_⟩
    rw [hnumbers, hnumber, List.map_append, List.map_singleton]
    exact congrArg (· ++ _) (List.map_congr_left fun t ht => by rw [hold t ht])

/-- What holds of a pool and the numbers that it has given after some calls. -/
structure Interned (calls : List String) (h : History hash) : Prop where
  /-- Every call was answered. -/
  asked : h.numbers.map (·.1) = calls
  /-- A number stands for the string that it was given for. -/
  get_eq : ∀ entry ∈ h.numbers, h.pool.get entry.2 = entry.1
  /-- It still does after further calls. -/
  get_later : ∀ later, Fits (distinct (calls ++ later)) → ∀ entry ∈ h.numbers,
    (run hash (calls ++ later)).pool.get entry.2 = entry.1
  /-- Equal numbers were given for equal strings. -/
  number_eq_iff : ∀ x ∈ h.numbers, ∀ y ∈ h.numbers, x.2 = y.2 ↔ x.1 = y.1
  /-- The empty string alone has the number 0. -/
  number_eq_zero_iff : ∀ x ∈ h.numbers, x.2 = 0 ↔ x.1 = ""
  /-- The numbers count the strings in the order in which they first came. -/
  dense : h.numbers.map (·.2.toNat) = calls.map (distinct calls).idxOf
  /-- A number that was not given stands for the empty string. -/
  get_unknown : ∀ id : UInt32, h.pool.entries.size ≤ id.toNat → h.pool.get id = ""
  /-- The entries tile the buffer. -/
  tiles : Tiles (distinct calls) h.pool

/-- **Numbers stand for strings, one for each**, whatever the hash: after any calls whose strings
fit. -/
theorem interned_run (hash : String → UInt64) (calls : List String)
    (hfits : Fits (distinct calls)) : Interned calls (run hash calls) := by
  obtain ⟨hholds, hnumbers⟩ := run_eq hash hfits
  have hentry : ∀ x ∈ (run hash calls).numbers,
      x.1 ∈ distinct calls ∧ x.2 = number (distinct calls) x.1 := by
    intro x hx
    rw [hnumbers] at hx
    obtain ⟨s, hs, rfl⟩ := List.mem_map.1 hx
    exact ⟨mem_distinct.2 (.inr hs), rfl⟩
  constructor
  case asked =>
    rw [hnumbers, List.map_map]
    exact List.map_id calls
  case get_eq =>
    intro x hx
    obtain ⟨hmem, hnumber⟩ := hentry x hx
    rw [hnumber, hholds.get_number hfits hmem]
  case get_later =>
    intro later hlater x hx
    obtain ⟨hmem, hnumber⟩ := hentry x hx
    have hlonger := isPrefix_distinct calls later
    rw [hnumber, ← number_of_isPrefix hlonger hmem]
    exact (run_eq hash hlater).1.get_number hlater (hlonger.mem hmem)
  case number_eq_iff =>
    intro x hx y hy
    obtain ⟨hxmem, hxnumber⟩ := hentry x hx
    obtain ⟨hymem, hynumber⟩ := hentry y hy
    rw [hxnumber, hynumber, hholds.number_inj hfits hxmem hymem]
  case number_eq_zero_iff =>
    intro x hx
    obtain ⟨hmem, hnumber⟩ := hentry x hx
    rw [hnumber, ← hholds.number_empty, hholds.number_inj hfits hmem hholds.empty_mem]
  case dense =>
    rw [hnumbers, List.map_map]
    exact List.map_congr_left fun s hs => hholds.toNat_number hfits (mem_distinct.2 (.inr hs))
  case get_unknown => exact fun id hid => hholds.get_of_le (hholds.size_eq ▸ hid)
  case tiles => exact hholds.tiles hfits

/-- Strings that have one hash get different numbers. -/
theorem interned_run_colliding :
    Fits (distinct ["b", "", "ab", "b"]) ∧
      Interned ["b", "", "ab", "b"] (run (fun _ => 0) ["b", "", "ab", "b"]) :=
  ⟨by decide, interned_run (fun _ => 0) ["b", "", "ab", "b"] (by decide)⟩

end XmlQuery.Text.Pool
