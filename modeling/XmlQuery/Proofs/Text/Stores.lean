import XmlQuery.Proofs.Text.Interning
import XmlQuery.Text.Store

/-!
# Lawful stores

What is built with the numbers of a store relies on little: interning adds a string to those that
the store keeps, and a number stands for its string as long as the strings fit. A pool keeps this
for strings whose bytes 32 bits count, a register for all strings.

## Main definitions

* `addAll`: a list of strings with further ones
* `LawfulStore`: a store stands for a list of strings, and its numbers for them
* `Register.Holds`: a register stands for a list of strings

## Main results

* `LawfulStore.number_inj`: strings with one number are one string
* `Register.Holds.intern`: interning finds a string in a register or adds it
-/

namespace XmlQuery.Text

open Pool (add isPrefix_add)

/-- Strings with further ones, each of which comes behind the others if it is new. -/
def addAll (strings new : List String) : List String := new.foldl add strings

section

variable (strings : List String) {s : String}

theorem addAll_append (new newer : List String) :
    addAll strings (new ++ newer) = addAll (addAll strings new) newer :=
  List.foldl_append

theorem isPrefix_addAll (new : List String) : strings <+: addAll strings new := by
  induction new generalizing strings with
  | nil => exact List.prefix_refl strings
  | cons s new ih => exact (isPrefix_add strings s).trans (ih (add strings s))

theorem mem_add_self (s : String) : s ∈ add strings s := by
  rw [add]
  split
  · next hs => exact hs
  · exact List.mem_append_right _ List.mem_cons_self

theorem mem_addAll {new : List String} (hs : s ∈ new) : s ∈ addAll strings new := by
  obtain ⟨front, back, rfl⟩ := List.append_of_mem hs
  rw [addAll_append]
  exact (isPrefix_addAll _ back).subset (mem_add_self _ s)

end

/-- A store stands for a list of strings, of which the empty one is the first, and a number for its
string if the strings fit. -/
class LawfulStore (σ : Type) {ι : outParam Type} [OfNat ι 0] [Store σ ι] where
  /-- So many strings can be numbered. -/
  Fits : List String → Prop
  /-- A store stands for the strings. -/
  Holds : List String → σ → Prop
  /-- The number of a string among others. -/
  number : List String → String → ι
  /-- If strings fit, so do those in front. -/
  fits_of_isPrefix {strings longer : List String} : Fits longer → strings <+: longer → Fits strings
  /-- The new store stands for the empty string. -/
  holds_empty : Holds [""] Store.empty
  /-- The empty string is there. -/
  empty_mem {strings : List String} {p : σ} : Holds strings p → "" ∈ strings
  /-- Its number is zero. -/
  number_empty {strings : List String} {p : σ} : Holds strings p → number strings "" = 0
  /-- A string keeps its number when others come behind it. -/
  number_of_isPrefix {strings longer : List String} {s : String} :
    strings <+: longer → s ∈ strings → number longer s = number strings s
  /-- A number stands for its string. -/
  get_number {strings : List String} {p : σ} {s : String} :
    Holds strings p → Fits strings → s ∈ strings → Store.get p (number strings s) = s
  /-- Interning adds a string, and gives its number. -/
  intern {strings : List String} {p : σ} (s : String) : Holds strings p → Fits strings →
    (Store.intern p s).1 = number (add strings s) s ∧ Holds (add strings s) (Store.intern p s).2

namespace LawfulStore

variable {σ ι : Type} [OfNat ι 0] [Store σ ι] [LawfulStore σ] {strings : List String} {p : σ}
  {s t : String}

/-- Strings with one number are one string. -/
theorem number_inj (h : Holds strings p) (hfits : Fits σ strings) (hs : s ∈ strings)
    (ht : t ∈ strings) : number σ strings s = number σ strings t ↔ s = t := by
  refine ⟨fun heq => ?_, congrArg _⟩
  rw [← get_number h hfits hs, heq, get_number h hfits ht]

end LawfulStore

instance (hash : String → UInt64) : LawfulStore (Pool hash) where
  Fits := Pool.Fits
  Holds := Pool.Holds
  number := Pool.number
  fits_of_isPrefix h hextends := h.of_isPrefix hextends
  holds_empty := Pool.holds_empty
  empty_mem h := h.empty_mem
  number_empty h := h.number_empty
  number_of_isPrefix := Pool.number_of_isPrefix
  get_number h hfits hs := h.get_number hfits hs
  intern s h hfits := h.intern hfits s

/-! ## Registers -/

namespace Register

variable {strings : List String} {r : Register} {s : String}

/-- A register stands for a list of strings, of which the empty one is the first. -/
structure Holds (strings : List String) (r : Register) : Prop where
  /-- The empty string has the number 0. -/
  head : strings.head? = some ""
  /-- The register has the strings in their order. -/
  strings_eq : r.strings.toList = strings
  /-- A string is known by its place among them. -/
  numbers_eq : ∀ s, s ≠ "" →
    r.numbers[s]? = if s ∈ strings then some (strings.idxOf s) else none

theorem holds_empty : Holds [""] empty where
  head := rfl
  strings_eq := rfl
  numbers_eq s hs := by
    rw [empty, Std.HashMap.getElem?_empty, if_neg (mt List.mem_singleton.1 hs)]

namespace Holds

theorem empty_mem (h : Holds strings r) : "" ∈ strings := List.mem_of_head? h.head

theorem idxOf_empty (h : Holds strings r) : strings.idxOf "" = 0 := by
  obtain ⟨rest, rfl⟩ := List.head?_eq_some_iff.1 h.head
  exact List.idxOf_cons_self

theorem get_idxOf (h : Holds strings r) (hs : s ∈ strings) : r.get (strings.idxOf s) = s := by
  rw [get, ← Array.getElem?_toList, h.strings_eq, List.getElem?_idxOf hs]
  rfl

/-- A new string comes behind the others. -/
theorem push (h : Holds strings r) (hs : s ∉ strings) :
    Holds (strings ++ [s]) ⟨r.strings.push s, r.numbers.insert s r.strings.size⟩ where
  head := by
    rw [List.head?_append, h.head]
    rfl
  strings_eq := by rw [Array.toList_push, h.strings_eq]
  numbers_eq t ht := by
    have hsize : r.strings.size = strings.length := by rw [← h.strings_eq, Array.length_toList]
    rw [Std.HashMap.getElem?_insert, h.numbers_eq t ht, hsize]
    -- The other strings keep their places, since the new one is behind them.
    by_cases hst : s = t
    · subst hst
      rw [if_pos (beq_self_eq_true s), if_pos (by simp), List.idxOf_append, if_neg hs,
        List.idxOf_cons_self, Nat.zero_add]
    · rw [if_neg (mt eq_of_beq hst)]
      by_cases hmem : t ∈ strings
      · rw [if_pos hmem, if_pos (List.mem_append_left _ hmem), List.idxOf_append_of_mem hmem]
      · rw [if_neg hmem, if_neg (by simp [hmem, Ne.symm hst])]

/-- **Interning finds a string or adds it**, and gives its place. -/
theorem intern (h : Holds strings r) (s : String) :
    (r.intern s).1 = (add strings s).idxOf s ∧ Holds (add strings s) (r.intern s).2 := by
  rw [Register.intern, add]
  by_cases hempty : s = ""
  · subst hempty
    rw [if_pos rfl, if_pos h.empty_mem]
    exact ⟨h.idxOf_empty.symm, h⟩
  · rw [if_neg hempty, h.numbers_eq s hempty]
    by_cases hs : s ∈ strings
    · rw [if_pos hs, if_pos hs]
      exact ⟨rfl, h⟩
    · rw [if_neg hs, if_neg hs]
      refine ⟨?_, h.push hs⟩
      rw [List.idxOf_append, if_neg hs, List.idxOf_cons_self, Nat.zero_add, ← h.strings_eq,
        Array.length_toList]

end Holds

instance : LawfulStore Register where
  Fits _ := True
  Holds := Holds
  number strings s := strings.idxOf s
  fits_of_isPrefix _ _ := trivial
  holds_empty := holds_empty
  empty_mem h := h.empty_mem
  number_empty h := h.idxOf_empty
  number_of_isPrefix := by
    rintro strings longer s ⟨back, rfl⟩ hs
    exact List.idxOf_append_of_mem hs
  get_number h _ hs := h.get_idxOf hs
  intern s h _ := h.intern s

end Register

end XmlQuery.Text
