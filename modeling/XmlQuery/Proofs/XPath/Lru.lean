import XmlQuery.XPath.Lru

/-!
# Lawful maps that keep what was used last

What a cache relies on is how the operations of its map move entries: finding a key makes its entry
the last used one, and so does putting one in, for which the entry that was used first has to go if
there is no room. Entries in a list that is cut off at its end do so.

## Main definitions

* `LawfulLru`: the map keeps the entries that were used last, in the order of their uses
-/

namespace XmlQuery.XPath

/-- The map keeps the entries that were used last, in the order of their uses. -/
class LawfulLru (σ : Type) {κ α : outParam Type} [DecidableEq κ] [Lru σ κ α] : Prop where
  /-- A new map has room for as many entries as it is told. -/
  capacity_new (n : Nat) (h : 0 < n) : Lru.capacity (Lru.new n h : σ) = n
  /-- A new map has no entries. -/
  entries_new (n : Nat) (h : 0 < n) : Lru.entries (Lru.new n h : σ) = []
  /-- The entries are counted. -/
  len_eq (m : σ) : Lru.len m = (Lru.entries m).length
  /-- What is found for a key is the value of its entry. -/
  value_get (m : σ) (key : κ) : (Lru.get m key).1 = (Lru.entries m).lookup key
  /-- The entry that is found becomes the last used one. -/
  entries_get (m : σ) {key : κ} {value : α} : (Lru.entries m).lookup key = some value →
    Lru.entries (Lru.get m key).2 = (key, value) :: (Lru.entries m).filter (·.1 ≠ key)
  /-- Where nothing is found the entries stay as they are. -/
  entries_get_of_none (m : σ) {key : κ} : (Lru.entries m).lookup key = none →
    Lru.entries (Lru.get m key).2 = Lru.entries m
  /-- Finding a key does not change the room. -/
  capacity_get (m : σ) (key : κ) : Lru.capacity (Lru.get m key).2 = Lru.capacity m
  /-- The entry of a new key is the last used one. -/
  entries_put (m : σ) {key : κ} (value : α) : (Lru.entries m).lookup key = none →
    (Lru.entries m).length < Lru.capacity m →
    Lru.entries (Lru.put m key value) = (key, value) :: Lru.entries m
  /-- Where there is no room for it the entry that was used first has to go. -/
  entries_put_of_full (m : σ) {key : κ} (value : α) : (Lru.entries m).lookup key = none →
    (Lru.entries m).length = Lru.capacity m →
    Lru.entries (Lru.put m key value) = (key, value) :: (Lru.entries m).dropLast
  /-- Putting an entry in does not change the room. -/
  capacity_put (m : σ) (key : κ) (value : α) :
    Lru.capacity (Lru.put m key value) = Lru.capacity m
  /-- A cleared map has no entries. -/
  entries_clear (m : σ) : Lru.entries (Lru.clear m) = []
  /-- Clearing does not change the room. -/
  capacity_clear (m : σ) : Lru.capacity (Lru.clear m) = Lru.capacity m

/-- The entries that are left of those with one of them as the last used one. -/
def Lru.touched {σ κ α : Type} [DecidableEq κ] [Lru σ κ α] (m : σ) (key : κ) (value : α) :
    List (κ × α) :=
  ((key, value) :: (entries m).filter (·.1 ≠ key)).take (capacity m)

section Entries

variable {κ α : Type} [DecidableEq κ] {entries : List (κ × α)} {key : κ} {value : α}

/-- A new key replaces no entry. -/
theorem filter_eq_self_of_lookup (h : entries.lookup key = none) :
    entries.filter (·.1 ≠ key) = entries := by
  rw [List.lookup_eq_none_iff] at h
  exact List.filter_eq_self.2 fun entry hentry =>
    decide_eq_true fun heq => bne_iff_ne.1 (h entry hentry) heq.symm

/-- The entry of a key that is there gives way to the one in front. -/
theorem length_filter_lt_of_lookup (h : entries.lookup key = some value) :
    (entries.filter (·.1 ≠ key)).length < entries.length := by
  obtain ⟨before, after, rfl, -⟩ := List.lookup_eq_some_iff.1 h
  exact List.length_filter_lt_length_iff_exists.2
    ⟨(key, value), List.mem_append_right _ List.mem_cons_self, by simp⟩

end Entries

namespace LawfulLru

variable {σ κ α : Type} [DecidableEq κ] [Lru σ κ α] [LawfulLru σ] {m : σ} {key : κ}

theorem entries_get_eq {value : α} (hkey : (Lru.entries m).lookup key = some value)
    (hlength : (Lru.entries m).length ≤ Lru.capacity m) :
    Lru.entries (Lru.get m key).2 = Lru.touched m key value := by
  rw [entries_get m hkey, Lru.touched]
  exact (List.take_of_length_le
    (Nat.le_trans (length_filter_lt_of_lookup hkey) hlength)).symm

theorem entries_put_eq (value : α) (hkey : (Lru.entries m).lookup key = none)
    (hpos : 0 < Lru.capacity m) (hlength : (Lru.entries m).length ≤ Lru.capacity m) :
    Lru.entries (Lru.put m key value) = Lru.touched m key value := by
  rw [Lru.touched, filter_eq_self_of_lookup hkey]
  rcases Nat.lt_or_eq_of_le hlength with hroom | hfull
  · rw [entries_put m value hkey hroom, List.take_of_length_le hroom]
  · rw [entries_put_of_full m value hkey hfull, List.take_cons hpos, List.dropLast_eq_take, hfull]

end LawfulLru

namespace Recent

variable {κ α : Type} [DecidableEq κ] {r : Recent κ α} {key : κ}

theorem get_of_some {value : α} (h : r.entries.lookup key = some value) :
    r.get key = (some value, r.touch key value) := by
  rw [get, h]

theorem get_of_none (h : r.entries.lookup key = none) : r.get key = (none, r) := by
  rw [get, h]

/-- The entry of a new key is put in front, and what there is no room for is cut off. -/
theorem entries_touch_of_none (value : α) (h : r.entries.lookup key = none) :
    (r.touch key value).entries = ((key, value) :: r.entries).take r.capacity :=
  congrArg (fun entries => ((key, value) :: entries).take r.capacity) (filter_eq_self_of_lookup h)

instance : LawfulLru (Recent κ α) where
  capacity_new _ _ := rfl
  entries_new _ _ := rfl
  len_eq _ := rfl
  value_get r key := by
    change (r.get key).1 = r.entries.lookup key
    cases h : r.entries.lookup key with
    | none => rw [get_of_none h]
    | some value => rw [get_of_some h]
  entries_get r key value h := by
    change (r.get key).2.entries = _
    rw [get_of_some h]
    exact List.take_of_length_le (Nat.le_trans (length_filter_lt_of_lookup h) r.length_le)
  entries_get_of_none r key h := by
    change (r.get key).2.entries = _
    rw [get_of_none h]
    rfl
  capacity_get r key := by
    change (r.get key).2.capacity = r.capacity
    cases h : r.entries.lookup key with
    | none => rw [get_of_none h]
    | some value => rw [get_of_some h, touch]
  entries_put r key value h hroom := by
    change (r.touch key value).entries = _
    rw [entries_touch_of_none value h]
    exact List.take_of_length_le hroom
  entries_put_of_full r key value h hfull := by
    change (r.touch key value).entries = (key, value) :: r.entries.dropLast
    have hfull : r.entries.length = r.capacity := hfull
    rw [entries_touch_of_none value h, List.take_cons r.capacity_pos, List.dropLast_eq_take, hfull]
  capacity_put _ _ _ := rfl
  entries_clear _ := rfl
  capacity_clear _ := rfl

end Recent

end XmlQuery.XPath
