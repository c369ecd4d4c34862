/-!
# Maps that keep what was used last

A map with room for some entries keeps those that were used last. A cache relies on the operations
of such a map, whatever the map is; one is a list, in which the entries stand in the order of their
uses.

## Main definitions

* `Lru`: the operations of a map that keeps what was used last
* `Recent`: entries in the order of their uses
-/

namespace XmlQuery.XPath

/-- The operations of a map that keeps the entries that were used last. -/
class Lru (σ : Type) (κ α : outParam Type) where
  /-- A map without entries, and with room for some. -/
  new : (capacity : Nat) → 0 < capacity → σ
  /-- The value of a key, and the map after its use. -/
  get : σ → κ → Option α × σ
  /-- The map with a value for a key. -/
  put : σ → κ → α → σ
  /-- The map without its entries. -/
  clear : σ → σ
  /-- The number of entries. -/
  len : σ → Nat
  /-- The number of entries that there is room for. -/
  capacity : σ → Nat
  /-- The entries, the last used one first. -/
  entries : σ → List (κ × α)

/-- Entries in the order of their uses. -/
structure Recent (κ α : Type) where
  /-- The number of entries that there is room for. -/
  capacity : Nat
  /-- There is room for some. -/
  capacity_pos : 0 < capacity
  /-- The entries, the last used one first. -/
  entries : List (κ × α)
  /-- There are no more of them than there is room for. -/
  length_le : entries.length ≤ capacity

namespace Recent

variable {κ α : Type} [DecidableEq κ]

/-- The entries with one of them as the last used one. -/
def touch (r : Recent κ α) (key : κ) (value : α) : Recent κ α :=
  { r with
    entries := ((key, value) :: r.entries.filter (·.1 ≠ key)).take r.capacity
    length_le := List.length_take_le .. }

/-- The value of a key, and the entries after its use. -/
def get (r : Recent κ α) (key : κ) : Option α × Recent κ α :=
  match r.entries.lookup key with
  | some value => (some value, r.touch key value)
  | none => (none, r)

instance : Lru (Recent κ α) κ α where
  new capacity h := ⟨capacity, h, [], Nat.zero_le capacity⟩
  get := get
  put := touch
  clear r := { r with entries := [], length_le := Nat.zero_le r.capacity }
  len r := r.entries.length
  capacity := capacity
  entries := entries

end Recent

end XmlQuery.XPath
