import XmlQuery.Text.Pool

/-!
# Stores of strings

Strings are kept once and known by numbers, of which zero is that of the empty string. A pool does
so in 32 bits. A register counts without a bound, so that numbers never run out.

## Main definitions

* `Store`: what keeps strings under numbers
* `Register`: strings with natural numbers
-/

namespace XmlQuery.Text

/-- What keeps strings under numbers. The empty string has the number zero. -/
class Store (σ : Type) (ι : outParam Type) where
  /-- The store that keeps the empty string alone. -/
  empty : σ
  /-- The number of a string, and the store with the string in it. -/
  intern : σ → String → ι × σ
  /-- The string with a number. -/
  get : σ → ι → String

instance (hash : String → UInt64) : Store (Pool hash) UInt32 where
  empty := .empty
  intern := Pool.intern
  get := Pool.get

/-- Strings with natural numbers, in the order in which they first came. -/
structure Register where
  /-- The strings. -/
  strings : Array String
  /-- The numbers of the strings that are not empty. -/
  numbers : Std.HashMap String Nat

namespace Register

/-- The register that keeps the empty string alone. -/
def empty : Register := ⟨[""].toArray, ∅⟩

/-- The number of a string, and the register with the string in it. -/
def intern (r : Register) (s : String) : Nat × Register :=
  if s = "" then (0, r)
  else
    match r.numbers[s]? with
    | some id => (id, r)
    | none => (r.strings.size, ⟨r.strings.push s, r.numbers.insert s r.strings.size⟩)

/-- The string with a number; the empty string if there is none. -/
def get (r : Register) (id : Nat) : String := r.strings[id]?.getD ""

instance : Store Register Nat := ⟨empty, intern, get⟩

end Register

end XmlQuery.Text
