import Std.Data.HashMap

/-!
# String pools

A pool keeps every string once, all of them back to back in one buffer of bytes, and numbers them
in the order in which they first come. The empty string has the number 0. Strings are looked up
by a hash; strings with equal hashes share a bucket and are told apart by their text.

## Main definitions

* `Pool`: a pool with a given hash function
* `Pool.intern`: the number of a string, and the pool with the string in it
* `Pool.get`: the string with a number
-/

namespace XmlQuery.Text

/-- A part of a buffer. -/
structure Span where
  /-- The first byte. -/
  offset : UInt32
  /-- The number of bytes. -/
  size : UInt32
  deriving DecidableEq

/-- A pool of strings, which are looked up by a hash. -/
structure Pool (hash : String → UInt64) where
  /-- The strings back to back. -/
  data : ByteArray
  /-- The place of each string in the buffer. -/
  entries : Array Span
  /-- The numbers of the strings with each hash. -/
  buckets : Std.HashMap UInt64 (List UInt32)

namespace Pool

variable {hash : String → UInt64}

/-- The pool that holds the empty string alone. -/
def empty : Pool hash := ⟨.empty, [⟨0, 0⟩].toArray, ∅⟩

/-- The string in a part of the buffer. -/
def slice (p : Pool hash) (s : Span) : String :=
  (String.fromUTF8? (p.data.extract s.offset.toNat (s.offset + s.size).toNat)).getD ""

/-- The string with a number; the empty string if there is none. -/
def get (p : Pool hash) (id : UInt32) : String :=
  ((p.entries[id.toNat]?).map p.slice).getD ""

/-- The numbers of the strings with a hash. -/
def bucket (p : Pool hash) (h : UInt64) : List UInt32 := p.buckets.getD h []

/-- The number of a string that is in the pool. -/
def find? (p : Pool hash) (s : String) : Option UInt32 :=
  if s = "" then some 0 else (p.bucket (hash s)).find? (p.get · == s)

/-- The pool with a string at its end. -/
def push (p : Pool hash) (s : String) : Pool hash where
  data := p.data ++ s.toUTF8
  entries := p.entries.push ⟨.ofNat p.data.size, .ofNat s.toUTF8.size⟩
  buckets := p.buckets.insert (hash s) (p.bucket (hash s) ++ [.ofNat p.entries.size])

/-- The number of a string, and the pool with the string in it. -/
def intern (p : Pool hash) (s : String) : UInt32 × Pool hash :=
  match p.find? s with
  | some id => (id, p)
  | none => (.ofNat p.entries.size, p.push s)

/-- The number of strings, the empty one included. -/
def size (p : Pool hash) : Nat := p.entries.size

/-- The pool holds the empty string alone. -/
def isEmpty (p : Pool hash) : Bool := p.entries.size == 1

end Pool

end XmlQuery.Text
