import XmlQuery.XPath.Compile
import XmlQuery.XPath.Lru

/-!
# A cache of compiled expressions

The cache keeps the expressions that were used last, up to its capacity. An expression is known by
its text and its bindings, in whatever order these were made. Expressions that do not compile are
not kept.

## Main definitions

* `Cache`: the expressions that are kept
* `Cache.get`: a compiled expression, from the cache or new
-/

namespace XmlQuery.XPath

/-- What a compiled expression is known by. -/
structure CacheKey where
  /-- The text of the expression. -/
  source : String
  /-- The bindings, in the order of their prefixes. -/
  bindings : List (String × String)
  deriving DecidableEq

/-- What an expression with its bindings is known by. -/
def CacheKey.of (source : String) (b : Bindings) : CacheKey := ⟨source, b.sorted⟩

/-- A compiled expression, and a number that tells it from what was compiled at other times. -/
structure CachedExpression where
  /-- The number of the call that compiled it. -/
  serial : Nat
  /-- The expression. -/
  expression : CompiledExpression

/-- The expressions that are kept, in a map of those that were used last. -/
structure Cache (σ : Type) where
  /-- The expressions. -/
  entries : σ

namespace Cache

variable {σ : Type} [Lru σ CacheKey CachedExpression]

/-- A cache without expressions, if there is room for any. -/
def ofCapacity? (capacity : Nat) : Option (Cache σ) :=
  if h : 0 < capacity then some ⟨Lru.new capacity h⟩ else none

/-- The number of expressions. -/
def size (c : Cache σ) : Nat := Lru.len c.entries

/-- The cache keeps no expression. -/
def isEmpty (c : Cache σ) : Bool := c.size == 0

/-- The cache without its expressions. -/
def clear (c : Cache σ) : Cache σ := ⟨Lru.clear c.entries⟩

/-- A compiled expression, and the cache after its use. One that is compiled anew gets the number of
the call. -/
def get (c : Cache σ) (serial : Nat) (source : String) (b : Bindings) :
    Except CompileError CachedExpression × Cache σ :=
  let key := CacheKey.of source b
  match Lru.get c.entries key with
  | (some e, entries) => (.ok e, ⟨entries⟩)
  | (none, entries) =>
    match CompiledExpression.compile source b with
    | .error error => (.error error, ⟨entries⟩)
    | .ok expression =>
      let e : CachedExpression := ⟨serial, expression⟩
      (.ok e, ⟨Lru.put entries key e⟩)

/-- What a cache shows of itself. -/
def describe (c : Cache σ) : String :=
  "ExpressionCache \x7b len: " ++ toString c.size ++ " \x7d"

end Cache

end XmlQuery.XPath
