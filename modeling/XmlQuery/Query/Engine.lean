import XmlQuery.Document.Parse
import XmlQuery.Query.Loader
import XmlQuery.Query.Record
import XmlQuery.Query.Request
import XmlQuery.Query.Settings
import XmlQuery.XPath.Cache
import XmlQuery.XPath.Machine

/-!
# Queries

A query compiles its expression, loads and parses its document, selects nodes and shows them as
records. The expression is compiled first, so that a faulty one costs no request. An engine keeps
compiled expressions if it is told to; otherwise it compiles anew every time.

## Main definitions

* `QueryError`: why a query has no answer
* `queryDocument`: the answer for a document at hand
* `Engine`: settings, and a cache of compiled expressions if there is one
* `Engine.compile`, `Engine.run`: the steps of an engine
-/

namespace XmlQuery.Query

open XPath (Bindings Cache CacheKey CachedExpression CompiledExpression CompileError EvalError Lru)
open Markup (ParseError)

/-- Why a query has no answer. -/
inductive QueryError
  /-- The document cannot be loaded. -/
  | load (e : LoadError)
  /-- The document is not well-formed. -/
  | parse (e : ParseError)
  /-- The expression does not compile. -/
  | compile (e : CompileError)
  /-- The expression has no value for the document, or one that is not a node-set. -/
  | eval (e : EvalError)

/-- The wording of the error. -/
def QueryError.message : QueryError → String
  | .load e => "cannot load content: " ++ e.message
  | .parse e => "cannot parse content: " ++ e.text
  | .compile e => "failed to compile expression: " ++ e.message
  | .eval e => "failed to evaluate expression: " ++ e.message

/-- The records of the nodes that an expression selects in a document. -/
def selectRecords (bytes : List UInt8) (e : CompiledExpression) :
    Except QueryError (List Record) := do
  let d ← (Document.parse bytes).mapError .parse
  let nodes ← (XPath.select d 0 e).mapError .eval
  return nodes.map (Record.ofNode d)

/-- The answer to a query of a document at hand. -/
def queryDocument (bytes : List UInt8) (expression : String) (b : Bindings) :
    Except QueryError (List Record) := do
  let e ← (CompiledExpression.compile expression b).mapError .compile
  selectRecords bytes e

/-- An engine: its settings, and the expressions that it keeps. -/
structure Engine (σ : Type) where
  /-- The settings. -/
  settings : Settings
  /-- The compiled expressions, if any are kept. -/
  cache : Option (Cache σ)
  /-- How often the engine has been used; the number of the next use. -/
  served : Nat

namespace Engine

variable {σ : Type} [Lru σ CacheKey CachedExpression]

/-- An engine that has not been used. -/
def ofSettings (s : Settings) : Engine σ := ⟨s, Cache.ofCapacity? s.cacheCapacity, 0⟩

/-- A compiled expression, from the cache if there is one, and the engine after its use. -/
def compile (g : Engine σ) (expression : String) (b : Bindings) :
    Except CompileError CachedExpression × Engine σ :=
  match g.cache with
  | some cache =>
    let (result, cache) := cache.get g.served expression b
    (result, { g with cache := some cache, served := g.served + 1 })
  | none =>
    ((CompiledExpression.compile expression b).map (⟨g.served, ·⟩),
      { g with served := g.served + 1 })

/-- The answer to a request, and the engine after it. -/
def run (g : Engine σ) (loader : Loader) (r : Request) :
    Except QueryError (List Record) × Engine σ :=
  let (compiled, g) := g.compile r.expression r.bindings
  let answer := do
    let e ← compiled.mapError .compile
    let bytes ← (r.source.load loader).mapError .load
    selectRecords bytes e.expression
  (answer, g)

end Engine

end XmlQuery.Query
