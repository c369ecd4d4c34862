import XmlQuery.Query.Source
import XmlQuery.XPath.Bindings

/-!
# Requests

## Main definitions

* `Request`: an expression, the source of a document, and the prefixes of the expression
-/

namespace XmlQuery

namespace XPath.Bindings

/-- Bindings as JSON. -/
def toJson (b : Bindings) : Json :=
  .object (b.entries.map fun (p, uri) => (p, .string uri))

/-- The bindings that a JSON value gives: the members of an object as a map, none of them empty. -/
def ofJson? : Json → Option Bindings
  | .object members => do
    let pairs ← members.mapM fun (p, uri) => uri.string?.map (p, ·)
    (ofMap (.ofPairs pairs)).toOption
  | _ => none

end XPath.Bindings

namespace Query

open XPath (Bindings)

/-- What a query asks for. -/
structure Request where
  /-- The expression. -/
  expression : String
  /-- Where the document comes from. -/
  source : Source
  /-- The prefixes of the expression. -/
  bindings : Bindings
  deriving DecidableEq

namespace Request

/-- The names of the fields in JSON. -/
def fieldNames : List String := ["expression", "source", "bindings"]

/-- A request as JSON. -/
def toJson (r : Request) : Json :=
  .object (fieldNames.zip [.string r.expression, r.source.toJson, r.bindings.toJson])

/-- The request that a JSON value is. -/
def ofJson? (j : Json) : Option Request := do
  let [expression, source, bindings] ← j.fields? fieldNames | none
  return ⟨← Json.required Json.string? expression, ← Json.required Source.ofJson? source,
    ← Json.optional Bindings.ofJson? .empty bindings⟩

end Request

end Query

end XmlQuery
