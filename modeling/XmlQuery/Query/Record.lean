import XmlQuery.Document.Node
import XmlQuery.Json

/-!
# Records

A record shows a node without its document, in the same shape for every kind of node.

## Main definitions

* `Record`, `AttributeRecord`: a node and an attribute of an element
* `Record.ofNode`: the record of a node
* `Record.toJson`, `Record.ofJson?`: records as JSON
* `expectOne`: the only record of a list
-/

namespace XmlQuery

namespace NodeKind

/-- A kind as JSON. -/
def toJson (k : NodeKind) : Json := .string k.label

/-- The kind that a JSON value names; as an object, with null for its content. -/
def ofJson? (j : Json) : Option NodeKind :=
  match j.choice? with
  | some (word, none) | some (word, some .null) => ofLabel? word
  | _ => none

theorem ofJson?_toJson (k : NodeKind) : ofJson? k.toJson = some k := by
  simp [toJson, ofJson?, Json.choice?, ofLabel?_label]

end NodeKind

namespace Query

/-- An attribute of an element. -/
structure AttributeRecord where
  /-- The local part of the name. -/
  name : String
  /-- The prefix, or the empty text. -/
  nsPrefix : String
  /-- The namespace, or the empty text. -/
  uri : String
  /-- The value. -/
  value : String
  deriving DecidableEq

/-- A node. -/
structure Record where
  /-- The kind. -/
  kind : NodeKind
  /-- The local part of the name of an element; empty for other kinds. -/
  name : String
  /-- The prefix, or the empty text. -/
  nsPrefix : String
  /-- The namespace, or the empty text. -/
  uri : String
  /-- The attributes of an element in document order, namespace declarations included. -/
  attributes : List AttributeRecord
  /-- Character data, the value of an attribute or the target of a declaration. -/
  data : String
  deriving DecidableEq

namespace AttributeRecord

/-- The record of an attribute. -/
def ofNode (d : Document) (id : Nat) : AttributeRecord :=
  let name := d.name id
  ⟨name.localPart, name.nsPrefix, name.uri, d.value id⟩

/-- The names of the fields in JSON. -/
def fieldNames : List String := ["name", "prefix", "namespace_uri", "value"]

/-- An attribute as JSON. -/
def toJson (a : AttributeRecord) : Json :=
  .object (fieldNames.zip [.string a.name, .string a.nsPrefix, .string a.uri, .string a.value])

/-- The attribute that a JSON value is. -/
def ofJson? (j : Json) : Option AttributeRecord := do
  let [name, nsPrefix, uri, value] ← j.fields? fieldNames | none
  return ⟨← Json.required Json.string? name, ← Json.required Json.string? nsPrefix,
    ← Json.required Json.string? uri, ← Json.required Json.string? value⟩

/-- An attribute reads back from its JSON. -/
theorem ofJson?_toJson (a : AttributeRecord) : ofJson? a.toJson = some a := by
  simp [ofJson?, toJson, fieldNames, Json.fields?, List.lookup_cons, Json.required, Json.string?]

end AttributeRecord

namespace Record

/-- The record of a node. -/
def ofNode (d : Document) (id : Nat) : Record :=
  let name := d.name id
  let isElement := d.kind? id == some .element
  { kind := (d.kind? id).getD .document
    name := if isElement then name.localPart else ""
    nsPrefix := name.nsPrefix
    uri := name.uri
    attributes := if isElement then (d.attributes id).map (AttributeRecord.ofNode d) else []
    data := d.data id }

/-- The names of the fields in JSON. -/
def fieldNames : List String := ["type", "name", "prefix", "namespace_uri", "attributes", "data"]

/-- A record as JSON. -/
def toJson (r : Record) : Json :=
  .object (fieldNames.zip [r.kind.toJson, .string r.name, .string r.nsPrefix, .string r.uri,
    .array (r.attributes.map AttributeRecord.toJson), .string r.data])

/-- The record that a JSON value is. -/
def ofJson? (j : Json) : Option Record := do
  let [kind, name, nsPrefix, uri, attributes, data] ← j.fields? fieldNames | none
  return ⟨← Json.required NodeKind.ofJson? kind, ← Json.required Json.string? name,
    ← Json.required Json.string? nsPrefix, ← Json.required Json.string? uri,
    ← Json.required (Json.array? AttributeRecord.ofJson?) attributes,
    ← Json.required Json.string? data⟩

end Record

/-- A query that has to find one node finds another number of them. -/
structure CardinalityError where
  /-- How many nodes it finds. -/
  found : Nat
  deriving DecidableEq

/-- The wording of the error. -/
def CardinalityError.message (e : CardinalityError) : String :=
  "found " ++ toString e.found ++ " nodes, expected 1"

/-- The only element of a list. -/
def expectOne {α : Type} : List α → Except CardinalityError α
  | [a] => .ok a
  | items => .error ⟨items.length⟩

end Query

end XmlQuery
