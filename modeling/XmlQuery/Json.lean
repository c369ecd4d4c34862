/-!
# JSON values

Records, requests and settings are exchanged as JSON values. A structure is read from an object
by the names of its fields, and other members are ignored, or from an array by their places.
Null is a value like any other and never stands for a missing field.

## Main definitions

* `Json`: a JSON value
* `Json.string?`, `Json.natural?`, `Json.array?`: what a value is read as
* `Json.fields?`: the fields of a structure
* `Json.choice?`: one of several alternatives
-/

namespace XmlQuery

/-- A JSON value. -/
inductive Json
  /-- The value null. -/
  | null
  /-- A boolean. -/
  | boolean (value : Bool)
  /-- A number that is written as an integer. -/
  | integer (value : Int)
  /-- A number that is written with a fraction or an exponent, as it is written. -/
  | decimal (text : String)
  /-- A string. -/
  | string (value : String)
  /-- An array. -/
  | array (elements : List Json)
  /-- An object: its members, no two of which have the same name. -/
  | object (members : List (String × Json))
  deriving Inhabited

namespace Json

/-- The string that a value is. -/
def string? : Json → Option String
  | .string s => some s
  | _ => none

/-- The number of sixty-four bits that a value is. -/
def natural? : Json → Option Nat
  | .integer n => if 0 ≤ n ∧ n < Nat.pow 2 64 then some n.toNat else none
  | _ => none

/-- The elements of an array, each read in the same way. -/
def array? {α : Type} (read : Json → Option α) : Json → Option (List α)
  | .array elements => elements.mapM read
  | _ => none

/-- The fields of a structure, by their names or by their places. -/
def fields? (names : List String) : Json → Option (List (Option Json))
  | .object members => some (names.map fun name => List.lookup name members)
  | .array elements =>
    if elements.length ≤ names.length then
      some ((List.range names.length).map fun i => elements[i]?)
    else none
  | _ => none

/-- A field that has to be there. -/
def required {α : Type} (read : Json → Option α) : Option Json → Option α
  | some v => read v
  | none => none

/-- A field that has a default. -/
def optional {α : Type} (read : Json → Option α) (default : α) : Option Json → Option α
  | some v => read v
  | none => some default

/-- One of several alternatives: its name alone, or an object with its name and its content. -/
def choice? : Json → Option (String × Option Json)
  | .string name => some (name, none)
  | .object [(name, content)] => some (name, some content)
  | _ => none

end Json

end XmlQuery
