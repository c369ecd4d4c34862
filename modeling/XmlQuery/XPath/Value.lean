import XmlQuery.Document.Node
import XmlQuery.Number.Text

/-!
# Values

Expressions have values of four types, which convert to each other. A node-set is converted by
way of the string-value of its first node.

## Main definitions

* `Value`: a value
* `Value.toBoolean`, `Value.toNumber`, `Value.toText`: its conversions
-/

namespace XmlQuery.XPath

/-- The types of values. -/
inductive ValueType
  /-- Node-sets. -/
  | nodeSet
  /-- Booleans. -/
  | boolean
  /-- Numbers. -/
  | number
  /-- Strings. -/
  | string
  deriving DecidableEq

/-- The word for a type. -/
def ValueType.name : ValueType → String
  | .nodeSet => "node-set"
  | .boolean => "boolean"
  | .number => "number"
  | .string => "string"

/-- A value. -/
inductive Value
  /-- A set of nodes, in document order. -/
  | nodeSet (nodes : List Nat)
  /-- A boolean. -/
  | boolean (value : Bool)
  /-- A number. -/
  | number (value : Float)
  /-- A string. -/
  | string (value : String)

namespace Value

/-- The type of a value. -/
def type : Value → ValueType
  | .nodeSet _ => .nodeSet
  | .boolean _ => .boolean
  | .number _ => .number
  | .string _ => .string

/-- The number that a text is converted to. -/
def numberOf (text : String) : Float := Number.read text.toList

/-- The text of a boolean. -/
def booleanText (b : Bool) : String := if b then "true" else "false"

/-- The conversion to a boolean: a node-set and a string are true unless they are empty, a number
unless it is zero or not a number. -/
def toBoolean : Value → Bool
  | .nodeSet nodes => !nodes.isEmpty
  | .boolean b => b
  | .number n => n != 0 && !n.isNaN
  | .string s => s != ""

/-- The conversion to a string. -/
def toText (d : Document) : Value → String
  | .nodeSet nodes => (nodes.head?.map d.stringValue).getD ""
  | .boolean b => booleanText b
  | .number n => Number.format n
  | .string s => s

/-- The conversion to a number. -/
def toNumber (d : Document) : Value → Float
  | .nodeSet nodes => numberOf ((nodes.head?.map d.stringValue).getD "")
  | .boolean b => if b then 1 else 0
  | .number n => n
  | .string s => numberOf s

end Value

end XmlQuery.XPath
