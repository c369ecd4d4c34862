/-!
# Functions

## Main definitions

* `Builtin`: a function that expressions can call
* `Builtin.label`, `Builtin.ofLabel?`: its name
* `Builtin.arity`: how many arguments it takes
-/

namespace XmlQuery.XPath

/-- A function that expressions can call. -/
inductive Builtin
  /-- The number of nodes around the context node. -/
  | last
  /-- The place of the context node among them. -/
  | position
  /-- The number of nodes. -/
  | count
  /-- The element with an identifier, which needs a validated document. -/
  | id
  /-- The local part of a name. -/
  | localName
  /-- The namespace of a name. -/
  | namespaceUri
  /-- A name as written. -/
  | name
  /-- The conversion to a string. -/
  | string
  /-- Strings joined together. -/
  | concat
  /-- Whether a string starts with another. -/
  | startsWith
  /-- Whether a string ends with another. -/
  | endsWith
  /-- Whether a string holds another. -/
  | contains
  /-- What stands in front of the first occurrence of a string. -/
  | substringBefore
  /-- What stands behind the first occurrence of a string. -/
  | substringAfter
  /-- A part of a string. -/
  | substring
  /-- The number of characters. -/
  | stringLength
  /-- Words with single spaces between them. -/
  | normalizeSpace
  /-- Characters replaced one by one. -/
  | translate
  /-- A string in lower case. -/
  | lowerCase
  /-- A string in upper case. -/
  | upperCase
  /-- The conversion to a boolean. -/
  | boolean
  /-- The opposite. -/
  | not
  /-- True. -/
  | constTrue
  /-- False. -/
  | constFalse
  /-- Whether the context node is in a language. -/
  | lang
  /-- The conversion to a number. -/
  | number
  /-- The sum of the numbers of nodes. -/
  | sum
  /-- The next integer below. -/
  | floor
  /-- The next integer above. -/
  | ceiling
  /-- The nearest integer. -/
  | round
  deriving DecidableEq

namespace Builtin

/-- All functions. -/
def all : List Builtin :=
  [.last, .position, .count, .id, .localName, .namespaceUri, .name, .string, .concat,
    .startsWith, .endsWith, .contains, .substringBefore, .substringAfter, .substring,
    .stringLength, .normalizeSpace, .translate, .lowerCase, .upperCase, .boolean, .not,
    .constTrue, .constFalse, .lang, .number, .sum, .floor, .ceiling, .round]

/-- The name by which a function is called. -/
def label : Builtin → String
  | .last => "last"
  | .position => "position"
  | .count => "count"
  | .id => "id"
  | .localName => "local-name"
  | .namespaceUri => "namespace-uri"
  | .name => "name"
  | .string => "string"
  | .concat => "concat"
  | .startsWith => "starts-with"
  | .endsWith => "ends-with"
  | .contains => "contains"
  | .substringBefore => "substring-before"
  | .substringAfter => "substring-after"
  | .substring => "substring"
  | .stringLength => "string-length"
  | .normalizeSpace => "normalize-space"
  | .translate => "translate"
  | .lowerCase => "lower-case"
  | .upperCase => "upper-case"
  | .boolean => "boolean"
  | .not => "not"
  | .constTrue => "true"
  | .constFalse => "false"
  | .lang => "lang"
  | .number => "number"
  | .sum => "sum"
  | .floor => "floor"
  | .ceiling => "ceiling"
  | .round => "round"

/-- The function that is called by a name. -/
def ofLabel? (name : String) : Option Builtin := all.find? (·.label == name)

theorem ofLabel?_label (f : Builtin) : ofLabel? f.label = some f := by
  cases f <;> rfl

theorem ofLabel?_eq_some_iff {name : String} {f : Builtin} :
    ofLabel? name = some f ↔ f.label = name := by
  constructor
  · intro h
    have hfound := List.find?_some (p := fun f => label f == name) h
    exact beq_iff_eq.1 hfound
  · rintro rfl
    exact ofLabel?_label f

end Builtin

/-- How many arguments a function takes. -/
structure Arity where
  /-- The least number. -/
  least : Nat
  /-- The greatest number, if there is one. -/
  most : Option Nat
  deriving DecidableEq

namespace Arity

/-- A fixed number of arguments. -/
def exactly (n : Nat) : Arity := ⟨n, some n⟩

/-- A number of arguments between two bounds. -/
def between (least most : Nat) : Arity := ⟨least, some most⟩

/-- The number of arguments is accepted. -/
def accepts (a : Arity) (count : Nat) : Bool := a.least ≤ count && a.most.all (count ≤ ·)

/-- The accepted numbers in words. -/
def text (a : Arity) : String :=
  match a.most with
  | none => "at least " ++ toString a.least
  | some most =>
    if most = a.least then "exactly " ++ toString a.least
    else toString a.least ++ " to " ++ toString most

end Arity

/-- How many arguments a function takes. -/
def Builtin.arity : Builtin → Arity
  | .last | .position | .constTrue | .constFalse => .exactly 0
  | .localName | .namespaceUri | .name | .string | .stringLength | .normalizeSpace | .number =>
    .between 0 1
  | .count | .id | .lowerCase | .upperCase | .boolean | .not | .lang | .sum | .floor | .ceiling
  | .round => .exactly 1
  | .startsWith | .endsWith | .contains | .substringBefore | .substringAfter => .exactly 2
  | .substring => .between 2 3
  | .translate => .exactly 3
  | .concat => ⟨2, none⟩

end XmlQuery.XPath
