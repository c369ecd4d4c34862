import XmlQuery.XPath.Expr
import XmlQuery.XPath.Function

/-!
# Programs

A compiled expression is a sequence of operations on a stack of values. Predicates and the right
operands of `and` and `or` are programs of their own, which run on a stack of their own. Names
carry namespaces, never prefixes.

## Main definitions

* `ResolvedTest`: a node test whose names carry namespaces
* `Op`: an operation
* `Program`: a sequence of operations
-/

namespace XmlQuery.XPath

/-- What a location step asks of a node, with the namespaces of names. -/
inductive ResolvedTest
  /-- The node is of the main kind of the axis. -/
  | any
  /-- The node has this local part in this namespace, which may be none. -/
  | name (uri localPart : String)
  /-- The node has a name in this namespace. -/
  | inNamespace (uri : String)
  /-- Nothing is asked. -/
  | node
  /-- The node is character data. -/
  | text
  /-- The node is a comment. -/
  | comment
  /-- The node is a processing instruction, with this target if one is given. -/
  | instruction (target : Option String)
  deriving DecidableEq

/-- An operation on a stack of values. -/
inductive Op
  /-- Pushes the document. -/
  | root
  /-- Pushes the context node. -/
  | context
  /-- Replaces a node-set by what a location step from its nodes leads to. -/
  | step (axis : Axis) (test : ResolvedTest) (predicates : List (List Op))
  /-- Keeps the nodes of a node-set that pass a predicate. -/
  | predicate (program : List Op)
  /-- Replaces two node-sets by the nodes of both. -/
  | union
  /-- Pushes a number. -/
  | number (value : Float)
  /-- Pushes a string. -/
  | string (value : String)
  /-- Replaces so many values by what a function makes of them. -/
  | call (function : Builtin) (count : Nat)
  /-- Replaces two values by what an operator makes of them. -/
  | binary (op : BinaryOp)
  /-- Replaces a value by its conjunction with that of a program, which runs only if needed. -/
  | and (right : List Op)
  /-- Replaces a value by its disjunction with that of a program, which runs only if needed. -/
  | or (right : List Op)
  /-- Replaces a value by its negative. -/
  | negate

/-- A sequence of operations. -/
abbrev Program := List Op

end XmlQuery.XPath
