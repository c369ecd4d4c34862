/-!
# Expressions

## Main definitions

* `Axis`, `NodeTest`: the parts of a location step
* `BinaryOp`: the operators between two operands
* `Expr`: an expression
* `Step`: a location step of an expression
-/

namespace XmlQuery.XPath

/-- The direction of a location step. -/
inductive Axis
  /-- The contents of the node. -/
  | child
  /-- What is below the node. -/
  | descendant
  /-- The node and what is below it. -/
  | descendantOrSelf
  /-- The node that holds the node. -/
  | parent
  /-- The nodes that hold the node, directly or not. -/
  | ancestor
  /-- The node and the nodes that hold it. -/
  | ancestorOrSelf
  /-- What comes after the node in the contents of its parent. -/
  | followingSibling
  /-- What comes before the node in the contents of its parent. -/
  | precedingSibling
  /-- What comes after the end of the node. -/
  | following
  /-- What has ended before the node. -/
  | preceding
  /-- The node. -/
  | self
  /-- The attributes of the node. -/
  | attribute
  /-- The namespaces in force at the node, which are not represented. -/
  | namespaces
  deriving DecidableEq

namespace Axis

/-- All axes. -/
def all : List Axis :=
  [.child, .descendant, .descendantOrSelf, .parent, .ancestor, .ancestorOrSelf,
    .followingSibling, .precedingSibling, .following, .preceding, .self, .attribute, .namespaces]

/-- The name of an axis. -/
def name : Axis → String
  | .child => "child"
  | .descendant => "descendant"
  | .descendantOrSelf => "descendant-or-self"
  | .parent => "parent"
  | .ancestor => "ancestor"
  | .ancestorOrSelf => "ancestor-or-self"
  | .followingSibling => "following-sibling"
  | .precedingSibling => "preceding-sibling"
  | .following => "following"
  | .preceding => "preceding"
  | .self => "self"
  | .attribute => "attribute"
  | .namespaces => "namespace"

/-- The axis with a name. -/
def ofName? (name : String) : Option Axis := all.find? (·.name == name)

theorem ofName?_name (a : Axis) : ofName? a.name = some a := by
  cases a <;> rfl

end Axis

/-- What a location step asks of a node. -/
inductive NodeTest
  /-- The node is of the main kind of the axis. -/
  | any
  /-- The node has this name. -/
  | name (localPart : String)
  /-- The node has this name in the namespace of the prefix. -/
  | qname (nsPrefix localPart : String)
  /-- The node has a name in the namespace of the prefix. -/
  | wildcard (nsPrefix : String)
  /-- Nothing is asked. -/
  | node
  /-- The node is character data. -/
  | text
  /-- The node is a comment. -/
  | comment
  /-- The node is a processing instruction, with this target if one is given. -/
  | instruction (target : Option String)
  deriving DecidableEq

/-- An operator between two operands. -/
inductive BinaryOp
  /-- Disjunction. -/
  | or
  /-- Conjunction. -/
  | and
  /-- Equality. -/
  | eq
  /-- Inequality. -/
  | notEq
  /-- Less. -/
  | lt
  /-- Less or equal. -/
  | ltEq
  /-- Greater. -/
  | gt
  /-- Greater or equal. -/
  | gtEq
  /-- Addition. -/
  | add
  /-- Subtraction. -/
  | sub
  /-- Multiplication. -/
  | mul
  /-- Division. -/
  | div
  /-- Remainder. -/
  | mod
  deriving DecidableEq

/-- An expression. -/
inductive Expr
  /-- The document. -/
  | root
  /-- The nodes of two node-sets. -/
  | union (left right : Expr)
  /-- A location step from every node of a node-set. -/
  | path (base : Expr) (axis : Axis) (test : NodeTest) (predicates : List Expr)
  /-- A location step from the context node. -/
  | step (axis : Axis) (test : NodeTest) (predicates : List Expr)
  /-- The nodes of a node-set that pass a predicate. -/
  | filter (base predicate : Expr)
  /-- A function call. -/
  | call (function : String) (arguments : List Expr)
  /-- An operator with its operands. -/
  | binary (op : BinaryOp) (left right : Expr)
  /-- The negative of a number. -/
  | negate (operand : Expr)
  /-- A number literal. -/
  | number (value : Float)
  /-- A string literal. -/
  | string (value : String)
  /-- A variable. -/
  | variable (name : String)

/-- A location step of an expression. -/
structure Step where
  /-- The direction. -/
  axis : Axis
  /-- What is asked of the nodes in that direction. -/
  test : NodeTest
  /-- The predicates that the nodes have to pass, one after the other. -/
  predicates : List Expr

namespace Step

/-- The step to all nodes of an axis. -/
def anyNode (axis : Axis) : Step := ⟨axis, .node, []⟩

/-- The step from the context node. -/
def toExpr (s : Step) : Expr := .step s.axis s.test s.predicates

end Step

namespace Expr

/-- A step from every node of a node-set. -/
def andStep (base : Expr) (s : Step) : Expr := .path base s.axis s.test s.predicates

/-- The nodes of a node-set and what is below them. -/
def withDescendants (base : Expr) : Expr := base.andStep (.anyNode .descendantOrSelf)

end Expr

end XmlQuery.XPath
