import XmlQuery.Number.Arithmetic
import XmlQuery.XPath.Expr
import XmlQuery.XPath.Value

/-!
# Operators

A comparison with a node-set holds if it holds for the string-value of one of its nodes; against
a boolean the node-set is converted as a whole.

## Main definitions

* `compare`: the comparison of two values
* `applyBinary`: the value of an operator on two values
-/

namespace XmlQuery.XPath

/-- Two values that are no node-sets are equal: as booleans if one is a boolean, else as numbers
if one is a number, else as strings. -/
def atomicEq (d : Document) (x y : Value) : Bool :=
  if x.type = .boolean ∨ y.type = .boolean then x.toBoolean == y.toBoolean
  else if x.type = .number ∨ y.type = .number then x.toNumber d == y.toNumber d
  else x.toText d == y.toText d

/-- A comparison of two values that are no node-sets; all but equality compares numbers. -/
def compareAtomic (d : Document) (op : BinaryOp) (x y : Value) : Bool :=
  match op with
  | .eq => atomicEq d x y
  | .notEq => !atomicEq d x y
  | .lt => x.toNumber d < y.toNumber d
  | .ltEq => x.toNumber d ≤ y.toNumber d
  | .gt => y.toNumber d < x.toNumber d
  | .gtEq => y.toNumber d ≤ x.toNumber d
  | _ => false

/-- The string-value of a node as a value. -/
def nodeText (d : Document) (id : Nat) : Value := .string (d.stringValue id)

/-- A comparison of two values. -/
def compare (d : Document) (op : BinaryOp) (x y : Value) : Bool :=
  match x, y with
  | .nodeSet l, .nodeSet r =>
    let right := r.map (nodeText d)
    l.any fun id =>
      let left := nodeText d id
      right.any (compareAtomic d op left)
  | .nodeSet l, .boolean b => compareAtomic d op (.boolean (!l.isEmpty)) (.boolean b)
  | .boolean b, .nodeSet r => compareAtomic d op (.boolean b) (.boolean (!r.isEmpty))
  | .nodeSet l, y => l.any fun id => compareAtomic d op (nodeText d id) y
  | x, .nodeSet r => r.any fun id => compareAtomic d op x (nodeText d id)
  | x, y => compareAtomic d op x y

/-- The value of an operator on two values. -/
def applyBinary (d : Document) (op : BinaryOp) (x y : Value) : Value :=
  match op with
  | .or => .boolean (x.toBoolean || y.toBoolean)
  | .and => .boolean (x.toBoolean && y.toBoolean)
  | .add => .number (x.toNumber d + y.toNumber d)
  | .sub => .number (x.toNumber d - y.toNumber d)
  | .mul => .number (x.toNumber d * y.toNumber d)
  | .div => .number (x.toNumber d / y.toNumber d)
  | .mod => .number (Number.remainder (x.toNumber d) (y.toNumber d))
  | op => .boolean (compare d op x y)

end XmlQuery.XPath
