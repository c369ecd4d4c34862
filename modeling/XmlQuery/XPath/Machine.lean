import XmlQuery.XPath.Compile
import XmlQuery.XPath.Library
import XmlQuery.XPath.Operator

/-!
# Running programs

A program runs on a stack of values, the top one first. The node-sets on it are in document order
and without repetitions; the nodes that a step leads to are filtered in the order of its axis.

## Main definitions

* `inDocumentOrder`: nodes in document order and without repetitions
* `filterNodes`: the nodes that pass a test at their places
* `Op.run`, `runOps`: the stack after an operation and after a program
* `Program.value`: the value of a program
* `evaluate`, `select`: the value and the nodes of a compiled expression
-/

namespace XmlQuery.XPath

/-- A sequence without repetitions of neighbours. -/
def withoutRepetitions : List Nat → List Nat
  | [] => []
  | [a] => [a]
  | a :: b :: rest =>
    if a = b then withoutRepetitions (b :: rest) else a :: withoutRepetitions (b :: rest)

/-- Nodes in document order and without repetitions. -/
def inDocumentOrder (nodes : List Nat) : List Nat :=
  withoutRepetitions (nodes.mergeSort (fun a b => decide (a ≤ b)))

/-- The value of a predicate lets a node at a place pass: a number if it is the place. -/
def passes (place : Nat) : Value → Bool
  | .number n => Number.ofNat place == n
  | v => v.toBoolean

/-- The nodes, from a place on among `size`, that a predicate lets pass. -/
def filterFrom (test : Context → Except EvalError Value) (size : Nat) :
    (place : Nat) → List Nat → Except EvalError (List Nat)
  | _, [] => .ok []
  | place, node :: rest => do
    let v ← test ⟨node, place, size⟩
    let others ← filterFrom test size (place + 1) rest
    return if passes place v then node :: others else others

/-- The nodes that a predicate lets pass at their places. -/
def filterNodes (test : Context → Except EvalError Value) (nodes : List Nat) :
    Except EvalError (List Nat) :=
  filterFrom test nodes.length 1 nodes

/-- The nodes of the value on top of a stack, and the rest of the stack. -/
def popNodes (operation : NodeSetOperation) :
    List Value → Except EvalError (List Nat × List Value)
  | .nodeSet nodes :: rest => .ok (nodes, rest)
  | v :: _ => .error (.notNodeSet operation v.type)
  | [] => .error .emptyStack

/-- The value on top of a stack, and the rest of the stack. -/
def pop : List Value → Except EvalError (Value × List Value)
  | v :: rest => .ok (v, rest)
  | [] => .error .emptyStack

/-- The nodes of steps from several nodes, one after the other. -/
def collect (reach : Nat → Except EvalError (List Nat)) :
    List Nat → Except EvalError (List Nat)
  | [] => .ok []
  | node :: rest => do
    let first ← reach node
    let others ← collect reach rest
    return first ++ others

mutual

/-- The stack after an operation. -/
def Op.run (d : Document) (op : Op) (c : Context) (stack : List Value) :
    Except EvalError (List Value) :=
  match op with
  | .root => .ok (.nodeSet [0] :: stack)
  | .context => .ok (.nodeSet [c.node] :: stack)
  | .step axis test predicates => do
    let (nodes, rest) ← popNodes .step stack
    let found ← collect (fun node =>
      runPredicates d predicates ((axis.nodes d node).filter (test.holds d axis))) nodes
    return .nodeSet (inDocumentOrder found) :: rest
  | .predicate program => do
    let (nodes, rest) ← popNodes .predicate stack
    let found ← filterNodes (fun c => do return (← pop (← runOps d program c [])).1) nodes
    return .nodeSet found :: rest
  | .union => do
    let (right, rest) ← popNodes .union stack
    let (left, rest) ← popNodes .union rest
    return .nodeSet (inDocumentOrder (left ++ right)) :: rest
  | .number value => .ok (.number value :: stack)
  | .string value => .ok (.string value :: stack)
  | .negate => do
    let (v, rest) ← pop stack
    return .number (-(v.toNumber d)) :: rest
  | .and right => do
    let (v, rest) ← pop stack
    if v.toBoolean then
      let (w, _) ← pop (← runOps d right c [])
      return .boolean w.toBoolean :: rest
    else return .boolean false :: rest
  | .or right => do
    let (v, rest) ← pop stack
    if v.toBoolean then return .boolean true :: rest
    else
      let (w, _) ← pop (← runOps d right c [])
      return .boolean w.toBoolean :: rest
  | .binary op => do
    let (y, rest) ← pop stack
    let (x, rest) ← pop rest
    return applyBinary d op x y :: rest
  | .call f count => do
    if stack.length < count then throw .emptyStack
    let v ← f.apply d c (stack.take count).reverse
    return v :: stack.drop count

/-- The stack after a program. -/
def runOps (d : Document) (program : List Op) (c : Context) (stack : List Value) :
    Except EvalError (List Value) :=
  match program with
  | [] => .ok stack
  | op :: rest => do
    let next ← op.run d c stack
    runOps d rest c next

/-- The nodes that pass all of some predicates, one after the other. -/
def runPredicates (d : Document) (predicates : List (List Op)) (nodes : List Nat) :
    Except EvalError (List Nat) :=
  match predicates with
  | [] => .ok nodes
  | program :: rest => do
    let kept ← filterNodes (fun c => do return (← pop (← runOps d program c [])).1) nodes
    runPredicates d rest kept

end

/-- The value that a program leaves on top of an empty stack. -/
def Program.value (d : Document) (program : Program) (c : Context) : Except EvalError Value := do
  return (← pop (← runOps d program c [])).1

/-- The value of a compiled expression at a node. -/
def evaluate (d : Document) (node : Nat) (e : CompiledExpression) : Except EvalError Value :=
  Program.value d e.program (.ofNode node)

/-- The nodes of a compiled expression at a node, in document order. -/
def select (d : Document) (node : Nat) (e : CompiledExpression) :
    Except EvalError (List Nat) :=
  match evaluate d node e with
  | .error error => .error error
  | .ok (.nodeSet nodes) => .ok (nodes.filter (· < d.size))
  | .ok v => .error (.notSelection e.source v.type)

/-! ## Programs one after the other -/

/-- A program that goes on as another one leaves the other one its stack. -/
theorem runOps_append (d : Document) (p q : Program) (c : Context) (stack : List Value) :
    runOps d (p ++ q) c stack = runOps d p c stack >>= runOps d q c := by
  induction p generalizing stack with
  | nil => rfl
  | cons op p ih =>
    rw [List.cons_append, runOps, runOps]
    cases op.run d c stack with
    | error e => rfl
    | ok next => exact ih next

/-- Values are put on the stack one after the other. -/
example (d : Document) (c : Context) :
    runOps d [.string "a", .root] c [] = .ok [.nodeSet [0], .string "a"] := by cbv

theorem runOps_singleton (d : Document) (op : Op) (c : Context) (stack : List Value) :
    runOps d [op] c stack = op.run d c stack := by
  rw [runOps]
  cases op.run d c stack <;> rfl

end XmlQuery.XPath
