import XmlQuery.Proofs.XPath.Arguments
import XmlQuery.Proofs.XPath.CompiledCode

/-!
# Runs in range

A program that is made by hand may call a function with any number of arguments on a stack of any
height. The operation looks at the height before it takes the arguments off the stack, and the
function at their number before it reads them. So nothing goes out of range in a run, at any depth
of programs inside programs, and a run with its accesses comes to what the machine comes to.

## Main definitions

* `Op.checked`, `checkedOps`, `Program.checked`: runs together with their accesses
* `CallsInRange`: no call goes out of range, by itself or in a run

## Main results

* `comesTo_checkedOps`: a run stays in range and comes to the stack of the machine
* `callsInRange`: **no call goes out of range**, on any document
-/

namespace XmlQuery.XPath

open Checked (comesTo_ofOutcome comesTo_pure comesTo_valuesOff ofOutcome valuesOff)

/-- The nodes that a predicate lets pass, which is run at every node at its place. -/
def checkedFilter (test : Context → Checked EvalError Value) (nodes : List Nat) :
    Checked EvalError (List Nat) := do
  let kept ← (nodes.zipIdx 1).mapM fun (node, place) => do
    let v ← test ⟨node, place, nodes.length⟩
    return if passes place v then [node] else []
  return kept.flatten

mutual

/-- An operation together with its accesses. -/
def Op.checked (d : Document) (op : Op) (c : Context) (stack : List Value) :
    Checked EvalError (List Value) :=
  match op with
  | .root => return .nodeSet [0] :: stack
  | .context => return .nodeSet [c.node] :: stack
  | .step axis test predicates => do
    let (nodes, rest) ← popNodes .step stack
    let found ← nodes.mapM fun node =>
      checkedPredicates d predicates ((axis.nodes d node).filter (test.holds d axis))
    return .nodeSet (inDocumentOrder found.flatten) :: rest
  | .predicate program => do
    let (nodes, rest) ← popNodes .predicate stack
    let found ← checkedFilter (fun c => do return (← pop (← checkedOps d program c [])).1) nodes
    return .nodeSet found :: rest
  | .union => do
    let (right, rest) ← popNodes .union stack
    let (left, rest) ← popNodes .union rest
    return .nodeSet (inDocumentOrder (left ++ right)) :: rest
  | .number value => return .number value :: stack
  | .string value => return .string value :: stack
  | .negate => do
    let (v, rest) ← pop stack
    return .number (-(v.toNumber d)) :: rest
  | .and right => do
    let (v, rest) ← pop stack
    if v.toBoolean then
      let (w, _) ← pop (← checkedOps d right c [])
      return .boolean w.toBoolean :: rest
    else return .boolean false :: rest
  | .or right => do
    let (v, rest) ← pop stack
    if v.toBoolean then return .boolean true :: rest
    else
      let (w, _) ← pop (← checkedOps d right c [])
      return .boolean w.toBoolean :: rest
  | .binary op => do
    let (y, rest) ← pop stack
    let (x, rest) ← pop rest
    return applyBinary d op x y :: rest
  | .call f count =>
    if stack.length < count then ofOutcome (.error .emptyStack)
    else do
      let (arguments, rest) ← valuesOff stack count
      let v ← f.call d c arguments.reverse
      return v :: rest

/-- A program together with its accesses. -/
def checkedOps (d : Document) (program : List Op) (c : Context) (stack : List Value) :
    Checked EvalError (List Value) :=
  match program with
  | [] => return stack
  | op :: rest => do
    let next ← op.checked d c stack
    checkedOps d rest c next

/-- Predicates, one after the other, together with their accesses. -/
def checkedPredicates (d : Document) (predicates : List (List Op)) (nodes : List Nat) :
    Checked EvalError (List Nat) :=
  match predicates with
  | [] => return nodes
  | program :: rest => do
    let kept ← checkedFilter (fun c => do return (← pop (← checkedOps d program c [])).1) nodes
    checkedPredicates d rest kept

end

/-- The value that a program leaves on top of an empty stack, together with its accesses. -/
def Program.checked (d : Document) (program : Program) (c : Context) : Checked EvalError Value := do
  return (← pop (← checkedOps d program c [])).1

variable {d : Document} {c : Context} {stack : List Value}

/-- The value on top of what a run leaves is read in range if the run is. -/
theorem comesTo_pop {x : Checked EvalError (List Value)} {r : Except EvalError (List Value)}
    (h : x.ComesTo r) :
    Checked.ComesTo (do return (← pop (← x)).1) (do return (← pop (← r)).1) :=
  h.bind fun _ _ => (comesTo_ofOutcome _).bind fun _ _ => comesTo_pure _

theorem comesTo_checkedFilter {test : Context → Checked EvalError Value}
    {test' : Context → Except EvalError Value} (h : ∀ c, (test c).ComesTo (test' c))
    (nodes : List Nat) : (checkedFilter test nodes).ComesTo (filterNodes test' nodes) := by
  rw [filterNodes, filterFrom_eq_mapM, checkedFilter]
  refine Checked.ComesTo.bind (Checked.ComesTo.mapM (fun p => ?_) _) fun kept _ => comesTo_pure _
  exact (h _).bind fun v _ => comesTo_pure _

mutual

/-- **An operation** stays in range. -/
theorem comesTo_checked (op : Op) (c : Context) (stack : List Value) :
    (op.checked d c stack).ComesTo (op.run d c stack) := by
  cases op with
  | root | context | number value | string value =>
    rw [Op.checked, Op.run]
    exact comesTo_pure _
  | step axis test predicates =>
    rw [Op.checked, Op.run]
    refine (comesTo_ofOutcome _).bind fun ⟨nodes, rest⟩ _ => ?_
    dsimp only
    rw [collect_eq_mapM, bind_map_left]
    refine Checked.ComesTo.bind (Checked.ComesTo.mapM (fun node => ?_) nodes) fun found _ =>
      comesTo_pure _
    exact comesTo_checkedPredicates predicates _
  | predicate program =>
    rw [Op.checked, Op.run]
    refine (comesTo_ofOutcome _).bind fun ⟨nodes, rest⟩ _ => ?_
    refine (comesTo_checkedFilter (fun c => ?_) nodes).bind fun found _ => comesTo_pure _
    exact comesTo_pop (comesTo_checkedOps program c [])
  | union =>
    rw [Op.checked, Op.run]
    exact (comesTo_ofOutcome _).bind fun ⟨right, rest⟩ _ =>
      (comesTo_ofOutcome _).bind fun ⟨left, rest'⟩ _ => comesTo_pure _
  | negate =>
    rw [Op.checked, Op.run]
    exact (comesTo_ofOutcome _).bind fun ⟨v, rest⟩ _ => comesTo_pure _
  | and right =>
    rw [Op.checked, Op.run]
    refine (comesTo_ofOutcome _).bind fun ⟨v, rest⟩ _ => ?_
    dsimp only
    split
    · exact (comesTo_checkedOps right c []).bind fun final _ =>
        (comesTo_ofOutcome _).bind fun ⟨w, _⟩ _ => comesTo_pure _
    · exact comesTo_pure _
  | or right =>
    rw [Op.checked, Op.run]
    refine (comesTo_ofOutcome _).bind fun ⟨v, rest⟩ _ => ?_
    dsimp only
    split
    · exact comesTo_pure _
    · exact (comesTo_checkedOps right c []).bind fun final _ =>
        (comesTo_ofOutcome _).bind fun ⟨w, _⟩ _ => comesTo_pure _
  | binary op =>
    rw [Op.checked, Op.run]
    exact (comesTo_ofOutcome _).bind fun ⟨y, rest⟩ _ =>
      (comesTo_ofOutcome _).bind fun ⟨x, rest'⟩ _ => comesTo_pure _
  | call f count =>
    rw [Op.checked, Op.run]
    split
    · exact comesTo_ofOutcome _
    · next hheight =>
      -- The stack has so many values, and the function looks at their number itself.
      refine (comesTo_valuesOff (Nat.not_lt.1 hheight)).bind_ok ?_
      exact (f.comesTo_call d c (stack.take count).reverse).bind fun v _ => comesTo_pure _

/-- **A run** stays in range. -/
theorem comesTo_checkedOps (program : List Op) (c : Context) (stack : List Value) :
    (checkedOps d program c stack).ComesTo (runOps d program c stack) := by
  cases program with
  | nil =>
    rw [checkedOps, runOps]
    exact comesTo_pure _
  | cons op rest =>
    rw [checkedOps, runOps]
    exact (comesTo_checked op c stack).bind fun next _ => comesTo_checkedOps rest c next

theorem comesTo_checkedPredicates (predicates : List (List Op)) (nodes : List Nat) :
    (checkedPredicates d predicates nodes).ComesTo (runPredicates d predicates nodes) := by
  cases predicates with
  | nil =>
    rw [checkedPredicates, runPredicates]
    exact comesTo_pure _
  | cons program rest =>
    rw [checkedPredicates, runPredicates]
    refine (comesTo_checkedFilter (fun c => ?_) nodes).bind fun kept _ =>
      comesTo_checkedPredicates rest kept
    exact comesTo_pop (comesTo_checkedOps program c [])

end

/-- **A program** stays in range, and its value is that of the machine. -/
theorem Program.comesTo_checked (d : Document) (program : Program) (c : Context) :
    (Program.checked d program c).ComesTo (Program.value d program c) :=
  comesTo_pop (comesTo_checkedOps program c [])

/-- On two values a function may be called with one of them, but not with three. -/
example (x y : Value) :
    ((Op.call .not 1).checked d c [y, x]).accesses = [.values 1 2, .value 0 1] ∧
      ((Op.call .not 3).checked d c [y, x]).accesses = [] := by
  rw [Op.checked, Op.checked]
  exact ⟨rfl, rfl⟩

/-- No call of a function on a document goes out of range: not by itself, not as an operation on a
stack, and not in the run of a program. -/
structure CallsInRange (d : Document) : Prop where
  /-- A call reads no argument that is not there and cuts nothing out of a text that is not in it.
  What it comes to is told by the number and the types of its arguments. -/
  call : ∀ (f : Builtin) (c : Context) (arguments : List Value),
    (f.call d c arguments).ComesTo (f.apply d c arguments) ∧
      f.Verdict arguments (f.apply d c arguments)
  /-- A refused number is told together with the function and its arity. -/
  refusal : ∀ (f : Builtin) (count : Nat), (EvalError.arity f count).message =
    f.label ++ "() expects " ++ f.arity.text ++ " argument(s), got " ++ toString count
  /-- Arities that are worded alike are the same. -/
  wording : Function.Injective Arity.text
  /-- An operation takes nothing off a stack that is too low for it. -/
  tooLow : ∀ (f : Builtin) (count : Nat) (c : Context) (stack : List Value), stack.length < count →
    ((Op.call f count).checked d c stack).ComesTo (.error .emptyStack)
  /-- On any other stack it calls the function on the values on top, the last one uppermost, and
  leaves those below. -/
  operation : ∀ (f : Builtin) (c : Context) (arguments stack : List Value),
    ((Op.call f arguments.length).checked d c (arguments.reverse ++ stack)).ComesTo
      ((· :: stack) <$> f.apply d c arguments)
  /-- A run on any stack stays in range, with the programs that its operations run themselves. -/
  run : ∀ (program : Program) (c : Context) (stack : List Value),
    (checkedOps d program c stack).ComesTo (runOps d program c stack)
  /-- So does the evaluation of a program. -/
  value : ∀ (program : Program) (c : Context),
    (Program.checked d program c).ComesTo (Program.value d program c)

/-- **No call goes out of range**, whatever function is called at whatever node of a document, with
any arguments, and by any program. -/
theorem callsInRange (d : Document) : CallsInRange d where
  call f c arguments := ⟨f.comesTo_call d c arguments, f.verdict_apply d c arguments⟩
  refusal f count := rfl
  wording := Arity.text_injective
  tooLow f count c stack h := by
    rw [Op.checked, if_pos h]
    exact comesTo_ofOutcome _
  operation f c arguments stack := by
    have hrun := comesTo_checked (d := d) (.call f arguments.length) c (arguments.reverse ++ stack)
    rw [call_run] at hrun
    exact hrun
  run := comesTo_checkedOps
  value := Program.comesTo_checked d

end XmlQuery.XPath
