import XmlQuery.Proofs.XPath.DocumentOrder

/-!
# Direct evaluation

The value of an expression by recursion on the expression, without code and without a stack. A
location step finds, for each node of its base, the nodes of its axis that pass its test and then
its predicates in turn; what it leads to is the set of all of these. Operands and arguments are
evaluated from left to right before their operator looks at their types, and the right operand
of `and` and `or` only where the left one leaves the matter open.

What a node test asks for, and which values of a predicate let a node pass, is told by rules; the
tests that the evaluation makes are shown to be those of the rules.

Names are looked up where they are met. An evaluation that meets a name which stands for nothing
has no result; one that fails has an error as its result.

## Main definitions

* `Fits`: a node is what a node test asks for
* `Admits`: the value of a predicate lets a node pass
* `Evaluation`: what evaluating comes to
* `keepPassing`: the nodes of a list that a predicate lets pass
* `Expr.eval`: the evaluation of an expression in a context

## Main results

* `accepts_iff`, `passes_iff`: nodes are tested by the rules
-/

namespace XmlQuery.XPath

/-! ## Rules for nodes -/

/-- The kind of node that an axis is made of: attributes or elements. -/
inductive Principal : Axis → NodeKind → Prop
  /-- The axis of attributes. -/
  | attribute : Principal .attribute .attribute
  /-- Any other axis. -/
  | element {axis : Axis} : axis ≠ .attribute → Principal axis .element

/-- A node of a kind and with a name is what a node test asks for on an axis. -/
inductive Fits (axis : Axis) : ResolvedTest → NodeKind → Name → Prop
  /-- Any node that the axis is made of. -/
  | any {kind : NodeKind} {name : Name} : Principal axis kind → Fits axis .any kind name
  /-- One of them with the namespace and the local part of the test. -/
  | name {kind : NodeKind} {name : Name} : Principal axis kind →
    Fits axis (.name name.uri name.localPart) kind name
  /-- One of them with the namespace of the test. -/
  | inNamespace {kind : NodeKind} {name : Name} : Principal axis kind →
    Fits axis (.inNamespace name.uri) kind name
  /-- Any node at all. -/
  | node {kind : NodeKind} {name : Name} : Fits axis .node kind name
  /-- Text. -/
  | text {name : Name} : Fits axis .text .text name
  /-- A section of character data, which is text too. -/
  | cdata {name : Name} : Fits axis .text .cdata name
  /-- A comment. -/
  | comment {name : Name} : Fits axis .comment .comment name
  /-- A processing instruction, which the XML declaration is not. -/
  | instruction {name : Name} : name.localPart ≠ "xml" →
    Fits axis (.instruction none) .declaration name
  /-- A processing instruction with the target of the test. -/
  | target {name : Name} : name.localPart ≠ "xml" →
    Fits axis (.instruction (some name.localPart)) .declaration name

/-- A predicate with this value lets a node at a place pass: the value is the number of the place,
or it is no number and true. -/
inductive Admits (place : Nat) : Value → Prop
  /-- The number of the place. -/
  | number {x : Float} : Number.ofNat place == x → Admits place (.number x)
  /-- The boolean. -/
  | boolean : Admits place (.boolean true)
  /-- A text that is not empty. -/
  | string {text : String} : text ≠ "" → Admits place (.string text)
  /-- Nodes. -/
  | nodeSet {nodes : List Nat} : nodes ≠ [] → Admits place (.nodeSet nodes)

theorem mainKind_iff {axis : Axis} {kind : NodeKind} :
    kind = axis.mainKind ↔ Principal axis kind := by
  constructor
  · rintro rfl
    by_cases h : axis = .attribute
    · subst h
      exact .attribute
    · have hkind : axis.mainKind = .element := by
        cases axis <;> first | rfl | exact absurd rfl h
      exact hkind ▸ .element h
  · rintro (_ | h)
    · rfl
    · cases axis <;> first | rfl | exact absurd rfl h

/-- A node test accepts the nodes that fit it. -/
theorem accepts_iff {axis : Axis} {test : ResolvedTest} {kind : NodeKind} {name : Name} :
    test.accepts axis kind name = true ↔ Fits axis test kind name := by
  constructor
  · intro h
    cases test <;>
      simp only [ResolvedTest.accepts, Bool.and_eq_true, Bool.or_eq_true, beq_iff_eq, bne_iff_ne,
        mainKind_iff] at h
    case any => exact .any h
    case name =>
      obtain ⟨⟨hkind, rfl⟩, rfl⟩ := h
      exact .name hkind
    case inNamespace =>
      obtain ⟨hkind, rfl⟩ := h
      exact .inNamespace hkind
    case node => exact .node
    case text =>
      rcases h with rfl | rfl
      · exact .text
      · exact .cdata
    case comment =>
      subst h
      exact .comment
    case instruction target =>
      obtain ⟨⟨rfl, hname⟩, htarget⟩ := h
      cases target with
      | none => exact .instruction hname
      | some target =>
        obtain rfl : name.localPart = target := by simpa using htarget
        exact .target hname
  · rintro (h | h | h | _ | _ | _ | _ | h | h) <;> simp_all [ResolvedTest.accepts, mainKind_iff]

/-- A node passes where its predicate admits it. -/
theorem passes_iff {place : Nat} {v : Value} : passes place v = true ↔ Admits place v := by
  constructor
  · intro h
    cases v with
    | number x => exact .number h
    | boolean b =>
      obtain rfl : b = true := h
      exact .boolean
    | string text => exact .string (bne_iff_ne.1 h)
    | nodeSet nodes =>
      refine .nodeSet ?_
      rintro rfl
      cases h
  · rintro (h | - | h | h)
    · exact h
    · rfl
    · exact bne_iff_ne.2 h
    · simpa [passes, Value.toBoolean] using h

/-! ## Evaluation -/

/-- What evaluating comes to: a value or an error, or nothing if a name stands for nothing. -/
abbrev Evaluation := ExceptT EvalError Option

/-- The nodes of a value, which an operation needs. -/
def Value.nodesFor (operation : NodeSetOperation) : Value → Except EvalError (List Nat)
  | .nodeSet nodes => .ok nodes
  | v => .error (.notNodeSet operation v.type)

/-- The nodes in the direction of a location step from a node that pass its test. -/
def candidates (b : Bindings) (d : Document) (axis : Axis) (test : NodeTest) (node : Nat) :
    Evaluation (List Nat) := do
  let resolved ← (test.resolve b axis).toOption
  return (axis.nodes d node).filter (resolved.holds d axis)

/-- The nodes that a predicate lets pass. It is evaluated at every node, which stands at its place
in the list among all nodes of the list. -/
def keepPassing (predicate : Context → Evaluation Value) (nodes : List Nat) :
    Evaluation (List Nat) := do
  let kept ← (nodes.zipIdx 1).mapM fun (node, place) => do
    let v ← predicate ⟨node, place, nodes.length⟩
    return if passes place v then [node] else []
  return kept.flatten

mutual

/-- The evaluation of an expression in a context. -/
def Expr.eval (b : Bindings) (d : Document) : Expr → Context → Evaluation Value
  | .root, _ => return .nodeSet [0]
  | .number value, _ => return .number value
  | .string value, _ => return .string value
  | .variable _, _ => (none : Option Value)
  | .negate operand, c => do
    let v ← operand.eval b d c
    return .number (-(v.toNumber d))
  | .binary .and left right, c => do
    if (← left.eval b d c).toBoolean then
      return .boolean (← right.eval b d c).toBoolean
    else return .boolean false
  | .binary .or left right, c => do
    if (← left.eval b d c).toBoolean then return .boolean true
    else return .boolean (← right.eval b d c).toBoolean
  | .binary op left right, c => do
    let x ← left.eval b d c
    let y ← right.eval b d c
    return applyBinary d op x y
  | .union left right, c => do
    let x ← left.eval b d c
    let y ← right.eval b d c
    let after ← y.nodesFor .union
    let before ← x.nodesFor .union
    return .nodeSet (before.toFinset ∪ after.toFinset).sort
  | .path base axis test predicates, c => do
    let nodes ← (← base.eval b d c).nodesFor .step
    let found ← nodes.mapM fun node => do
      keepAll b d predicates (← candidates b d axis test node)
    return .nodeSet found.flatten.toFinset.sort
  | .step axis test predicates, c => do
    let found ← keepAll b d predicates (← candidates b d axis test c.node)
    return .nodeSet found.toFinset.sort
  | .filter base predicate, c => do
    let nodes ← (← base.eval b d c).nodesFor .predicate
    return .nodeSet (← keepPassing (predicate.eval b d) nodes)
  | .call name arguments, c => do
    let f ← Builtin.ofLabel? name
    f.apply d c (← evalEach b d arguments c)

/-- The values of expressions, from left to right. -/
def evalEach (b : Bindings) (d : Document) : List Expr → Context → Evaluation (List Value)
  | [], _ => return []
  | e :: rest, c => do
    let v ← e.eval b d c
    let others ← evalEach b d rest c
    return v :: others

/-- The nodes that pass all of some predicates, one after the other. -/
def keepAll (b : Bindings) (d : Document) : List Expr → List Nat → Evaluation (List Nat)
  | [], nodes => return nodes
  | predicate :: rest, nodes => do
    keepAll b d rest (← keepPassing (predicate.eval b d) nodes)

end

end XmlQuery.XPath
