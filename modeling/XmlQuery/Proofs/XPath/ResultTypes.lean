import Mathlib.Data.List.Basic
import XmlQuery.Proofs.Outcome
import XmlQuery.XPath.Library
import XmlQuery.XPath.Operator

/-!
# The types of results

The type of what an operator or a function makes of its operands is known without them. An operator
takes operands of all types; a function may refuse their number, and those that are about nodes
refuse what is no node-set.

## Main definitions

* `BinaryOp.resultType`, `Builtin.resultType`: the type of what an operator or a function returns
* `Builtin.takesNodeSet`: the function takes no argument but a node-set

## Main results

* `type_applyBinary`, `type_of_apply`: the types of results
* `exists_apply_eq_ok`: a function returns a value on arguments that it takes
* `apply_ne_emptyStack`: a function does not ask the stack for more values than it is given
-/

namespace XmlQuery.XPath

/-- The type of what an operator returns. -/
def BinaryOp.resultType : BinaryOp → ValueType
  | .add | .sub | .mul | .div | .mod => .number
  | .or | .and | .eq | .notEq | .lt | .ltEq | .gt | .gtEq => .boolean

/-- The type of what a function returns. No value is ever returned by `id`. -/
def Builtin.resultType : Builtin → ValueType
  | .last | .position | .count | .stringLength | .number | .sum | .floor | .ceiling | .round =>
    .number
  | .startsWith | .endsWith | .contains | .boolean | .not | .constTrue | .constFalse | .lang =>
    .boolean
  | .localName | .namespaceUri | .name | .string | .concat | .substringBefore | .substringAfter
  | .substring | .normalizeSpace | .translate | .lowerCase | .upperCase => .string
  | .id => .string

/-- The function takes no argument but a node-set. -/
def Builtin.takesNodeSet : Builtin → Bool
  | .count | .sum | .localName | .namespaceUri | .name => true
  | _ => false

variable {d : Document} {c : Context} {f : Builtin} {arguments : List Value}

@[simp] theorem type_applyBinary (op : BinaryOp) (x y : Value) :
    (applyBinary d op x y).type = op.resultType := by
  cases op <;> rfl

namespace Builtin

theorem resultType_ne_nodeSet (f : Builtin) : f.resultType ≠ .nodeSet := by
  cases f <;> decide

/-! ## Functions of nodes -/

theorem nodesOf_nodeSet {x : Value} (hx : x.type = .nodeSet) :
    ∃ nodes, f.nodesOf x = .ok nodes := by
  cases x with
  | nodeSet nodes => exact ⟨nodes, rfl⟩
  | _ => cases hx

/-- A value made of the nodes of an argument. -/
theorem exists_map_nodesOf {x : Value} {of : List Nat → Value} (hx : x.type = .nodeSet) :
    ∃ v, (f.nodesOf x).map of = .ok v := by
  obtain ⟨nodes, hnodes⟩ := nodesOf_nodeSet (f := f) hx
  exact ⟨of nodes, hnodes ▸ rfl⟩

theorem map_nodesOf_ne_emptyStack {x : Value} {of : List Nat → Value} :
    (f.nodesOf x).map of ≠ .error .emptyStack := by
  cases x <;> exact nofun

theorem type_of_map_nodesOf {x v : Value} {t : ValueType} {of : List Nat → Value}
    (h : (f.nodesOf x).map of = .ok v) (hof : ∀ nodes, (of nodes).type = t) : v.type = t := by
  rw [map_eq_ok_iff] at h
  obtain ⟨nodes, -, rfl⟩ := h
  exact hof nodes

/-! ## All functions -/

/-- A value that a function returns is of the type of the function. -/
theorem type_of_apply {v : Value} (h : f.apply d c arguments = .ok v) : v.type = f.resultType := by
  unfold apply at h
  split at h
  -- Functions of nodes look at their argument first; all others return a value at once or refuse.
  all_goals try exact type_of_map_nodesOf h fun _ => rfl
  all_goals cases h <;> rfl

/-- A function does not ask for more values than it is given. -/
theorem apply_ne_emptyStack : f.apply d c arguments ≠ .error .emptyStack := by
  unfold apply
  split
  all_goals try exact map_nodesOf_ne_emptyStack
  all_goals exact nofun

end Builtin

/-! ## Numbers of arguments -/

namespace Arity

theorem accepts_between_iff {least most count : Nat} :
    (between least most).accepts count = true ↔ least ≤ count ∧ count ≤ most := by
  rw [accepts, Bool.and_eq_true, decide_eq_true_iff]
  exact and_congr_right fun _ => decide_eq_true_iff

theorem accepts_exactly_iff {n count : Nat} : (exactly n).accepts count = true ↔ count = n :=
  accepts_between_iff.trans (and_comm.trans Nat.le_antisymm_iff.symm)

/-- No argument. -/
theorem eq_nil (h : (exactly 0).accepts arguments.length = true) : arguments = [] :=
  List.length_eq_zero_iff.1 (accepts_exactly_iff.1 h)

/-- One argument. -/
theorem eq_singleton (h : (exactly 1).accepts arguments.length = true) : ∃ x, arguments = [x] :=
  List.length_eq_one_iff.1 (accepts_exactly_iff.1 h)

/-- Two arguments. -/
theorem eq_pair (h : (exactly 2).accepts arguments.length = true) : ∃ x y, arguments = [x, y] :=
  List.length_eq_two.1 (accepts_exactly_iff.1 h)

/-- Three arguments. -/
theorem eq_triple (h : (exactly 3).accepts arguments.length = true) :
    ∃ x y z, arguments = [x, y, z] :=
  List.length_eq_three.1 (accepts_exactly_iff.1 h)

/-- No argument or one. -/
theorem eq_nil_or_singleton (h : (between 0 1).accepts arguments.length = true) :
    arguments = [] ∨ ∃ x, arguments = [x] := by
  rw [accepts_between_iff] at h
  rw [← List.length_eq_zero_iff, ← List.length_eq_one_iff]
  omega

/-- Two arguments or three. -/
theorem eq_pair_or_triple (h : (between 2 3).accepts arguments.length = true) :
    (∃ x y, arguments = [x, y]) ∨ ∃ x y z, arguments = [x, y, z] := by
  rw [accepts_between_iff] at h
  rw [← List.length_eq_two, ← List.length_eq_three]
  omega

end Arity

/-- A function returns a value if it takes so many arguments, and if they are node-sets where it
takes nothing else. Only `id` does not. -/
theorem Builtin.exists_apply_eq_ok (harity : f.arity.accepts arguments.length = true)
    (hid : f ≠ .id) (hnodes : f.takesNodeSet = true → ∀ x ∈ arguments, x.type = .nodeSet) :
    ∃ v, f.apply d c arguments = .ok v := by
  -- The functions with the same arity are taken together, those of nodes by themselves.
  cases f with
  | id => exact absurd rfl hid
  | last | position | constTrue | constFalse =>
    obtain rfl := Arity.eq_nil harity
    exact ⟨_, rfl⟩
  | localName | namespaceUri | name =>
    rcases Arity.eq_nil_or_singleton harity with rfl | ⟨x, rfl⟩
    · exact ⟨_, rfl⟩
    · exact exists_map_nodesOf (hnodes rfl x List.mem_cons_self)
  | string | stringLength | normalizeSpace | number =>
    rcases Arity.eq_nil_or_singleton harity with rfl | ⟨x, rfl⟩
    · exact ⟨_, rfl⟩
    · exact ⟨_, rfl⟩
  | count | sum =>
    obtain ⟨x, rfl⟩ := Arity.eq_singleton harity
    exact exists_map_nodesOf (hnodes rfl x List.mem_cons_self)
  | lowerCase | upperCase | boolean | not | lang | floor | ceiling | round =>
    obtain ⟨x, rfl⟩ := Arity.eq_singleton harity
    exact ⟨_, rfl⟩
  | startsWith | endsWith | contains | substringBefore | substringAfter =>
    obtain ⟨x, y, rfl⟩ := Arity.eq_pair harity
    exact ⟨_, rfl⟩
  | substring =>
    rcases Arity.eq_pair_or_triple harity with ⟨x, y, rfl⟩ | ⟨x, y, z, rfl⟩
    · exact ⟨_, rfl⟩
    · exact ⟨_, rfl⟩
  | translate =>
    obtain ⟨x, y, z, rfl⟩ := Arity.eq_triple harity
    exact ⟨_, rfl⟩
  | concat =>
    match arguments, harity with
    | x :: y :: rest, _ => exact ⟨_, rfl⟩

end XmlQuery.XPath
