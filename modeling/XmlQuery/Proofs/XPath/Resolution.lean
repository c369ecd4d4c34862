import Mathlib.Data.List.Basic
import Mathlib.Logic.Relation
import XmlQuery.Proofs.Outcome
import XmlQuery.Proofs.XPath.Height
import XmlQuery.XPath.Compile

/-!
# Names that stand for nothing

Compiling an expression settles what its names stand for: prefixes, functions and variables. Every
name of the expression is looked at, wherever it occurs, since what is never evaluated is compiled
as well. So there is code exactly if all names are known, and otherwise the error is that of the
first name that is not: names are met from left to right, a function before its arguments and a node
test before the predicates behind it.

## Main definitions

* `NameUse`, `NameUse.Known`: a name in an expression, and that it stands for something
* `Expr.ownNames`, `Expr.Contains`: the names of an expression alone, and what is inside it
* `Expr.names`: the names of an expression and of what is inside it, as they are met
* `StopsAtUnknown`: a computation stops at the first unknown of some names

## Main results

* `StopsAtUnknown.bind`: names that are met one after the other
* `mem_names_iff`: the names that are met are all that there are
* `code_of_names`: **code fails exactly for want of a name**, the first one
-/

namespace XmlQuery.XPath

/-! ## Names -/

/-- A name in an expression, which the expression does not say the meaning of. -/
inductive NameUse
  /-- A variable. -/
  | variable (name : String)
  /-- A function that is called. -/
  | function (name : String)
  /-- The prefix of a name test. -/
  | namespaced (nsPrefix : String)

namespace NameUse

/-- A name stands for something: there are some functions, a prefix is bound or `xml`, and no
variable has a value. -/
inductive Known (b : Bindings) : NameUse → Prop
  /-- The name of a function. -/
  | function (f : Builtin) : Known b (.function f.label)
  /-- A bound prefix. -/
  | bound {p uri : String} : b.get? p = some uri → Known b (.namespaced p)
  /-- The prefix `xml`. -/
  | xml : Known b (.namespaced "xml")

/-- The error of a name that stands for nothing. -/
def error : NameUse → CompileError
  | .variable name => .unboundVariable name
  | .function name => .unknownFunction name
  | .namespaced p => .unboundPrefix p

end NameUse

/-- The prefix of a node test, if it has one. -/
def NodeTest.names : NodeTest → List NameUse
  | .qname p _ | .wildcard p => [.namespaced p]
  | .any | .name _ | .node | .text | .comment | .instruction _ => []

namespace Expr

/-- The names of an expression that are not inside a smaller one. -/
def ownNames : Expr → List NameUse
  | .variable name => [.variable name]
  | .call name _ => [.function name]
  | .path _ _ test _ | .step _ test _ => test.names
  | _ => []

/-- An expression is another one, or inside it at any depth. -/
def Contains : Expr → Expr → Prop :=
  Relation.ReflTransGen fun e child => child ∈ e.children

mutual

/-- The names of an expression in the order in which they are met: from left to right, a function
before its arguments, and a node test between the base of a step and its predicates. -/
def names : Expr → List NameUse
  | .root | .number _ | .string _ => []
  | .variable name => [.variable name]
  | .negate operand => operand.names
  | .binary _ left right | .union left right => left.names ++ right.names
  | .path base _ test predicates => base.names ++ (test.names ++ namesOfAll predicates)
  | .step _ test predicates => test.names ++ namesOfAll predicates
  | .filter base predicate => base.names ++ predicate.names
  | .call name arguments => .function name :: namesOfAll arguments

/-- The names of expressions, one after the other. -/
def namesOfAll : List Expr → List NameUse
  | [] => []
  | e :: rest => e.names ++ namesOfAll rest

end

end Expr

open XmlQuery.XPath.Expr (namesOfAll)

variable {b : Bindings} {n : NameUse}

theorem mem_namesOfAll_iff {es : List Expr} : n ∈ namesOfAll es ↔ ∃ e ∈ es, n ∈ e.names := by
  induction es with
  | nil => simp [namesOfAll]
  | cons e rest ih => simp [namesOfAll, ih]

/-- The names of an expression are its own and those of what is directly inside it. -/
theorem mem_names_cases {e : Expr} :
    n ∈ e.names ↔ n ∈ e.ownNames ∨ ∃ child ∈ e.children, n ∈ child.names := by
  cases e with
  | root | number | string | «variable» => simp [Expr.names, Expr.ownNames, Expr.children]
  | negate | binary | union | filter => simp [Expr.names, Expr.ownNames, Expr.children]
  | path base axis test predicates =>
    simp [Expr.names, Expr.ownNames, Expr.children, mem_namesOfAll_iff, or_left_comm]
  | step | call => simp [Expr.names, Expr.ownNames, Expr.children, mem_namesOfAll_iff]

theorem sizeOf_lt_of_mem_children {e child : Expr} (h : child ∈ e.children) :
    sizeOf child < sizeOf e := by
  have hlist : ∀ es : List Expr, child ∈ es → sizeOf child < sizeOf es :=
    fun _ => List.sizeOf_lt_of_mem
  cases e with
  | root | number | string | «variable» => cases h
  | negate operand =>
    obtain rfl := List.mem_singleton.1 h
    simp +arith
  | binary | union | filter => rcases List.mem_pair.1 h with rfl | rfl <;> simp +arith
  | path base axis test predicates =>
    rw [Expr.path.sizeOf_spec]
    rcases List.mem_cons.1 h with rfl | h
    · omega
    · have := hlist predicates h
      omega
  | step axis test predicates =>
    have := hlist predicates h
    rw [Expr.step.sizeOf_spec]
    omega
  | call name arguments =>
    have := hlist arguments h
    rw [Expr.call.sizeOf_spec]
    omega

theorem exists_contains_of_mem_names {e : Expr} (h : n ∈ e.names) :
    ∃ s, e.Contains s ∧ n ∈ s.ownNames := by
  rcases mem_names_cases.1 h with hn | ⟨child, hchild, hn⟩
  · exact ⟨e, .refl, hn⟩
  · obtain ⟨s, hs, hn⟩ := exists_contains_of_mem_names hn
    exact ⟨s, .head hchild hs, hn⟩
termination_by sizeOf e
decreasing_by exact sizeOf_lt_of_mem_children hchild

/-- **The names that are met are all that there are**, wherever in the expression. -/
theorem mem_names_iff {e : Expr} : n ∈ e.names ↔ ∃ s, e.Contains s ∧ n ∈ s.ownNames := by
  refine ⟨exists_contains_of_mem_names, ?_⟩
  rintro ⟨s, hs, hn⟩
  induction hs using Relation.ReflTransGen.head_induction_on with
  | refl => exact mem_names_cases.2 (.inl hn)
  | head hchild _ ih => exact mem_names_cases.2 (.inr ⟨_, hchild, ih⟩)

/-! ## Stopping at a name -/

/-- A computation looks at some names in turn: it stops at the first one that stands for nothing,
with the error of that name, and has a result if there is none. -/
inductive StopsAtUnknown (b : Bindings) {α : Type} :
    List NameUse → Except CompileError α → Prop
  /-- All names are known. -/
  | ok {names : List NameUse} {a : α} : (∀ n ∈ names, n.Known b) → StopsAtUnknown b names (.ok a)
  /-- A name stands for nothing, and is the first such name. -/
  | error {before after : List NameUse} {n : NameUse} : (∀ m ∈ before, m.Known b) → ¬ n.Known b →
    StopsAtUnknown b (before ++ n :: after) (.error n.error)

namespace StopsAtUnknown

variable {α β : Type} {names rest : List NameUse} {x : Except CompileError α}

theorem pure (a : α) : StopsAtUnknown b [] (.ok a : Except CompileError α) := .ok nofun

/-- Names that are met one after the other. -/
theorem bind {f : α → Except CompileError β} (h : StopsAtUnknown b names x)
    (hrest : ∀ a, StopsAtUnknown b rest (f a)) : StopsAtUnknown b (names ++ rest) (x >>= f) := by
  cases h with
  | @ok _ a hnames =>
    change StopsAtUnknown b (names ++ rest) (f a)
    generalize f a = y, hrest a = hy
    cases hy with
    | ok hrest => exact .ok (List.forall_mem_append.2 ⟨hnames, hrest⟩)
    | error hbefore hn =>
      rw [← List.append_assoc]
      exact .error (List.forall_mem_append.2 ⟨hnames, hbefore⟩) hn
  | error hbefore hn =>
    rw [List.append_assoc]
    exact .error hbefore hn

/-- What is made of a result has to do with no more names. -/
theorem map {f : α → β} (h : StopsAtUnknown b names x) : StopsAtUnknown b names (f <$> x) := by
  cases h with
  | ok hnames => exact .ok hnames
  | error hbefore hn => exact .error hbefore hn

end StopsAtUnknown

theorem stopsAtUnknown_require (p : String) :
    StopsAtUnknown b [.namespaced p] (b.require p) := by
  rw [Bindings.require, Bindings.resolve?]
  cases hget : b.get? p with
  | some uri => exact .ok (List.forall_mem_singleton.2 (.bound hget))
  | none =>
    by_cases hp : p = "xml"
    · subst hp
      exact .ok (List.forall_mem_singleton.2 .xml)
    · rw [if_neg hp]
      refine @StopsAtUnknown.error b _ [] [] (.namespaced p) nofun fun hknown => ?_
      cases hknown with
      | bound h => cases hget.symm.trans h
      | xml => exact hp rfl

theorem stopsAtUnknown_resolve (axis : Axis) (test : NodeTest) :
    StopsAtUnknown b test.names (test.resolve b axis) := by
  cases test with
  | qname p l | wildcard p => exact (stopsAtUnknown_require p).map
  | any | name | node | text | comment | instruction => exact .pure _

mutual

/-- **Code stops at the first unknown name**, by induction on the expression. -/
theorem stopsAtUnknown_code (b : Bindings) (e : Expr) : StopsAtUnknown b e.names (e.code b) := by
  cases e with
  | root | number | string => exact .pure _
  | «variable» name => exact @StopsAtUnknown.error b _ [] [] (.variable name) nofun nofun
  | negate operand => exact (stopsAtUnknown_code b operand).map
  | binary op left right | union left right =>
    exact (stopsAtUnknown_code b left).bind fun _ => (stopsAtUnknown_code b right).map
  | filter base predicate =>
    exact (stopsAtUnknown_code b base).bind fun _ => (stopsAtUnknown_code b predicate).map
  | path base axis test predicates =>
    exact (stopsAtUnknown_code b base).bind fun _ =>
      (stopsAtUnknown_resolve axis test).bind fun _ => (stopsAtUnknown_programs b predicates).map
  | step axis test predicates =>
    exact (stopsAtUnknown_resolve axis test).bind fun _ =>
      (stopsAtUnknown_programs b predicates).map
  | call name arguments =>
    rw [Expr.names, Expr.code]
    cases hf : Builtin.ofLabel? name with
    | none =>
      -- The function is looked up before its arguments are compiled.
      refine @StopsAtUnknown.error b _ [] _ (.function name) nofun fun hknown => ?_
      obtain ⟨f⟩ := hknown
      cases hf.symm.trans f.ofLabel?_label
    | some f =>
      have hname : StopsAtUnknown b [.function name] (.ok ()) :=
        .ok (List.forall_mem_singleton.2 (Builtin.ofLabel?_eq_some_iff.1 hf ▸ .function f))
      have hcode : StopsAtUnknown b (namesOfAll arguments)
          ((· ++ [Op.call f arguments.length]) <$> codes b arguments) :=
        (stopsAtUnknown_codes b arguments).map
      exact hname.bind fun _ => hcode

theorem stopsAtUnknown_codes (b : Bindings) (es : List Expr) :
    StopsAtUnknown b (namesOfAll es) (codes b es) := by
  cases es with
  | nil => exact .pure _
  | cons e rest =>
    exact (stopsAtUnknown_code b e).bind fun _ => (stopsAtUnknown_codes b rest).map

theorem stopsAtUnknown_programs (b : Bindings) (es : List Expr) :
    StopsAtUnknown b (namesOfAll es) (programs b es) := by
  cases es with
  | nil => exact .pure _
  | cons e rest =>
    exact (stopsAtUnknown_code b e).bind fun _ => (stopsAtUnknown_programs b rest).map

end

/-! ## Code -/

/-- A name is the first of some that stands for nothing. -/
def FirstUnknown (b : Bindings) (names : List NameUse) (n : NameUse) : Prop :=
  ∃ before after, names = before ++ n :: after ∧ (∀ m ∈ before, m.Known b) ∧ ¬ n.Known b

theorem FirstUnknown.mem {names : List NameUse} (h : FirstUnknown b names n) : n ∈ names := by
  obtain ⟨before, after, rfl, -, -⟩ := h
  exact List.mem_append_right _ List.mem_cons_self

/-- There is only one first unknown name. -/
theorem FirstUnknown.unique {names : List NameUse} {m : NameUse} (hn : FirstUnknown b names n)
    (hm : FirstUnknown b names m) : n = m := by
  obtain ⟨before, after, rfl, hbefore, hn⟩ := hn
  obtain ⟨before', after', heq, hbefore', hm⟩ := hm
  rcases List.append_eq_append_iff.1 heq with ⟨between, rfl, hrest⟩ | ⟨between, rfl, hrest⟩
  · cases between with
    | nil =>
      cases hrest
      rfl
    | cons x between =>
      -- The name would be in front of the other one, where all names are known.
      cases hrest
      exact absurd (hbefore' n (by simp)) hn
  · cases between with
    | nil =>
      cases hrest
      rfl
    | cons x between =>
      cases hrest
      exact absurd (hbefore m (by simp)) hm

/-- **Code fails exactly for want of a name.** An expression has code if and only if every name in
it, at any depth, stands for something; otherwise the error is that of the first name that does not,
in the order in which names are met. -/
theorem code_of_names (b : Bindings) (e : Expr) :
    ((∃ program, e.code b = .ok program) ↔
      ∀ s, e.Contains s → ∀ n ∈ s.ownNames, n.Known b) ∧
    ∀ error, e.code b = .error error ↔ ∃ n, FirstUnknown b e.names n ∧ error = n.error := by
  have hknown : (∀ s, e.Contains s → ∀ n ∈ s.ownNames, n.Known b) ↔ ∀ n ∈ e.names, n.Known b := by
    simp only [mem_names_iff]
    exact ⟨fun h n ⟨s, hs, hn⟩ => h s hs n hn, fun h s hs n hn => h n ⟨s, hs, hn⟩⟩
  rw [hknown]
  generalize e.names = names, e.code b = outcome, stopsAtUnknown_code b e = hstops
  cases hstops with
  | @ok _ program hall =>
    refine ⟨iff_of_true ⟨program, rfl⟩ hall, fun error => iff_of_false nofun ?_⟩
    rintro ⟨n, hn, -⟩
    obtain ⟨_, _, _, _, hunknown⟩ := id hn
    exact hunknown (hall n hn.mem)
  | @error before after n hbefore hn =>
    have hfirst : FirstUnknown b (before ++ n :: after) n := ⟨before, after, rfl, hbefore, hn⟩
    refine ⟨iff_of_false nofun fun hall => hn (hall n hfirst.mem), fun error => ?_⟩
    constructor
    · rintro ⟨⟩
      exact ⟨n, hfirst, rfl⟩
    · rintro ⟨m, hm, rfl⟩
      rw [hfirst.unique hm]

/-- The right operand is never evaluated, and the function is met before the variable. -/
example : (Expr.binary .or (.call "true" []) (.call "f" [.variable "v"])).code ⟨[]⟩ =
    .error (.unknownFunction "f") := rfl

end XmlQuery.XPath
