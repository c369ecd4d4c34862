import Mathlib.Data.List.Permutation
import XmlQuery.Proofs.Document.WellFormed
import XmlQuery.Proofs.XPath.CompiledCode
import XmlQuery.Proofs.XPath.Prefixes

/-!
# Paths compose

A path is evaluated one step at a time: each step starts from all nodes that the steps in front of
it have led to, put in order and without repetitions. It leads to the same nodes as the whole path
does from each single node, and it fails where the path fails from one of them. Order and
repetitions between the steps do not matter, since only the members of a node-set decide what is
reached from it, and the places that predicates look at are counted among the candidates of one
node.

## Main definitions

* `Gathers`: a computation leads to what is reached from some nodes
* `Expr.andSteps`: the steps of a path behind its base
* `walkSteps`: the nodes that steps lead to, one step after the other

## Main results

* `Gathers.bind`: what is gathered from gathered nodes
* `gathers_walkSteps`: steps lead from nodes to what they lead to from each of them
* `value_andSteps`: **relative paths compose**
-/

namespace XmlQuery.XPath

/-! ## Gathering -/

/-- A computation has no result. -/
def Fails {ε α : Type} (x : Except ε α) : Prop := ∃ e, x = .error e

theorem fails_bind_iff {ε α β : Type} {x : Except ε α} {f : α → Except ε β} :
    Fails (x >>= f) ↔ Fails x ∨ ∃ a, x = .ok a ∧ Fails (f a) := by
  cases x with
  | error e => exact ⟨fun _ => .inl ⟨e, rfl⟩, fun _ => ⟨e, rfl⟩⟩
  | ok a =>
    constructor
    · exact fun h => .inr ⟨a, rfl, h⟩
    · rintro (⟨e, ⟨⟩⟩ | ⟨_, ⟨⟩, h⟩)
      exact h

theorem exists_eq_ok_of_not_fails {ε α : Type} {x : Except ε α} (h : ¬ Fails x) :
    ∃ a, x = .ok a := by
  cases x with
  | error e => exact absurd ⟨e, rfl⟩ h
  | ok a => exact ⟨a, rfl⟩

theorem not_fails_ok {ε α : Type} (a : α) : ¬ Fails (.ok a : Except ε α) := nofun

/-- A computation leads to the nodes that are reached from some nodes, from each by a computation of
its own, and fails if one of these does. -/
structure Gathers (x : Except EvalError (List Nat)) (nodes : List Nat)
    (reach : Nat → Except EvalError (List Nat)) : Prop where
  /-- It fails if one of the nodes fails. -/
  fails_iff : Fails x ↔ ∃ n ∈ nodes, Fails (reach n)
  /-- What it leads to is reached from one of the nodes. -/
  mem_iff : ∀ {found}, x = .ok found →
    ∀ m, m ∈ found ↔ ∃ n ∈ nodes, ∃ reached, reach n = .ok reached ∧ m ∈ reached

namespace Gathers

variable {x y : Except EvalError (List Nat)} {nodes nodes' : List Nat}
  {reach : Nat → Except EvalError (List Nat)}

/-- Only the members of the nodes matter. -/
theorem of_mem_iff (h : Gathers x nodes reach) (hnodes : ∀ n, n ∈ nodes ↔ n ∈ nodes') :
    Gathers x nodes' reach where
  fails_iff := h.fails_iff.trans (exists_congr fun n => and_congr_left' (hnodes n))
  mem_iff hx m := (h.mem_iff hx m).trans (exists_congr fun n => and_congr_left' (hnodes n))

theorem singletons (nodes : List Nat) : Gathers (.ok nodes) nodes fun n => .ok [n] where
  fails_iff := iff_of_false (not_fails_ok _) fun ⟨_, _, h⟩ => not_fails_ok _ h
  mem_iff := by
    rintro _ ⟨⟩ m
    constructor
    · exact fun hm => ⟨m, hm, [m], rfl, List.mem_singleton_self m⟩
    · rintro ⟨n, hn, _, ⟨⟩, hm⟩
      rwa [List.mem_singleton.1 hm]

theorem nil (reach : Nat → Except EvalError (List Nat)) : Gathers (.ok []) [] reach where
  fails_iff := iff_of_false (not_fails_ok _) fun ⟨_, hn, _⟩ => List.not_mem_nil hn
  mem_iff := by
    rintro _ ⟨⟩ m
    exact iff_of_false List.not_mem_nil fun ⟨_, hn, _⟩ => List.not_mem_nil hn

theorem single (reach : Nat → Except EvalError (List Nat)) (n : Nat) :
    Gathers (reach n) [n] reach where
  fails_iff := by simp only [List.mem_singleton, exists_eq_left]
  mem_iff {found} hfound m := by
    simp only [List.mem_singleton, exists_eq_left, hfound, Except.ok.injEq, exists_eq_left']

/-- What is gathered from some nodes and then from others is gathered from all of them. -/
theorem append (h : Gathers x nodes reach) (h' : Gathers y nodes' reach) :
    Gathers (do return (← x) ++ (← y)) (nodes ++ nodes') reach where
  fails_iff := by
    simp only [fails_bind_iff, List.mem_append, or_and_right, exists_or, ← h.fails_iff,
      ← h'.fails_iff]
    constructor
    · rintro (hx | ⟨first, -, hy | ⟨_, -, ⟨_, ⟨⟩⟩⟩⟩)
      · exact .inl hx
      · exact .inr hy
    · rintro (hx | hy)
      · exact .inl hx
      · by_cases hx : Fails x
        · exact .inl hx
        · obtain ⟨first, hfirst⟩ := exists_eq_ok_of_not_fails hx
          exact .inr ⟨first, hfirst, .inl hy⟩
  mem_iff {found} hfound m := by
    obtain ⟨first, hfirst, hfound⟩ := bind_eq_ok_iff.1 hfound
    obtain ⟨others, hothers, hfound⟩ := bind_eq_ok_iff.1 hfound
    cases hfound
    simp only [List.mem_append, or_and_right, exists_or, h.mem_iff hfirst, h'.mem_iff hothers]

/-- Two computations that gather the same have the same nodes, if one of them puts them in order. -/
theorem eq_ok_iff (h : Gathers x nodes reach) (h' : Gathers y nodes reach)
    (hsorted : ∀ found, x = .ok found → found.SortedLT) {found : List Nat} :
    x = .ok found ↔ ∃ others, y = .ok others ∧ found = inDocumentOrder others := by
  have heq : ∀ {found others}, x = .ok found → y = .ok others → found = inDocumentOrder others :=
    fun hx hy => (hsorted _ hx).eq_of_mem_iff (sortedLT_inDocumentOrder _) fun m => by
      rw [mem_inDocumentOrder, h.mem_iff hx, h'.mem_iff hy]
  have hfails : Fails x ↔ Fails y := h.fails_iff.trans h'.fails_iff.symm
  constructor
  · intro hx
    obtain ⟨others, hy⟩ := exists_eq_ok_of_not_fails (x := y) fun hy => by
      rw [← hfails, hx] at hy
      exact not_fails_ok _ hy
    exact ⟨others, hy, heq hx hy⟩
  · rintro ⟨others, hy, rfl⟩
    obtain ⟨found, hx⟩ := exists_eq_ok_of_not_fails (x := x) fun hx => by
      rw [hfails, hy] at hx
      exact not_fails_ok _ hx
    rw [hx, heq hx hy]

/-- **What is gathered from gathered nodes** is gathered from the nodes in front: going on with all
that has been found is going on with what has been found from each of them. -/
theorem bind {g : List Nat → Except EvalError (List Nat)}
    {further : Nat → Except EvalError (List Nat)} (h : Gathers x nodes reach)
    (hg : ∀ found, Gathers (g found) found further) :
    Gathers (x >>= g) nodes fun n => reach n >>= g where
  fails_iff := by
    simp only [fails_bind_iff, (hg _).fails_iff]
    constructor
    · rintro (hx | ⟨found, hx, m, hm, hfurther⟩)
      · obtain ⟨n, hn, hfails⟩ := h.fails_iff.1 hx
        exact ⟨n, hn, .inl hfails⟩
      · obtain ⟨n, hn, reached, hreached, hm⟩ := (h.mem_iff hx m).1 hm
        exact ⟨n, hn, .inr ⟨reached, hreached, m, hm, hfurther⟩⟩
    · rintro ⟨n, hn, hfails | ⟨reached, hreached, m, hm, hfurther⟩⟩
      · exact .inl (h.fails_iff.2 ⟨n, hn, hfails⟩)
      · by_cases hx : Fails x
        · exact .inl hx
        · obtain ⟨found, hfound⟩ := exists_eq_ok_of_not_fails hx
          exact .inr ⟨found, hfound, m, (h.mem_iff hfound m).2 ⟨n, hn, reached, hreached, hm⟩,
            hfurther⟩
  mem_iff {out} hout m := by
    obtain ⟨found, hfound, hout⟩ := bind_eq_ok_iff.1 hout
    rw [(hg found).mem_iff hout]
    constructor
    · rintro ⟨k, hk, ks, hks, hm⟩
      obtain ⟨n, hn, reached, hreached, hkn⟩ := (h.mem_iff hfound k).1 hk
      -- All that is reached from the node has been found, so going on with it does not fail.
      have hgood : ¬ Fails (g reached) := by
        intro hfails
        obtain ⟨j, hj, hfurther⟩ := (hg reached).fails_iff.1 hfails
        have hj' : j ∈ found := (h.mem_iff hfound j).2 ⟨n, hn, reached, hreached, hj⟩
        have hfails' : Fails (g found) := (hg found).fails_iff.2 ⟨j, hj', hfurther⟩
        rw [hout] at hfails'
        exact not_fails_ok _ hfails'
      obtain ⟨outs, houts⟩ := exists_eq_ok_of_not_fails hgood
      exact ⟨n, hn, outs, bind_eq_ok_iff.2 ⟨reached, hreached, houts⟩,
        ((hg reached).mem_iff houts m).2 ⟨k, hkn, ks, hks, hm⟩⟩
    · rintro ⟨n, hn, outs, houts, hm⟩
      obtain ⟨reached, hreached, houts⟩ := bind_eq_ok_iff.1 houts
      obtain ⟨k, hk, ks, hks, hm⟩ := ((hg reached).mem_iff houts m).1 hm
      exact ⟨k, (h.mem_iff hfound k).2 ⟨n, hn, reached, hreached, hk⟩, ks, hks, hm⟩

end Gathers

theorem gathers_collect (reach : Nat → Except EvalError (List Nat)) (nodes : List Nat) :
    Gathers (collect reach nodes) nodes reach := by
  induction nodes with
  | nil => exact .nil reach
  | cons n rest ih => exact (Gathers.single reach n).append ih

theorem collect_singleton (reach : Nat → Except EvalError (List Nat)) (n : Nat) :
    collect reach [n] = reach n := by
  rw [collect, collect]
  cases reach n with
  | error e => rfl
  | ok found => exact congrArg Except.ok (List.append_nil found)

/-! ## Steps -/

/-- The code of a location step. -/
structure StepCode where
  /-- The direction. -/
  axis : Axis
  /-- What is asked of the nodes in that direction. -/
  test : ResolvedTest
  /-- The programs that the nodes have to pass, one after the other. -/
  predicates : List Program

namespace StepCode

/-- The operation of a step. -/
def op (s : StepCode) : Op := .step s.axis s.test s.predicates

/-- The nodes that a step leads to from a node. -/
def reach (d : Document) (s : StepCode) (node : Nat) : Except EvalError (List Nat) :=
  runPredicates d s.predicates ((s.axis.nodes d node).filter (s.test.holds d s.axis))

end StepCode

/-- The nodes that steps lead to from some nodes, one step after the other. -/
def walkSteps (d : Document) : List StepCode → List Nat → Except EvalError (List Nat)
  | [], nodes => .ok nodes
  | s :: rest, nodes => do
    let found ← collect (s.reach d) nodes
    walkSteps d rest (inDocumentOrder found)

variable {b : Bindings} {d : Document} {c : Context}

/-- **Steps lead from nodes to what they lead to from each of them**, by induction on the steps. -/
theorem gathers_walkSteps (d : Document) (steps : List StepCode) (nodes : List Nat) :
    Gathers (walkSteps d steps nodes) nodes fun n => walkSteps d steps [n] := by
  induction steps generalizing nodes with
  | nil => exact .singletons nodes
  | cons s rest ih =>
    have hrest : ∀ found, Gathers (walkSteps d rest (inDocumentOrder found)) found
        fun n => walkSteps d rest [n] :=
      fun found => (ih _).of_mem_iff fun n => mem_inDocumentOrder
    simp only [walkSteps, collect_singleton]
    exact (gathers_collect (s.reach d) nodes).bind hrest

/-- The last of some steps puts what is found in order. -/
theorem sortedLT_walkSteps {s : StepCode} {rest : List StepCode} {nodes found : List Nat}
    (h : walkSteps d (s :: rest) nodes = .ok found) : found.SortedLT := by
  induction rest generalizing s nodes with
  | nil =>
    obtain ⟨reached, -, h⟩ := bind_eq_ok_iff.1 h
    cases h
    exact sortedLT_inDocumentOrder reached
  | cons s' rest ih =>
    obtain ⟨reached, -, h⟩ := bind_eq_ok_iff.1 h
    exact ih h

/-- The operations of steps on a node-set. -/
theorem runOps_steps (steps : List StepCode) (nodes : List Nat) (stack : List Value) :
    runOps d (steps.map StepCode.op) c (.nodeSet nodes :: stack) =
      (fun found => .nodeSet found :: stack) <$> walkSteps d steps nodes := by
  induction steps generalizing nodes with
  | nil => rfl
  | cons s rest ih =>
    rw [List.map_cons, runOps, StepCode.op, Op.run, walkSteps]
    change (collect (s.reach d) nodes >>= _) >>= _ = _
    cases collect (s.reach d) nodes with
    | error e => rfl
    | ok found => exact ih (inDocumentOrder found)

/-! ## Code -/

/-- The path from a base along steps. -/
def Expr.andSteps (base : Expr) (steps : List Step) : Expr := steps.foldl Expr.andStep base

/-- The codes of steps. -/
def stepCodes (b : Bindings) : List Step → Except CompileError (List StepCode)
  | [] => .ok []
  | s :: rest => do
    let test ← s.test.resolve b s.axis
    let predicates ← programs b s.predicates
    let others ← stepCodes b rest
    return ⟨s.axis, test, predicates⟩ :: others

theorem stepCodes_cons_eq_ok_iff {s : Step} {rest : List Step} {steps : List StepCode} :
    stepCodes b (s :: rest) = .ok steps ↔ ∃ test predicates others,
      s.test.resolve b s.axis = .ok test ∧ programs b s.predicates = .ok predicates ∧
        stepCodes b rest = .ok others ∧ steps = ⟨s.axis, test, predicates⟩ :: others := by
  simp only [stepCodes, bind_eq_ok_iff, pure, Except.pure, Except.ok.injEq, exists_and_left,
    eq_comm (b := steps)]

/-- The code of a path is that of its base, and an operation for each step. -/
theorem code_andSteps_eq_ok_iff {base : Expr} {steps : List Step} {program : Program} :
    (base.andSteps steps).code b = .ok program ↔ ∃ before ops, base.code b = .ok before ∧
      stepCodes b steps = .ok ops ∧ program = before ++ ops.map StepCode.op := by
  induction steps generalizing base with
  | nil =>
    constructor
    · exact fun h => ⟨program, [], h, rfl, (List.append_nil program).symm⟩
    · rintro ⟨before, _, hbefore, ⟨⟩, rfl⟩
      exact hbefore.trans (congrArg Except.ok (List.append_nil before).symm)
  | cons s rest ih =>
    change ((base.andStep s).andSteps rest).code b = _ ↔ _
    simp only [ih, stepCodes_cons_eq_ok_iff, Expr.andStep, Expr.code, bind_eq_ok_iff, pure,
      Except.pure, Except.ok.injEq]
    constructor
    · rintro ⟨_, ops, ⟨before, hbefore, test, htest, ps, hps, rfl⟩, hops, rfl⟩
      exact ⟨before, _, hbefore, ⟨test, ps, ops, htest, hps, hops, rfl⟩, List.append_assoc ..⟩
    · rintro ⟨before, _, hbefore, ⟨test, ps, ops, htest, hps, hops, rfl⟩, rfl⟩
      refine ⟨_, ops, ⟨before, hbefore, test, htest, ps, hps, rfl⟩, hops, ?_⟩
      rw [List.append_assoc]
      rfl

/-- A relative path starts from the context node. -/
theorem code_relative_eq_ok_iff {s : Step} {rest : List Step} {program : Program} :
    (s.toExpr.andSteps rest).code b = .ok program ↔
      ∃ ops, stepCodes b (s :: rest) = .ok ops ∧ program = .context :: ops.map StepCode.op := by
  simp only [code_andSteps_eq_ok_iff, stepCodes_cons_eq_ok_iff, Step.toExpr, Expr.code,
    bind_eq_ok_iff, pure, Except.pure, Except.ok.injEq]
  constructor
  · rintro ⟨_, ops, ⟨test, htest, ps, hps, rfl⟩, hops, rfl⟩
    exact ⟨_, ⟨test, ps, ops, htest, hps, hops, rfl⟩, rfl⟩
  · rintro ⟨_, ⟨test, ps, ops, htest, hps, hops, rfl⟩, rfl⟩
    exact ⟨_, ops, ⟨test, htest, ps, hps, rfl⟩, hops, rfl⟩

/-! ## Values -/

/-- The value of code with operations behind it. -/
theorem value_append {e : Expr} {program : Program} (h : e.code b = .ok program)
    (d : Document) (ops : Program) (c : Context) :
    Program.value d (program ++ ops) c =
      Program.value d program c >>= fun v => do return (← pop (← runOps d ops c [v])).1 := by
  rw [Program.value, runOps_append, (run_eval_eq_value h d c []).2]
  cases Program.value d program c with
  | error e => rfl
  | ok v => rfl

/-- The value of a path with steps is made of the nodes of its base. -/
theorem value_steps {e : Expr} {program : Program} (h : e.code b = .ok program) (d : Document)
    (c : Context) (s : StepCode) (rest : List StepCode) :
    Program.value d (program ++ (s :: rest).map StepCode.op) c =
      Program.value d program c >>= fun v => v.nodesFor .step >>= fun nodes =>
        .nodeSet <$> walkSteps d (s :: rest) nodes := by
  rw [value_append h]
  congr 1
  funext v
  cases v with
  | nodeSet nodes =>
    rw [runOps_steps]
    change _ = Value.nodeSet <$> walkSteps d (s :: rest) nodes
    cases walkSteps d (s :: rest) nodes <;> rfl
  | _ => rfl

/-- The value of a path with steps, where that of its base is a node-set. -/
theorem value_steps_of_nodeSet {e : Expr} {program : Program} (h : e.code b = .ok program)
    {nodes : List Nat} (hnodes : Program.value d program c = .ok (.nodeSet nodes)) (s : StepCode)
    (rest : List StepCode) :
    Program.value d (program ++ (s :: rest).map StepCode.op) c =
      .nodeSet <$> walkSteps d (s :: rest) nodes := by
  rw [value_steps h, hnodes]
  rfl

/-- The value of a relative path is made of the context node. -/
theorem value_relative (d : Document) (c : Context) (steps : List StepCode) :
    Program.value d (.context :: steps.map StepCode.op) c =
      .nodeSet <$> walkSteps d steps [c.node] := by
  rw [Program.value]
  change (runOps d (steps.map StepCode.op) c [.nodeSet [c.node]] >>= _) = _
  rw [runOps_steps]
  cases walkSteps d steps [c.node] <;> rfl

theorem map_nodeSet_eq_ok_iff {x : Except EvalError (List Nat)} {v : Value} :
    Value.nodeSet <$> x = .ok v ↔ ∃ nodes, x = .ok nodes ∧ v = .nodeSet nodes := by
  cases x with
  | error e => exact ⟨nofun, nofun⟩
  | ok nodes =>
    change Except.ok (Value.nodeSet nodes) = .ok v ↔ _
    simp only [Except.ok.injEq, exists_eq_left', eq_comm]

theorem fails_map_iff {ε α β : Type} {x : Except ε α} {f : α → β} :
    Fails (f <$> x) ↔ Fails x := by
  cases x with
  | error e => exact ⟨fun _ => ⟨e, rfl⟩, fun _ => ⟨e, rfl⟩⟩
  | ok a => exact iff_of_false (not_fails_ok _) (not_fails_ok _)

theorem nodesFor_eq_ok_iff {operation : NodeSetOperation} {v : Value} {nodes : List Nat} :
    v.nodesFor operation = .ok nodes ↔ v = .nodeSet nodes := by
  cases v with
  | nodeSet found => simp only [Value.nodesFor, Except.ok.injEq, Value.nodeSet.injEq]
  | _ => exact ⟨nofun, nofun⟩

theorem value_steps_eq_ok_iff {e : Expr} {program : Program} (h : e.code b = .ok program)
    {s : StepCode} {rest : List StepCode} {v : Value} :
    Program.value d (program ++ (s :: rest).map StepCode.op) c = .ok v ↔
      ∃ nodes, Program.value d program c = .ok (.nodeSet nodes) ∧
        ∃ found, walkSteps d (s :: rest) nodes = .ok found ∧ v = .nodeSet found := by
  simp only [value_steps h, bind_eq_ok_iff, nodesFor_eq_ok_iff, map_nodeSet_eq_ok_iff]
  constructor
  · rintro ⟨_, hv, nodes, rfl, hfound⟩
    exact ⟨nodes, hv, hfound⟩
  · rintro ⟨nodes, hv, hfound⟩
    exact ⟨_, hv, nodes, rfl, hfound⟩

/-- The value of a union is made of the nodes of its operands. -/
theorem value_union_eq_ok_iff {left right : Expr} {p q : Program} (hp : left.code b = .ok p)
    (hq : right.code b = .ok q) {v : Value} :
    Program.value d (p ++ q ++ [.union]) c = .ok v ↔
      ∃ before after, Program.value d p c = .ok (.nodeSet before) ∧
        Program.value d q c = .ok (.nodeSet after) ∧
        v = .nodeSet (before.toFinset ∪ after.toFinset).sort := by
  have hvalue : Program.value d (p ++ q ++ [.union]) c = do
      let x ← Program.value d p c
      let y ← Program.value d q c
      let after ← y.nodesFor .union
      let before ← x.nodesFor .union
      return .nodeSet (before.toFinset ∪ after.toFinset).sort := by
    rw [Program.value, runOps_append, runOps_append, (run_eval_eq_value hp d c []).2]
    cases Program.value d p c with
    | error e => rfl
    | ok x =>
      change runOps d q c [x] >>= _ >>= _ = _
      rw [(run_eval_eq_value hq d c [x]).2]
      cases Program.value d q c with
      | error e => rfl
      | ok y =>
        change runOps d [.union] c [y, x] >>= _ = _
        rw [runOps_singleton, union_run]
        cases y with
        | nodeSet after => cases x <;> rfl
        | _ => rfl
  simp only [hvalue, bind_eq_ok_iff, nodesFor_eq_ok_iff]
  constructor
  · rintro ⟨_, hx, _, hy, after, rfl, before, rfl, h⟩
    cases h
    exact ⟨before, after, hx, hy, rfl⟩
  · rintro ⟨before, after, hx, hy, rfl⟩
    exact ⟨_, hx, _, hy, after, rfl, before, rfl, rfl⟩

/-- Steps lead from the nodes of two node-sets to what they lead to from one and from the other. -/
theorem walkSteps_union_eq_ok_iff {s : StepCode} {rest : List StepCode}
    {before after found : List Nat} :
    walkSteps d (s :: rest) (before.toFinset ∪ after.toFinset).sort = .ok found ↔
      ∃ xs ys, walkSteps d (s :: rest) before = .ok xs ∧ walkSteps d (s :: rest) after = .ok ys ∧
        found = (xs.toFinset ∪ ys.toFinset).sort := by
  -- From the union the same is gathered as from both parts: only the members count.
  have hboth := (gathers_walkSteps d (s :: rest) before).append
    (gathers_walkSteps d (s :: rest) after)
  have hunion : Gathers (walkSteps d (s :: rest) (before.toFinset ∪ after.toFinset).sort)
      (before ++ after) fun n => walkSteps d (s :: rest) [n] :=
    (gathers_walkSteps d (s :: rest) _).of_mem_iff fun n => by simp
  rw [hunion.eq_ok_iff hboth fun _ => sortedLT_walkSteps]
  simp only [bind_eq_ok_iff, inDocumentOrder_eq_sort, ← List.toFinset_append]
  constructor
  · rintro ⟨_, ⟨xs, hxs, ys, hys, ⟨⟩⟩, rfl⟩
    exact ⟨xs, ys, hxs, hys, rfl⟩
  · rintro ⟨xs, ys, hxs, hys, rfl⟩
    exact ⟨_, ⟨xs, hxs, ys, hys, rfl⟩, rfl⟩

/-- A path with steps has the value of the union of two paths with the same steps, if its base is
the union of their bases. -/
theorem sameResult_union {left right : Expr} {s : Step} {rest : List Step} {path both : Program}
    (hpath : ((Expr.union left right).andSteps (s :: rest)).code b = .ok path)
    (hboth : (Expr.union (left.andSteps (s :: rest)) (right.andSteps (s :: rest))).code b =
      .ok both)
    (d : Document) (c : Context) :
    SameResult (Program.value d path c) (Program.value d both c) := by
  obtain ⟨_, ops, hunion, hops, rfl⟩ := code_andSteps_eq_ok_iff.1 hpath
  have hbase := hunion
  simp only [Expr.code, bind_eq_ok_iff] at hbase hboth
  obtain ⟨p, hp, q, hq, ⟨⟩⟩ := hbase
  obtain ⟨p', hp', q', hq', ⟨⟩⟩ := hboth
  -- The two paths of the union are compiled to the code of its bases with the same steps behind it.
  cases hp'.symm.trans (code_andSteps_eq_ok_iff.2 ⟨p, ops, hp, hops, rfl⟩)
  cases hq'.symm.trans (code_andSteps_eq_ok_iff.2 ⟨q, ops, hq, hops, rfl⟩)
  obtain ⟨test, predicates, others, -, -, -, rfl⟩ := stepCodes_cons_eq_ok_iff.1 hops
  intro v
  simp only [value_union_eq_ok_iff hp' hq', value_steps_eq_ok_iff hunion,
    value_union_eq_ok_iff hp hq, value_steps_eq_ok_iff hp, value_steps_eq_ok_iff hq,
    Value.nodeSet.injEq]
  constructor
  · rintro ⟨_, ⟨before, after, hbefore, hafter, rfl⟩, found, hfound, rfl⟩
    obtain ⟨xs, ys, hxs, hys, rfl⟩ := walkSteps_union_eq_ok_iff.1 hfound
    exact ⟨xs, ys, ⟨before, hbefore, xs, hxs, rfl⟩, ⟨after, hafter, ys, hys, rfl⟩, rfl⟩
  · rintro ⟨xs, ys, ⟨before, hbefore, _, hxs, rfl⟩, ⟨after, hafter, _, hys, rfl⟩, rfl⟩
    exact ⟨_, ⟨before, after, hbefore, hafter, rfl⟩, _,
      walkSteps_union_eq_ok_iff.2 ⟨xs, ys, hxs, hys, rfl⟩, rfl⟩

/-- **Relative paths compose.** A path with steps behind its base fails where the relative path of
the steps fails from one of the nodes of the base. Otherwise it leads to what the relative path
leads to from these nodes, in order and without repetitions. So a union in front of steps is the
union of two paths with these steps. -/
theorem value_andSteps {b : Bindings} {s : Step} {rest : List Step} (d : Document) (c : Context) :
    (∀ {base : Expr} {path : Program}, (base.andSteps (s :: rest)).code b = .ok path →
      ∃ start relative, base.code b = .ok start ∧ (s.toExpr.andSteps rest).code b = .ok relative ∧
        ∀ nodes, Program.value d start c = .ok (.nodeSet nodes) →
          (Fails (Program.value d path c) ↔
            ∃ n ∈ nodes, Fails (Program.value d relative (.ofNode n))) ∧
          ∀ v, Program.value d path c = .ok v → ∃ found, v = .nodeSet found ∧ found.SortedLT ∧
            ∀ m, m ∈ found ↔ ∃ n ∈ nodes, ∃ reached,
              Program.value d relative (.ofNode n) = .ok (.nodeSet reached) ∧ m ∈ reached) ∧
    ∀ {left right : Expr} {path both : Program},
      ((Expr.union left right).andSteps (s :: rest)).code b = .ok path →
      (Expr.union (left.andSteps (s :: rest)) (right.andSteps (s :: rest))).code b = .ok both →
      SameResult (Program.value d path c) (Program.value d both c) := by
  refine ⟨fun {base path} hpath => ?_, fun hpath hboth => sameResult_union hpath hboth d c⟩
  obtain ⟨start, ops, hstart, hops, rfl⟩ := code_andSteps_eq_ok_iff.1 hpath
  refine ⟨start, _, hstart, code_relative_eq_ok_iff.2 ⟨ops, hops, rfl⟩, fun nodes hnodes => ?_⟩
  obtain ⟨test, predicates, others, -, -, -, rfl⟩ := stepCodes_cons_eq_ok_iff.1 hops
  -- What the steps lead to is gathered from the nodes one by one, with the failures.
  have hgathers := gathers_walkSteps d (⟨s.axis, test, predicates⟩ :: others) nodes
  simp only [value_relative, Context.ofNode, fails_map_iff, map_nodeSet_eq_ok_iff]
  rw [value_steps_of_nodeSet hstart hnodes, fails_map_iff]
  refine ⟨hgathers.fails_iff, fun v hv => ?_⟩
  obtain ⟨found, hfound, rfl⟩ := map_nodeSet_eq_ok_iff.1 hv
  refine ⟨found, rfl, sortedLT_walkSteps hfound, fun m => ?_⟩
  rw [hgathers.mem_iff hfound]
  simp only [Value.nodeSet.injEq, exists_eq_right']

/-- The parents of the children of all nodes of the sample are found from the nodes one by one. From
the document or from any node, they are found from any node. -/
theorem value_andSteps_parents :
    let d := Document.ofTrees [Document.sampleTree]
    let all := Expr.withDescendants .root
    let s : Step := ⟨.child, .node, [.step .parent .node []]⟩
    let start : Program := [.root, .step .descendantOrSelf .node []]
    let steps : Program :=
      [.step .child .node [[.context, .step .parent .node []]], .step .parent .node []]
    let both : Program := [.root] ++ steps ++ (start ++ steps) ++ [.union]
    (all.andSteps [s, .anyNode .parent]).code ⟨[]⟩ = .ok (start ++ steps) ∧
      Program.value d start ⟨0, 1, 1⟩ = .ok (.nodeSet [0, 1, 3]) ∧
      Program.value d (start ++ steps) ⟨0, 1, 1⟩ = .ok (.nodeSet [0, 1]) ∧
      (∀ m, m ∈ [0, 1] ↔ ∃ n ∈ [0, 1, 3], ∃ reached,
        Program.value d (.context :: steps) (.ofNode n) = .ok (.nodeSet reached) ∧ m ∈ reached) ∧
      ((Expr.union .root all).andSteps [s, .anyNode .parent]).code ⟨[]⟩ =
        .ok ([.root] ++ start ++ [.union] ++ steps) ∧
      (Expr.union (Expr.andSteps .root [s, .anyNode .parent])
        (all.andSteps [s, .anyNode .parent])).code ⟨[]⟩ = .ok both ∧
      SameResult (Program.value d ([.root] ++ start ++ [.union] ++ steps) ⟨0, 1, 1⟩)
        (Program.value d both ⟨0, 1, 1⟩) := by
  intro d all s start steps both
  have hpath : (all.andSteps [s, .anyNode .parent]).code ⟨[]⟩ = .ok (start ++ steps) := rfl
  have hunion : ((Expr.union .root all).andSteps [s, .anyNode .parent]).code ⟨[]⟩ =
      .ok ([.root] ++ start ++ [.union] ++ steps) := rfl
  have hboth : (Expr.union (Expr.andSteps .root [s, .anyNode .parent])
      (all.andSteps [s, .anyNode .parent])).code ⟨[]⟩ = .ok both := rfl
  have hstart : Program.value d start ⟨0, 1, 1⟩ = .ok (.nodeSet [0, 1, 3]) := by cbv
  have hvalue : Program.value d (start ++ steps) ⟨0, 1, 1⟩ = .ok (.nodeSet [0, 1]) := by cbv
  have h := @value_andSteps ⟨[]⟩ s [.anyNode .parent] d ⟨0, 1, 1⟩
  obtain ⟨_, _, ⟨⟩, ⟨⟩, hcompose⟩ := h.1 hpath
  obtain ⟨_, ⟨⟩, -, hmem⟩ := (hcompose _ hstart).2 _ hvalue
  exact ⟨hpath, hstart, hvalue, hmem, hunion, hboth, h.2 hunion hboth⟩

end XmlQuery.XPath
