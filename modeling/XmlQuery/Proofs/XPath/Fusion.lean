import XmlQuery.Proofs.XPath.Axes
import XmlQuery.Proofs.XPath.Composition
import XmlQuery.Proofs.XPath.Parsing
import XmlQuery.Proofs.XPath.Typing

/-!
# Two slashes and descendants

Two slashes stand for a step to all nodes from a node downwards, and the children of these nodes are
the descendants of the node. So the two steps lead to the candidates to which one step to the
descendants leads, but they count the places of the candidates in other ways: among the children of
each parent, or among all descendants. Predicates that do not look at places let the same candidates
pass, and fail at the same ones.

## Main definitions

* `Expr.usesPlace`: the value of an expression can depend on the place of its context node
* `Placeless`: a program passes or refuses a node wherever the node stands

## Main results

* `eval_congr_place`: only expressions that use places depend on them
* `type_of_eval`: a value is of the type of its expression
* `mem_descendant_nodes_iff`: descendants are the children of what is not above them
* `value_doubleSlash`: **two slashes are a step to descendants**, in front of such predicates
-/

namespace XmlQuery.XPath

open Grammar (Expression PathExpr)

/-! ## Places -/

namespace Expr

mutual

/-- The expression asks for the place of its context node, or for the number of nodes around it.
Predicates inside it ask for places of their own. -/
def usesPlace : Expr → Bool
  | .root | .number _ | .string _ | .variable _ | .step .. => false
  | .negate operand => operand.usesPlace
  | .binary _ left right | .union left right => left.usesPlace || right.usesPlace
  | .path base _ _ _ | .filter base _ => base.usesPlace
  | .call name arguments => name == "position" || name == "last" || anyUsesPlace arguments

/-- One of some expressions asks for a place. -/
def anyUsesPlace : List Expr → Bool
  | [] => false
  | e :: rest => e.usesPlace || anyUsesPlace rest

end

end Expr

variable {b : Bindings} {d : Document} {c c' : Context}

namespace Evaluation

variable {α β : Type} {m : Evaluation α}

/-- What goes on after a value matters only for the value there is. -/
theorem bind_congr {f g : α → Evaluation β} (h : ∀ a, m = pure a → f a = g a) :
    m >>= f = m >>= g := by
  obtain _ | ⟨e | a⟩ := m
  · rfl
  · rfl
  · exact h a rfl

theorem bind_eq_pure_iff {f : α → Evaluation β} {y : β} :
    m >>= f = pure y ↔ ∃ a, m = pure a ∧ f a = pure y := by
  obtain _ | ⟨e | a⟩ := m
  · exact ⟨nofun, nofun⟩
  · exact ⟨nofun, nofun⟩
  · constructor
    · exact fun h => ⟨a, rfl, h⟩
    · rintro ⟨_, ⟨⟩, h⟩
      exact h

theorem eq_some_of_lift {o : Option α} {a : α} (h : (liftM o : Evaluation α) = pure a) :
    o = some a := by
  cases o with
  | none => cases h
  | some x =>
    cases h
    rfl

theorem eq_ok_of_lift {r : Except EvalError α} {a : α} (h : (liftM r : Evaluation α) = pure a) :
    r = .ok a := by
  cases r with
  | error e => cases h
  | ok x =>
    cases h
    rfl

end Evaluation

/-- No other function looks at the place of its context. -/
theorem apply_congr_place {f : Builtin} (hposition : f ≠ .position) (hlast : f ≠ .last)
    (hnode : c.node = c'.node) (arguments : List Value) :
    f.apply d c arguments = f.apply d c' arguments := by
  unfold Builtin.apply
  split
  case h_1 => exact absurd rfl hlast
  case h_2 => exact absurd rfl hposition
  all_goals simp only [hnode]

mutual

/-- **Only expressions that use places depend on them.** -/
theorem eval_congr_place {e : Expr} (he : e.usesPlace = false) (hnode : c.node = c'.node) :
    e.eval b d c = e.eval b d c' := by
  cases e with
  | root | number | string | «variable» => rw [Expr.eval, Expr.eval]
  | negate operand =>
    rw [Expr.usesPlace] at he
    rw [Expr.eval, Expr.eval, eval_congr_place he hnode]
  | binary op left right =>
    rw [Expr.usesPlace, Bool.or_eq_false_iff] at he
    have hleft : left.eval b d c = left.eval b d c' := eval_congr_place he.1 hnode
    have hright : right.eval b d c = right.eval b d c' := eval_congr_place he.2 hnode
    cases op
    all_goals
      rw [Expr.eval, Expr.eval, hleft, hright]
      all_goals nofun
  | union left right =>
    rw [Expr.usesPlace, Bool.or_eq_false_iff] at he
    rw [Expr.eval, Expr.eval, eval_congr_place he.1 hnode, eval_congr_place he.2 hnode]
  | path base axis test predicates =>
    -- The predicates are evaluated at places of their own.
    rw [Expr.usesPlace] at he
    rw [Expr.eval, Expr.eval, eval_congr_place he hnode]
  | step axis test predicates => rw [Expr.eval, Expr.eval, hnode]
  | filter base predicate =>
    rw [Expr.usesPlace] at he
    rw [Expr.eval, Expr.eval, eval_congr_place he hnode]
  | call name arguments =>
    simp only [Expr.usesPlace, Bool.or_eq_false_iff, beq_eq_false_iff_ne] at he
    obtain ⟨⟨hposition, hlast⟩, harguments⟩ := he
    rw [Expr.eval, Expr.eval, evalEach_congr_place harguments hnode]
    refine Evaluation.bind_congr fun f hf => ?_
    have hlabel := Builtin.ofLabel?_eq_some_iff.1 (Evaluation.eq_some_of_lift hf)
    have happly : f.apply d c = f.apply d c' := funext <| apply_congr_place
      (fun h => hposition (hlabel.symm.trans (congrArg Builtin.label h)))
      (fun h => hlast (hlabel.symm.trans (congrArg Builtin.label h))) hnode
    rw [happly]

theorem evalEach_congr_place {es : List Expr} (hes : Expr.anyUsesPlace es = false)
    (hnode : c.node = c'.node) : evalEach b d es c = evalEach b d es c' := by
  cases es with
  | nil => rw [evalEach, evalEach]
  | cons e rest =>
    rw [Expr.anyUsesPlace, Bool.or_eq_false_iff] at hes
    rw [evalEach, evalEach, eval_congr_place hes.1 hnode, evalEach_congr_place hes.2 hnode]

end

/-! ## Types -/

/-- A value is of the type of its expression. -/
theorem type_of_eval {e : Expr} {v : Value} (h : e.eval b d c = pure v) :
    e.type? = some v.type := by
  cases e with
  | root | number | string =>
    rw [Expr.eval] at h
    cases h
    rfl
  | «variable» name =>
    rw [Expr.eval] at h
    cases h
  | negate operand =>
    rw [Expr.eval, Evaluation.bind_eq_pure_iff] at h
    obtain ⟨_, -, ⟨⟩⟩ := h
    rfl
  | binary op left right =>
    -- The right operand of these two is not always evaluated.
    cases op
    case and =>
      rw [Expr.eval, Evaluation.bind_eq_pure_iff] at h
      obtain ⟨x, -, h⟩ := h
      split at h
      · obtain ⟨_, -, ⟨⟩⟩ := Evaluation.bind_eq_pure_iff.1 h
        rfl
      · cases h
        rfl
    case or =>
      rw [Expr.eval, Evaluation.bind_eq_pure_iff] at h
      obtain ⟨x, -, h⟩ := h
      split at h
      · cases h
        rfl
      · obtain ⟨_, -, ⟨⟩⟩ := Evaluation.bind_eq_pure_iff.1 h
        rfl
    all_goals
      rw [Expr.eval] at h
      · simp only [Evaluation.bind_eq_pure_iff] at h
        obtain ⟨x, -, y, -, ⟨⟩⟩ := h
        rfl
      all_goals nofun
  | union left right =>
    simp only [Expr.eval, Evaluation.bind_eq_pure_iff] at h
    obtain ⟨_, -, _, -, _, -, _, -, ⟨⟩⟩ := h
    rfl
  | path base axis test predicates =>
    simp only [Expr.eval, Evaluation.bind_eq_pure_iff] at h
    obtain ⟨_, -, _, -, _, -, ⟨⟩⟩ := h
    rfl
  | step axis test predicates =>
    simp only [Expr.eval, Evaluation.bind_eq_pure_iff] at h
    obtain ⟨_, -, _, -, ⟨⟩⟩ := h
    rfl
  | filter base predicate =>
    simp only [Expr.eval, Evaluation.bind_eq_pure_iff] at h
    obtain ⟨_, -, _, -, _, -, ⟨⟩⟩ := h
    rfl
  | call name arguments =>
    simp only [Expr.eval, Evaluation.bind_eq_pure_iff] at h
    obtain ⟨f, hf, vs, -, hv⟩ := h
    rw [Expr.type?, Evaluation.eq_some_of_lift hf, Option.map_some,
      Builtin.type_of_apply (Evaluation.eq_ok_of_lift hv)]

/-! ## Predicates -/

/-- A program passes or refuses a node wherever the node stands: its value does not depend on the
place of the context node, and is no number, which would be compared with the place. -/
structure Placeless (d : Document) (program : Program) : Prop where
  /-- The value is that at any other place. -/
  value_eq : ∀ {c c'}, c.node = c'.node → Program.value d program c = Program.value d program c'
  /-- The value is no number. -/
  ne_number : ∀ {c v}, Program.value d program c = .ok v → v.type ≠ .number

/-- The code of an expression that uses no place and is of another type than numbers. -/
theorem placeless_of_code {e : Expr} {program : Program} (h : e.code b = .ok program)
    (hplace : e.usesPlace = false) (htype : e.type? ≠ some .number) : Placeless d program := by
  have heval : ∀ c, e.eval b d c = ExceptT.mk (some (Program.value d program c)) :=
    fun c => (run_eval_eq_value h d c []).1
  constructor
  · intro c c' hnode
    have heq : e.eval b d c = e.eval b d c' := eval_congr_place hplace hnode
    rw [heval, heval] at heq
    exact Option.some.inj heq
  · intro c v hv hnumber
    have hpure : e.eval b d c = pure v := by
      rw [heval, hv]
      rfl
    exact htype (hnumber ▸ type_of_eval hpure)

/-- The value is no number, so the place that it would be compared with does not matter. -/
theorem Placeless.passes_eq {program : Program} (h : Placeless d program) {v : Value}
    (hv : Program.value d program c = .ok v) (place : Nat) : passes place v = v.toBoolean := by
  cases v with
  | number => exact absurd rfl (h.ne_number hv)
  | _ => rfl

/-- At the head of some nodes a placeless program does what it does with the node alone. -/
theorem Placeless.filterFrom_cons {program : Program} (h : Placeless d program)
    (size place n : Nat) (rest : List Nat) :
    filterFrom (Program.value d program) size place (n :: rest) = do
      return (← filterNodes (Program.value d program) [n]) ++
        (← filterFrom (Program.value d program) size (place + 1) rest) := by
  have hvalue : Program.value d program ⟨n, 1, 1⟩ = Program.value d program ⟨n, place, size⟩ :=
    h.value_eq rfl
  rw [filterNodes, List.length_singleton, filterFrom, filterFrom, filterFrom, hvalue]
  cases hv : Program.value d program ⟨n, place, size⟩ with
  | error e => rfl
  | ok v =>
    cases filterFrom (Program.value d program) size (place + 1) rest with
    | error e => rfl
    | ok others =>
      change Except.ok (if passes place v then n :: others else others) =
        .ok ((if passes 1 v then [n] else []) ++ others)
      rw [h.passes_eq hv, h.passes_eq hv]
      cases v.toBoolean <;> rfl

/-- Among nodes from a place on a placeless program lets those pass that it lets pass alone. -/
theorem Placeless.gathers_filterFrom {program : Program} (h : Placeless d program)
    (size place : Nat) (nodes : List Nat) :
    Gathers (filterFrom (Program.value d program) size place nodes) nodes
      fun n => filterNodes (Program.value d program) [n] := by
  induction nodes generalizing place with
  | nil => exact .nil _
  | cons n rest ih =>
    rw [h.filterFrom_cons]
    exact (Gathers.single _ n).append (ih (place + 1))

/-- Placeless predicates let those nodes pass that they let pass alone. -/
theorem gathers_runPredicates {predicates : List Program}
    (h : ∀ program ∈ predicates, Placeless d program) (nodes : List Nat) :
    Gathers (runPredicates d predicates nodes) nodes fun n => runPredicates d predicates [n] := by
  induction predicates generalizing nodes with
  | nil =>
    simp only [runPredicates]
    exact .singletons nodes
  | cons program rest ih =>
    rw [List.forall_mem_cons] at h
    simp only [runPredicates]
    exact (h.1.gathers_filterFrom nodes.length 1 nodes).bind (ih h.2)

/-! ## Both ways down -/

namespace Gathers

variable {x : Except EvalError (List Nat)} {nodes : List Nat}
  {reach further : Nat → Except EvalError (List Nat)}

/-- What is gathered from nodes that lead to other nodes is gathered from these. -/
theorem flatMap {between : Nat → List Nat} (h : Gathers x nodes reach)
    (hreach : ∀ n, Gathers (reach n) (between n) further) :
    Gathers x (nodes.flatMap between) further where
  fails_iff := by
    simp only [h.fails_iff, (hreach _).fails_iff, List.mem_flatMap]
    constructor
    · rintro ⟨n, hn, m, hm, hfails⟩
      exact ⟨m, ⟨n, hn, hm⟩, hfails⟩
    · rintro ⟨m, ⟨n, hn, hm⟩, hfails⟩
      exact ⟨n, hn, m, hm, hfails⟩
  mem_iff {found} hfound m := by
    rw [h.mem_iff hfound]
    simp only [List.mem_flatMap]
    constructor
    · rintro ⟨n, hn, reached, hreached, hm⟩
      obtain ⟨k, hk, hkm⟩ := ((hreach n).mem_iff hreached m).1 hm
      exact ⟨k, ⟨n, hn, hk⟩, hkm⟩
    · rintro ⟨k, ⟨n, hn, hk⟩, hkm⟩
      -- Nothing fails on the way to what has been found.
      obtain ⟨reached, hreached⟩ := exists_eq_ok_of_not_fails (x := reach n) fun hfails => by
        have hx := h.fails_iff.2 ⟨n, hn, hfails⟩
        rw [hfound] at hx
        exact not_fails_ok _ hx
      exact ⟨n, hn, reached, hreached, ((hreach n).mem_iff hreached m).2 ⟨k, hk, hkm⟩⟩

/-- Two computations in order that gather the same have the same outcome. -/
theorem same {y : Except EvalError (List Nat)} (h : Gathers x nodes reach)
    (h' : Gathers y nodes reach) (hx : ∀ found, x = .ok found → found.SortedLT)
    (hy : ∀ found, y = .ok found → found.SortedLT) :
    (Fails x ∧ Fails y) ∨ ∃ found, x = .ok found ∧ y = .ok found := by
  by_cases hfails : Fails x
  · exact .inl ⟨hfails, h'.fails_iff.2 (h.fails_iff.1 hfails)⟩
  · obtain ⟨found, hfound⟩ := exists_eq_ok_of_not_fails hfails
    obtain ⟨others, hothers, -⟩ := (h.eq_ok_iff h' hx).1 hfound
    have heq : found = others := (hx _ hfound).eq_of_mem_iff (hy _ hothers) fun m => by
      rw [h.mem_iff hfound, h'.mem_iff hothers]
    exact .inr ⟨found, hfound, heq ▸ hothers⟩

end Gathers

theorem collect_ok (reach : Nat → List Nat) (nodes : List Nat) :
    collect (fun n => .ok (reach n)) nodes = .ok (nodes.flatMap reach) := by
  induction nodes with
  | nil => rfl
  | cons n rest ih =>
    rw [collect, ih]
    rfl

/-- The nodes that a step looks at from a node. -/
def StepCode.candidates (d : Document) (s : StepCode) (node : Nat) : List Nat :=
  (s.axis.nodes d node).filter (s.test.holds d s.axis)

/-- A step with placeless predicates lets those of its candidates pass that they let pass alone. -/
theorem gathers_walkStep {s : StepCode} (h : ∀ program ∈ s.predicates, Placeless d program)
    (nodes : List Nat) :
    Gathers (walkSteps d [s] nodes) (nodes.flatMap (s.candidates d))
      fun n => runPredicates d s.predicates [n] := by
  have hcollect : Gathers (collect (s.reach d) nodes) (nodes.flatMap (s.candidates d))
      fun n => runPredicates d s.predicates [n] :=
    (gathers_collect (s.reach d) nodes).flatMap fun n => gathers_runPredicates h _
  constructor
  · simp only [← hcollect.fails_iff, walkSteps, fails_bind_iff]
    refine or_iff_left ?_
    rintro ⟨_, -, hfails⟩
    exact not_fails_ok _ hfails
  · intro found hfound m
    obtain ⟨collected, hcollected, hfound⟩ := bind_eq_ok_iff.1 hfound
    cases hfound
    rw [mem_inDocumentOrder, hcollect.mem_iff hcollected]

/-- **Descendants are the children of what is not above them**: of the node that they are
descendants of, and of its other descendants. -/
theorem mem_descendant_nodes_iff {top : List Tree} {n k : Nat} :
    k ∈ Axis.descendant.nodes (.ofTrees top) n ↔
      ∃ m ∈ (Axis.descendantOrSelf.nodes (.ofTrees top) n).filter
        (ResolvedTest.node.holds (.ofTrees top) .descendantOrSelf),
        k ∈ Axis.child.nodes (.ofTrees top) m := by
  have hholds : ∀ m, ResolvedTest.node.holds (.ofTrees top) .descendantOrSelf m = true ↔
      m < (Document.ofTrees top).size := fun m => by
    simp [ResolvedTest.holds, ResolvedTest.accepts, Document.node?, Document.size]
  simp only [Axis.nodes, List.mem_filter, List.mem_cons, hholds, mem_descendants_iff,
    mem_children_iff_isTreeNode]
  constructor
  · rintro ⟨hk, hbelow⟩
    obtain ⟨m, hm, hparent⟩ := Relation.TransGen.tail'_iff.1 hbelow
    -- A parent holds a node, so it is in the table and no attribute.
    have hnode := isTreeNode_of_isProperlyBelow (.single hparent)
    refine ⟨m, ⟨?_, (isTreeNode_iff.1 hnode).1⟩, hk, hparent⟩
    rcases Relation.reflTransGen_iff_eq_or_transGen.1 hm with heq | hm
    · exact .inl heq
    · exact .inr ⟨hnode, hm⟩
  · rintro ⟨m, ⟨rfl | ⟨-, hm⟩, -⟩, hk, hparent⟩
    · exact ⟨hk, .single hparent⟩
    · exact ⟨hk, hm.tail hparent⟩

/-- The step that two slashes stand for. -/
def StepCode.downwards : StepCode := ⟨.descendantOrSelf, .node, []⟩

/-- The candidates for a step to the children, behind two slashes, are those for a step to the
descendants. -/
theorem mem_candidates_descendant_iff {top : List Tree} {test : ResolvedTest}
    {predicates : List Program} {n k : Nat} :
    k ∈ StepCode.candidates (.ofTrees top) ⟨.descendant, test, predicates⟩ n ↔
      ∃ m ∈ StepCode.downwards.candidates (.ofTrees top) n,
        k ∈ StepCode.candidates (.ofTrees top) ⟨.child, test, predicates⟩ m := by
  -- Names are about elements on both axes.
  have htest : test.holds (.ofTrees top) .child = test.holds (.ofTrees top) .descendant := rfl
  simp only [StepCode.candidates, StepCode.downwards, htest, List.mem_filter (p := test.holds _ _),
    mem_descendant_nodes_iff, ← and_assoc, exists_and_right]

/-- Behind two slashes a step to the children with placeless predicates leads to what it leads to as
a step to the descendants. -/
theorem walkSteps_downwards {top : List Tree} (test : ResolvedTest) {predicates : List Program}
    (h : ∀ program ∈ predicates, Placeless (.ofTrees top) program) (nodes : List Nat) :
    let slashes := walkSteps (.ofTrees top) [.downwards, ⟨.child, test, predicates⟩] nodes
    let fused := walkSteps (.ofTrees top) [⟨.descendant, test, predicates⟩] nodes
    (Fails slashes ∧ Fails fused) ∨ ∃ found, slashes = .ok found ∧ fused = .ok found := by
  intro slashes fused
  have hslashes : slashes = walkSteps (.ofTrees top) [⟨.child, test, predicates⟩]
      (inDocumentOrder (nodes.flatMap (StepCode.downwards.candidates (.ofTrees top)))) := by
    have hreach : StepCode.downwards.reach (.ofTrees top) =
        fun n => .ok (StepCode.downwards.candidates (.ofTrees top) n) :=
      funext fun n => by rw [StepCode.reach, StepCode.downwards, runPredicates, StepCode.candidates]
    change (collect (StepCode.downwards.reach (.ofTrees top)) nodes >>= _) = _
    rw [hreach, collect_ok]
    rfl
  have hgathers : Gathers slashes
      (nodes.flatMap (StepCode.candidates (.ofTrees top) ⟨.descendant, test, predicates⟩))
      fun n => runPredicates (.ofTrees top) predicates [n] := by
    rw [hslashes]
    -- The candidates are the same ones, in another order and as often as they are reached.
    refine (gathers_walkStep h _).of_mem_iff fun k => ?_
    simp only [List.mem_flatMap, mem_inDocumentOrder, mem_candidates_descendant_iff]
    constructor
    · rintro ⟨m, ⟨n, hn, hm⟩, hk⟩
      exact ⟨n, hn, m, hm, hk⟩
    · rintro ⟨n, hn, m, hm, hk⟩
      exact ⟨m, ⟨n, hn, hm⟩, hk⟩
  exact hgathers.same (gathers_walkStep h nodes) (fun _ => sortedLT_walkSteps)
    fun _ => sortedLT_walkSteps

/-! ## Two slashes -/

theorem exists_code_of_mem_programs {es : List Expr} {ps : List Program} {program : Program}
    (h : programs b es = .ok ps) (hprogram : program ∈ ps) :
    ∃ e ∈ es, e.code b = .ok program := by
  induction es generalizing ps with
  | nil =>
    cases h
    exact absurd hprogram List.not_mem_nil
  | cons e rest ih =>
    simp only [programs, bind_eq_ok_iff] at h
    obtain ⟨p, hp, ps, hps, ⟨⟩⟩ := h
    rcases List.mem_cons.1 hprogram with rfl | hprogram
    · exact ⟨e, List.mem_cons_self, hp⟩
    · obtain ⟨e', he', hcode⟩ := ih hps hprogram
      exact ⟨e', List.mem_cons_of_mem e he', hcode⟩

/-- What a path with two slashes in front of a step to the children is compiled to. -/
theorem code_doubleSlash_eq_ok_iff {base : Expr} {test : NodeTest} {predicates : List Expr}
    {program : Program} :
    (base.withDescendants.andStep ⟨.child, test, predicates⟩).code b = .ok program ↔
      ∃ start resolved ps, (base.code b = .ok start ∧ test.resolve b .descendant = .ok resolved ∧
        programs b predicates = .ok ps) ∧
        program = start ++ [StepCode.downwards, ⟨.child, resolved, ps⟩].map StepCode.op := by
  -- Names without a prefix are those of elements on both axes.
  have hresolve : test.resolve b .child = test.resolve b .descendant := rfl
  have hsteps : base.withDescendants.andStep ⟨.child, test, predicates⟩ =
      base.andSteps [.anyNode .descendantOrSelf, ⟨.child, test, predicates⟩] := rfl
  rw [hsteps, code_andSteps_eq_ok_iff]
  simp only [stepCodes_cons_eq_ok_iff, hresolve]
  constructor
  · rintro ⟨start, _, hstart, ⟨_, _, _, ⟨⟩, ⟨⟩, ⟨resolved, ps, _, htest, hps, ⟨⟩, rfl⟩, rfl⟩, rfl⟩
    exact ⟨start, resolved, ps, ⟨hstart, htest, hps⟩, rfl⟩
  · rintro ⟨start, resolved, ps, ⟨hstart, htest, hps⟩, rfl⟩
    exact ⟨start, _, hstart, ⟨_, _, _, rfl, rfl, ⟨resolved, ps, _, htest, hps, rfl, rfl⟩, rfl⟩, rfl⟩

/-- What a path with one step to the descendants is compiled to. -/
theorem code_descendant_eq_ok_iff {base : Expr} {test : NodeTest} {predicates : List Expr}
    {program : Program} :
    (base.andStep ⟨.descendant, test, predicates⟩).code b = .ok program ↔
      ∃ start resolved ps, (base.code b = .ok start ∧ test.resolve b .descendant = .ok resolved ∧
        programs b predicates = .ok ps) ∧
        program = start ++ [⟨.descendant, resolved, ps⟩].map StepCode.op := by
  have hsteps : base.andStep ⟨.descendant, test, predicates⟩ =
      base.andSteps [⟨.descendant, test, predicates⟩] := rfl
  rw [hsteps, code_andSteps_eq_ok_iff]
  simp only [stepCodes_cons_eq_ok_iff]
  constructor
  · rintro ⟨start, _, hstart, ⟨resolved, ps, _, htest, hps, ⟨⟩, rfl⟩, rfl⟩
    exact ⟨start, resolved, ps, ⟨hstart, htest, hps⟩, rfl⟩
  · rintro ⟨start, resolved, ps, ⟨hstart, htest, hps⟩, rfl⟩
    exact ⟨start, _, hstart, ⟨resolved, ps, _, htest, hps, rfl, rfl⟩, rfl⟩

/-- **Two slashes are a step to descendants**, in front of predicates that are no numbers and do not
look at places: both paths have the same nodes, or both fail, in the compiler or from the same
context nodes. -/
theorem value_doubleSlash {bytes : List UInt8} {d : Document} (hd : Document.parse bytes = .ok d)
    {b : Bindings} {base : Expr} {test : NodeTest} {predicates : List Expr}
    (hpredicates : ∀ e ∈ predicates, e.usesPlace = false ∧ e.type? ≠ some .number) :
    let slashes := base.withDescendants.andStep ⟨.child, test, predicates⟩
    let fused := base.andStep ⟨.descendant, test, predicates⟩
    (Fails (slashes.code b) ∧ Fails (fused.code b)) ∨
      ∃ p q, slashes.code b = .ok p ∧ fused.code b = .ok q ∧ ∀ c,
        (Fails (Program.value d p c) ∧ Fails (Program.value d q c)) ∨
          ∃ nodes, Program.value d p c = .ok (.nodeSet nodes) ∧
            Program.value d q c = .ok (.nodeSet nodes) := by
  intro slashes fused
  obtain ⟨top, rfl⟩ := exists_ofTrees_of_parse hd
  -- Both paths are made of the same parts, so none of them is compiled without the other.
  by_cases hslashes : Fails (slashes.code b)
  · refine .inl ⟨hslashes, by_contra fun hfused => ?_⟩
    obtain ⟨_, hq⟩ := exists_eq_ok_of_not_fails hfused
    obtain ⟨start, resolved, ps, hcode, -⟩ := code_descendant_eq_ok_iff.1 hq
    have hp := code_doubleSlash_eq_ok_iff.2 ⟨start, resolved, ps, hcode, rfl⟩
    exact not_fails_ok _ (hp ▸ hslashes)
  · obtain ⟨_, hp⟩ := exists_eq_ok_of_not_fails hslashes
    obtain ⟨start, resolved, ps, hcode, rfl⟩ := code_doubleSlash_eq_ok_iff.1 hp
    have hq := code_descendant_eq_ok_iff.2 ⟨start, resolved, ps, hcode, rfl⟩
    refine .inr ⟨_, _, hp, hq, fun c => ?_⟩
    have hplaceless : ∀ program ∈ ps, Placeless (.ofTrees top) program := fun program hprogram => by
      obtain ⟨e, he, hprogram⟩ := exists_code_of_mem_programs hcode.2.2 hprogram
      exact placeless_of_code hprogram (hpredicates e he).1 (hpredicates e he).2
    by_cases hnodes : ∃ nodes, Program.value (.ofTrees top) start c = .ok (.nodeSet nodes)
    · obtain ⟨nodes, hnodes⟩ := hnodes
      rw [value_steps_of_nodeSet hcode.1 hnodes, value_steps_of_nodeSet hcode.1 hnodes,
        fails_map_iff, fails_map_iff]
      rcases walkSteps_downwards resolved hplaceless nodes with
        hfails | ⟨found, hslashes, hfused⟩
      · exact .inl hfails
      · exact .inr ⟨found, map_nodeSet_eq_ok_iff.2 ⟨found, hslashes, rfl⟩,
          map_nodeSet_eq_ok_iff.2 ⟨found, hfused, rfl⟩⟩
    · -- Where the base has no nodes to start from, there is no way down.
      have hfails : ∀ s rest, Fails (Program.value (.ofTrees top)
          (start ++ (s :: rest).map StepCode.op) c) := fun s rest => by_contra fun hgood => by
        obtain ⟨_, hvalue⟩ := exists_eq_ok_of_not_fails hgood
        obtain ⟨nodes, hstart, -⟩ := (value_steps_eq_ok_iff hcode.1).1 hvalue
        exact hnodes ⟨nodes, hstart⟩
      exact .inl ⟨hfails _ _, hfails _ _⟩

/-- The nodes in the sample that are in another node, by `//node()[..]`. -/
theorem value_doubleSlash_inner :
    let d := Document.ofTrees [Document.sampleTree]
    let inner : Expr := .step .parent .node []
    let slashes := Expr.root.withDescendants.andStep ⟨.child, .node, [inner]⟩
    let fused := Expr.root.andStep ⟨.descendant, .node, [inner]⟩
    let program : Program := [.context, .step .parent .node []]
    let p : Program := [.root, .step .descendantOrSelf .node [], .step .child .node [program]]
    let q : Program := [.root, .step .descendant .node [program]]
    Document.parse (Utf8.encode Document.sample) = .ok d ∧
      (∀ e ∈ [inner], e.usesPlace = false ∧ e.type? ≠ some .number) ∧
      parse "//node()[..]" = .ok slashes ∧
      slashes.code ⟨[]⟩ = .ok p ∧ fused.code ⟨[]⟩ = .ok q ∧
      Program.value d p ⟨0, 1, 1⟩ = .ok (.nodeSet [1, 3]) ∧
      Program.value d q ⟨0, 1, 1⟩ = .ok (.nodeSet [1, 3]) := by
  intro d inner slashes fused program p q
  have hinner : ∀ e ∈ [inner], e.usesPlace = false ∧ e.type? ≠ some .number := by decide
  have hfault : (tokenize "//node()[..]".toList).fault = none := by with_unfolding_all rfl
  have htokens : (tokenize "//node()[..]".toList).tokens =
      [.doubleSlash, .nodeType "node", .leftParen, .rightParen, .leftBracket, .doubleDot,
        .rightBracket] := by
    with_unfolding_all rfl
  have hparent : Expression [.doubleDot] inner 1 0 :=
    PathExpr.expression (.steps (.first (.relative .parent)))
  have hslashes : Expression (tokenize "//node()[..]".toList).tokens slashes 2 2 :=
    htokens ▸ PathExpr.expression (.steps (.first (.absolute (.intro .doubleSlash
      (.full .omitted .node (.cons (.intro hparent) .nil))))))
  have hparse : parse "//node()[..]" = .ok slashes :=
    (parseTokens_eq_ok_iff (nodeTypesKnown_tokenize _)).2
      ⟨hfault, 2, 2, hslashes, by decide, by decide⟩
  have hp : slashes.code ⟨[]⟩ = .ok p := rfl
  have hq : fused.code ⟨[]⟩ = .ok q := rfl
  have hvalue : Program.value d p ⟨0, 1, 1⟩ = .ok (.nodeSet [1, 3]) := by cbv
  refine ⟨Document.parse_sample, hinner, hparse, hp, hq, hvalue, ?_⟩
  rcases value_doubleSlash Document.parse_sample hinner with
    hfails | ⟨_, _, hslashes, hfused, hboth⟩
  · exact absurd (hp ▸ hfails.1) (not_fails_ok _)
  · cases hp.symm.trans hslashes
    cases hq.symm.trans hfused
    rcases hboth ⟨0, 1, 1⟩ with hfails | ⟨nodes, hnodes, hsame⟩
    · exact absurd (hvalue ▸ hfails.1) (not_fails_ok _)
    · cases hvalue.symm.trans hnodes
      exact hsame

end XmlQuery.XPath
