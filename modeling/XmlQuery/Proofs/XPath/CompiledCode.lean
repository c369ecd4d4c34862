import XmlQuery.Document.Layout
import XmlQuery.Proofs.Outcome
import XmlQuery.Proofs.XPath.Evaluation

/-!
# The code of an expression

The code of an expression computes what evaluating the expression directly comes to. On every
stack it pushes the value of the expression and leaves the rest as it is, or it stops with the
error of the expression. Predicates and the right operands of `and` and `or` are programs of
their own, so the statement is about any program on any stack, and the induction is on the
expression together with its lists of predicates and arguments.

## Main definitions

* `Program.Pushes`: a program computes an evaluation, whatever the stack

## Main results

* `Pushes.unary`, `Pushes.binary`: an operation behind the code of its operands
* `pushes_code`: the code of an expression pushes its value
* `run_eval_eq_value`: evaluating an expression comes to the value of its code
-/

namespace XmlQuery.XPath

/-! ## Outcomes as evaluations -/

/-- An outcome as what evaluating comes to. -/
def Evaluation.ofOutcome {α : Type} (r : Except EvalError α) : Evaluation α := ExceptT.mk (some r)

namespace Evaluation

variable {α β : Type}

@[simp] theorem ofOutcome_ok (a : α) : ofOutcome (.ok a) = pure a := rfl

theorem ofOutcome_injective {r s : Except EvalError α} (h : ofOutcome r = ofOutcome s) : r = s :=
  Option.some.inj h

/-- Going on after an outcome is going on within the outcomes. -/
theorem ofOutcome_bind (r : Except EvalError α) {f : α → Evaluation β}
    {g : α → Except EvalError β} (h : ∀ a, f a = ofOutcome (g a)) :
    ofOutcome r >>= f = ofOutcome (r >>= g) := by
  cases r with
  | error e => rfl
  | ok a => exact h a

theorem mapM_ofOutcome {f : α → Evaluation β} {g : α → Except EvalError β}
    (h : ∀ a, f a = ofOutcome (g a)) (as : List α) : as.mapM f = ofOutcome (as.mapM g) := by
  induction as with
  | nil => rfl
  | cons a as ih =>
    rw [List.mapM_cons, List.mapM_cons, h a]
    apply ofOutcome_bind
    intro b
    rw [ih]
    exact ofOutcome_bind _ fun bs => rfl

end Evaluation

open Evaluation (ofOutcome ofOutcome_bind mapM_ofOutcome)

/-! ## Lists of nodes -/

theorem collect_eq_mapM (reach : Nat → Except EvalError (List Nat)) (nodes : List Nat) :
    collect reach nodes = List.flatten <$> nodes.mapM reach := by
  induction nodes with
  | nil => rfl
  | cons node rest ih =>
    rw [collect, ih, List.mapM_cons]
    cases reach node with
    | error e => rfl
    | ok first => cases rest.mapM reach <;> rfl

/-- The node at a place among `size`, if a predicate lets it pass. -/
def passing (test : Context → Except EvalError Value) (size : Nat) (node place : Nat) :
    Except EvalError (List Nat) := do
  let v ← test ⟨node, place, size⟩
  return if passes place v then [node] else []

theorem filterFrom_eq_mapM (test : Context → Except EvalError Value) (size place : Nat)
    (nodes : List Nat) :
    filterFrom test size place nodes =
      List.flatten <$> (nodes.zipIdx place).mapM fun p => passing test size p.1 p.2 := by
  induction nodes generalizing place with
  | nil => rfl
  | cons node rest ih =>
    rw [filterFrom, List.zipIdx_cons, List.mapM_cons, ih (place + 1), passing]
    -- A predicate that fails stops both at the same node.
    cases test ⟨node, place, size⟩ with
    | error e => rfl
    | ok v =>
      cases (rest.zipIdx (place + 1)).mapM fun p => passing test size p.1 p.2 with
      | error e => rfl
      | ok others => by_cases h : passes place v <;> simp [h, bind, Except.bind, pure, Except.pure]

/-- Predicates with the same values let the same nodes pass. -/
theorem keepPassing_eq {predicate : Context → Evaluation Value}
    {test : Context → Except EvalError Value} (h : ∀ c, predicate c = ofOutcome (test c))
    (nodes : List Nat) : keepPassing predicate nodes = ofOutcome (filterNodes test nodes) := by
  rw [filterNodes, filterFrom_eq_mapM, keepPassing, mapM_ofOutcome]
  · exact ofOutcome_bind _ fun kept => rfl
  · rintro ⟨node, place⟩
    dsimp only
    rw [h]
    exact ofOutcome_bind _ fun v => rfl

/-! ## Programs -/

/-- A program computes an evaluation: on every stack it pushes the value, or stops with the
error. -/
def Program.Pushes (d : Document) (program : Program) (c : Context) (m : Evaluation Value) : Prop :=
  ∃ r, m = ofOutcome r ∧ ∀ stack, runOps d program c stack = (· :: stack) <$> r

namespace Program

variable {d : Document} {c : Context}

theorem Pushes.value_eq {program : Program} {m : Evaluation Value} (h : program.Pushes d c m) :
    m = ofOutcome (Program.value d program c) := by
  obtain ⟨r, rfl, hr⟩ := h
  rw [Program.value, hr]
  cases r <;> rfl

/-- A value, then an operation on it. -/
theorem Pushes.unary {program : Program} {m : Evaluation Value} {op : Op}
    {f : Value → Evaluation Value} {g : Value → Except EvalError Value}
    (h : program.Pushes d c m) (hf : ∀ v, f v = ofOutcome (g v))
    (hop : ∀ v stack, op.run d c (v :: stack) = (· :: stack) <$> g v) :
    Program.Pushes d (program ++ [op]) c (m >>= f) := by
  obtain ⟨r, rfl, hr⟩ := h
  refine ⟨r >>= g, ofOutcome_bind r hf, fun stack => ?_⟩
  rw [runOps_append, hr]
  cases r with
  | error e => rfl
  | ok v => exact (runOps_singleton d op c (v :: stack)).trans (hop v stack)

/-- Two values, the left one first, then an operation on them. -/
theorem Pushes.binary {p q : Program} {m n : Evaluation Value} {op : Op}
    {f : Value → Value → Evaluation Value} {g : Value → Value → Except EvalError Value}
    (hp : p.Pushes d c m) (hq : q.Pushes d c n) (hf : ∀ x y, f x y = ofOutcome (g x y))
    (hop : ∀ x y stack, op.run d c (y :: x :: stack) = (· :: stack) <$> g x y) :
    Program.Pushes d (p ++ q ++ [op]) c (m >>= fun x => n >>= f x) := by
  obtain ⟨r, rfl, hr⟩ := hp
  obtain ⟨s, rfl, hs⟩ := hq
  refine ⟨r >>= fun x => s >>= g x, ?_, fun stack => ?_⟩
  · exact ofOutcome_bind r fun x => ofOutcome_bind s (hf x)
  · rw [runOps_append, runOps_append, hr]
    cases r with
    | error e => rfl
    | ok x =>
      -- The right program runs on top of the left value, which it does not touch.
      change runOps d q c (x :: stack) >>= _ = _
      rw [hs]
      cases s with
      | error e => rfl
      | ok y => exact (runOps_singleton d op c (y :: x :: stack)).trans (hop x y stack)

end Program

/-- An operation on the nodes of the value on top of the stack. -/
theorem popNodes_cons (operation : NodeSetOperation) (v : Value) (stack : List Value) :
    popNodes operation (v :: stack) = (·, stack) <$> v.nodesFor operation := by
  cases v <;> rfl

variable {b : Bindings} {d : Document} {c : Context}

theorem candidates_eq {axis : Axis} {test : NodeTest} {resolved : ResolvedTest}
    (h : test.resolve b axis = .ok resolved) (node : Nat) :
    candidates b d axis test node = pure ((axis.nodes d node).filter (resolved.holds d axis)) := by
  rw [candidates, h]
  rfl

theorem step_run (axis : Axis) (test : ResolvedTest) (ps : List Program) (v : Value)
    (stack : List Value) :
    (Op.step axis test ps).run d c (v :: stack) = (· :: stack) <$> (do
      let nodes ← v.nodesFor .step
      let found ← nodes.mapM fun node =>
        runPredicates d ps ((axis.nodes d node).filter (test.holds d axis))
      return .nodeSet found.flatten.toFinset.sort) := by
  rw [Op.run, popNodes_cons]
  cases v.nodesFor .step with
  | error e => rfl
  | ok nodes =>
    simp only [collect_eq_mapM, inDocumentOrder_eq_sort, bind, Except.bind, Functor.map, Except.map]
    cases nodes.mapM fun node =>
        runPredicates d ps ((axis.nodes d node).filter (test.holds d axis)) <;> rfl

theorem predicate_run (p : Program) (v : Value) (stack : List Value) :
    (Op.predicate p).run d c (v :: stack) = (· :: stack) <$> (do
      let nodes ← v.nodesFor .predicate
      return .nodeSet (← filterNodes (Program.value d p) nodes)) := by
  rw [Op.run, popNodes_cons]
  cases v.nodesFor .predicate with
  | error e => rfl
  | ok nodes =>
    change (filterNodes (Program.value d p) nodes >>= _) =
      _ <$> (filterNodes (Program.value d p) nodes >>= _)
    cases filterNodes (Program.value d p) nodes <;> rfl

theorem union_run (x y : Value) (stack : List Value) :
    Op.union.run d c (y :: x :: stack) = (· :: stack) <$> (do
      let after ← y.nodesFor .union
      let before ← x.nodesFor .union
      return .nodeSet (before.toFinset ∪ after.toFinset).sort) := by
  rw [Op.run, popNodes_cons]
  cases y.nodesFor .union with
  | error e => rfl
  | ok after =>
    change (popNodes .union (x :: stack) >>= _) = _
    rw [popNodes_cons]
    cases x.nodesFor .union with
    | error e => rfl
    | ok before =>
      change Except.ok (Value.nodeSet (inDocumentOrder (before ++ after)) :: stack) = _
      rw [inDocumentOrder_eq_sort, List.toFinset_append]
      rfl

theorem and_run (p : Program) (v : Value) (stack : List Value) :
    (Op.and p).run d c (v :: stack) = (· :: stack) <$> (do
      if v.toBoolean then return .boolean (← Program.value d p c).toBoolean
      else return .boolean false) := by
  rw [Op.run]
  change (if v.toBoolean then _ else _) = _
  cases v.toBoolean with
  | false => rfl
  | true =>
    rw [Program.value]
    cases runOps d p c [] with
    | error e => rfl
    | ok final => cases final <;> rfl

theorem or_run (p : Program) (v : Value) (stack : List Value) :
    (Op.or p).run d c (v :: stack) = (· :: stack) <$> (do
      if v.toBoolean then return .boolean true
      else return .boolean (← Program.value d p c).toBoolean) := by
  rw [Op.run]
  change (if v.toBoolean then _ else _) = _
  cases v.toBoolean with
  | true => rfl
  | false =>
    rw [Program.value]
    cases runOps d p c [] with
    | error e => rfl
    | ok final => cases final <;> rfl

theorem call_run (f : Builtin) (vs stack : List Value) :
    (Op.call f vs.length).run d c (vs.reverse ++ stack) = (· :: stack) <$> f.apply d c vs := by
  have htake : (vs.reverse ++ stack).take vs.length = vs.reverse := by
    rw [List.take_left' (by simp)]
  have hdrop : (vs.reverse ++ stack).drop vs.length = stack := by
    rw [List.drop_left' (by simp)]
  have hlength : ¬ (vs.reverse ++ stack).length < vs.length := by simp
  rw [Op.run, if_neg hlength, htake, hdrop, List.reverse_reverse]
  cases f.apply d c vs <;> rfl

/-! ## Expressions

One lemma for each operation that has programs of its own or changes how operands are taken; the
induction on expressions puts them together. -/

namespace Program

/-- The right operand of `and` is evaluated only if the left one is true. -/
theorem Pushes.and {p q : Program} {m n : Evaluation Value} (hp : p.Pushes d c m)
    (hq : q.Pushes d c n) :
    Program.Pushes d (p ++ [.and q]) c (do
      if (← m).toBoolean then return .boolean (← n).toBoolean else return .boolean false) := by
  refine hp.unary (fun v => ?_) (and_run q)
  cases v.toBoolean with
  | false => rfl
  | true =>
    rw [hq.value_eq]
    exact ofOutcome_bind _ fun w => rfl

/-- The right operand of `or` is evaluated only if the left one is false. -/
theorem Pushes.or {p q : Program} {m n : Evaluation Value} (hp : p.Pushes d c m)
    (hq : q.Pushes d c n) :
    Program.Pushes d (p ++ [.or q]) c (do
      if (← m).toBoolean then return .boolean true else return .boolean (← n).toBoolean) := by
  refine hp.unary (fun v => ?_) (or_run q)
  cases v.toBoolean with
  | true => rfl
  | false =>
    rw [hq.value_eq]
    exact ofOutcome_bind _ fun w => rfl

/-- The types of both operands are looked at once both have been evaluated, the right one first. -/
theorem Pushes.union {p q : Program} {m n : Evaluation Value} (hp : p.Pushes d c m)
    (hq : q.Pushes d c n) :
    Program.Pushes d (p ++ q ++ [.union]) c (do
      let x ← m
      let y ← n
      let after ← y.nodesFor .union
      let before ← x.nodesFor .union
      return .nodeSet (before.toFinset ∪ after.toFinset).sort) := by
  refine hp.binary hq (fun x y => ?_) union_run
  exact ofOutcome_bind _ fun after => ofOutcome_bind _ fun before => rfl

/-- A location step from the nodes of its base, each with a list of candidates of its own. -/
theorem Pushes.step {p : Program} {m : Evaluation Value} {reach : Nat → Evaluation (List Nat)}
    {axis : Axis} {test : ResolvedTest} {ps : List Program} (hp : p.Pushes d c m)
    (hreach : ∀ node, reach node =
      ofOutcome (runPredicates d ps ((axis.nodes d node).filter (test.holds d axis)))) :
    Program.Pushes d (p ++ [.step axis test ps]) c (do
      let nodes ← (← m).nodesFor .step
      let found ← nodes.mapM reach
      return .nodeSet found.flatten.toFinset.sort) := by
  -- The candidates of all nodes of the base are collected before they are put in order.
  refine hp.unary (fun v => ?_) (step_run axis test ps)
  refine ofOutcome_bind _ fun nodes => ?_
  rw [mapM_ofOutcome hreach]
  exact ofOutcome_bind _ fun found => rfl

/-- A predicate lets nodes of its base pass. -/
theorem Pushes.predicate {p q : Program} {m : Evaluation Value}
    {predicate : Context → Evaluation Value} (hp : p.Pushes d c m)
    (hq : ∀ c, q.Pushes d c (predicate c)) :
    Program.Pushes d (p ++ [.predicate q]) c (do
      let nodes ← (← m).nodesFor .predicate
      return .nodeSet (← keepPassing predicate nodes)) := by
  refine hp.unary (fun v => ?_) (predicate_run q)
  refine ofOutcome_bind _ fun nodes => ?_
  rw [keepPassing_eq fun c => (hq c).value_eq]
  exact ofOutcome_bind _ fun kept => rfl

/-- The context node is a base of one node, from which one list of candidates is reached. -/
theorem pushes_context : Program.Pushes d [.context] c (pure (.nodeSet [c.node])) :=
  ⟨.ok (.nodeSet [c.node]), rfl, fun _ => rfl⟩

end Program

mutual

/-- The code of an expression pushes its value. -/
theorem pushes_code {e : Expr} {program : Program} (h : e.code b = .ok program) (c : Context) :
    program.Pushes d c (e.eval b d c) := by
  cases e with
  | root =>
    cases h
    exact ⟨.ok (.nodeSet [0]), by rw [Expr.eval]; rfl, fun stack => rfl⟩
  | number value =>
    cases h
    exact ⟨.ok (.number value), by rw [Expr.eval]; rfl, fun stack => rfl⟩
  | string value =>
    cases h
    exact ⟨.ok (.string value), by rw [Expr.eval]; rfl, fun stack => rfl⟩
  | «variable» name => cases h
  | negate operand =>
    simp only [Expr.code, bind_eq_ok_iff] at h
    obtain ⟨p, hp, h⟩ := h
    cases h
    rw [Expr.eval]
    exact (pushes_code hp c).unary (g := fun v => .ok (.number (-(v.toNumber d)))) (fun v => rfl)
      (fun v stack => rfl)
  | binary op left right =>
    simp only [Expr.code, bind_eq_ok_iff] at h
    obtain ⟨p, hp, q, hq, h⟩ := h
    have hl := pushes_code hp c
    have hr := pushes_code hq c
    -- For `and` and `or` the code of the right operand is a program of its own.
    cases op
    case and =>
      cases h
      rw [Expr.eval]
      exact hl.and hr
    case or =>
      cases h
      rw [Expr.eval]
      exact hl.or hr
    -- All other operators look at both values.
    all_goals
      cases h
      rw [Expr.eval]
      · exact hl.binary hr (g := fun x y => .ok (applyBinary d _ x y)) (fun x y => rfl)
          (fun x y stack => rfl)
      all_goals nofun
  | union left right =>
    simp only [Expr.code, bind_eq_ok_iff] at h
    obtain ⟨p, hp, q, hq, h⟩ := h
    cases h
    rw [Expr.eval]
    exact (pushes_code hp c).union (pushes_code hq c)
  | path base axis test predicates =>
    simp only [Expr.code, bind_eq_ok_iff] at h
    obtain ⟨p, hp, resolved, htest, ps, hps, h⟩ := h
    cases h
    rw [Expr.eval]
    refine (pushes_code hp c).step fun node => ?_
    rw [candidates_eq htest]
    exact keepAll_programs hps _
  | step axis test predicates =>
    simp only [Expr.code, bind_eq_ok_iff] at h
    obtain ⟨resolved, htest, ps, hps, h⟩ := h
    cases h
    rw [Expr.eval]
    have hreach : ∀ node, (do keepAll b d predicates (← candidates b d axis test node)) =
        ofOutcome (runPredicates d ps ((axis.nodes d node).filter (resolved.holds d axis))) := by
      intro node
      rw [candidates_eq htest]
      exact keepAll_programs hps _
    have hpushes := Program.pushes_context.step (d := d) (c := c) hreach
    -- One node has one list of candidates, so flattening the lists does nothing.
    have hone : (do
        let found ← [c.node].mapM fun node => do
          keepAll b d predicates (← candidates b d axis test node)
        return Value.nodeSet found.flatten.toFinset.sort) = (do
        let found ← keepAll b d predicates (← candidates b d axis test c.node)
        return Value.nodeSet found.toFinset.sort) := by
      simp only [List.mapM_cons, List.mapM_nil, bind_assoc, pure_bind, List.flatten_singleton]
    exact hone ▸ hpushes
  | filter base predicate =>
    simp only [Expr.code, bind_eq_ok_iff] at h
    obtain ⟨p, hp, q, hq, h⟩ := h
    cases h
    rw [Expr.eval]
    exact (pushes_code hp c).predicate fun c => pushes_code hq c
  | call name arguments =>
    rw [Expr.code] at h
    split at h
    · cases h
    · next f hf =>
      rw [bind_eq_ok_iff] at h
      obtain ⟨p, hp, h⟩ := h
      cases h
      obtain ⟨r, hr, hlength, hrun⟩ := pushes_codes hp c
      -- The arguments lie on the stack in reverse, as many as the operation takes.
      refine ⟨r >>= f.apply d c, ?_, fun stack => ?_⟩
      · rw [Expr.eval, hf, hr]
        exact ofOutcome_bind _ fun vs => rfl
      · rw [runOps_append, hrun]
        cases r with
        | error e => rfl
        | ok vs =>
          rw [← hlength vs rfl]
          exact (runOps_singleton _ _ _ _).trans (call_run f vs stack)

/-- The codes of expressions push their values, the last one on top. -/
theorem pushes_codes {es : List Expr} {program : Program} (h : codes b es = .ok program)
    (c : Context) :
    ∃ r, evalEach b d es c = ofOutcome r ∧ (∀ vs, r = .ok vs → vs.length = es.length) ∧
      ∀ stack, runOps d program c stack = (List.reverse · ++ stack) <$> r := by
  cases es with
  | nil =>
    cases h
    refine ⟨.ok [], by rw [evalEach]; rfl, fun vs hvs => ?_, fun stack => rfl⟩
    cases hvs
    rfl
  | cons e es =>
    rw [codes, bind_eq_ok_iff] at h
    obtain ⟨p, hp, h⟩ := h
    rw [bind_eq_ok_iff] at h
    obtain ⟨q, hq, h⟩ := h
    cases h
    obtain ⟨r, hr, hrun⟩ := pushes_code hp c
    obtain ⟨s, hs, hlength, hruns⟩ := pushes_codes hq c
    -- The first value is below the others, so it comes last in the reversed list.
    refine ⟨do return (← r) :: (← s), ?_, fun vs hvs => ?_, fun stack => ?_⟩
    · rw [evalEach, hr, hs]
      exact ofOutcome_bind _ fun v => ofOutcome_bind _ fun others => rfl
    · rw [bind_eq_ok_iff] at hvs
      obtain ⟨v, -, hvs⟩ := hvs
      rw [bind_eq_ok_iff] at hvs
      obtain ⟨others, hothers, hvs⟩ := hvs
      cases hvs
      rw [List.length_cons, List.length_cons, hlength others hothers]
    · rw [runOps_append, hrun]
      cases r with
      | error e => rfl
      | ok v =>
        refine (hruns (v :: stack)).trans ?_
        cases s with
        | error e => rfl
        | ok others =>
          change Except.ok (others.reverse ++ v :: stack) = .ok ((v :: others).reverse ++ stack)
          rw [List.reverse_cons, List.append_assoc, List.singleton_append]

theorem keepAll_programs {es : List Expr} {ps : List Program} (h : programs b es = .ok ps)
    (nodes : List Nat) : keepAll b d es nodes = ofOutcome (runPredicates d ps nodes) := by
  cases es with
  | nil =>
    cases h
    rw [keepAll, runPredicates]
    rfl
  | cons e es =>
    rw [programs, bind_eq_ok_iff] at h
    obtain ⟨p, hp, h⟩ := h
    rw [bind_eq_ok_iff] at h
    obtain ⟨ps, hps, h⟩ := h
    cases h
    rw [keepAll, runPredicates, keepPassing_eq fun c => (pushes_code hp c).value_eq]
    exact ofOutcome_bind _ fun kept => keepAll_programs hps kept

end

/-- **The code of an expression computes its evaluation.** Where an expression has code, evaluating
it directly in a context comes to the value of the code there, or to the same error; and on every
stack the code pushes that value and leaves the rest as it is, or stops with that error. -/
theorem run_eval_eq_value {e : Expr} {program : Program} (h : e.code b = .ok program)
    (d : Document) (c : Context) (stack : List Value) :
    (e.eval b d c).run = some (Program.value d program c) ∧
      runOps d program c stack = (· :: stack) <$> Program.value d program c := by
  have hpush : program.Pushes d c (e.eval b d c) := pushes_code h c
  have hvalue := hpush.value_eq
  -- What the program pushes is what it comes to on the empty stack.
  obtain ⟨r, hr, hrun⟩ := hpush
  rw [hvalue] at hr
  rw [Evaluation.ofOutcome_injective hr]
  exact ⟨hvalue ▸ congrArg some (Evaluation.ofOutcome_injective hr), hrun stack⟩

/-- The elements `p:a` with an attribute `b`, on a document that has one. -/
theorem run_eval_eq_value_descendant :
    (Expr.path .root .descendant (.qname "p" "a")
        [.binary .and (.step .attribute (.name "b") []) (.call "true" [])]).code ⟨[("p", "u")]⟩ =
      .ok [.root, .step .descendant (.name "u" "a")
        [[.context, .step .attribute (.name "" "b") [], .and [.call .constTrue 0]]]] ∧
    ((Expr.path .root .descendant (.qname "p" "a")
        [.binary .and (.step .attribute (.name "b") []) (.call "true" [])]).eval ⟨[("p", "u")]⟩
      (.ofTrees [.element ⟨"q", "a", "u"⟩ [⟨⟨"", "b", ""⟩, "1", false⟩] []]) ⟨0, 1, 1⟩).run =
      some (.ok (.nodeSet [1])) ∧
    runOps (.ofTrees [.element ⟨"q", "a", "u"⟩ [⟨⟨"", "b", ""⟩, "1", false⟩] []])
        [.root, .step .descendant (.name "u" "a")
          [[.context, .step .attribute (.name "" "b") [], .and [.call .constTrue 0]]]]
        ⟨0, 1, 1⟩ [.boolean true] =
      .ok [.nodeSet [1], .boolean true] := by
  have hcode : (Expr.path .root .descendant (.qname "p" "a")
      [.binary .and (.step .attribute (.name "b") []) (.call "true" [])]).code ⟨[("p", "u")]⟩ =
    .ok [.root, .step .descendant (.name "u" "a")
      [[.context, .step .attribute (.name "" "b") [], .and [.call .constTrue 0]]]] := rfl
  have hvalue : Program.value
      (.ofTrees [.element ⟨"q", "a", "u"⟩ [⟨⟨"", "b", ""⟩, "1", false⟩] []])
      [.root, .step .descendant (.name "u" "a")
        [[.context, .step .attribute (.name "" "b") [], .and [.call .constTrue 0]]]]
      ⟨0, 1, 1⟩ = .ok (.nodeSet [1]) := by cbv
  have h := run_eval_eq_value hcode
    (.ofTrees [.element ⟨"q", "a", "u"⟩ [⟨⟨"", "b", ""⟩, "1", false⟩] []]) ⟨0, 1, 1⟩ [.boolean true]
  rw [hvalue] at h
  exact ⟨hcode, h⟩

end XmlQuery.XPath
