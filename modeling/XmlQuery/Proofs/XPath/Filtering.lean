import XmlQuery.Proofs.XPath.Fusion
import XmlQuery.Proofs.XPath.NodeSets

/-!
# Predicates as filters

A predicate sees the places of its candidates, and these are counted anew behind every predicate. A
predicate that is no number and does not look at places is a filter all the same: it keeps the nodes
at which it is true, wherever they stand. So two such predicates, one behind the other, keep what
their conjunction keeps, and fail where it fails: the second one is not evaluated at nodes that the
first one refuses. The other way round they fail at other nodes, but if both ways have a result it
is the same.

## Main definitions

* `Program.admits`: a program is true at a node
* `Consistent`: two computations do not have different results
* `Lasting`: a relation between outcomes that lasts when both go on in the same way
* `PredicateSite`, `PredicateSite.fill`: where predicates stand in a step or a filter
* `AreFilters`: what makes two predicates filters that can be joined and swapped

## Main results

* `Placeless.filterNodes_eq_ok_iff`: a placeless program keeps the nodes at which it is true
* `sameResult_and`: two placeless programs keep what their conjunction keeps
* `Lasting.value_fill`: predicates that are related among all nodes are so in steps and filters
* `areFilters_of_placeless`: **placeless predicates are filters**, and no predicate reorders nodes
-/

namespace XmlQuery.XPath

variable {b : Bindings} {d : Document} {c : Context} {p q : Expr} {P Q : Program}
  {nodes kept : List Nat}

/-! ## Among nodes -/

/-- A program has a value at a node, and the value is true. -/
def Program.admits (d : Document) (program : Program) (n : Nat) : Bool :=
  match Program.value d program (.ofNode n) with
  | .ok v => v.toBoolean
  | .error _ => false

theorem Placeless.filterFrom_eq_ok_iff (h : Placeless d P) {size place : Nat} :
    filterFrom (Program.value d P) size place nodes = .ok kept ↔
      (∀ n ∈ nodes, ¬ Fails (Program.value d P (.ofNode n))) ∧
        kept = nodes.filter (P.admits d) := by
  induction nodes generalizing place kept with
  | nil => simp [filterFrom, eq_comm]
  | cons n rest ih =>
    have hvalue : Program.value d P ⟨n, place, size⟩ = Program.value d P (.ofNode n) :=
      h.value_eq rfl
    rw [filterFrom, hvalue, List.forall_mem_cons, List.filter_cons, Program.admits]
    cases hv : Program.value d P (.ofNode n) with
    | error e =>
      constructor
      · intro h
        cases h
      · exact fun h => absurd ⟨e, rfl⟩ h.1.1
    | ok v =>
      simp only [ok_bind, bind_eq_ok_iff, ih, h.passes_eq hv]
      constructor
      · rintro ⟨_, ⟨hrest, rfl⟩, ⟨⟩⟩
        exact ⟨⟨not_fails_ok v, hrest⟩, rfl⟩
      · rintro ⟨⟨-, hrest⟩, rfl⟩
        exact ⟨_, ⟨hrest, rfl⟩, rfl⟩

/-- **A placeless program keeps the nodes at which it is true**, if it has a value at all nodes. -/
theorem Placeless.filterNodes_eq_ok_iff (h : Placeless d P) :
    filterNodes (Program.value d P) nodes = .ok kept ↔
      (∀ n ∈ nodes, ¬ Fails (Program.value d P (.ofNode n))) ∧ kept = nodes.filter (P.admits d) :=
  h.filterFrom_eq_ok_iff

theorem runPredicates_append (ps qs : List Program) (nodes : List Nat) :
    runPredicates d (ps ++ qs) nodes = runPredicates d ps nodes >>= runPredicates d qs := by
  induction ps generalizing nodes with
  | nil =>
    rw [List.nil_append, runPredicates]
    rfl
  | cons program rest ih =>
    simp only [List.cons_append, runPredicates, bind_assoc, ih]

theorem runPredicates_singleton (P : Program) (nodes : List Nat) :
    runPredicates d [P] nodes = filterNodes (Program.value d P) nodes := by
  change filterNodes (Program.value d P) nodes >>= (fun kept => runPredicates d [] kept) = _
  simp only [runPredicates]
  exact bind_pure _

/-- Of two placeless programs the second one is evaluated only where the first one is true. -/
theorem runPredicates_pair_eq_ok_iff (hP : Placeless d P) (hQ : Placeless d Q) :
    runPredicates d [P, Q] nodes = .ok kept ↔
      (∀ n ∈ nodes, ¬ Fails (Program.value d P (.ofNode n)) ∧
        (P.admits d n = true → ¬ Fails (Program.value d Q (.ofNode n)))) ∧
      kept = nodes.filter fun n => Q.admits d n && P.admits d n := by
  rw [← List.singleton_append, runPredicates_append, bind_eq_ok_iff]
  simp only [runPredicates_singleton, hP.filterNodes_eq_ok_iff, hQ.filterNodes_eq_ok_iff]
  constructor
  · rintro ⟨_, ⟨hall, rfl⟩, hkept, rfl⟩
    exact ⟨fun n hn => ⟨hall n hn, fun hadmits => hkept n (List.mem_filter.2 ⟨hn, hadmits⟩)⟩,
      List.filter_filter⟩
  · rintro ⟨hall, rfl⟩
    refine ⟨_, ⟨fun n hn => (hall n hn).1, rfl⟩, fun n hn => ?_, List.filter_filter.symm⟩
    obtain ⟨hn, hadmits⟩ := List.mem_filter.1 hn
    exact (hall n hn).2 hadmits

/-- The value of a conjunction, whose right operand is evaluated if the left one is true. -/
theorem value_and (hp : p.code b = .ok P) (Q : Program) (d : Document) (c : Context) :
    Program.value d (P ++ [.and Q]) c = Program.value d P c >>= fun v => do
      if v.toBoolean then return .boolean (← Program.value d Q c).toBoolean
      else return .boolean false := by
  rw [value_append hp]
  congr 1
  funext v
  rw [runOps_singleton, and_run]
  cases v.toBoolean with
  | false => rfl
  | true => cases Program.value d Q c <;> rfl

theorem fails_value_and_iff (hp : p.code b = .ok P) {n : Nat} :
    Fails (Program.value d (P ++ [.and Q]) (.ofNode n)) ↔
      Fails (Program.value d P (.ofNode n)) ∨
        (P.admits d n = true ∧ Fails (Program.value d Q (.ofNode n))) := by
  rw [value_and hp, Program.admits]
  cases Program.value d P (.ofNode n) with
  | error e => exact iff_of_true ⟨e, rfl⟩ (.inl ⟨e, rfl⟩)
  | ok v =>
    rw [ok_bind]
    cases hv : v.toBoolean with
    | false => exact iff_of_false (not_fails_ok _) (by simp [hv, not_fails_ok])
    | true =>
      cases Program.value d Q (.ofNode n) with
      | error e => exact iff_of_true ⟨e, rfl⟩ (.inr ⟨hv, e, rfl⟩)
      | ok w => exact iff_of_false (not_fails_ok _) (by simp [not_fails_ok])

theorem admits_and (hp : p.code b = .ok P) (n : Nat) :
    Program.admits d (P ++ [.and Q]) n = (Q.admits d n && P.admits d n) := by
  rw [Program.admits, value_and hp, Program.admits, Program.admits]
  cases Program.value d P (.ofNode n) with
  | error e => exact (Bool.and_false _).symm
  | ok v =>
    rw [ok_bind]
    cases hv : v.toBoolean with
    | false =>
      change false = (_ && v.toBoolean)
      rw [hv, Bool.and_false]
    | true =>
      cases Program.value d Q (.ofNode n) with
      | error e => rfl
      | ok w =>
        change w.toBoolean = (w.toBoolean && v.toBoolean)
        rw [hv, Bool.and_true]

/-- **Two placeless programs keep what their conjunction keeps**, and fail where it fails. -/
theorem sameResult_and (hp : p.code b = .ok P) (hP : Placeless d P) (hQ : Placeless d Q)
    (hand : Placeless d (P ++ [.and Q])) (nodes : List Nat) :
    SameResult (runPredicates d [P, Q] nodes) (runPredicates d [P ++ [.and Q]] nodes) := by
  intro kept
  have hadmits : (P ++ [.and Q] : Program).admits d = fun n => Q.admits d n && P.admits d n :=
    funext (admits_and hp)
  simp only [runPredicates_pair_eq_ok_iff hP hQ, runPredicates_singleton,
    hand.filterNodes_eq_ok_iff, fails_value_and_iff hp, hadmits, not_or, not_and]

/-- Two computations do not have different results. -/
def Consistent {α : Type} (x y : Except EvalError α) : Prop :=
  ∀ a a', x = .ok a → y = .ok a' → a = a'

/-- Two placeless programs keep the same nodes either way, unless one of the ways fails. -/
theorem consistent_swap (hP : Placeless d P) (hQ : Placeless d Q) (nodes : List Nat) :
    Consistent (runPredicates d [P, Q] nodes) (runPredicates d [Q, P] nodes) := by
  intro kept kept' hkept hkept'
  rw [((runPredicates_pair_eq_ok_iff hP hQ).1 hkept).2,
    ((runPredicates_pair_eq_ok_iff hQ hP).1 hkept').2]
  exact List.filter_congr fun n _ => Bool.and_comm ..

/-! ## In steps and filters -/

/-- A relation between outcomes lasts when both computations go on in the same way. -/
structure Lasting (R : ∀ {α : Type}, Except EvalError α → Except EvalError α → Prop) : Prop where
  /-- An outcome is related to itself. -/
  refl : ∀ {α : Type} (x : Except EvalError α), R x x
  /-- What follows related outcomes is related, if it is related for each result. -/
  bind : ∀ {α β : Type} {x y : Except EvalError α} {f g : α → Except EvalError β},
    R x y → (∀ a, R (f a) (g a)) → R (x >>= f) (y >>= g)

theorem lasting_sameResult : Lasting SameResult := ⟨.refl, .bind⟩

theorem lasting_consistent : Lasting Consistent where
  refl _ _ _ ha ha' := Except.ok.inj (ha.symm.trans ha')
  bind hxy hfg _ _ hx hy := by
    obtain ⟨a, ha, hx⟩ := bind_eq_ok_iff.1 hx
    obtain ⟨a', ha', hy⟩ := bind_eq_ok_iff.1 hy
    cases hxy a a' ha ha'
    exact hfg a _ _ hx hy

/-- The code around some predicates: a step with other predicates, or a filter with more filters
behind it. -/
inductive SiteCode
  /-- The predicates of a step. -/
  | step (start : Program) (axis : Axis) (test : ResolvedTest) (before after : List Program)
  /-- The predicates of a filter. -/
  | filter (start : Program) (after : List Program)

/-- The code around some predicates together with them. -/
def SiteCode.fill : SiteCode → List Program → Program
  | .step start axis test before after, ps => start ++ [.step axis test (before ++ (ps ++ after))]
  | .filter start after, ps => start ++ (ps ++ after).map .predicate

/-- Filters let the nodes of a node-set pass that their predicates let pass one after the other. -/
theorem runOps_predicates (ps : List Program) (nodes : List Nat) (stack : List Value) :
    runOps d (ps.map .predicate) c (.nodeSet nodes :: stack) =
      (fun kept => .nodeSet kept :: stack) <$> runPredicates d ps nodes := by
  induction ps generalizing nodes with
  | nil =>
    rw [runPredicates]
    rfl
  | cons program rest ih =>
    rw [List.map_cons, runOps, predicate_run, runPredicates]
    change (_ <$> (filterNodes (Program.value d program) nodes >>= _)) >>= _ =
      _ <$> (filterNodes (Program.value d program) nodes >>= _)
    cases filterNodes (Program.value d program) nodes with
    | error e => rfl
    | ok found => exact ih found

namespace Lasting

variable {R : ∀ {α : Type}, Except EvalError α → Except EvalError α → Prop} {ps ps' : List Program}

theorem map {α β : Type} (hR : Lasting R) {x y : Except EvalError α} (f : α → β) (h : R x y) :
    R (f <$> x) (f <$> y) := by
  rw [map_eq_pure_bind, map_eq_pure_bind]
  exact hR.bind h fun a => hR.refl _

theorem collect (hR : Lasting R) {reach reach' : Nat → Except EvalError (List Nat)}
    (h : ∀ n, R (reach n) (reach' n)) (nodes : List Nat) :
    R (XPath.collect reach nodes) (XPath.collect reach' nodes) := by
  induction nodes with
  | nil => exact hR.refl _
  | cons n rest ih => exact hR.bind (h n) fun first => hR.bind ih fun others => hR.refl _

/-- Predicates in front of related ones and behind them are run in the same way. -/
theorem runPredicates (hR : Lasting R)
    (h : ∀ nodes, R (XPath.runPredicates d ps nodes) (XPath.runPredicates d ps' nodes))
    (before after : List Program) (nodes : List Nat) :
    R (XPath.runPredicates d (before ++ (ps ++ after)) nodes)
      (XPath.runPredicates d (before ++ (ps' ++ after)) nodes) := by
  rw [runPredicates_append, runPredicates_append]
  refine hR.bind (hR.refl _) fun kept => ?_
  rw [runPredicates_append, runPredicates_append]
  exact hR.bind (h kept) fun _ => hR.refl _

/-- Programs are related if what follows the same start is. -/
theorem value_append (hR : Lasting R) (start : Program) {ops ops' : Program}
    (h : ∀ stack, R (runOps d ops c stack) (runOps d ops' c stack)) :
    R (Program.value d (start ++ ops) c) (Program.value d (start ++ ops') c) := by
  simp only [Program.value, runOps_append]
  exact hR.bind (hR.bind (hR.refl _) h) fun _ => hR.refl _

/-- **Predicates that are related among all nodes are so in steps and filters.** -/
theorem value_fill (hR : Lasting R)
    (h : ∀ nodes, R (XPath.runPredicates d ps nodes) (XPath.runPredicates d ps' nodes))
    (hps : ps ≠ []) (hps' : ps' ≠ []) (site : SiteCode) (c : Context) :
    R (Program.value d (site.fill ps) c) (Program.value d (site.fill ps') c) := by
  cases site with
  | step start axis test before after =>
    refine hR.value_append start fun stack => ?_
    rw [runOps_singleton, runOps_singleton, Op.run, Op.run]
    refine hR.bind (hR.refl _) ?_
    rintro ⟨nodes, rest⟩
    have hcollect := hR.collect (fun n => hR.runPredicates h before after
      ((axis.nodes d n).filter (test.holds d axis))) nodes
    exact hR.bind hcollect fun _ => hR.refl _
  | filter start after =>
    refine hR.value_append start fun stack => ?_
    obtain ⟨P, ps, rfl⟩ := List.exists_cons_of_ne_nil hps
    obtain ⟨P', ps', rfl⟩ := List.exists_cons_of_ne_nil hps'
    -- Whatever the first predicate is, it needs a node-set.
    cases stack with
    | nil => exact hR.refl _
    | cons v rest =>
      cases v with
      | nodeSet nodes =>
        rw [runOps_predicates, runOps_predicates]
        exact hR.map _ (hR.runPredicates h [] after nodes)
      | number | boolean | string => exact hR.refl _

end Lasting

/-! ## Their code -/

/-- Where predicates can stand in an expression: in a step, with other predicates around them, or
behind an expression, with other predicates behind them. -/
inductive PredicateSite
  /-- A step from the context node. -/
  | step (axis : Axis) (test : NodeTest) (before after : List Expr)
  /-- A step from a base. -/
  | path (base : Expr) (axis : Axis) (test : NodeTest) (before after : List Expr)
  /-- A filter, or several ones. -/
  | filter (base : Expr) (after : List Expr)

namespace PredicateSite

/-- The expression in which predicates stand. -/
def fill : PredicateSite → List Expr → Expr
  | .step axis test before after, es => .step axis test (before ++ (es ++ after))
  | .path base axis test before after, es => .path base axis test (before ++ (es ++ after))
  | .filter base after, es => (es ++ after).foldl .filter base

/-- The code around the predicates. -/
def code (b : Bindings) : PredicateSite → Except CompileError SiteCode
  | .step axis test before after => do
    let test ← test.resolve b axis
    let before ← programs b before
    let after ← programs b after
    return .step [.context] axis test before after
  | .path base axis test before after => do
    let start ← base.code b
    let test ← test.resolve b axis
    let before ← programs b before
    let after ← programs b after
    return .step start axis test before after
  | .filter base after => do
    let start ← base.code b
    let after ← programs b after
    return .filter start after

end PredicateSite

theorem programs_append_eq_ok_iff {es fs : List Expr} {ps : List Program} :
    programs b (es ++ fs) = .ok ps ↔
      ∃ front back, programs b es = .ok front ∧ programs b fs = .ok back ∧ ps = front ++ back := by
  induction es generalizing ps with
  | nil => simp [programs]
  | cons e rest ih =>
    simp only [List.cons_append, programs, bind_eq_ok_iff, ih, pure, Except.pure, Except.ok.injEq]
    constructor
    · rintro ⟨first, hfirst, _, ⟨front, back, hfront, hback, rfl⟩, rfl⟩
      exact ⟨_, back, ⟨first, hfirst, front, hfront, rfl⟩, hback, rfl⟩
    · rintro ⟨_, back, ⟨first, hfirst, front, hfront, rfl⟩, hback, rfl⟩
      exact ⟨first, hfirst, _, ⟨front, back, hfront, hback, rfl⟩, rfl⟩

/-- The code of filters is that of their base, and an operation for each predicate. -/
theorem code_filters_eq_ok_iff {base : Expr} {es : List Expr} {program : Program} :
    (es.foldl .filter base).code b = .ok program ↔ ∃ start ps, base.code b = .ok start ∧
      programs b es = .ok ps ∧ program = start ++ ps.map .predicate := by
  induction es generalizing base with
  | nil =>
    constructor
    · exact fun h => ⟨program, [], h, rfl, (List.append_nil program).symm⟩
    · rintro ⟨start, _, hstart, ⟨⟩, rfl⟩
      exact hstart.trans (congrArg Except.ok (List.append_nil start).symm)
  | cons e rest ih =>
    simp only [List.foldl_cons, ih, Expr.code, programs, bind_eq_ok_iff, pure, Except.pure,
      Except.ok.injEq]
    constructor
    · rintro ⟨_, ps, ⟨start, hstart, first, hfirst, rfl⟩, hps, rfl⟩
      exact ⟨start, _, hstart, ⟨first, hfirst, ps, hps, rfl⟩, List.append_assoc ..⟩
    · rintro ⟨start, _, hstart, ⟨first, hfirst, ps, hps, rfl⟩, rfl⟩
      refine ⟨_, ps, ⟨start, hstart, first, hfirst, rfl⟩, hps, ?_⟩
      rw [List.append_assoc]
      rfl

/-- What predicates in a step or a filter are compiled to. -/
theorem code_fill_eq_ok_iff {site : PredicateSite} {es : List Expr} {program : Program} :
    (site.fill es).code b = .ok program ↔ ∃ around ps, site.code b = .ok around ∧
      programs b es = .ok ps ∧ program = around.fill ps := by
  cases site with
  | step axis test before after =>
    simp only [PredicateSite.fill, PredicateSite.code, Expr.code, bind_eq_ok_iff,
      programs_append_eq_ok_iff, pure, Except.pure, Except.ok.injEq]
    constructor
    · rintro ⟨resolved, htest, _, ⟨front, _, hfront, ⟨ps, back, hps, hback, rfl⟩, rfl⟩, rfl⟩
      exact ⟨_, ps, ⟨resolved, htest, front, hfront, back, hback, rfl⟩, hps, rfl⟩
    · rintro ⟨_, ps, ⟨resolved, htest, front, hfront, back, hback, rfl⟩, hps, rfl⟩
      exact ⟨resolved, htest, _, ⟨front, _, hfront, ⟨ps, back, hps, hback, rfl⟩, rfl⟩, rfl⟩
  | path base axis test before after =>
    simp only [PredicateSite.fill, PredicateSite.code, Expr.code, bind_eq_ok_iff,
      programs_append_eq_ok_iff, pure, Except.pure, Except.ok.injEq]
    constructor
    · rintro ⟨start, hstart, resolved, htest, _, ⟨front, _, hfront, ⟨ps, back, hps, hback, rfl⟩,
        rfl⟩, rfl⟩
      exact ⟨_, ps, ⟨start, hstart, resolved, htest, front, hfront, back, hback, rfl⟩, hps, rfl⟩
    · rintro ⟨_, ps, ⟨start, hstart, resolved, htest, front, hfront, back, hback, rfl⟩, hps, rfl⟩
      exact ⟨start, hstart, resolved, htest, _, ⟨front, _, hfront, ⟨ps, back, hps, hback, rfl⟩,
        rfl⟩, rfl⟩
  | filter base after =>
    simp only [PredicateSite.fill, PredicateSite.code, code_filters_eq_ok_iff, bind_eq_ok_iff,
      programs_append_eq_ok_iff, pure, Except.pure, Except.ok.injEq]
    constructor
    · rintro ⟨start, _, hstart, ⟨ps, back, hps, hback, rfl⟩, rfl⟩
      exact ⟨_, ps, ⟨start, hstart, back, hback, rfl⟩, hps, rfl⟩
    · rintro ⟨_, ps, ⟨start, hstart, back, hback, rfl⟩, hps, rfl⟩
      exact ⟨start, _, hstart, ⟨ps, back, hps, hback, rfl⟩, rfl⟩

/-- What two predicates in a step or a filter are compiled to. -/
theorem code_fill_pair_eq_ok_iff {site : PredicateSite} {program : Program} :
    (site.fill [p, q]).code b = .ok program ↔ ∃ around P Q, site.code b = .ok around ∧
      p.code b = .ok P ∧ q.code b = .ok Q ∧ program = around.fill [P, Q] := by
  simp only [code_fill_eq_ok_iff, programs, bind_eq_ok_iff, pure, Except.pure, Except.ok.injEq]
  constructor
  · rintro ⟨around, _, haround, ⟨P, hP, _, ⟨Q, hQ, _, rfl, rfl⟩, rfl⟩, rfl⟩
    exact ⟨around, P, Q, haround, hP, hQ, rfl⟩
  · rintro ⟨around, P, Q, haround, hP, hQ, rfl⟩
    exact ⟨around, _, haround, ⟨P, hP, _, ⟨Q, hQ, _, rfl, rfl⟩, rfl⟩, rfl⟩

/-- What the conjunction of two predicates in a step or a filter is compiled to. -/
theorem code_fill_and_eq_ok_iff {site : PredicateSite} {program : Program} :
    (site.fill [.binary .and p q]).code b = .ok program ↔ ∃ around P Q, site.code b = .ok around ∧
      p.code b = .ok P ∧ q.code b = .ok Q ∧ program = around.fill [P ++ [.and Q]] := by
  simp only [code_fill_eq_ok_iff, programs, Expr.code, bind_eq_ok_iff, pure, Except.pure,
    Except.ok.injEq]
  constructor
  · rintro ⟨around, _, haround, ⟨_, ⟨P, hP, Q, hQ, rfl⟩, _, rfl, rfl⟩, rfl⟩
    exact ⟨around, P, Q, haround, hP, hQ, rfl⟩
  · rintro ⟨around, P, Q, haround, hP, hQ, rfl⟩
    exact ⟨around, _, haround, ⟨_, ⟨P, hP, Q, hQ, rfl⟩, _, rfl, rfl⟩, rfl⟩

/-! ## Both orders -/

/-- Two predicates are filters: their values do not depend on places, they can be joined to one
predicate, and swapped. -/
structure AreFilters (b : Bindings) (p q : Expr) : Prop where
  /-- The value of each of them depends on the context node alone. -/
  value_eq : ∀ {e program}, e = p ∨ e = q → e.code b = .ok program → ∀ (d : Document) {c c'},
    c.node = c'.node → Program.value d program c = Program.value d program c'
  /-- Among any nodes both keep what their conjunction keeps, and fail where it fails. -/
  keeps_joined : ∀ {P Q both}, p.code b = .ok P → q.code b = .ok Q →
    (Expr.binary .and p q).code b = .ok both → ∀ (d : Document) (nodes : List Nat),
      SameResult (runPredicates d [P, Q] nodes) (runPredicates d [both] nodes)
  /-- Among any nodes both keep the same in both orders, unless they fail. -/
  keeps_swapped : ∀ {P Q}, p.code b = .ok P → q.code b = .ok Q →
    ∀ (d : Document) (nodes : List Nat),
      Consistent (runPredicates d [P, Q] nodes) (runPredicates d [Q, P] nodes)
  /-- A step or a filter has the same value with both of them and with their conjunction. -/
  joined : ∀ site : PredicateSite, Agree (fun _ _ => True)
    (fun each both => ∀ (d : Document) (c : Context),
      SameResult (Program.value d each c) (Program.value d both c))
    ((site.fill [p, q]).code b) ((site.fill [.binary .and p q]).code b)
  /-- A step or a filter has the same value with them in both orders, unless it fails. -/
  swapped : ∀ site : PredicateSite, Agree (fun _ _ => True)
    (fun each other => ∀ (d : Document) (c : Context),
      Consistent (Program.value d each c) (Program.value d other c))
    ((site.fill [p, q]).code b) ((site.fill [q, p]).code b)
  /-- Predicates of any kind leave nodes in their order. -/
  sublist : ∀ {d : Document} {programs : List Program} {nodes kept : List Nat},
    runPredicates d programs nodes = .ok kept → kept.Sublist nodes

/-- **Placeless predicates are filters.** Of two predicates that are no numbers and do not look at
places, the values depend on the context node alone; in every step and every filter both of them
have the same nodes as their conjunction, or both fail; and they have the same nodes in both orders,
if neither order fails. Whatever predicates are, they leave nodes in their order. -/
theorem areFilters_of_placeless {p q : Expr} (hp : p.usesPlace = false ∧ p.type? ≠ some .number)
    (hq : q.usesPlace = false ∧ q.type? ≠ some .number) (b : Bindings) : AreFilters b p q := by
  have hand : (Expr.binary .and p q).usesPlace = false ∧
      (Expr.binary .and p q).type? ≠ some .number :=
    ⟨Bool.or_eq_false_iff.2 ⟨hp.1, hq.1⟩, nofun⟩
  have hboth : ∀ {P Q : Program}, p.code b = .ok P → q.code b = .ok Q →
      (Expr.binary .and p q).code b = .ok (P ++ [.and Q]) := fun hP hQ => by
    rw [Expr.code, hP, hQ]
    rfl
  have hjoined : ∀ {P Q : Program}, p.code b = .ok P → q.code b = .ok Q →
      ∀ (d : Document) (nodes : List Nat),
        SameResult (runPredicates d [P, Q] nodes) (runPredicates d [P ++ [.and Q]] nodes) :=
    fun hP hQ d => sameResult_and hP (placeless_of_code hP hp.1 hp.2)
      (placeless_of_code hQ hq.1 hq.2) (placeless_of_code (hboth hP hQ) hand.1 hand.2)
  have hswapped : ∀ {P Q : Program}, p.code b = .ok P → q.code b = .ok Q →
      ∀ (d : Document) (nodes : List Nat),
        Consistent (runPredicates d [P, Q] nodes) (runPredicates d [Q, P] nodes) :=
    fun hP hQ d => consistent_swap (placeless_of_code hP hp.1 hp.2)
      (placeless_of_code hQ hq.1 hq.2)
  refine ⟨?value, ?keepsJoined, hswapped, fun site => ?joined, fun site => ?swapped,
    runPredicates_sublist⟩
  case value =>
    rintro e program (rfl | rfl) hcode d c c' hnode
    · exact (placeless_of_code hcode hp.1 hp.2).value_eq hnode
    · exact (placeless_of_code hcode hq.1 hq.2).value_eq hnode
  case keepsJoined =>
    intro P Q both hP hQ hcode
    cases (hboth hP hQ).symm.trans hcode
    exact hjoined hP hQ
  case joined =>
    refine Agree.of_exists (fun each heach => ?_) fun both hcode => ?_
    · obtain ⟨around, P, Q, haround, hP, hQ, rfl⟩ := code_fill_pair_eq_ok_iff.1 heach
      exact ⟨_, code_fill_and_eq_ok_iff.2 ⟨around, P, Q, haround, hP, hQ, rfl⟩, fun d =>
        lasting_sameResult.value_fill (hjoined hP hQ d) nofun nofun around⟩
    · obtain ⟨around, P, Q, haround, hP, hQ, -⟩ := code_fill_and_eq_ok_iff.1 hcode
      exact ⟨_, code_fill_pair_eq_ok_iff.2 ⟨around, P, Q, haround, hP, hQ, rfl⟩⟩
  case swapped =>
    refine Agree.of_exists (fun each heach => ?_) fun other hother => ?_
    · obtain ⟨around, P, Q, haround, hP, hQ, rfl⟩ := code_fill_pair_eq_ok_iff.1 heach
      exact ⟨_, code_fill_pair_eq_ok_iff.2 ⟨around, Q, P, haround, hQ, hP, rfl⟩, fun d =>
        lasting_consistent.value_fill (hswapped hP hQ d) nofun nofun around⟩
    · obtain ⟨around, Q, P, haround, hQ, hP, -⟩ := code_fill_pair_eq_ok_iff.1 hother
      exact ⟨_, code_fill_pair_eq_ok_iff.2 ⟨around, P, Q, haround, hP, hQ, rfl⟩⟩

/-- The nodes of the sample that are in another one and have nodes in them, by two predicates in
both orders and by their conjunction. -/
theorem areFilters_of_placeless_inner :
    let d := Document.ofTrees [Document.sampleTree]
    let inside : Expr := .step .parent .node []
    let full : Expr := .call "boolean" [.step .child .node []]
    let site : PredicateSite := .path .root .descendant .node [] []
    let P : Program := [.context, .step .parent .node []]
    let Q : Program := [.context, .step .child .node [], .call .boolean 1]
    let each : Program := [.root, .step .descendant .node [P, Q]]
    let both : Program := [.root, .step .descendant .node [P ++ [.and Q]]]
    let other : Program := [.root, .step .descendant .node [Q, P]]
    (inside.usesPlace = false ∧ inside.type? ≠ some .number) ∧
      (full.usesPlace = false ∧ full.type? ≠ some .number) ∧
      (site.fill [inside, full]).code ⟨[]⟩ = .ok each ∧
      (site.fill [.binary .and inside full]).code ⟨[]⟩ = .ok both ∧
      (site.fill [full, inside]).code ⟨[]⟩ = .ok other ∧
      Program.value d each ⟨0, 1, 1⟩ = .ok (.nodeSet [1]) ∧
      Program.value d both ⟨0, 1, 1⟩ = .ok (.nodeSet [1]) ∧
      ∀ v, Program.value d other ⟨0, 1, 1⟩ = .ok v → v = .nodeSet [1] := by
  intro d inside full site P Q each both other
  have hinside : inside.usesPlace = false ∧ inside.type? ≠ some .number := by decide
  have hfull : full.usesPlace = false ∧ full.type? ≠ some .number := by decide
  have heach : (site.fill [inside, full]).code ⟨[]⟩ = .ok each := rfl
  have hboth : (site.fill [.binary .and inside full]).code ⟨[]⟩ = .ok both := rfl
  have hother : (site.fill [full, inside]).code ⟨[]⟩ = .ok other := rfl
  have hvalue : Program.value d each ⟨0, 1, 1⟩ = .ok (.nodeSet [1]) := by cbv
  have hfilters := areFilters_of_placeless hinside hfull ⟨[]⟩
  have hjoined := hfilters.joined site
  have hswapped := hfilters.swapped site
  rw [heach, hboth] at hjoined
  rw [heach, hother] at hswapped
  refine ⟨hinside, hfull, heach, hboth, hother, hvalue, ?_, fun v hv => ?_⟩
  · obtain ⟨hsame⟩ := hjoined
    exact (hsame d _ _).1 hvalue
  · obtain ⟨hsame⟩ := hswapped
    exact (hsame d _ _ _ hvalue hv).symm

end XmlQuery.XPath
