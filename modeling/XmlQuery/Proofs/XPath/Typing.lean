import XmlQuery.Proofs.XPath.CompiledCode
import XmlQuery.Proofs.XPath.ResultTypes

/-!
# Types of expressions

Where node-sets are needed an expression can be looked at to see whether it is one: paths, unions
and filters always are, and nothing else ever is. An expression in which all such places hold
node-sets, and in which functions are called with as many arguments as they take, has a value of the
type that can be read off it. No expression at all takes a value from an empty stack, since the code
of an operand always leaves one.

## Main definitions

* `Expr.isNodeSet`, `Expr.type?`: what can be read off an expression about its values
* `Expr.wellTyped`: node-sets stand where they are needed
* `Evaluation.NeverEmpty`: an evaluation does not fail for want of a value

## Main results

* `exists_eval_eq_pure`: a well-typed expression has a value of its type
* `neverEmpty_eval`: no expression fails for want of a value
* `evaluate_of_code`: **type soundness**, for the code of an expression
-/

namespace XmlQuery.XPath

namespace Expr

/-- The expression is one for a node-set, as it is written: the document, a step, a path, a union or
a filter. -/
def isNodeSet : Expr → Bool
  | .root | .step .. | .path .. | .union .. | .filter .. => true
  | _ => false

/-- The type of the values of an expression, as it is written. Variables and unknown functions have
none. -/
def type? : Expr → Option ValueType
  | .root | .step .. | .path .. | .union .. | .filter .. => some .nodeSet
  | .binary op _ _ => some op.resultType
  | .negate _ | .number _ => some .number
  | .string _ => some .string
  | .call name _ => (Builtin.ofLabel? name).map (·.resultType)
  | .variable _ => none

/-- A function can be called with arguments: it is not `id`, it takes so many of them, and they are
node-sets if it takes nothing else. -/
def callable (arguments : List Expr) (f : Builtin) : Bool :=
  f != .id && f.arity.accepts arguments.length &&
    (!f.takesNodeSet || arguments.all (·.isNodeSet))

mutual

/-- Node-sets stand where they are needed, at any depth: around `|`, in front of a step or a
predicate, and as arguments of the functions that take nothing else. -/
def wellTyped : Expr → Bool
  | .root | .number _ | .string _ | .variable _ => true
  | .negate operand => operand.wellTyped
  | .binary _ left right => left.wellTyped && right.wellTyped
  | .union left right =>
    (left.isNodeSet && right.isNodeSet) && (left.wellTyped && right.wellTyped)
  | .path base _ _ predicates => (base.isNodeSet && base.wellTyped) && allWellTyped predicates
  | .step _ _ predicates => allWellTyped predicates
  | .filter base predicate => (base.isNodeSet && base.wellTyped) && predicate.wellTyped
  | .call name arguments =>
    (Builtin.ofLabel? name).all (callable arguments) && allWellTyped arguments

/-- All of some expressions are well-typed. -/
def allWellTyped : List Expr → Bool
  | [] => true
  | e :: rest => e.wellTyped && allWellTyped rest

end

theorem type?_of_isNodeSet {e : Expr} (h : e.isNodeSet = true) : e.type? = some .nodeSet := by
  cases e with
  | root | step | path | union | filter => rfl
  | _ => cases h

end Expr

variable {b : Bindings} {d : Document} {c : Context}

/-! ## Values -/

/-- What is written as a node-set has a node-set as its value. -/
theorem Expr.exists_nodeSet {e : Expr} {v : Value} (he : e.isNodeSet = true)
    (hv : e.type? = some v.type) : ∃ nodes, v = .nodeSet nodes := by
  rw [Expr.type?_of_isNodeSet he] at hv
  cases v with
  | nodeSet nodes => exact ⟨nodes, rfl⟩
  | _ => cases hv

/-- What are written as node-sets have node-sets as their values. -/
theorem forall_type_eq_nodeSet {es : List Expr} {vs : List Value}
    (h : List.Forall₂ (fun e v => e.type? = some v.type) es vs)
    (hes : es.all (·.isNodeSet) = true) : ∀ v ∈ vs, v.type = .nodeSet := by
  induction h with
  | nil => exact fun v hv => absurd hv List.not_mem_nil
  | @cons e v es vs hv _ ih =>
    rw [List.all_cons, Bool.and_eq_true] at hes
    refine List.forall_mem_cons.2 ⟨?_, ih hes.2⟩
    rw [Expr.type?_of_isNodeSet hes.1] at hv
    exact (Option.some.inj hv).symm

theorem lift_nodesFor (operation : NodeSetOperation) (nodes : List Nat) :
    (liftM ((Value.nodeSet nodes).nodesFor operation) : Evaluation (List Nat)) = pure nodes := rfl

theorem exists_mapM_eq_pure {α β : Type} {f : α → Evaluation β} (h : ∀ a, ∃ y, f a = pure y)
    (as : List α) : ∃ ys, as.mapM f = pure ys := by
  induction as with
  | nil => exact ⟨[], rfl⟩
  | cons a as ih =>
    obtain ⟨y, hy⟩ := h a
    obtain ⟨ys, hys⟩ := ih
    refine ⟨y :: ys, ?_⟩
    rw [List.mapM_cons, hy, pure_bind, hys, pure_bind]

theorem exists_keepPassing_eq_pure {predicate : Context → Evaluation Value}
    (h : ∀ c, ∃ v, predicate c = pure v) (nodes : List Nat) :
    ∃ kept, keepPassing predicate nodes = pure kept := by
  rw [keepPassing]
  obtain ⟨kept, hkept⟩ := exists_mapM_eq_pure (f := fun p : Nat × Nat => do
      let v ← predicate ⟨p.1, p.2, nodes.length⟩
      return if passes p.2 v then [p.1] else []) (fun p => by
    obtain ⟨v, hv⟩ := h ⟨p.1, p.2, nodes.length⟩
    exact ⟨_, by rw [hv, pure_bind]⟩) (nodes.zipIdx 1)
  exact ⟨kept.flatten, by rw [hkept, pure_bind]⟩

/-- Where its predicates let some of all nodes pass, a step leads to some nodes from each node. -/
theorem exists_reach_eq_pure {axis : Axis} {test : NodeTest} {resolved : ResolvedTest}
    {predicates : List Expr} (htest : test.resolve b axis = .ok resolved)
    (h : ∀ nodes, ∃ kept, keepAll b d predicates nodes = pure kept) (node : Nat) :
    ∃ found, (candidates b d axis test node >>= keepAll b d predicates) = pure found := by
  rw [candidates_eq htest, pure_bind]
  exact h _

mutual

/-- A well-typed expression whose names stand for something has a value of its type. -/
theorem exists_eval_eq_pure {e : Expr} {program : Program} (h : e.code b = .ok program)
    (he : e.wellTyped = true) (c : Context) :
    ∃ v, e.eval b d c = pure v ∧ e.type? = some v.type := by
  cases e with
  | root => exact ⟨.nodeSet [0], by rw [Expr.eval], rfl⟩
  | number value => exact ⟨.number value, by rw [Expr.eval], rfl⟩
  | string value => exact ⟨.string value, by rw [Expr.eval], rfl⟩
  | «variable» name => cases h
  | negate operand =>
    simp only [Expr.code, bind_eq_ok_iff] at h
    obtain ⟨p, hp, -⟩ := h
    rw [Expr.wellTyped] at he
    obtain ⟨v, hv, -⟩ := exists_eval_eq_pure hp he c
    rw [Expr.eval, hv]
    exact ⟨_, pure_bind _ _, rfl⟩
  | binary op left right =>
    simp only [Expr.code, bind_eq_ok_iff] at h
    obtain ⟨p, hp, q, hq, -⟩ := h
    rw [Expr.wellTyped, Bool.and_eq_true] at he
    obtain ⟨x, hx, -⟩ := exists_eval_eq_pure hp he.1 c
    obtain ⟨y, hy, -⟩ := exists_eval_eq_pure hq he.2 c
    cases op
    case and =>
      rw [Expr.eval, hx, hy, pure_bind, pure_bind]
      split
      · exact ⟨_, rfl, rfl⟩
      · exact ⟨_, rfl, rfl⟩
    case or =>
      rw [Expr.eval, hx, hy, pure_bind, pure_bind]
      split
      · exact ⟨_, rfl, rfl⟩
      · exact ⟨_, rfl, rfl⟩
    all_goals
      rw [Expr.eval]
      · exact ⟨applyBinary d _ x y, by rw [hx, hy, pure_bind, pure_bind], rfl⟩
      all_goals nofun
  | union left right =>
    simp only [Expr.code, bind_eq_ok_iff] at h
    obtain ⟨p, hp, q, hq, -⟩ := h
    simp only [Expr.wellTyped, Bool.and_eq_true] at he
    obtain ⟨x, hx, hxtype⟩ := exists_eval_eq_pure hp he.2.1 c
    obtain ⟨y, hy, hytype⟩ := exists_eval_eq_pure hq he.2.2 c
    obtain ⟨before, rfl⟩ := left.exists_nodeSet he.1.1 hxtype
    obtain ⟨after, rfl⟩ := right.exists_nodeSet he.1.2 hytype
    rw [Expr.eval, hx, hy]
    exact ⟨_, rfl, rfl⟩
  | path base axis test predicates =>
    simp only [Expr.code, bind_eq_ok_iff] at h
    obtain ⟨p, hp, resolved, htest, ps, hps, -⟩ := h
    simp only [Expr.wellTyped, Bool.and_eq_true] at he
    obtain ⟨v, hv, htype⟩ := exists_eval_eq_pure hp he.1.2 c
    obtain ⟨nodes, rfl⟩ := base.exists_nodeSet he.1.1 htype
    have hreach := exists_reach_eq_pure htest (d := d) (exists_keepAll_eq_pure hps he.2)
    obtain ⟨found, hfound⟩ := exists_mapM_eq_pure hreach nodes
    refine ⟨.nodeSet found.flatten.toFinset.sort, ?_, rfl⟩
    rw [Expr.eval, hv, pure_bind, lift_nodesFor, pure_bind, hfound, pure_bind]
  | step axis test predicates =>
    simp only [Expr.code, bind_eq_ok_iff] at h
    obtain ⟨resolved, htest, ps, hps, -⟩ := h
    rw [Expr.wellTyped] at he
    obtain ⟨found, hfound⟩ := exists_reach_eq_pure htest (exists_keepAll_eq_pure hps he) c.node
    rw [Expr.eval, ← bind_assoc, hfound]
    exact ⟨_, rfl, rfl⟩
  | filter base predicate =>
    simp only [Expr.code, bind_eq_ok_iff] at h
    obtain ⟨p, hp, q, hq, -⟩ := h
    simp only [Expr.wellTyped, Bool.and_eq_true] at he
    obtain ⟨v, hv, htype⟩ := exists_eval_eq_pure hp he.1.2 c
    obtain ⟨nodes, rfl⟩ := base.exists_nodeSet he.1.1 htype
    -- The predicate has a value at each of the nodes, whatever its place.
    have hpredicate : ∀ c, ∃ v, predicate.eval b d c = pure v := fun c => by
      obtain ⟨w, hw, -⟩ := exists_eval_eq_pure hq he.2 c
      exact ⟨w, hw⟩
    obtain ⟨kept, hkept⟩ := exists_keepPassing_eq_pure hpredicate nodes
    refine ⟨.nodeSet kept, ?_, rfl⟩
    rw [Expr.eval, hv, pure_bind, lift_nodesFor, pure_bind, hkept, pure_bind]
  | call name arguments =>
    rw [Expr.code] at h
    split at h
    · cases h
    · next f hf =>
      rw [bind_eq_ok_iff] at h
      obtain ⟨p, hp, -⟩ := h
      simp only [Expr.wellTyped, hf, Option.all_some, Expr.callable, Bool.and_eq_true,
        bne_iff_ne, Bool.or_eq_true, Bool.not_eq_true'] at he
      obtain ⟨⟨⟨hid, harity⟩, hnodes⟩, hall⟩ := he
      obtain ⟨vs, hvs, htypes⟩ := exists_evalEach_eq_pure hp hall c
      obtain ⟨v, hv⟩ : ∃ v, f.apply d c vs = .ok v := by
        refine Builtin.exists_apply_eq_ok (htypes.length_eq ▸ harity) hid fun htakes => ?_
        exact forall_type_eq_nodeSet htypes (hnodes.resolve_left (by rw [htakes]; decide))
      refine ⟨v, ?_, ?_⟩
      · rw [Expr.eval, hf, hvs]
        change (liftM (f.apply d c vs) : Evaluation Value) = _
        rw [hv]
        rfl
      · rw [Expr.type?, hf, Option.map_some, Builtin.type_of_apply hv]

/-- Well-typed expressions have values of their types. -/
theorem exists_evalEach_eq_pure {es : List Expr} {program : Program}
    (h : codes b es = .ok program) (hes : Expr.allWellTyped es = true) (c : Context) :
    ∃ vs, evalEach b d es c = pure vs ∧
      List.Forall₂ (fun e v => e.type? = some v.type) es vs := by
  cases es with
  | nil => exact ⟨[], by rw [evalEach], .nil⟩
  | cons e es =>
    simp only [codes, bind_eq_ok_iff] at h
    obtain ⟨p, hp, q, hq, -⟩ := h
    rw [Expr.allWellTyped, Bool.and_eq_true] at hes
    obtain ⟨v, hv, htype⟩ := exists_eval_eq_pure hp hes.1 c
    obtain ⟨vs, hvs, htypes⟩ := exists_evalEach_eq_pure hq hes.2 c
    refine ⟨v :: vs, ?_, .cons htype htypes⟩
    rw [evalEach, hv, pure_bind, hvs, pure_bind]

/-- Well-typed predicates let some nodes pass. -/
theorem exists_keepAll_eq_pure {es : List Expr} {ps : List Program}
    (h : programs b es = .ok ps) (hes : Expr.allWellTyped es = true) (nodes : List Nat) :
    ∃ kept, keepAll b d es nodes = pure kept := by
  cases es with
  | nil => exact ⟨nodes, by rw [keepAll]⟩
  | cons e es =>
    simp only [programs, bind_eq_ok_iff] at h
    obtain ⟨p, hp, qs, hqs, -⟩ := h
    rw [Expr.allWellTyped, Bool.and_eq_true] at hes
    have hpredicate : ∀ c, ∃ v, e.eval b d c = pure v := fun c => by
      obtain ⟨w, hw, -⟩ := exists_eval_eq_pure hp hes.1 c
      exact ⟨w, hw⟩
    obtain ⟨kept, hkept⟩ := exists_keepPassing_eq_pure hpredicate nodes
    rw [keepAll, hkept, pure_bind]
    exact exists_keepAll_eq_pure hqs hes.2 kept

end

/-! ## Errors -/

/-- An evaluation does not fail for want of a value on the stack. -/
def Evaluation.NeverEmpty {α : Type} (m : Evaluation α) : Prop :=
  m.run ≠ some (.error .emptyStack)

namespace Evaluation

variable {α β : Type}

theorem neverEmpty_pure (a : α) : NeverEmpty (pure a) := nofun

theorem NeverEmpty.bind {m : Evaluation α} {f : α → Evaluation β} (hm : m.NeverEmpty)
    (hf : ∀ a, (f a).NeverEmpty) : (m >>= f).NeverEmpty := by
  -- There is no result, an error of `m`, or what `f` comes to on the value of `m`.
  obtain _ | ⟨e | a⟩ := m
  · exact nofun
  · intro herror
    cases herror
    exact hm rfl
  · exact hf a

theorem neverEmpty_liftOutcome {r : Except EvalError α} (h : r ≠ .error .emptyStack) :
    NeverEmpty (liftM r) := by
  intro hr
  exact h (Option.some.inj hr)

theorem neverEmpty_liftOption (o : Option α) : NeverEmpty (liftM o) := by
  cases o <;> exact nofun

theorem neverEmpty_mapM {f : α → Evaluation β} (h : ∀ a, (f a).NeverEmpty) (as : List α) :
    (as.mapM f).NeverEmpty := by
  induction as with
  | nil => exact neverEmpty_pure []
  | cons a as ih =>
    rw [List.mapM_cons]
    exact (h a).bind fun y => ih.bind fun ys => neverEmpty_pure (y :: ys)

end Evaluation

open Evaluation (NeverEmpty neverEmpty_pure neverEmpty_liftOutcome neverEmpty_liftOption
  neverEmpty_mapM)

theorem neverEmpty_nodesFor (operation : NodeSetOperation) (v : Value) :
    NeverEmpty (liftM (v.nodesFor operation) : Evaluation (List Nat)) := by
  refine neverEmpty_liftOutcome ?_
  cases v <;> exact nofun

theorem neverEmpty_candidates (axis : Axis) (test : NodeTest) (node : Nat) :
    (candidates b d axis test node).NeverEmpty :=
  (neverEmpty_liftOption _).bind fun _ => neverEmpty_pure _

theorem neverEmpty_keepPassing {predicate : Context → Evaluation Value}
    (h : ∀ c, (predicate c).NeverEmpty) (nodes : List Nat) :
    (keepPassing predicate nodes).NeverEmpty := by
  refine (neverEmpty_mapM (fun p => ?_) _).bind fun kept => neverEmpty_pure _
  exact (h _).bind fun v => neverEmpty_pure _

mutual

/-- No expression fails for want of a value. -/
theorem neverEmpty_eval (e : Expr) (c : Context) : (e.eval b d c).NeverEmpty := by
  cases e with
  | root | number | string =>
    rw [Expr.eval]
    exact neverEmpty_pure _
  | «variable» name =>
    rw [Expr.eval]
    exact neverEmpty_liftOption none
  | negate operand =>
    rw [Expr.eval]
    exact (neverEmpty_eval operand c).bind fun v => neverEmpty_pure _
  | binary op left right =>
    have hl := neverEmpty_eval left c
    have hr := neverEmpty_eval right c
    cases op
    case and | or =>
      rw [Expr.eval]
      refine hl.bind fun v => ?_
      split
      all_goals first | exact neverEmpty_pure _ | exact hr.bind fun w => neverEmpty_pure _
    all_goals
      rw [Expr.eval]
      · exact hl.bind fun x => hr.bind fun y => neverEmpty_pure _
      all_goals nofun
  | union left right =>
    rw [Expr.eval]
    refine (neverEmpty_eval left c).bind fun x => (neverEmpty_eval right c).bind fun y => ?_
    exact (neverEmpty_nodesFor _ y).bind fun after =>
      (neverEmpty_nodesFor _ x).bind fun before => neverEmpty_pure _
  | path base axis test predicates =>
    rw [Expr.eval]
    refine (neverEmpty_eval base c).bind fun v => (neverEmpty_nodesFor _ v).bind fun nodes => ?_
    refine (neverEmpty_mapM (fun node => ?_) nodes).bind fun found => neverEmpty_pure _
    exact (neverEmpty_candidates axis test node).bind fun ns => neverEmpty_keepAll predicates ns
  | step axis test predicates =>
    rw [Expr.eval]
    refine (neverEmpty_candidates axis test c.node).bind fun ns => ?_
    exact (neverEmpty_keepAll predicates ns).bind fun found => neverEmpty_pure _
  | filter base predicate =>
    rw [Expr.eval]
    refine (neverEmpty_eval base c).bind fun v => (neverEmpty_nodesFor _ v).bind fun nodes => ?_
    exact (neverEmpty_keepPassing (neverEmpty_eval predicate) nodes).bind fun kept =>
      neverEmpty_pure _
  | call name arguments =>
    rw [Expr.eval]
    refine (neverEmpty_liftOption _).bind fun f => ?_
    refine (neverEmpty_evalEach arguments c).bind fun vs => ?_
    exact neverEmpty_liftOutcome Builtin.apply_ne_emptyStack

theorem neverEmpty_evalEach (es : List Expr) (c : Context) :
    (evalEach b d es c).NeverEmpty := by
  cases es with
  | nil =>
    rw [evalEach]
    exact neverEmpty_pure []
  | cons e es =>
    rw [evalEach]
    exact (neverEmpty_eval e c).bind fun v => (neverEmpty_evalEach es c).bind fun vs =>
      neverEmpty_pure _

theorem neverEmpty_keepAll (es : List Expr) (nodes : List Nat) :
    (keepAll b d es nodes).NeverEmpty := by
  cases es with
  | nil =>
    rw [keepAll]
    exact neverEmpty_pure nodes
  | cons e es =>
    rw [keepAll]
    exact (neverEmpty_keepPassing (neverEmpty_eval e) nodes).bind fun kept =>
      neverEmpty_keepAll es kept

end

/-! ## Code -/

/-- **Type soundness**: the code of a well-typed expression has a value of the type of the
expression, on every document and at every node; and the code of no expression takes a value from an
empty stack. -/
theorem evaluate_of_code {e : Expr} {program : Program} (h : e.code b = .ok program)
    (d : Document) (node : Nat) (source : String) :
    (e.wellTyped = true →
      ∃ v, evaluate d node ⟨source, program⟩ = .ok v ∧ e.type? = some v.type) ∧
    evaluate d node ⟨source, program⟩ ≠ .error .emptyStack := by
  -- What the code comes to is what the evaluation of the expression does.
  have hvalue := (pushes_code (d := d) h (.ofNode node)).value_eq
  constructor
  · intro he
    obtain ⟨v, hv, htype⟩ := exists_eval_eq_pure (d := d) h he (.ofNode node)
    rw [hvalue] at hv
    exact ⟨v, Evaluation.ofOutcome_injective hv, htype⟩
  · intro hempty
    apply neverEmpty_eval (b := b) (d := d) e (.ofNode node)
    rw [hvalue]
    exact congrArg some hempty

/-- The number of the elements `a` that have as many attributes as their place among them says. -/
theorem evaluate_of_code_count :
    ∃ program,
      (Expr.call "count" [.path .root .descendant (.name "a")
        [.binary .eq (.call "position" []) (.call "count" [.step .attribute .any []])]]).code
          Bindings.empty = .ok program ∧
      (Expr.call "count" [.path .root .descendant (.name "a")
        [.binary .eq (.call "position" []) (.call "count" [.step .attribute .any []])]]).wellTyped =
          true ∧
      (∃ v, evaluate (.ofTrees [.element ⟨"", "a", ""⟩ [⟨⟨"", "b", ""⟩, "1", false⟩] []]) 0
        ⟨"", program⟩ = .ok v ∧ v.type = .number) ∧
      evaluate (.ofTrees [.element ⟨"", "a", ""⟩ [⟨⟨"", "b", ""⟩, "1", false⟩] []]) 0
        ⟨"", program⟩ ≠ .error .emptyStack := by
  have hcode : (Expr.call "count" [.path .root .descendant (.name "a")
      [.binary .eq (.call "position" []) (.call "count" [.step .attribute .any []])]]).code
        Bindings.empty =
    .ok [.root, .step .descendant (.name "" "a") [[.call .position 0, .context,
      .step .attribute .any [], .call .count 1, .binary .eq]], .call .count 1] := rfl
  obtain ⟨hvalue, hempty⟩ := evaluate_of_code hcode
    (.ofTrees [.element ⟨"", "a", ""⟩ [⟨⟨"", "b", ""⟩, "1", false⟩] []]) 0 ""
  obtain ⟨v, hv, htype⟩ := hvalue (by decide)
  exact ⟨_, hcode, by decide, ⟨v, hv, (Option.some.inj htype).symm⟩, hempty⟩

end XmlQuery.XPath
