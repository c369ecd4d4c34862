import Mathlib.Data.List.Permutation
import XmlQuery.Proofs.Document.WellFormed
import XmlQuery.Proofs.XPath.DocumentOrder
import XmlQuery.Proofs.XPath.ResultTypes
import XmlQuery.Query.Engine

/-!
# Node-sets

Whatever program runs at a node of a document, each node-set that it puts on its stack lists nodes
of the document in document order, none of them twice. The nodes that a step leads to come in the
order of its axis, which may run backwards; they are put in order only when all of them have been
found, and what predicates let pass after that stays in order. Programs run inside others, on stacks
of their own, and the same holds there, since every node at which a predicate is evaluated has
passed a node test or is in a node-set.

## Main definitions

* `IsNodeSet`: nodes of a document in document order, without repetitions
* `Closed`: a property of node-sets that the operations of programs keep
* `Op.Runs`: an operation runs a program of its own in a context
* `Visits`: a stack that a run of a program comes to, in the program or in one that it runs
* `OrderedNodeSets`: all node-sets that a document leads to are in order

## Main results

* `Closed.run_op`: one operation keeps what holds of the node-sets of the stack
* `Closed.run_ops`: so does a run of a program
* `Closed.visits`: so does every run inside it
* `closed_isNodeSet`: being in order is kept
* `orderedNodeSets_of_parse`: **all node-sets of a parsed document are in order**
-/

namespace XmlQuery.XPath

/-- Nodes of a document in document order, without repetitions. -/
structure IsNodeSet (d : Document) (nodes : List Nat) : Prop where
  /-- The nodes are in document order, and none is there twice. -/
  sortedLT : nodes.SortedLT
  /-- The nodes are nodes of the document. -/
  lt_size : ∀ n ∈ nodes, n < d.size

/-- The node-sets on a stack are in order. -/
def Ordered (d : Document) (stack : List Value) : Prop :=
  ∀ nodes, .nodeSet nodes ∈ stack → IsNodeSet d nodes

variable {d : Document} {c : Context} {stack stack' : List Value}

/-! ## Lists of nodes -/

theorem isNodeSet_singleton {n : Nat} (h : n < d.size) : IsNodeSet d [n] :=
  ⟨(List.pairwise_singleton ..).sortedLT, fun _ hn => List.mem_singleton.1 hn ▸ h⟩

theorem IsNodeSet.sublist {nodes kept : List Nat} (h : IsNodeSet d nodes)
    (hkept : kept.Sublist nodes) : IsNodeSet d kept :=
  ⟨(h.sortedLT.pairwise.sublist hkept).sortedLT, fun n hn => h.lt_size n (hkept.subset hn)⟩

theorem isNodeSet_inDocumentOrder {nodes : List Nat} (h : ∀ n ∈ nodes, n < d.size) :
    IsNodeSet d (inDocumentOrder nodes) :=
  ⟨sortedLT_inDocumentOrder nodes, fun n hn => h n (mem_inDocumentOrder.1 hn)⟩

/-- What a predicate lets pass stays in the order in which it was. -/
theorem filterFrom_sublist {test : Context → Except EvalError Value} {size place : Nat}
    {nodes kept : List Nat} (h : filterFrom test size place nodes = .ok kept) :
    kept.Sublist nodes := by
  induction nodes generalizing place kept with
  | nil =>
    cases h
    exact .slnil
  | cons node rest ih =>
    rw [filterFrom, bind_eq_ok_iff] at h
    obtain ⟨v, -, h⟩ := h
    rw [bind_eq_ok_iff] at h
    obtain ⟨others, hothers, h⟩ := h
    have hrest := ih hothers
    cases hpasses : passes place v with
    | true =>
      rw [if_pos hpasses] at h
      cases h
      exact hrest.cons_cons node
    | false =>
      rw [if_neg (Bool.eq_false_iff.1 hpasses)] at h
      cases h
      exact hrest.cons node

theorem runPredicates_sublist {predicates : List Program} {nodes kept : List Nat}
    (h : runPredicates d predicates nodes = .ok kept) : kept.Sublist nodes := by
  induction predicates generalizing nodes with
  | nil =>
    rw [runPredicates] at h
    cases h
    exact .refl _
  | cons program rest ih =>
    rw [runPredicates, bind_eq_ok_iff] at h
    obtain ⟨middle, hmiddle, h⟩ := h
    exact (ih h).trans (filterFrom_sublist hmiddle)

/-- Where each node leads to nodes of a kind, all of the nodes that are collected are of it. -/
theorem forall_mem_collect {reach : Nat → Except EvalError (List Nat)} {p : Nat → Prop}
    {nodes found : List Nat}
    (hreach : ∀ node ∈ nodes, ∀ found, reach node = .ok found → ∀ n ∈ found, p n)
    (h : collect reach nodes = .ok found) : ∀ n ∈ found, p n := by
  induction nodes generalizing found with
  | nil =>
    cases h
    exact fun n hn => absurd hn List.not_mem_nil
  | cons node rest ih =>
    rw [collect, bind_eq_ok_iff] at h
    obtain ⟨first, hfirst, h⟩ := h
    rw [bind_eq_ok_iff] at h
    obtain ⟨others, hothers, h⟩ := h
    cases h
    rw [List.forall_mem_cons] at hreach
    intro n hn
    rcases List.mem_append.1 hn with hn | hn
    · exact hreach.1 first hfirst n hn
    · exact ih hreach.2 hothers n hn

/-- A node that passes a node test is one of the document. -/
theorem lt_size_of_holds {axis : Axis} {test : ResolvedTest} {n : Nat}
    (h : test.holds d axis n = true) : n < d.size := by
  rw [ResolvedTest.holds, Option.any_eq_true] at h
  obtain ⟨node, hnode, -⟩ := h
  exact (Array.getElem?_eq_some_iff.1 hnode).1

/-- The candidates of a step are nodes of the document, wherever its axis leads. -/
theorem lt_size_of_mem_candidates {axis : Axis} {test : ResolvedTest} {node n : Nat}
    (h : n ∈ (axis.nodes d node).filter (test.holds d axis)) : n < d.size :=
  lt_size_of_holds (List.mem_filter.1 h).2

/-! ## One operation -/

/-- What holds of all node-sets on a stack. -/
def EachNodeSet (P : List Nat → Prop) (stack : List Value) : Prop :=
  ∀ nodes, .nodeSet nodes ∈ stack → P nodes

/-- A property of node-sets that the operations of programs keep. -/
structure Closed (d : Document) (P : List Nat → Prop) : Prop where
  /-- The document node has it. -/
  root : P [0]
  /-- What passes node tests on an axis from nodes with the property has it. -/
  step : ∀ {axis : Axis} {test : ResolvedTest} {nodes found : List Nat}, P nodes →
    (∀ n ∈ found, ∃ base ∈ nodes, n ∈ (axis.nodes d base).filter (test.holds d axis)) →
    P (inDocumentOrder found)
  /-- What is left of nodes with the property has it. -/
  sublist : ∀ {nodes kept : List Nat}, P nodes → kept.Sublist nodes → P kept
  /-- Nodes with the property have it together. -/
  union : ∀ {left right : List Nat}, P left → P right → P (inDocumentOrder (left ++ right))

section

variable {P : List Nat → Prop}

theorem eachNodeSet_nil : EachNodeSet P [] := fun _ h => absurd h List.not_mem_nil

theorem eachNodeSet_cons {v : Value} :
    EachNodeSet P (v :: stack) ↔ (∀ nodes, v = .nodeSet nodes → P nodes) ∧
      EachNodeSet P stack := by
  constructor
  · intro h
    refine ⟨?_, fun nodes hnodes => h nodes (List.mem_cons_of_mem _ hnodes)⟩
    rintro nodes rfl
    exact h nodes List.mem_cons_self
  · rintro ⟨hv, hstack⟩ nodes hnodes
    rcases List.mem_cons.1 hnodes with hnodes | hnodes
    · exact hv nodes hnodes.symm
    · exact hstack nodes hnodes

namespace EachNodeSet

/-- A node-set with the property goes on the stack. -/
theorem push {nodes : List Nat} (h : EachNodeSet P stack) (hnodes : P nodes) :
    EachNodeSet P (.nodeSet nodes :: stack) := by
  refine eachNodeSet_cons.2 ⟨?_, h⟩
  rintro nodes' ⟨⟩
  exact hnodes

/-- A value that is no node-set goes on the stack. -/
theorem pushOther {v : Value} (h : EachNodeSet P stack) (hv : v.type ≠ .nodeSet) :
    EachNodeSet P (v :: stack) := by
  refine eachNodeSet_cons.2 ⟨?_, h⟩
  rintro nodes rfl
  exact absurd rfl hv

theorem popNodes {operation : NodeSetOperation} {nodes : List Nat} {rest : List Value}
    (h : EachNodeSet P stack) (hpop : XPath.popNodes operation stack = .ok (nodes, rest)) :
    P nodes ∧ EachNodeSet P rest := by
  unfold XPath.popNodes at hpop
  split at hpop
  · cases hpop
    rw [eachNodeSet_cons] at h
    exact ⟨h.1 _ rfl, h.2⟩
  · cases hpop
  · cases hpop

theorem pop {v : Value} {rest : List Value} (h : EachNodeSet P stack)
    (hpop : XPath.pop stack = .ok (v, rest)) :
    (∀ nodes, v = .nodeSet nodes → P nodes) ∧ EachNodeSet P rest := by
  unfold XPath.pop at hpop
  split at hpop
  · cases hpop
    exact eachNodeSet_cons.1 h
  · cases hpop

end EachNodeSet

/-- **One operation** keeps what holds of the node-sets of the stack. -/
theorem Closed.run_op (hP : Closed d P) {op : Op} (hc : P [c.node]) (hstack : EachNodeSet P stack)
    (h : op.run d c stack = .ok stack') : EachNodeSet P stack' := by
  cases op with
  | root =>
    cases h
    exact hstack.push hP.root
  | context =>
    cases h
    exact hstack.push hc
  | step axis test predicates =>
    rw [Op.run, bind_eq_ok_iff] at h
    obtain ⟨⟨nodes, rest⟩, hpop, h⟩ := h
    rw [bind_eq_ok_iff] at h
    obtain ⟨found, hfound, h⟩ := h
    cases h
    -- Whatever is found has passed the node test, and is put in order here.
    obtain ⟨hnodes, hrest⟩ := hstack.popNodes hpop
    have hreached : ∀ n ∈ found, ∃ base ∈ nodes,
        n ∈ (axis.nodes d base).filter (test.holds d axis) :=
      forall_mem_collect (fun base hbase kept hkept n hn =>
        ⟨base, hbase, (runPredicates_sublist hkept).subset hn⟩) hfound
    exact hrest.push (hP.step hnodes hreached)
  | predicate program =>
    rw [Op.run, bind_eq_ok_iff] at h
    obtain ⟨⟨nodes, rest⟩, hpop, h⟩ := h
    rw [bind_eq_ok_iff] at h
    obtain ⟨found, hfound, h⟩ := h
    cases h
    obtain ⟨hnodes, hrest⟩ := hstack.popNodes hpop
    exact hrest.push (hP.sublist hnodes (filterFrom_sublist hfound))
  | union =>
    rw [Op.run, bind_eq_ok_iff] at h
    obtain ⟨⟨right, rest⟩, hright, h⟩ := h
    rw [bind_eq_ok_iff] at h
    obtain ⟨⟨left, rest'⟩, hleft, h⟩ := h
    cases h
    obtain ⟨hright, hrest⟩ := hstack.popNodes hright
    obtain ⟨hleft, hrest⟩ := hrest.popNodes hleft
    exact hrest.push (hP.union hleft hright)
  | number value =>
    cases h
    exact hstack.pushOther fun htype => by cases htype
  | string value =>
    cases h
    exact hstack.pushOther fun htype => by cases htype
  | negate =>
    rw [Op.run, bind_eq_ok_iff] at h
    obtain ⟨⟨v, rest⟩, hpop, h⟩ := h
    cases h
    exact (hstack.pop hpop).2.pushOther fun htype => by cases htype
  | and right =>
    rw [Op.run, bind_eq_ok_iff] at h
    obtain ⟨⟨v, rest⟩, hpop, h⟩ := h
    have hrest := (hstack.pop hpop).2
    dsimp only at h
    split at h
    · simp only [bind_eq_ok_iff] at h
      obtain ⟨final, -, ⟨w, below⟩, -, h⟩ := h
      cases h
      exact hrest.pushOther fun htype => by cases htype
    · cases h
      exact hrest.pushOther fun htype => by cases htype
  | or right =>
    rw [Op.run, bind_eq_ok_iff] at h
    obtain ⟨⟨v, rest⟩, hpop, h⟩ := h
    have hrest := (hstack.pop hpop).2
    dsimp only at h
    split at h
    · cases h
      exact hrest.pushOther fun htype => by cases htype
    · simp only [bind_eq_ok_iff] at h
      obtain ⟨final, -, ⟨w, below⟩, -, h⟩ := h
      cases h
      exact hrest.pushOther fun htype => by cases htype
  | binary op =>
    rw [Op.run, bind_eq_ok_iff] at h
    obtain ⟨⟨y, rest⟩, hy, h⟩ := h
    rw [bind_eq_ok_iff] at h
    obtain ⟨⟨x, rest'⟩, hx, h⟩ := h
    cases h
    refine ((hstack.pop hy).2.pop hx).2.pushOther ?_
    rw [type_applyBinary]
    cases op <;> decide
  | call f count =>
    rw [Op.run] at h
    split at h
    · cases h
    · rw [bind_eq_ok_iff] at h
      obtain ⟨v, hv, h⟩ := h
      cases h
      refine EachNodeSet.pushOther (fun nodes hnodes => ?_) ?_
      · exact hstack nodes (List.mem_of_mem_drop hnodes)
      · rw [Builtin.type_of_apply hv]
        exact f.resultType_ne_nodeSet

/-- **A run** keeps what holds of the node-sets of the stack, by induction on the operations. -/
theorem Closed.run_ops (hP : Closed d P) {program : Program} (hc : P [c.node])
    (hstack : EachNodeSet P stack) (h : runOps d program c stack = .ok stack') :
    EachNodeSet P stack' := by
  induction program generalizing stack with
  | nil =>
    rw [runOps] at h
    cases h
    exact hstack
  | cons op rest ih =>
    rw [runOps, bind_eq_ok_iff] at h
    obtain ⟨middle, hmiddle, h⟩ := h
    exact ih (hP.run_op hc hstack hmiddle) h

/-- What holds of node-sets that are reached holds of a node that is reached. -/
theorem Closed.of_mem (hP : Closed d P) {nodes : List Nat} {n : Nat} (hnodes : P nodes)
    (hn : n ∈ nodes) : P [n] :=
  hP.sublist hnodes (List.singleton_sublist.2 hn)

end

/-! ## Runs -/

/-- An operation on a stack runs a program of its own in a context: a predicate at each of the nodes
that it is asked about, and the right operand of `and` and `or` where the left one leaves the matter
open. -/
inductive Op.Runs (d : Document) (c : Context) :
    Op → List Value → Program → Context → Prop
  /-- The right operand of `and`. -/
  | and {right : Program} {v : Value} {rest : List Value} : v.toBoolean = true →
    Op.Runs d c (.and right) (v :: rest) right c
  /-- The right operand of `or`. -/
  | or {right : Program} {v : Value} {rest : List Value} : v.toBoolean = false →
    Op.Runs d c (.or right) (v :: rest) right c
  /-- A predicate of a node-set. -/
  | predicate {program : Program} {nodes : List Nat} {rest : List Value} {node place : Nat} :
    (node, place) ∈ nodes.zipIdx 1 →
    Op.Runs d c (.predicate program) (.nodeSet nodes :: rest) program ⟨node, place, nodes.length⟩
  /-- A predicate of a step, at the candidates that the predicates in front of it have let pass. -/
  | step {axis : Axis} {test : ResolvedTest} {before after : List Program} {program : Program}
    {nodes kept : List Nat} {rest : List Value} {base node place : Nat} :
    base ∈ nodes →
    runPredicates d before ((axis.nodes d base).filter (test.holds d axis)) = .ok kept →
    (node, place) ∈ kept.zipIdx 1 →
    Op.Runs d c (.step axis test (before ++ program :: after)) (.nodeSet nodes :: rest) program
      ⟨node, place, kept.length⟩

/-- A run of a program in a context comes to a stack in a context: after some of its operations, or
inside a program that one of them runs. -/
inductive Visits (d : Document) : Program → Context → Context → List Value → Prop
  /-- After some of the operations. -/
  | here {front rest : Program} {c : Context} {stack : List Value} :
    runOps d front c [] = .ok stack → Visits d (front ++ rest) c c stack
  /-- Inside a program that the next operation runs. -/
  | inside {front rest program : Program} {op : Op} {c inner c' : Context}
    {stack stack' : List Value} :
    runOps d front c [] = .ok stack → op.Runs d c stack program inner →
    Visits d program inner c' stack' → Visits d (front ++ op :: rest) c c' stack'

section

variable {P : List Nat → Prop}

/-- A program inside an operation runs at a node that has the property too. -/
theorem Closed.runs (hP : Closed d P) {op : Op} {program : Program} {inner : Context}
    (h : op.Runs d c stack program inner) (hc : P [c.node]) (hstack : EachNodeSet P stack) :
    P [inner.node] := by
  cases h with
  | and => exact hc
  | or => exact hc
  | predicate hnode =>
    exact hP.of_mem ((eachNodeSet_cons.1 hstack).1 _ rfl) (List.fst_mem_of_mem_zipIdx hnode)
  | @step axis test _ _ _ nodes _ _ base node _ hbase hkept hnode =>
    have hmem := (runPredicates_sublist hkept).subset (List.fst_mem_of_mem_zipIdx hnode)
    have hreached : ∀ n ∈ [node], ∃ base ∈ nodes,
        n ∈ (axis.nodes d base).filter (test.holds d axis) :=
      fun n hn => ⟨base, hbase, List.mem_singleton.1 hn ▸ hmem⟩
    exact hP.of_mem (hP.step ((eachNodeSet_cons.1 hstack).1 _ rfl) hreached)
      (mem_inDocumentOrder.2 List.mem_cons_self)

/-- **Every stack** that a run comes to keeps what holds of node-sets, at any depth, and so does the
node at which it comes to it. -/
theorem Closed.visits (hP : Closed d P) {program : Program} {c c' : Context}
    (h : Visits d program c c' stack) (hc : P [c.node]) :
    P [c'.node] ∧ EachNodeSet P stack := by
  induction h with
  | here hrun => exact ⟨hc, hP.run_ops hc eachNodeSet_nil hrun⟩
  | inside hrun hruns _ ih =>
    exact ih (hP.runs hruns hc (hP.run_ops hc eachNodeSet_nil hrun))

end

/-! ## Order -/

/-- Being in order is kept by operations, as every document has a document node. -/
theorem closed_isNodeSet (h : 0 < d.size) : Closed d (IsNodeSet d) where
  root := isNodeSet_singleton h
  step _ hfound := isNodeSet_inDocumentOrder fun n hn =>
    let ⟨_, _, hcandidate⟩ := hfound n hn
    lt_size_of_mem_candidates hcandidate
  sublist := IsNodeSet.sublist
  union hleft hright := isNodeSet_inDocumentOrder fun n hn =>
    (List.mem_append.1 hn).elim (hleft.lt_size n) (hright.lt_size n)

/-- A run at a node of the document keeps the node-sets of the stack in order. -/
theorem runOps_ordered {program : Program} (hc : c.node < d.size) (hstack : Ordered d stack)
    (h : runOps d program c stack = .ok stack') : Ordered d stack' :=
  (closed_isNodeSet (Nat.zero_lt_of_lt hc)).run_ops (isNodeSet_singleton hc) hstack h

/-- Every stack that a run at a node of the document comes to has its node-sets in order. -/
theorem Visits.ordered {program : Program} {c c' : Context} (h : Visits d program c c' stack)
    (hc : c.node < d.size) : Ordered d stack :=
  ((closed_isNodeSet (Nat.zero_lt_of_lt hc)).visits h (isNodeSet_singleton hc)).2

theorem isNodeSet_of_value {program : Program} {nodes : List Nat} (hc : c.node < d.size)
    (h : Program.value d program c = .ok (.nodeSet nodes)) : IsNodeSet d nodes := by
  rw [Program.value, bind_eq_ok_iff] at h
  obtain ⟨final, hfinal, h⟩ := h
  rw [bind_eq_ok_iff] at h
  obtain ⟨⟨v, rest⟩, hpop, h⟩ := h
  cases h
  unfold pop at hpop
  split at hpop
  · cases hpop
    exact runOps_ordered hc eachNodeSet_nil hfinal nodes List.mem_cons_self
  · cases hpop

/-! ## Selections -/

/-- Nodes that are selected are those of the value, all of them. -/
theorem select_eq_ok_iff {node : Nat} {e : CompiledExpression} {nodes : List Nat}
    (hnode : node < d.size) :
    select d node e = .ok nodes ↔ evaluate d node e = .ok (.nodeSet nodes) := by
  rw [select]
  constructor
  · intro h
    split at h
    · cases h
    · next found hvalue =>
      cases h
      -- All of the nodes exist, so none is left out.
      have hfound : IsNodeSet d found := isNodeSet_of_value hnode hvalue
      rw [List.filter_eq_self.2 fun n hn => decide_eq_true (hfound.lt_size n hn)]
      exact hvalue
    · cases h
  · intro h
    have hnodes : IsNodeSet d nodes := isNodeSet_of_value hnode h
    rw [h]
    exact congrArg _ (List.filter_eq_self.2 fun n hn => decide_eq_true (hnodes.lt_size n hn))

/-- A query of a document that is parsed answers with the records of the nodes it selects. -/
theorem queryDocument_eq_ok_iff {bytes : List UInt8} (hparse : Document.parse bytes = .ok d)
    {expression : String} {b : Bindings} {records : List Query.Record} :
    Query.queryDocument bytes expression b = .ok records ↔
      ∃ e nodes, CompiledExpression.compile expression b = .ok e ∧ select d 0 e = .ok nodes ∧
        records = nodes.map (Query.Record.ofNode d) := by
  rw [Query.queryDocument, bind_eq_ok_iff]
  refine exists_congr fun e => ?_
  rw [mapError_eq_ok_iff, Query.selectRecords, exists_and_left]
  refine and_congr_right fun _ => ?_
  simp only [bind_eq_ok_iff, mapError_eq_ok_iff, hparse, Except.ok.injEq, exists_eq_left']
  exact exists_congr fun nodes => and_congr_right fun _ =>
    ⟨fun h => (Except.ok.inj h).symm, fun h => h ▸ rfl⟩

/-- All node-sets that a document of some bytes leads to are in order. -/
structure OrderedNodeSets (bytes : List UInt8) (d : Document) : Prop where
  /-- On the stack of a program, after each operation, and of each program inside it. -/
  visited : ∀ (program : Program) (c : Context), c.node < d.size →
    ∀ c' stack, Visits d program c c' stack → Ordered d stack
  /-- As the value of a program, whether it has been compiled or not. -/
  value : ∀ (program : Program) (c : Context), c.node < d.size →
    ∀ nodes, Program.value d program c = .ok (.nodeSet nodes) → IsNodeSet d nodes
  /-- As a selection, which has all nodes of the value. -/
  selection : ∀ (e : CompiledExpression) (node : Nat), node < d.size →
    ∀ nodes, select d node e = .ok nodes ↔
      evaluate d node e = .ok (.nodeSet nodes) ∧ IsNodeSet d nodes
  /-- As the answer to a query, which has one record for each node of the value. -/
  answer : ∀ (expression : String) (b : Bindings) (records : List Query.Record),
    Query.queryDocument bytes expression b = .ok records ↔
      ∃ e nodes, CompiledExpression.compile expression b = .ok e ∧
        evaluate d 0 e = .ok (.nodeSet nodes) ∧ IsNodeSet d nodes ∧
        records = nodes.map (Query.Record.ofNode d)

/-- **All node-sets of a parsed document are in order**, and no node of them is lost on the way to a
selection or to the answer of a query. -/
theorem orderedNodeSets_of_parse {bytes : List UInt8} (h : Document.parse bytes = .ok d) :
    OrderedNodeSets bytes d := by
  have hvalue : ∀ (program : Program) (c : Context), c.node < d.size →
      ∀ nodes, Program.value d program c = .ok (.nodeSet nodes) → IsNodeSet d nodes :=
    fun program c hc nodes => isNodeSet_of_value hc
  have hselect : ∀ (e : CompiledExpression) (node : Nat), node < d.size →
      ∀ nodes, select d node e = .ok nodes ↔
        evaluate d node e = .ok (.nodeSet nodes) ∧ IsNodeSet d nodes := by
    intro e node hnode nodes
    rw [select_eq_ok_iff hnode]
    exact ⟨fun hnodes => ⟨hnodes, hvalue _ _ hnode _ hnodes⟩, And.left⟩
  refine ⟨fun program c hc c' stack hvisits => hvisits.ordered hc, hvalue, hselect, ?_⟩
  intro expression b records
  -- A parsed document has a document node, at which queries are evaluated.
  have hroot : 0 < d.size := by
    obtain ⟨text, htext⟩ := Document.exists_text_of_parse h
    obtain ⟨trees, -, rfl⟩ := Document.exists_trees_of_parseText htext
    rw [Document.size_ofTrees]
    exact Nat.succ_pos _
  rw [queryDocument_eq_ok_iff h]
  simp only [hselect _ 0 hroot, and_assoc]

/-- The nodes around a node come in order, although the axis leads from the inner to the outer. -/
theorem orderedNodeSets_of_parse_ancestors :
    Document.parse (Utf8.encode Document.sample) = .ok (.ofTrees [Document.sampleTree]) ∧
      Axis.nodes (.ofTrees [Document.sampleTree]) 3 .ancestorOrSelf = [3, 1, 0] ∧
      Program.value (.ofTrees [Document.sampleTree])
        [.context, .step .ancestorOrSelf .node []] ⟨3, 1, 1⟩ = .ok (.nodeSet [0, 1, 3]) ∧
      IsNodeSet (.ofTrees [Document.sampleTree]) [0, 1, 3] := by
  have hvalue : Program.value (.ofTrees [Document.sampleTree])
      [.context, .step .ancestorOrSelf .node []] ⟨3, 1, 1⟩ = .ok (.nodeSet [0, 1, 3]) := by cbv
  exact ⟨Document.parse_sample, rfl, hvalue,
    (orderedNodeSets_of_parse Document.parse_sample).value _ _ (by decide) _ hvalue⟩

end XmlQuery.XPath
