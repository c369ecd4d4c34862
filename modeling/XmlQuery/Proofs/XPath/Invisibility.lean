import XmlQuery.Proofs.XPath.Masking
import XmlQuery.Proofs.XPath.NodeSets

/-!
# What evaluation does not see

How names are spelled in a document, and what its namespace declarations say, cannot be told from
the values of programs, unless they ask for names as written. Programs never come to a declaration,
and what they ask of other nodes is the same without all that. So documents that differ in nothing
else have the same values.

## Main definitions

* `Avoids`: no node is a declaration
* `Op.callsName`, `opsCallName`, `programsCallName`: a name as written is asked for, at any depth
* `Invisible`: declarations and prefixes make no difference to a document

## Main results

* `closed_avoids`: programs that start at other nodes never come to a declaration
* `compare_masked`, `Builtin.apply_masked`: operators and functions do not see what is masked
* `Op.run_masked`, `runOps_masked`: no program does, by induction on operations and programs
* `invisible_of_parse`: **prefixes and declarations of parsed documents are invisible**
-/

namespace XmlQuery.XPath

variable {d : Document} {c : Context} {x y : Value} {stack arguments : List Value}

/-- No node is a declaration. -/
def Avoids (d : Document) (nodes : List Nat) : Prop := ∀ n ∈ nodes, d.isDeclaration n = false

/-- The nodes of a value, if it is a node-set, are no declarations. -/
def Value.Avoids (d : Document) (v : Value) : Prop :=
  ∀ nodes, v = .nodeSet nodes → XPath.Avoids d nodes

/-- **Programs never come to a declaration**, as no axis leads to one. -/
theorem closed_avoids (hd : d.Apart) : Closed d (Avoids d) where
  root n hn := by
    rw [List.mem_singleton.1 hn]
    exact hd.root
  step hnodes hfound n hn := by
    obtain ⟨base, hbase, hcandidate⟩ := hfound n (mem_inDocumentOrder.1 hn)
    exact hd.nodes base (hnodes base hbase) _ n (List.mem_filter.1 hcandidate).1
  sublist hnodes hkept n hn := hnodes n (hkept.subset hn)
  union hleft hright n hn :=
    (List.mem_append.1 (mem_inDocumentOrder.1 hn)).elim (hleft n) (hright n)

/-! ## Values -/

theorem toText_masked (hd : d.Apart) (hx : x.Avoids d) : x.toText d.masked = x.toText d := by
  cases x with
  | nodeSet nodes =>
    cases nodes with
    | nil => rfl
    | cons n rest => exact hd.stringValue_masked (hx _ rfl n List.mem_cons_self)
  | _ => rfl

theorem toNumber_masked (hd : d.Apart) (hx : x.Avoids d) : x.toNumber d.masked = x.toNumber d := by
  cases x with
  | nodeSet nodes =>
    cases nodes with
    | nil => rfl
    | cons n rest =>
      exact congrArg Value.numberOf (hd.stringValue_masked (hx _ rfl n List.mem_cons_self))
  | _ => rfl

/-- A comparison of two values that are no node-sets does not look at the document. -/
theorem compareAtomic_masked (hd : d.Apart) (op : BinaryOp) (hx : x.Avoids d) (hy : y.Avoids d) :
    compareAtomic d.masked op x y = compareAtomic d op x y := by
  simp only [compareAtomic, atomicEq, toText_masked hd hx, toText_masked hd hy,
    toNumber_masked hd hx, toNumber_masked hd hy]

theorem any_congr {nodes : List Nat} {p q : Nat → Bool} (h : ∀ n ∈ nodes, p n = q n) :
    nodes.any p = nodes.any q := by
  rw [Bool.eq_iff_iff, List.any_eq_true, List.any_eq_true]
  exact exists_congr fun n => and_congr_right fun hn => by rw [h n hn]

theorem avoids_of_type_ne (h : x.type ≠ .nodeSet) : x.Avoids d := by
  rintro nodes rfl
  exact absurd rfl h

theorem nodeText_masked (hd : d.Apart) {n : Nat} (hn : d.isDeclaration n = false) :
    nodeText d.masked n = nodeText d n :=
  congrArg Value.string (hd.stringValue_masked hn)

theorem compare_masked (hd : d.Apart) (op : BinaryOp) (hx : x.Avoids d) (hy : y.Avoids d) :
    compare d.masked op x y = compare d op x y := by
  have htext : ∀ n, (nodeText d n).Avoids d := fun n => avoids_of_type_ne nofun
  have hleft : ∀ nodes, x = .nodeSet nodes → ∀ v : Value, v.Avoids d →
      (nodes.any fun n => compareAtomic d.masked op (nodeText d.masked n) v) =
        nodes.any fun n => compareAtomic d op (nodeText d n) v :=
    fun nodes hnodes v hv => any_congr fun n hn => by
      rw [nodeText_masked hd (hx nodes hnodes n hn), compareAtomic_masked hd op (htext n) hv]
  have hright : ∀ nodes, y = .nodeSet nodes → ∀ v : Value, v.Avoids d →
      (nodes.any fun n => compareAtomic d.masked op v (nodeText d.masked n)) =
        nodes.any fun n => compareAtomic d op v (nodeText d n) :=
    fun nodes hnodes v hv => any_congr fun n hn => by
      rw [nodeText_masked hd (hy nodes hnodes n hn), compareAtomic_masked hd op hv (htext n)]
  unfold compare
  split
  · next l r =>
    simp only [List.any_map]
    refine any_congr fun n hn => ?_
    rw [nodeText_masked hd (hx l rfl n hn)]
    exact hright r rfl _ (htext n)
  · exact compareAtomic_masked hd op (avoids_of_type_ne nofun) hy
  · exact compareAtomic_masked hd op hx (avoids_of_type_ne nofun)
  · exact hleft _ rfl _ hy
  · exact hright _ rfl _ hx
  · exact compareAtomic_masked hd op hx hy

theorem applyBinary_masked (hd : d.Apart) (op : BinaryOp) (hx : x.Avoids d) (hy : y.Avoids d) :
    applyBinary d.masked op x y = applyBinary d op x y := by
  cases op <;>
    simp only [applyBinary, compare_masked hd _ hx hy, toNumber_masked hd hx, toNumber_masked hd hy]

/-! ## Functions -/

namespace Builtin

theorem ofFirst_masked {f : Builtin} {of of' : Nat → String} (hx : x.Avoids d)
    (h : ∀ n, d.isDeclaration n = false → of n = of' n) : f.ofFirst of x = f.ofFirst of' x := by
  cases x with
  | nodeSet nodes =>
    cases nodes with
    | nil => rfl
    | cons n rest =>
      exact congrArg (fun s => Except.ok (Value.string s)) (h n (hx _ rfl n List.mem_cons_self))
  | _ => rfl

theorem nodesOf_masked {f : Builtin} {of of' : List Nat → Value} (hx : x.Avoids d)
    (h : ∀ nodes, XPath.Avoids d nodes → of nodes = of' nodes) :
    (f.nodesOf x).map of = (f.nodesOf x).map of' := by
  cases x with
  | nodeSet nodes => exact congrArg Except.ok (h nodes (hx nodes rfl))
  | _ => rfl

/-- The value of a function on arguments is the same, unless it is a name as written. -/
theorem apply_masked (hd : d.Apart) {f : Builtin} (hf : f ≠ .name)
    (hc : d.isDeclaration c.node = false) (harguments : ∀ x ∈ arguments, x.Avoids d) :
    f.apply d.masked c arguments = f.apply d c arguments := by
  have htext : ∀ x ∈ arguments, x.toText d.masked = x.toText d :=
    fun x hx => toText_masked hd (harguments x hx)
  have hnumber : ∀ x ∈ arguments, x.toNumber d.masked = x.toNumber d :=
    fun x hx => toNumber_masked hd (harguments x hx)
  have hcontext := hd.stringValue_masked hc
  have hlocalName : ∀ x ∈ arguments, ∀ f : Builtin,
      f.ofFirst (localNameOf d.masked) x = f.ofFirst (localNameOf d) x :=
    fun x hx f => ofFirst_masked (harguments x hx) fun _ => Document.localNameOf_masked
  have hnamespaceUri : ∀ x ∈ arguments, ∀ f : Builtin,
      f.ofFirst (namespaceUriOf d.masked) x = f.ofFirst (namespaceUriOf d) x :=
    fun x hx f => ofFirst_masked (harguments x hx) fun n _ => Document.namespaceUriOf_masked d n
  have hsum : ∀ x ∈ arguments, ∀ f : Builtin,
      ((f.nodesOf x).map fun nodes => Value.number
        (Number.sum (nodes.map fun n => Value.numberOf (d.masked.stringValue n)))) =
      (f.nodesOf x).map fun nodes => Value.number
        (Number.sum (nodes.map fun n => Value.numberOf (d.stringValue n))) :=
    fun x hx f => nodesOf_masked (harguments x hx) fun nodes hnodes => by
      rw [List.map_congr_left fun n hn =>
        congrArg Value.numberOf (hd.stringValue_masked (hnodes n hn))]
  have hjoin := congrArg String.join (List.map_congr_left htext)
  unfold apply
  split
  -- Names as written, which are left out here, and what is the same in any document.
  all_goals try exact absurd rfl hf
  all_goals try with_reducible rfl
  -- The first argument is a node-set, or the arguments are all taken as texts.
  all_goals try exact hlocalName _ List.mem_cons_self _
  all_goals try exact hnamespaceUri _ List.mem_cons_self _
  all_goals try exact hsum _ List.mem_cons_self _
  all_goals try rw [hjoin]
  -- All others look at the texts and numbers of arguments and at the context node.
  all_goals
    simp only [List.mem_cons, List.not_mem_nil, or_false, forall_eq_or_imp, forall_eq]
      at htext hnumber
    simp only [htext, hnumber, hcontext, ofTexts, Document.localNameOf_masked hc,
      Document.namespaceUriOf_masked, hd.isInLanguage_masked]

end Builtin

/-! ## Programs -/

mutual

/-- An operation asks for a name as written, itself or in a program of its own. -/
def Op.callsName : Op → Bool
  | .step _ _ predicates => programsCallName predicates
  | .predicate program => opsCallName program
  | .and right => opsCallName right
  | .or right => opsCallName right
  | .call f _ => f == .name
  | .root | .context | .union | .number _ | .string _ | .binary _ | .negate => false

/-- One of some operations asks for a name as written. -/
def opsCallName : List Op → Bool
  | [] => false
  | op :: rest => op.callsName || opsCallName rest

/-- One of some programs asks for a name as written. -/
def programsCallName : List (List Op) → Bool
  | [] => false
  | program :: rest => opsCallName program || programsCallName rest

end

theorem filterFrom_congr {test test' : Context → Except EvalError Value} {size place : Nat}
    {nodes : List Nat}
    (h : ∀ node ∈ nodes, ∀ place, test ⟨node, place, size⟩ = test' ⟨node, place, size⟩) :
    filterFrom test size place nodes = filterFrom test' size place nodes := by
  induction nodes generalizing place with
  | nil => rfl
  | cons node rest ih =>
    rw [List.forall_mem_cons] at h
    rw [filterFrom, filterFrom, h.1 place, ih h.2]

theorem collect_congr {reach reach' : Nat → Except EvalError (List Nat)} {nodes : List Nat}
    (h : ∀ node ∈ nodes, reach node = reach' node) :
    collect reach nodes = collect reach' nodes := by
  induction nodes with
  | nil => rfl
  | cons node rest ih =>
    rw [List.forall_mem_cons] at h
    rw [collect, collect, h.1, ih h.2]

mutual

/-- **One operation** does not see what is masked. -/
theorem Op.run_masked (hd : d.Apart) (op : Op) (hname : op.callsName = false) {c : Context}
    {stack : List Value} (hc : d.isDeclaration c.node = false)
    (hstack : EachNodeSet (Avoids d) stack) :
    op.run d.masked c stack = op.run d c stack := by
  cases op with
  | root | context | number value | string value | union => rw [Op.run, Op.run]
  | step axis test predicates =>
    rw [Op.callsName] at hname
    rw [Op.run, Op.run]
    refine bind_congr_of_ok fun ⟨nodes, rest⟩ hpop => ?_
    obtain ⟨hnodes, -⟩ := hstack.popNodes hpop
    have hreach : ∀ node ∈ nodes,
        runPredicates d.masked predicates
          ((axis.nodes d.masked node).filter (test.holds d.masked axis)) =
        runPredicates d predicates ((axis.nodes d node).filter (test.holds d axis)) := by
      intro node hnode
      have havoids : ∀ n ∈ axis.nodes d node, d.isDeclaration n = false :=
        hd.nodes node (hnodes node hnode) axis
      rw [Document.nodes_masked, List.filter_congr fun n hn =>
        Document.holds_masked axis test (havoids n hn)]
      exact runPredicates_masked hd predicates hname fun n hn =>
        havoids n (List.mem_filter.1 hn).1
    dsimp only
    rw [collect_congr hreach]
  | predicate program =>
    rw [Op.callsName] at hname
    rw [Op.run, Op.run]
    refine bind_congr_of_ok fun ⟨nodes, rest⟩ hpop => ?_
    obtain ⟨hnodes, -⟩ := hstack.popNodes hpop
    dsimp only
    rw [filterNodes_masked hd program hname hnodes]
  | negate =>
    rw [Op.run, Op.run]
    refine bind_congr_of_ok fun ⟨v, rest⟩ hpop => ?_
    dsimp only
    rw [toNumber_masked hd (hstack.pop hpop).1]
  | and right =>
    rw [Op.callsName] at hname
    rw [Op.run, Op.run, runOps_masked hd right hname hc eachNodeSet_nil]
  | or right =>
    rw [Op.callsName] at hname
    rw [Op.run, Op.run, runOps_masked hd right hname hc eachNodeSet_nil]
  | binary op =>
    rw [Op.run, Op.run]
    refine bind_congr_of_ok fun ⟨y, rest⟩ hy => bind_congr_of_ok fun ⟨x, rest'⟩ hx => ?_
    obtain ⟨hyavoids, hrest⟩ := hstack.pop hy
    dsimp only
    rw [applyBinary_masked hd op (hrest.pop hx).1 hyavoids]
  | call f count =>
    have hf : f ≠ .name := by simpa [Op.callsName] using hname
    have harguments : ∀ x ∈ (stack.take count).reverse, x.Avoids d := by
      rintro x hx nodes rfl
      exact hstack nodes (List.mem_of_mem_take (List.mem_reverse.1 hx))
    rw [Op.run, Op.run, Builtin.apply_masked hd hf hc harguments]

/-- **A run** does not see what is masked. -/
theorem runOps_masked (hd : d.Apart) (program : List Op) (hname : opsCallName program = false)
    {c : Context} {stack : List Value} (hc : d.isDeclaration c.node = false)
    (hstack : EachNodeSet (Avoids d) stack) :
    runOps d.masked program c stack = runOps d program c stack := by
  cases program with
  | nil => rw [runOps, runOps]
  | cons op rest =>
    rw [opsCallName, Bool.or_eq_false_iff] at hname
    rw [runOps, runOps, Op.run_masked hd op hname.1 hc hstack]
    refine bind_congr_of_ok fun next hnext => runOps_masked hd rest hname.2 hc ?_
    exact (closed_avoids hd).run_op (fun n hn => List.mem_singleton.1 hn ▸ hc) hstack hnext

/-- A predicate does not see what is masked, at nodes that are no declarations. -/
theorem filterNodes_masked (hd : d.Apart) (program : List Op) (hname : opsCallName program = false)
    {nodes : List Nat} (hnodes : Avoids d nodes) :
    filterNodes (fun c => do return (← pop (← runOps d.masked program c [])).1) nodes =
      filterNodes (fun c => do return (← pop (← runOps d program c [])).1) nodes :=
  filterFrom_congr fun node hnode place => by
    rw [runOps_masked hd program hname (hnodes node hnode) eachNodeSet_nil]

theorem runPredicates_masked (hd : d.Apart) (predicates : List (List Op))
    (hname : programsCallName predicates = false) {nodes : List Nat} (hnodes : Avoids d nodes) :
    runPredicates d.masked predicates nodes = runPredicates d predicates nodes := by
  cases predicates with
  | nil => rw [runPredicates, runPredicates]
  | cons program rest =>
    rw [programsCallName, Bool.or_eq_false_iff] at hname
    rw [runPredicates, runPredicates, filterNodes_masked hd program hname.1 hnodes]
    refine bind_congr_of_ok fun kept hkept => runPredicates_masked hd rest hname.2 ?_
    exact (closed_avoids hd).sublist hnodes (filterFrom_sublist hkept)

end

/-- The value of a program is the same. -/
theorem value_masked (hd : d.Apart) {program : Program} (hname : opsCallName program = false)
    (hc : d.isDeclaration c.node = false) :
    Program.value d.masked program c = Program.value d program c := by
  rw [Program.value, Program.value, runOps_masked hd program hname hc eachNodeSet_nil]

/-! ## Documents -/

/-- Prefixes and what declarations say make no difference to programs on a document. -/
structure Invisible (d : Document) : Prop where
  /-- A document that differs in nothing else has the same values, at all nodes that are no
  declarations, unless a program asks for names as written. -/
  value : ∀ (bytes : List UInt8) (d' : Document), Document.parse bytes = .ok d' →
    d.masked = d'.masked → ∀ (program : Program) (c : Context), opsCallName program = false →
    d.isDeclaration c.node = false → Program.value d program c = Program.value d' program c
  /-- Programs that start at such a node never come to a declaration: it is in no node-set, and no
  program inside runs at it. -/
  visited : ∀ (program : Program) (c : Context), d.isDeclaration c.node = false →
    ∀ c' stack, Visits d program c c' stack → d.isDeclaration c'.node = false ∧
      ∀ nodes, .nodeSet nodes ∈ stack → ∀ n ∈ nodes, d.isDeclaration n = false

/-- **Prefixes and declarations of parsed documents are invisible.** -/
theorem invisible_of_parse {bytes : List UInt8} (h : Document.parse bytes = .ok d) :
    Invisible d where
  value bytes' d' h' hmasked program c hname hc := by
    have hc' : d'.isDeclaration c.node = false := by
      rw [← Document.isDeclaration_masked, ← hmasked, Document.isDeclaration_masked]
      exact hc
    rw [← value_masked (Document.apart_of_parse h) hname hc, hmasked,
      value_masked (Document.apart_of_parse h') hname hc']
  visited program c hc c' stack hvisits := by
    obtain ⟨hnode, hstack⟩ := (closed_avoids (Document.apart_of_parse h)).visits hvisits
      fun n hn => List.mem_singleton.1 hn ▸ hc
    exact ⟨hnode c'.node List.mem_cons_self, hstack⟩

/-- The text `<q:a xmlns:q="u">x</q:a>`, which is `sample` with another prefix. -/
def respelled : List Char :=
  ['<', 'q', ':', 'a', ' ', 'x', 'm', 'l', 'n', 's', ':', 'q', '=', '"', 'u', '"', '>', 'x',
    '<', '/', 'q', ':', 'a', '>']

/-- The element that the text is. -/
def respelledTree : Tree :=
  .element ⟨"q", "a", "u"⟩ [⟨⟨"xmlns", "q", Namespace.xmlnsUri⟩, "u", true⟩] [.leaf .text "x"]

theorem readAll_respelled :
    Markup.readAll respelled =
      ⟨[⟨0, .startTag "q:a" [⟨"xmlns:q", "u", 5⟩] false, 17⟩, ⟨17, .text "x", 18⟩,
        ⟨18, .endTag "q:a", 24⟩], .ok 24⟩ := by
  with_unfolding_all rfl

theorem parse_respelled :
    Document.parse (Utf8.encode respelled) = .ok (.ofTrees [respelledTree]) := by
  have hbytes : toUtf8 (Utf8.encode respelled) = some (Utf8.encode respelled) := rfl
  have hdecode : Utf8.decode (Utf8.encode respelled) = .ok respelled := rfl
  have htext : Document.parseText respelled = .ok (.ofTrees [respelledTree]) := by
    rw [Document.parseText, Document.ofText_eq, readAll_respelled]
    rfl
  rw [Document.parse, hbytes]
  dsimp only
  rw [hdecode]
  exact htext

/-- The element is found by its namespace under both prefixes. -/
theorem invisible_of_parse_respelled :
    Document.parse (Utf8.encode Document.sample) = .ok (.ofTrees [Document.sampleTree]) ∧
      Document.parse (Utf8.encode respelled) = .ok (.ofTrees [respelledTree]) ∧
      Program.value (.ofTrees [Document.sampleTree]) [.root, .step .child (.name "u" "a") []]
        ⟨0, 1, 1⟩ = .ok (.nodeSet [1]) ∧
      Program.value (.ofTrees [respelledTree]) [.root, .step .child (.name "u" "a") []]
        ⟨0, 1, 1⟩ = .ok (.nodeSet [1]) := by
  have hvalue : Program.value (.ofTrees [Document.sampleTree])
      [.root, .step .child (.name "u" "a") []] ⟨0, 1, 1⟩ = .ok (.nodeSet [1]) := by cbv
  have hmasked : (Document.ofTrees [Document.sampleTree]).masked =
      (Document.ofTrees [respelledTree]).masked := by
    simp only [Document.masked, Document.ofTrees, List.map_toArray]
    rfl
  refine ⟨Document.parse_sample, parse_respelled, hvalue, ?_⟩
  rw [← hvalue]
  exact ((invisible_of_parse Document.parse_sample).value _ _ parse_respelled hmasked _ _ rfl
    rfl).symm

end XmlQuery.XPath
