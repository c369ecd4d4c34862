import XmlQuery.Proofs.Document.WellFormed
import XmlQuery.XPath.Axis

/-!
# Axes

An axis is found by ranges of places and by the links between siblings, without a walk through the
tree. What it leads to can be said by the links to the parents and the order of the document alone,
and that it leads there depends on the nesting of the ranges: what is below a node is a range, so
two ranges are nested or apart, and the attributes in them are passed over.

## Main definitions

* `Document.IsProperlyBelow`: one node is below another and is not that node
* `Axis.LeadsTo`: what an axis leads to, by the links to the parents
* `ParentChain`: the way up from a node
* `AxesFrom`: the axes from a node are what they are defined to be
* `AxesCorrespond`: the axes divide a document among them and are converse to each other

## Main results

* `isProperlyBelow_iff`: what is below a node is a range behind it
* `mem_nodes_iff`: an axis leads where its definition says
* `sortedLT_nodes`, `sortedGT_nodes`: the order in which an axis leads there
* `axesFrom_of_parse`: **the axes of a parsed document are what they are defined to be**
* `axesCorrespond_of_parse`: **they divide the document and are converse to each other**
-/

namespace XmlQuery

namespace Document

open XmlQuery.Tree (ids)

variable {top ts : List Tree} {id parent : Nat} {previous : Option Nat} {t : Tree}

/-! ## Below and above -/

/-- A node is below another along the links to the parents, and is not that node. -/
def IsProperlyBelow (d : Document) : Nat → Nat → Prop :=
  Relation.TransGen fun a b => d.parent? b = some a

theorem lt_of_isProperlyBelow {n i : Nat} (h : (ofTrees top).IsProperlyBelow n i) : n < i := by
  induction h with
  | single hparent => exact (range_of_parent? hparent).1
  | tail _ hparent ih => exact ih.trans (range_of_parent? hparent).1

/-- What is below a node is the range of places from the one behind it up to its last one. -/
theorem isProperlyBelow_iff {n i : Nat} :
    (ofTrees top).IsProperlyBelow n i ↔ n < i ∧ i ≤ (ofTrees top).last n := by
  have hbelow : (ofTrees top).IsBelow n i ↔ n ≤ i ∧ i ≤ (ofTrees top).last n := isBelow_iff
  rw [IsBelow, Relation.reflTransGen_iff_eq_or_transGen] at hbelow
  constructor
  · intro h
    exact ⟨lt_of_isProperlyBelow h, (hbelow.1 (.inr h)).2⟩
  · rintro ⟨hlt, hle⟩
    rcases hbelow.2 ⟨hlt.le, hle⟩ with heq | h
    · omega
    · exact h

/-- The way up from a node: its parent, the parent of that, and so on up to the document. -/
inductive ParentChain (d : Document) : Nat → List Nat → Prop
  /-- The document is at the top. -/
  | document : ParentChain d 0 []
  /-- From a node the way goes to its parent. -/
  | up {i p : Nat} {above : List Nat} :
    d.parent? i = some p → ParentChain d p above → ParentChain d i (p :: above)

theorem parentChain_walk {i : Nat} (hi : i < (ofTrees top).size) :
    (ofTrees top).ParentChain i ((ofTrees top).walk (·.parent) i) := by
  induction i using Nat.strongRecOn with
  | ind i ih =>
    rcases Nat.eq_zero_or_pos i with rfl | hpos
    · rw [walk_parent_zero]
      exact .document
    · obtain ⟨p, hparent, hp⟩ := exists_parent?_lt hpos hi
      rw [walk_parent_eq hparent]
      exact .up hparent (ih p hp (hp.trans hi))

/-- On the way up are the nodes that a node is below. -/
theorem ParentChain.mem_iff {i : Nat} {above : List Nat} (h : (ofTrees top).ParentChain i above)
    {a : Nat} : a ∈ above ↔ (ofTrees top).IsProperlyBelow a i := by
  induction h with
  | document =>
    rw [isProperlyBelow_iff]
    simp
  | @up i p above hparent _ ih =>
    -- There is one link up, so what is above the node is its parent or above the parent.
    rw [List.mem_cons, ih, eq_comm, IsProperlyBelow, ← Relation.reflTransGen_iff_eq_or_transGen,
      Relation.TransGen.tail'_iff]
    constructor
    · intro hp
      exact ⟨p, hp, hparent⟩
    · rintro ⟨q, hq, hlink⟩
      cases hparent.symm.trans hlink
      exact hq

theorem ParentChain.sortedGT {i : Nat} {above : List Nat} (h : (ofTrees top).ParentChain i above) :
    (i :: above).SortedGT := by
  rw [List.sortedGT_iff_pairwise]
  induction h with
  | document => exact List.pairwise_singleton ..
  | @up i p above hparent hchain ih =>
    refine List.pairwise_cons.2 ⟨fun a ha => ?_, ih⟩
    have hbelow := (ParentChain.up hparent hchain).mem_iff.1 ha
    exact (isProperlyBelow_iff.1 hbelow).1

/-! ## Siblings -/

/-- Among the children of its parent a tree has the way back in front of it and the way on behind
it. -/
theorem LaidOut.exists_siblings (h : LaidOut top id parent previous (t :: ts)) :
    ∃ earlier, (ofTrees top).children parent =
        earlier ++ id :: (ofTrees top).walk (·.next) id ∧
      (ofTrees top).walk (·.previous) id = earlier.reverse := by
  obtain ⟨earlier, hchildren, hback⟩ := h.exists_children_eq
  have hnext : (ofTrees top).walk (·.next) id = ids (id + t.size) ts := by
    rw [walk, h.node?_eq]
    exact h.rest.follow_next h.rest.length_le_size
  refine ⟨earlier, by rw [hchildren, hnext, ids], ?_⟩
  -- There are no more children than nodes, so the way back is not cut short.
  have hlength : ((ofTrees top).children parent).length ≤ (ofTrees top).size := by
    rw [children_eq_filter]
    exact (List.length_filter_le _ _).trans_eq List.length_range
  rw [walk, h.node?_eq]
  apply hback
  rw [hchildren, List.length_append] at hlength
  omega

theorem walk_eq_nil_of_bind_eq_none {d : Document} {link : Node → Option Nat} {i : Nat}
    (h : (d.node? i).bind link = none) : d.walk link i = [] := by
  rw [walk, h, follow_none]

end Document

namespace XPath

open Document

variable {top : List Tree} {x y : Nat}

/-! ## What axes lead to -/

/-- A node leads to what has the same parent. -/
def HasSibling (d : Document) (x y : Nat) : Prop :=
  isTreeNode d x = true ∧ isTreeNode d y = true ∧ ∃ p, d.parent? x = some p ∧ d.parent? y = some p

/-- What an axis leads to from a node, by the links to the parents and the order of the document. -/
def Axis.LeadsTo (d : Document) (x y : Nat) : Axis → Prop
  | .child => isTreeNode d y = true ∧ d.parent? y = some x
  | .descendant => isTreeNode d y = true ∧ d.IsProperlyBelow x y
  | .descendantOrSelf => y = x ∨ isTreeNode d y = true ∧ d.IsProperlyBelow x y
  | .parent => d.parent? x = some y
  | .ancestor => d.IsProperlyBelow y x
  | .ancestorOrSelf => y = x ∨ d.IsProperlyBelow y x
  | .followingSibling => HasSibling d x y ∧ x < y
  | .precedingSibling => HasSibling d x y ∧ y < x
  | .following => isTreeNode d y = true ∧ x < y ∧ ¬ d.IsProperlyBelow x y
  | .preceding => isTreeNode d y = true ∧ y < x ∧ ¬ d.IsProperlyBelow y x
  | .self => y = x
  | .attribute => d.kind? x = some .element ∧ d.kind? y = some .attribute ∧
      d.parent? y = some x ∧ d.isDeclaration y = false
  | .namespaces => False

/-- An axis leads to nodes in front of a node, or around it. -/
def Axis.isReverse : Axis → Bool
  | .parent | .ancestor | .ancestorOrSelf | .preceding | .precedingSibling => true
  | _ => false

theorem isTreeNode_iff {d : Document} :
    isTreeNode d y = true ↔ y < d.size ∧ d.kind? y ≠ some .attribute := by
  rw [isTreeNode, kind?]
  cases hnode : d.node? y with
  | none =>
    have hsize : d.size ≤ y := Array.getElem?_eq_none_iff.1 hnode
    simp [hsize]
  | some n =>
    have hsize : y < d.size := (Array.getElem?_eq_some_iff.1 hnode).1
    simp [hsize]

theorem mem_children_iff_isTreeNode {p : Nat} :
    y ∈ (ofTrees top).children p ↔
      isTreeNode (ofTrees top) y = true ∧ (ofTrees top).parent? y = some p := by
  rw [mem_children_iff, isTreeNode_iff]
  constructor
  · rintro ⟨hparent, hkind⟩
    exact ⟨⟨lt_size_of_bind_eq_some hparent, hkind⟩, hparent⟩
  · rintro ⟨⟨-, hkind⟩, hparent⟩
    exact ⟨hparent, hkind⟩

/-! ## Siblings -/

/-- A node that is no attribute and has a parent stands among the children of the parent, between
the ways back and on; any other node has no siblings. -/
theorem siblings_cases (hx : x < (ofTrees top).size) :
    (∃ p earlier, isTreeNode (ofTrees top) x = true ∧ (ofTrees top).parent? x = some p ∧
      (ofTrees top).children p = earlier ++ x :: (ofTrees top).walk (·.next) x ∧
      (ofTrees top).walk (·.previous) x = earlier.reverse) ∨
    ((ofTrees top).walk (·.next) x = [] ∧ (ofTrees top).walk (·.previous) x = [] ∧
      ∀ y, ¬ HasSibling (ofTrees top) x y) := by
  cases occupied_of_lt hx with
  | document =>
    refine .inr ⟨?_, ?_, ?_⟩
    · exact walk_eq_nil_of_bind_eq_none (by rw [node?_zero]; rfl)
    · exact walk_eq_nil_of_bind_eq_none (by rw [node?_zero]; rfl)
    · rintro y ⟨-, -, p, hparent, -⟩
      rw [parent?_zero] at hparent
      cases hparent
  | @tree _ parent _ _ _ ht =>
    obtain ⟨earlier, hchildren, hback⟩ := ht.exists_siblings
    have hmem := mem_children_iff_isTreeNode.1 ht.mem_children
    exact .inl ⟨parent, earlier, hmem.1, hmem.2, hchildren, hback⟩
  | attributeOf ht ha =>
    refine .inr ⟨?_, ?_, ?_⟩
    · exact walk_eq_nil_of_bind_eq_none (by rw [ht.node?_attribute ha]; rfl)
    · exact walk_eq_nil_of_bind_eq_none (by rw [ht.node?_attribute ha]; rfl)
    · rintro y ⟨hnode, -, -⟩
      exact (isTreeNode_iff.1 hnode).2 (kind?_attribute ht ha)

/-- In a list in order what is behind an element is greater, and what is in front of it is less. -/
theorem mem_split_iff {before after : List Nat} (h : (before ++ x :: after).SortedLT) :
    (y ∈ after ↔ y ∈ before ++ x :: after ∧ x < y) ∧
      (y ∈ before ↔ y ∈ before ++ x :: after ∧ y < x) := by
  rw [List.sortedLT_iff_pairwise, List.pairwise_append, List.pairwise_cons] at h
  obtain ⟨-, ⟨hafter, -⟩, hbefore⟩ := h
  have hless : ∀ z ∈ before, z < x := fun z hz => hbefore z hz x List.mem_cons_self
  constructor
  · constructor
    · intro hy
      exact ⟨List.mem_append_right _ (List.mem_cons_of_mem _ hy), hafter y hy⟩
    · rintro ⟨hy, hlt⟩
      rcases List.mem_append.1 hy with hy | hy
      · exact absurd (hless y hy) hlt.asymm
      · exact (List.mem_cons.1 hy).resolve_left hlt.ne'
  · constructor
    · intro hy
      exact ⟨List.mem_append_left _ hy, hless y hy⟩
    · rintro ⟨hy, hlt⟩
      rcases List.mem_append.1 hy with hy | hy
      · exact hy
      · rcases List.mem_cons.1 hy with rfl | hy
        · exact absurd hlt (lt_irrefl y)
        · exact absurd (hafter y hy) hlt.asymm

/-- The ways on and back from a node lead to its siblings behind it and in front of it. -/
theorem mem_walk_siblings_iff (hx : x < (ofTrees top).size) :
    (y ∈ (ofTrees top).walk (·.next) x ↔ HasSibling (ofTrees top) x y ∧ x < y) ∧
      (y ∈ (ofTrees top).walk (·.previous) x ↔ HasSibling (ofTrees top) x y ∧ y < x) := by
  rcases siblings_cases hx with
    ⟨p, earlier, hnode, hparent, hchildren, hback⟩ | ⟨hnext, hback, hnone⟩
  · have hsorted := hchildren ▸ sortedLT_children top p
    have hsibling : HasSibling (ofTrees top) x y ↔ y ∈ (ofTrees top).children p := by
      rw [mem_children_iff_isTreeNode, HasSibling, hparent]
      simp [hnode]
    obtain ⟨hafter, hbefore⟩ := mem_split_iff (y := y) hsorted
    rw [hsibling, hchildren, hback, List.mem_reverse]
    exact ⟨hafter, hbefore⟩
  · rw [hnext, hback]
    simp [hnone y]

theorem sorted_walk_siblings (hx : x < (ofTrees top).size) :
    ((ofTrees top).walk (·.next) x).SortedLT ∧ ((ofTrees top).walk (·.previous) x).SortedGT := by
  rcases siblings_cases hx with ⟨p, earlier, -, -, hchildren, hback⟩ | ⟨hnext, hback, -⟩
  · have hsorted := hchildren ▸ sortedLT_children top p
    rw [List.sortedLT_iff_pairwise, List.pairwise_append, List.pairwise_cons] at hsorted
    obtain ⟨hbefore, ⟨-, hafter⟩, -⟩ := hsorted
    rw [hback]
    exact ⟨hafter.sortedLT, (List.pairwise_reverse.2 hbefore).sortedGT⟩
  · rw [hnext, hback]
    exact ⟨List.Pairwise.nil.sortedLT, List.Pairwise.nil.sortedGT⟩

/-! ## The axes -/

theorem mem_descendants_iff :
    y ∈ descendants (ofTrees top) x ↔
      isTreeNode (ofTrees top) y = true ∧ (ofTrees top).IsProperlyBelow x y := by
  have hlast := le_last top x
  rw [descendants, below, List.mem_filter, List.mem_range'_1, isProperlyBelow_iff]
  constructor
  · rintro ⟨hrange, hnode⟩
    exact ⟨hnode, by omega, by omega⟩
  · rintro ⟨hnode, hlt, hle⟩
    exact ⟨by omega, hnode⟩

theorem mem_ancestors_iff (hx : x < (ofTrees top).size) :
    y ∈ ancestors (ofTrees top) x ↔ (ofTrees top).IsProperlyBelow y x :=
  (parentChain_walk hx).mem_iff

/-- What is behind the end of a node is behind the node and not below it. -/
theorem mem_followingNodes_iff :
    y ∈ followingNodes (ofTrees top) x ↔
      isTreeNode (ofTrees top) y = true ∧ x < y ∧ ¬ (ofTrees top).IsProperlyBelow x y := by
  have hlast := le_last top x
  rw [followingNodes, List.mem_filter, List.mem_range'_1, isProperlyBelow_iff]
  constructor
  · rintro ⟨hrange, hnode⟩
    exact ⟨hnode, by omega, by omega⟩
  · rintro ⟨hnode, hlt, hnot⟩
    have hsize := (isTreeNode_iff.1 hnode).1
    exact ⟨by omega, hnode⟩

/-- What has ended in front of a node is in front of the node and does not hold it. -/
theorem mem_precedingNodes_iff (hx : x < (ofTrees top).size) :
    y ∈ precedingNodes (ofTrees top) x ↔
      isTreeNode (ofTrees top) y = true ∧ y < x ∧ ¬ (ofTrees top).IsProperlyBelow y x := by
  rw [precedingNodes, List.mem_filter, List.mem_reverse, List.mem_range, isProperlyBelow_iff,
    Bool.and_eq_true, decide_eq_true_iff]
  constructor
  · rintro ⟨hrange, hnode, hlt⟩
    exact ⟨hnode, by omega, by omega⟩
  · rintro ⟨hnode, hlt, hnot⟩
    exact ⟨by omega, hnode, by omega⟩

theorem mem_attributeNodes_iff :
    y ∈ ((ofTrees top).attributes x).filter (!(ofTrees top).isDeclaration ·) ↔
      Axis.attribute.LeadsTo (ofTrees top) x y := by
  rw [List.mem_filter, Bool.not_eq_true', Axis.LeadsTo]
  constructor
  · rintro ⟨hmem, hdeclaration⟩
    obtain ⟨hkind, hparent⟩ := mem_attributes_iff.1 hmem
    exact ⟨kind?_of_mem_attributes hmem, hkind, hparent, hdeclaration⟩
  · rintro ⟨-, hkind, hparent, hdeclaration⟩
    exact ⟨mem_attributes_iff.2 ⟨hkind, hparent⟩, hdeclaration⟩

/-- **An axis leads where its definition says**, from every node of a document. -/
theorem mem_nodes_iff (hx : x < (ofTrees top).size) (axis : Axis) :
    y ∈ axis.nodes (ofTrees top) x ↔ axis.LeadsTo (ofTrees top) x y := by
  cases axis with
  | child => exact mem_children_iff_isTreeNode
  | descendant => exact mem_descendants_iff
  | descendantOrSelf => exact List.mem_cons.trans (or_congr_right mem_descendants_iff)
  | parent => exact Option.mem_toList
  | ancestor => exact mem_ancestors_iff hx
  | ancestorOrSelf => exact List.mem_cons.trans (or_congr_right (mem_ancestors_iff hx))
  | followingSibling => exact (mem_walk_siblings_iff hx).1
  | precedingSibling => exact (mem_walk_siblings_iff hx).2
  | following => exact mem_followingNodes_iff
  | preceding => exact mem_precedingNodes_iff hx
  | self => exact List.mem_singleton
  | «attribute» => exact mem_attributeNodes_iff
  | namespaces => exact iff_of_false List.not_mem_nil id

theorem sortedLT_filter_range' (start count : Nat) (p : Nat → Bool) :
    ((List.range' start count).filter p).SortedLT :=
  ((List.sortedLT_range' start count Nat.one_ne_zero).pairwise.filter p).sortedLT

/-- A forward axis leads to nodes in document order. -/
theorem sortedLT_nodes (hx : x < (ofTrees top).size) {axis : Axis} (h : axis.isReverse = false) :
    (axis.nodes (ofTrees top) x).SortedLT := by
  cases axis with
  | child => exact sortedLT_children top x
  | descendant => exact sortedLT_filter_range' ..
  | descendantOrSelf =>
    refine (List.pairwise_cons.2 ⟨fun y hy => ?_, (sortedLT_filter_range' ..).pairwise⟩).sortedLT
    exact lt_of_isProperlyBelow (mem_descendants_iff.1 hy).2
  | followingSibling => exact (sorted_walk_siblings hx).1
  | following => exact sortedLT_filter_range' ..
  | self => exact (List.pairwise_singleton ..).sortedLT
  | «attribute» =>
    rw [Axis.nodes, Document.attributes]
    -- Attributes of an element are a range, and other nodes have none.
    split
    · split
      · exact sortedLT_filter_range' ..
      · exact List.Pairwise.nil.sortedLT
    · exact List.Pairwise.nil.sortedLT
  | namespaces => exact List.Pairwise.nil.sortedLT
  | parent | ancestor | ancestorOrSelf | preceding | precedingSibling => cases h

/-- A reverse axis leads to nodes against document order. -/
theorem sortedGT_nodes (hx : x < (ofTrees top).size) {axis : Axis} (h : axis.isReverse = true) :
    (axis.nodes (ofTrees top) x).SortedGT := by
  have hchain := (parentChain_walk hx).sortedGT
  cases axis with
  | parent =>
    rw [Axis.nodes]
    cases (ofTrees top).parent? x with
    | none => exact List.Pairwise.nil.sortedGT
    | some p => exact (List.pairwise_singleton ..).sortedGT
  | ancestor => exact (List.pairwise_cons.1 hchain.pairwise).2.sortedGT
  | ancestorOrSelf => exact hchain
  | preceding =>
    refine List.Pairwise.sortedGT (List.Pairwise.filter _ (List.pairwise_reverse.2 ?_))
    exact List.pairwise_lt_range
  | precedingSibling => exact (sorted_walk_siblings hx).2
  | child | descendant | descendantOrSelf | followingSibling | following | self | «attribute»
  | namespaces => cases h

/-- The axes from a node are what they are defined to be. -/
structure AxesFrom (d : Document) (x : Nat) : Prop where
  /-- An axis leads where its definition says. -/
  mem_nodes_iff : ∀ (axis : Axis) (y : Nat), y ∈ axis.nodes d x ↔ axis.LeadsTo d x y
  /-- A forward axis leads there in document order, and nowhere twice. -/
  forward : ∀ axis : Axis, axis.isReverse = false → (axis.nodes d x).SortedLT
  /-- A reverse axis leads there against document order, and nowhere twice. -/
  reverse : ∀ axis : Axis, axis.isReverse = true → (axis.nodes d x).SortedGT
  /-- The nodes around a node are on the way up to the document, the nearest first. -/
  ancestor : d.ParentChain x (Axis.ancestor.nodes d x)
  /-- With the node itself it comes in front of what is below it. -/
  descendantOrSelf : Axis.descendantOrSelf.nodes d x = x :: Axis.descendant.nodes d x
  /-- With the node itself it comes in front of what is around it. -/
  ancestorOrSelf : Axis.ancestorOrSelf.nodes d x = x :: Axis.ancestor.nodes d x

theorem exists_ofTrees_of_parse {bytes : List UInt8} {d : Document} (h : parse bytes = .ok d) :
    ∃ top, d = ofTrees top := by
  obtain ⟨text, htext⟩ := exists_text_of_parse h
  obtain ⟨top, -, rfl⟩ := exists_trees_of_parseText htext
  exact ⟨top, rfl⟩

/-- **The axes of a parsed document are what they are defined to be**, from each of its nodes. -/
theorem axesFrom_of_parse {bytes : List UInt8} {d : Document} (h : parse bytes = .ok d) {x : Nat}
    (hx : x < d.size) : AxesFrom d x := by
  obtain ⟨top, rfl⟩ := exists_ofTrees_of_parse h
  exact ⟨fun axis _ => mem_nodes_iff hx axis, fun _ haxis => sortedLT_nodes hx haxis,
    fun _ haxis => sortedGT_nodes hx haxis, parentChain_walk hx, rfl, rfl⟩

/-- From the attribute of an element what follows is the text in the element. -/
theorem axesFrom_of_parse_attribute :
    parse (Utf8.encode sample) = .ok (ofTrees [sampleTree]) ∧ 2 < (ofTrees [sampleTree]).size ∧
      AxesFrom (ofTrees [sampleTree]) 2 ∧ Axis.following.nodes (ofTrees [sampleTree]) 2 = [3] :=
  ⟨parse_sample, by decide, axesFrom_of_parse parse_sample (by decide), by decide⟩

/-! ## All axes together -/

/-- A node that holds another one is no attribute. -/
theorem isTreeNode_of_isProperlyBelow (h : (ofTrees top).IsProperlyBelow y x) :
    isTreeNode (ofTrees top) y = true := by
  have hrange := isProperlyBelow_iff.1 h
  have hsize : y < (ofTrees top).size := by
    rcases Nat.lt_or_ge y (ofTrees top).size with hlt | hge
    · exact hlt
    · -- Nothing is below what is not in the table.
      rw [last, node?, Array.getElem?_eq_none hge] at hrange
      simp only [Option.map_none, Option.getD_none] at hrange
      omega
  refine isTreeNode_iff.2 ⟨hsize, ?_⟩
  cases occupied_of_lt hsize with
  | document =>
    rw [kind?_document_iff.2 rfl]
    intro hkind
    cases hkind
  | @tree _ _ _ t _ ht =>
    rw [ht.kind?_eq]
    exact fun hkind => kind_ne_attribute t (Option.some.inj hkind)
  | attributeOf ht ha =>
    -- The range of an attribute is the attribute alone.
    rw [ht.last_attribute ha] at hrange
    omega

theorem nodup_nodes (hx : x < (ofTrees top).size) (axis : Axis) :
    (axis.nodes (ofTrees top) x).Nodup := by
  cases haxis : axis.isReverse with
  | false => exact (sortedLT_nodes hx haxis).nodup
  | true => exact (sortedGT_nodes hx haxis).nodup

/-- Axes that lead to no common node lead to no node twice. -/
theorem nodup_flatMap_nodes (hx : x < (ofTrees top).size) {axes : List Axis}
    (h : axes.Pairwise fun a b =>
      ∀ y, a.LeadsTo (ofTrees top) x y → ¬ b.LeadsTo (ofTrees top) x y) :
    (axes.flatMap (·.nodes (ofTrees top) x)).Nodup := by
  rw [List.nodup_flatMap]
  refine ⟨fun axis _ => nodup_nodes hx axis, h.imp fun {a b} hapart => ?_⟩
  intro y ha hb
  exact hapart y ((mem_nodes_iff hx a).1 ha) ((mem_nodes_iff hx b).1 hb)

/-- Axes that lead to no common node, and together to every node that is no attribute, divide these
nodes among them. -/
theorem perm_flatMap_nodes (hx : x < (ofTrees top).size) {axes : List Axis}
    (hapart : axes.Pairwise fun a b =>
      ∀ y, a.LeadsTo (ofTrees top) x y → ¬ b.LeadsTo (ofTrees top) x y)
    (hall : ∀ y, (∃ axis ∈ axes, axis.LeadsTo (ofTrees top) x y) ↔
      isTreeNode (ofTrees top) y = true) :
    (axes.flatMap (·.nodes (ofTrees top) x)).Perm
      ((List.range (ofTrees top).size).filter (isTreeNode (ofTrees top))) := by
  rw [List.perm_ext_iff_of_nodup (nodup_flatMap_nodes hx hapart) (List.nodup_range.filter _)]
  intro y
  simp only [List.mem_flatMap, mem_nodes_iff hx, List.mem_filter, List.mem_range, hall]
  constructor
  · intro hy
    exact ⟨(isTreeNode_iff.1 hy).1, hy⟩
  · exact And.right

/-- The axes divide a document among them and are converse to each other. -/
structure AxesCorrespond (d : Document) : Prop where
  /-- From a node that is no attribute, five axes lead to each node that is none, once. -/
  tree : ∀ x, isTreeNode d x = true →
    ([Axis.self, .ancestor, .descendant, .following, .preceding].flatMap (·.nodes d x)).Perm
      ((List.range d.size).filter (isTreeNode d))
  /-- From an attribute three of them do. -/
  «attribute» : ∀ x, d.kind? x = some .attribute →
    ([Axis.ancestor, .following, .preceding].flatMap (·.nodes d x)).Perm
      ((List.range d.size).filter (isTreeNode d))
  /-- What is below a node has the node above it. -/
  descendant : ∀ x y, isTreeNode d x = true → isTreeNode d y = true →
    (y ∈ Axis.descendant.nodes d x ↔ x ∈ Axis.ancestor.nodes d y)
  /-- What follows a node has the node in front of it. -/
  following : ∀ x y, isTreeNode d x = true → isTreeNode d y = true →
    (y ∈ Axis.following.nodes d x ↔ x ∈ Axis.preceding.nodes d y)
  /-- A sibling behind a node has the node in front of it. -/
  followingSibling : ∀ x y, isTreeNode d x = true → isTreeNode d y = true →
    (y ∈ Axis.followingSibling.nodes d x ↔ x ∈ Axis.precedingSibling.nodes d y)
  /-- A child of a node has the node as its only parent. -/
  child : ∀ x y, isTreeNode d x = true → isTreeNode d y = true →
    (y ∈ Axis.child.nodes d x ↔ Axis.parent.nodes d y = [x])

/-- Two nodes are one node or in some order, and the one in front may hold the other: no two of
these axes lead to one node. -/
theorem pairwise_axes_apart (top : List Tree) (x : Nat) :
    [Axis.self, .ancestor, .descendant, .following, .preceding].Pairwise fun a b =>
      ∀ y, a.LeadsTo (ofTrees top) x y → ¬ b.LeadsTo (ofTrees top) x y := by
  simp only [List.pairwise_cons, List.forall_mem_cons, List.not_mem_nil, false_imp_iff,
    implies_true, List.Pairwise.nil, and_true, Axis.LeadsTo, isProperlyBelow_iff]
  and_intros <;> intro y <;> omega

/-- A node that is no attribute, what holds it, what is below it and what is behind and in front of
it are all nodes that are no attributes. -/
theorem perm_tree_axes (hx : isTreeNode (ofTrees top) x = true) :
    ([Axis.self, .ancestor, .descendant, .following, .preceding].flatMap
        (·.nodes (ofTrees top) x)).Perm
      ((List.range (ofTrees top).size).filter (isTreeNode (ofTrees top))) := by
  refine perm_flatMap_nodes (isTreeNode_iff.1 hx).1 (pairwise_axes_apart top x) fun y => ?_
  simp only [List.exists_mem_cons_iff, List.not_mem_nil, false_and, exists_false, or_false,
    Axis.LeadsTo]
  constructor
  · rintro (rfl | habove | hbelow | hbehind | hfront)
    · exact hx
    · exact isTreeNode_of_isProperlyBelow habove
    · exact hbelow.1
    · exact hbehind.1
    · exact hfront.1
  · intro hy
    rcases Nat.lt_trichotomy x y with hlt | rfl | hlt
    · by_cases hbelow : (ofTrees top).IsProperlyBelow x y
      · exact .inr (.inr (.inl ⟨hy, hbelow⟩))
      · exact .inr (.inr (.inr (.inl ⟨hy, hlt, hbelow⟩)))
    · exact .inl rfl
    · by_cases habove : (ofTrees top).IsProperlyBelow y x
      · exact .inr (.inl habove)
      · exact .inr (.inr (.inr (.inr ⟨hy, hlt, habove⟩)))

/-- What holds an attribute and what is behind and in front of it are all nodes that are no
attributes. -/
theorem perm_attribute_axes (hx : (ofTrees top).kind? x = some .attribute) :
    ([Axis.ancestor, .following, .preceding].flatMap (·.nodes (ofTrees top) x)).Perm
      ((List.range (ofTrees top).size).filter (isTreeNode (ofTrees top))) := by
  have hnode : ¬ isTreeNode (ofTrees top) x = true := fun h => (isTreeNode_iff.1 h).2 hx
  obtain ⟨n, hn, -⟩ := Option.map_eq_some_iff.1 hx
  have hsub : [Axis.ancestor, .following, .preceding].Sublist
      [.self, .ancestor, .descendant, .following, .preceding] := by decide
  refine perm_flatMap_nodes (Array.getElem?_eq_some_iff.1 hn).1
    ((pairwise_axes_apart top x).sublist hsub) fun y => ?_
  simp only [List.exists_mem_cons_iff, List.not_mem_nil, false_and, exists_false, or_false,
    Axis.LeadsTo]
  constructor
  · rintro (habove | hbehind | hfront)
    · exact isTreeNode_of_isProperlyBelow habove
    · exact hbehind.1
    · exact hfront.1
  · intro hy
    rcases Nat.lt_trichotomy x y with hlt | rfl | hlt
    · -- Nothing is below an attribute.
      exact .inr (.inl ⟨hy, hlt, fun h => hnode (isTreeNode_of_isProperlyBelow h)⟩)
    · exact absurd hy hnode
    · by_cases habove : (ofTrees top).IsProperlyBelow y x
      · exact .inl habove
      · exact .inr (.inr ⟨hy, hlt, habove⟩)

/-- **The axes divide a parsed document among them and are converse to each other.** -/
theorem axesCorrespond_of_parse {bytes : List UInt8} {d : Document} (h : parse bytes = .ok d) :
    AxesCorrespond d := by
  obtain ⟨top, rfl⟩ := exists_ofTrees_of_parse h
  have hsize : ∀ {x}, isTreeNode (ofTrees top) x = true → x < (ofTrees top).size :=
    fun hx => (isTreeNode_iff.1 hx).1
  constructor
  case tree => exact fun x hx => perm_tree_axes hx
  case «attribute» => exact fun x hx => perm_attribute_axes hx
  all_goals intro x y hx hy
  case descendant =>
    rw [mem_nodes_iff (hsize hx), mem_nodes_iff (hsize hy)]
    exact and_iff_right hy
  case following =>
    rw [mem_nodes_iff (hsize hx), mem_nodes_iff (hsize hy)]
    simp only [Axis.LeadsTo, hx, hy, true_and]
  case followingSibling =>
    rw [mem_nodes_iff (hsize hx), mem_nodes_iff (hsize hy)]
    simp only [Axis.LeadsTo, HasSibling, hx, hy, true_and]
    simp only [and_comm]
  case child =>
    rw [mem_nodes_iff (hsize hx), Axis.nodes, Option.toList_eq_singleton_iff]
    exact and_iff_right hy

/-- The sample holds an element with an attribute and text. -/
theorem axesCorrespond_of_parse_sample :
    parse (Utf8.encode sample) = .ok (ofTrees [sampleTree]) ∧
      AxesCorrespond (ofTrees [sampleTree]) :=
  ⟨parse_sample, axesCorrespond_of_parse parse_sample⟩

end XPath

end XmlQuery
