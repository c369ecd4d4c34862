import Mathlib.Data.List.Sort
import Mathlib.Logic.Relation
import XmlQuery.Document.Layout

/-!
# Places in the table of a document

Every place of the table of a document belongs to the document node, to a tree or to an attribute
of a tree. Trees are found where the contents of their parent are laid out, so what is known of a
node follows from the rest of its siblings and from nothing else: `LaidOut` says where such a rest
starts, and the induction on it goes from the top of the document down.

## Main definitions

* `Tree.node`: the node of a tree, as the first one of its layout
* `Document.LaidOut`: trees stand from a place on, as the last contents of their parent
* `Document.Occupied`: what a place belongs to

## Main results

* `LaidOut.node?_eq`, `LaidOut.node?_attribute`: the nodes at the places of trees and attributes
* `occupied_of_lt`: every place of the table is occupied
* `LaidOut.occupied_trees`: what is laid out as contents is below the parent
-/

namespace XmlQuery

namespace Tree

/-- The kind of the node of a tree. -/
def kind : Tree → NodeKind
  | .element .. => .element
  | .leaf kind _ => kind.nodeKind

/-- The name of the node of a tree. -/
def name : Tree → Name
  | .element name .. => name
  | .leaf kind _ => kind.name

/-- The value of the node of a tree. -/
def value : Tree → String
  | .element .. => ""
  | .leaf _ value => value

/-- The attributes of a tree. -/
def attributes : Tree → List TreeAttribute
  | .element _ attributes _ => attributes
  | .leaf .. => []

/-- The contents of a tree. -/
def contents : Tree → List Tree
  | .element _ _ contents => contents
  | .leaf .. => []

/-- Where the attributes of a tree that starts at a place start, which only elements have. -/
def attributeStart (id : Nat) : Tree → Nat
  | .element .. => id + 1
  | .leaf .. => 0

/-- The node of a tree that starts at a place, between its siblings. -/
def node (id parent : Nat) (previous next : Option Nat) (t : Tree) : Node where
  kind := t.kind
  name := t.name
  value := t.value
  isDeclaration := false
  parent := some parent
  firstChild := firstId? (id + 1 + t.attributes.length) t.contents
  lastChild := lastId? (id + 1 + t.attributes.length) t.contents
  previous := previous
  next := next
  attributeStart := t.attributeStart id
  attributeCount := t.attributes.length
  last := id + t.size - 1

/-- The places of trees that start at a place. -/
def ids (id : Nat) : List Tree → List Nat
  | [] => []
  | t :: ts => id :: ids (id + t.size) ts

theorem size_eq (t : Tree) : t.size = 1 + t.attributes.length + sizes t.contents := by
  cases t <;> simp [size, attributes, contents, sizes]

/-- A tree is laid out as its node, its attributes and its contents. -/
theorem layout_eq (id parent : Nat) (previous next : Option Nat) (t : Tree) :
    t.layout id parent previous next =
      t.node id parent previous next :: (TreeAttribute.layouts (id + 1) id t.attributes ++
        layouts (id + 1 + t.attributes.length) id none t.contents) := by
  cases t with
  | leaf kind value => rfl
  | element name attributes contents =>
    -- The last place is counted from the contents in the layout, and from the size in the node.
    have hlast : id + 1 + attributes.length + sizes contents - 1 =
        id + (1 + attributes.length + sizes contents) - 1 := by omega
    simp only [layout, node, hlast]
    rfl

theorem length_attributeLayouts (id element : Nat) (attributes : List TreeAttribute) :
    (TreeAttribute.layouts id element attributes).length = attributes.length := by
  induction attributes generalizing id with
  | nil => rfl
  | cons a rest ih => rw [TreeAttribute.layouts, List.length_cons, List.length_cons, ih]

mutual

theorem length_layout (id parent : Nat) (previous next : Option Nat) (t : Tree) :
    (t.layout id parent previous next).length = t.size := by
  cases t with
  | leaf kind value => rfl
  | element name attributes contents =>
    simp only [layout, size, List.length_cons, List.length_append, length_attributeLayouts,
      length_layouts]
    omega

theorem length_layouts (id parent : Nat) (previous : Option Nat) (ts : List Tree) :
    (layouts id parent previous ts).length = sizes ts := by
  cases ts with
  | nil => rfl
  | cons t ts => rw [layouts, List.length_append, length_layout, length_layouts, sizes]

end

theorem getElem?_attributeLayouts (id element : Nat) (attributes : List TreeAttribute) (k : Nat) :
    (TreeAttribute.layouts id element attributes)[k]? =
      attributes[k]?.map (·.layout (id + k) element) := by
  induction attributes generalizing id k with
  | nil => rfl
  | cons a rest ih =>
    cases k with
    | zero => rfl
    | succ k =>
      rw [TreeAttribute.layouts, List.getElem?_cons_succ, List.getElem?_cons_succ, ih]
      rw [Nat.add_assoc, Nat.add_comm 1 k]

/-! ### Places of siblings -/

theorem length_le_sizes (ts : List Tree) : ts.length ≤ sizes ts := by
  induction ts with
  | nil => exact Nat.zero_le _
  | cons t ts ih =>
    have := t.size_pos
    rw [List.length_cons, sizes]
    omega

theorem le_of_mem_ids {id i : Nat} {ts : List Tree} (h : i ∈ ids id ts) : id ≤ i := by
  induction ts generalizing id with
  | nil => cases h
  | cons t ts ih =>
    rcases List.mem_cons.1 h with rfl | h
    · exact le_rfl
    · exact (Nat.le_add_right _ _).trans (ih h)

theorem sortedLT_ids (id : Nat) (ts : List Tree) : (ids id ts).SortedLT := by
  rw [List.sortedLT_iff_pairwise]
  induction ts generalizing id with
  | nil => exact .nil
  | cons t ts ih =>
    refine List.pairwise_cons.2 ⟨fun i hi => ?_, ih _⟩
    have := le_of_mem_ids hi
    have := t.size_pos
    omega

theorem head?_ids (id : Nat) (ts : List Tree) : (ids id ts).head? = firstId? id ts := by
  cases ts <;> rfl

theorem getLast?_ids (id : Nat) (ts : List Tree) : (ids id ts).getLast? = lastId? id ts := by
  fun_induction lastId? id ts with
  | case1 => rfl
  | case2 => rfl
  | case3 id t ts hne ih =>
    cases ts with
    | nil => exact absurd rfl hne
    | cons u us => rw [ids, ids, List.getLast?_cons_cons, ← ih, ids]

end Tree

namespace Document

open XmlQuery.Tree (sizes ids firstId? lastId? layouts)

theorem size_ofTrees (top : List Tree) : (ofTrees top).size = sizes top + 1 := by
  rw [size, ← Array.length_toList, nodes_ofTrees, List.length_cons, Tree.length_layouts]

theorem node?_ofTrees (top : List Tree) (i : Nat) :
    (ofTrees top).node? i = (topNode top :: layouts 1 0 none top)[i]? := by
  rw [node?, ← Array.getElem?_toList, nodes_ofTrees]

/-- The trees `ts` stand from place `id` on, as the last contents of `parent`, after the sibling
`previous`. -/
inductive LaidOut (top : List Tree) : Nat → Nat → Option Nat → List Tree → Prop
  /-- At the top of the document. -/
  | top : LaidOut top 1 0 none top
  /-- After a sibling. -/
  | rest {id parent : Nat} {previous : Option Nat} {t : Tree} {ts : List Tree} :
    LaidOut top id parent previous (t :: ts) → LaidOut top (id + t.size) parent (some id) ts
  /-- Inside a tree. -/
  | contents {id parent : Nat} {previous : Option Nat} {t : Tree} {ts : List Tree} :
    LaidOut top id parent previous (t :: ts) →
      LaidOut top (id + 1 + t.attributes.length) id none t.contents

variable {top ts : List Tree} {id parent : Nat} {previous : Option Nat} {t : Tree}

/-- The table goes on with the layout of the trees. -/
theorem LaidOut.drop_eq (h : LaidOut top id parent previous ts) :
    ∃ after, (topNode top :: layouts 1 0 none top).drop id =
      layouts id parent previous ts ++ after := by
  induction h with
  | top => exact ⟨[], by rw [List.drop_one, List.tail_cons, List.append_nil]⟩
  | @rest id parent previous t ts h ih =>
    -- The siblings start behind the whole first tree.
    obtain ⟨after, ih⟩ := ih
    refine ⟨after, ?_⟩
    rw [← List.drop_drop, ih, layouts, List.append_assoc]
    exact List.drop_left' (Tree.length_layout ..)
  | @contents id parent previous t ts h ih =>
    obtain ⟨after, ih⟩ := ih
    refine ⟨layouts (id + t.size) parent (some id) ts ++ after, ?_⟩
    -- The contents start behind the node and its attributes, all of which are dropped.
    have hplace : id + 1 + t.attributes.length = id + (t.attributes.length + 1) := by omega
    conv_lhs =>
      rw [hplace, ← List.drop_drop, ih, layouts, Tree.layout_eq, List.append_assoc,
        List.cons_append, List.drop_succ_cons, List.append_assoc]
    exact List.drop_left' (Tree.length_attributeLayouts ..)

theorem LaidOut.getElem?_eq (h : LaidOut top id parent previous ts) {k : Nat}
    (hk : k < sizes ts) :
    (ofTrees top).node? (id + k) = (layouts id parent previous ts)[k]? := by
  -- A node of the trees is one of the table from the place of the trees on.
  obtain ⟨after, hdrop⟩ := h.drop_eq
  rw [node?_ofTrees, ← List.getElem?_drop, hdrop, List.getElem?_append_left]
  rwa [Tree.length_layouts]

/-- The node at the place of a tree. -/
theorem LaidOut.node?_eq (h : LaidOut top id parent previous (t :: ts)) :
    (ofTrees top).node? id = some (t.node id parent previous (firstId? (id + t.size) ts)) := by
  have hpos := t.size_pos
  have hnode := h.getElem?_eq (k := 0) (by rw [sizes]; omega)
  rw [Nat.add_zero, layouts, Tree.layout_eq] at hnode
  exact hnode

/-- The nodes of attributes follow the node of their element. -/
theorem LaidOut.node?_attribute (h : LaidOut top id parent previous (t :: ts)) {k : Nat}
    {a : TreeAttribute} (ha : t.attributes[k]? = some a) :
    (ofTrees top).node? (id + 1 + k) = some (a.layout (id + 1 + k) id) := by
  have hk : k < t.attributes.length := (List.getElem?_eq_some_iff.1 ha).1
  have hsize := t.size_eq
  have hnode := h.getElem?_eq (k := k + 1) (by rw [sizes]; omega)
  rw [layouts, Tree.layout_eq, List.cons_append, List.getElem?_cons_succ, List.append_assoc,
    List.getElem?_append_left (by rwa [Tree.length_attributeLayouts]),
    Tree.getElem?_attributeLayouts, ha, ← Nat.add_assoc, Nat.add_right_comm] at hnode
  exact hnode

theorem node?_zero (top : List Tree) : (ofTrees top).node? 0 = some (topNode top) := by
  rw [node?_ofTrees]
  rfl

theorem LaidOut.stop_le (h : LaidOut top id parent previous ts) :
    id + sizes ts ≤ (ofTrees top).size := by
  rw [size_ofTrees]
  induction h with
  | top => omega
  | @rest id parent previous t ts h ih =>
    rw [sizes] at ih
    omega
  | @contents id parent previous t ts h ih =>
    have := t.size_eq
    rw [sizes] at ih
    omega

theorem LaidOut.parent_lt (h : LaidOut top id parent previous ts) : parent < id := by
  induction h with
  | top => exact Nat.zero_lt_one
  | rest h ih => omega
  | contents h ih => omega

/-- The last contents of a node end where what is below the node ends. -/
theorem LaidOut.stop_eq (h : LaidOut top id parent previous ts) :
    id + sizes ts = (ofTrees top).last parent + 1 := by
  induction h with
  | top =>
    rw [last, node?_zero]
    exact Nat.add_comm ..
  | @rest id parent previous t ts h ih =>
    rw [sizes] at ih
    omega
  | @contents id parent previous t ts h ih =>
    have hsize := t.size_eq
    rw [last, h.node?_eq]
    simp only [Option.map_some, Option.getD_some, Tree.node]
    omega

/-- What a place of the table belongs to. -/
inductive Occupied (top : List Tree) : Nat → Prop
  /-- The document node. -/
  | document : Occupied top 0
  /-- A tree. -/
  | tree {id parent : Nat} {previous : Option Nat} {t : Tree} {ts : List Tree} :
    LaidOut top id parent previous (t :: ts) → Occupied top id
  /-- An attribute of a tree. -/
  | attributeOf {id parent : Nat} {previous : Option Nat} {t : Tree} {ts : List Tree} {k : Nat}
    {a : TreeAttribute} : LaidOut top id parent previous (t :: ts) →
    t.attributes[k]? = some a → Occupied top (id + 1 + k)

/-- A node is below another, or is it, along the links to the parents. -/
def IsBelow (d : Document) : Nat → Nat → Prop :=
  Relation.ReflTransGen fun a b => d.parent? b = some a

theorem LaidOut.parent?_eq (h : LaidOut top id parent previous (t :: ts)) :
    (ofTrees top).parent? id = some parent := by
  rw [parent?, h.node?_eq]
  rfl

theorem LaidOut.parent?_attribute (h : LaidOut top id parent previous (t :: ts)) {k : Nat}
    {a : TreeAttribute} (ha : t.attributes[k]? = some a) :
    (ofTrees top).parent? (id + 1 + k) = some id := by
  rw [parent?, h.node?_attribute ha]
  rfl

mutual

/-- The places of a tree are occupied, and they are below its own. -/
theorem LaidOut.occupied_tree {top ts : List Tree} {id parent : Nat} {previous : Option Nat}
    {t : Tree} (h : LaidOut top id parent previous (t :: ts)) {i : Nat} (hid : id ≤ i)
    (hi : i < id + t.size) : Occupied top i ∧ (ofTrees top).IsBelow id i := by
  rcases Nat.eq_or_lt_of_le hid with rfl | hlt
  · exact ⟨.tree h, .refl⟩
  cases t with
  | leaf kind value =>
    rw [Tree.size] at hi
    omega
  | element name attributes contents =>
    -- Behind the node come its attributes, and behind these its contents.
    by_cases hattribute : i < id + 1 + attributes.length
    · obtain ⟨k, rfl⟩ := Nat.exists_eq_add_of_le (Nat.succ_le_of_lt hlt)
      obtain ⟨a, ha⟩ : ∃ a, attributes[k]? = some a := ⟨_, List.getElem?_eq_getElem (by omega)⟩
      exact ⟨.attributeOf h ha, .single (h.parent?_attribute ha)⟩
    · rw [Tree.size] at hi
      have hcontents : LaidOut top (id + 1 + attributes.length) id none contents := h.contents
      exact hcontents.occupied_trees (by omega) (by omega)

/-- The places of trees are occupied, and they are below the parent of the trees. -/
theorem LaidOut.occupied_trees {top ts : List Tree} {id parent : Nat} {previous : Option Nat}
    (h : LaidOut top id parent previous ts) {i : Nat} (hid : id ≤ i) (hi : i < id + sizes ts) :
    Occupied top i ∧ (ofTrees top).IsBelow parent i := by
  cases ts with
  | nil =>
    rw [sizes] at hi
    omega
  | cons t ts =>
    -- A place is in the first tree or in the ones behind it.
    by_cases hfirst : i < id + t.size
    · obtain ⟨hocc, hbelow⟩ := h.occupied_tree hid hfirst
      exact ⟨hocc, hbelow.head h.parent?_eq⟩
    · rw [sizes] at hi
      exact h.rest.occupied_trees (by omega) (by omega)

end

/-- Every place of the table is occupied. -/
theorem occupied_of_lt {i : Nat} (h : i < (ofTrees top).size) : Occupied top i := by
  rw [size_ofTrees] at h
  rcases Nat.eq_zero_or_pos i with rfl | hpos
  · exact .document
  · exact (LaidOut.occupied_trees .top hpos (by omega)).1

end Document

end XmlQuery
