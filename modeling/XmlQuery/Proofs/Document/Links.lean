import XmlQuery.Proofs.Document.Places

/-!
# Links in the table of a document

The links of the table agree with each other: from the first of its contents a node reaches all of
them in turn, in the order of their places, and nothing else; the way back is the way there
reversed. What is below a node by the links to the parents is a range of places.

## Main results

* `children_zero`, `LaidOut.children_eq`: the links lead to the contents
* `mem_children_iff`: the contents of a node are those whose parent it is, attributes aside
* `next?_eq_some_iff`: the links between siblings are inverse to each other
* `isBelow_iff`: what is below a node is a range
-/

namespace XmlQuery.Document

open XmlQuery.Tree (sizes ids firstId? lastId?)

variable {top ts : List Tree} {id parent : Nat} {previous : Option Nat} {t : Tree}

/-! ## Contents -/

theorem follow_none (d : Document) (link : Node → Option Nat) (fuel : Nat) :
    d.follow link fuel none = [] := by
  cases fuel <;> rfl

/-- From the first of some siblings the links lead to all of them. -/
theorem LaidOut.follow_next (h : LaidOut top id parent previous ts) {fuel : Nat}
    (hfuel : ts.length ≤ fuel) :
    (ofTrees top).follow (·.next) fuel (firstId? id ts) = ids id ts := by
  induction ts generalizing id previous fuel with
  | nil => cases fuel <;> rfl
  | cons t ts ih =>
    cases fuel with
    | zero => exact absurd hfuel (Nat.not_succ_le_zero _)
    | succ fuel =>
      rw [firstId?, follow, h.node?_eq]
      exact congrArg (id :: ·) (ih h.rest (Nat.le_of_succ_le_succ hfuel))

theorem LaidOut.length_le_size (h : LaidOut top id parent previous ts) :
    ts.length ≤ (ofTrees top).size :=
  (Tree.length_le_sizes ts).trans ((Nat.le_add_left _ _).trans h.stop_le)

theorem children_zero (top : List Tree) : (ofTrees top).children 0 = ids 1 top := by
  rw [children, node?_zero]
  exact LaidOut.top.follow_next LaidOut.top.length_le_size

theorem LaidOut.children_eq (h : LaidOut top id parent previous (t :: ts)) :
    (ofTrees top).children id = ids (id + 1 + t.attributes.length) t.contents := by
  rw [children, h.node?_eq]
  exact h.contents.follow_next h.contents.length_le_size

theorem LaidOut.children_attribute (h : LaidOut top id parent previous (t :: ts)) {k : Nat}
    {a : TreeAttribute} (ha : t.attributes[k]? = some a) :
    (ofTrees top).children (id + 1 + k) = [] := by
  rw [children, h.node?_attribute ha]
  cases (ofTrees top).size <;> rfl

theorem children_of_size_le {d : Document} {i : Nat} (h : d.size ≤ i) : d.children i = [] := by
  rw [children, node?, Array.getElem?_eq_none h]
  cases d.size <;> rfl

/-- Trees that are laid out as the last contents of a node are the last ones of its children, and
the way back from the sibling in front of them leads to the others. -/
theorem LaidOut.exists_children_eq (h : LaidOut top id parent previous ts) :
    ∃ earlier, (ofTrees top).children parent = earlier ++ ids id ts ∧
      ∀ fuel, earlier.length ≤ fuel →
        (ofTrees top).follow (·.previous) fuel previous = earlier.reverse := by
  induction h with
  | top => exact ⟨[], children_zero top, fun fuel _ => follow_none _ _ fuel⟩
  | @rest id parent previous t ts h ih =>
    obtain ⟨earlier, hchildren, hback⟩ := ih
    refine ⟨earlier ++ [id], ?_, fun fuel hfuel => ?_⟩
    · rw [hchildren, ids, List.append_assoc, List.singleton_append]
    · -- The way back goes from this sibling to the one in front of it.
      rw [List.length_append, List.length_singleton] at hfuel
      obtain ⟨fuel, rfl⟩ := Nat.exists_eq_add_of_lt hfuel
      rw [follow, h.node?_eq, List.reverse_concat]
      exact congrArg (id :: ·) (hback _ (Nat.le_add_right _ _))
  | contents h ih => exact ⟨[], h.children_eq, fun fuel _ => follow_none _ _ fuel⟩

/-- The children of a node are laid out one after the other. -/
theorem LaidOut.exists_of_mem_ids (h : LaidOut top id parent previous ts) {i : Nat}
    (hi : i ∈ ids id ts) :
    ∃ previous' t ts', LaidOut top i parent previous' (t :: ts') := by
  induction ts generalizing id previous with
  | nil => cases hi
  | cons t ts ih =>
    rcases List.mem_cons.1 hi with rfl | hi
    · exact ⟨_, _, _, h⟩
    · exact ih h.rest hi

/-- A child of a node is the place of one of the trees laid out as its contents. -/
theorem exists_laidOut_of_mem_children {i p : Nat} (h : i ∈ (ofTrees top).children p) :
    ∃ previous t ts, LaidOut top i p previous (t :: ts) := by
  rcases Nat.lt_or_ge p (ofTrees top).size with hp | hp
  · cases occupied_of_lt hp with
    | document => exact LaidOut.top.exists_of_mem_ids (children_zero top ▸ h)
    | tree ht => exact ht.contents.exists_of_mem_ids (ht.children_eq ▸ h)
    | attributeOf ht ha =>
      rw [ht.children_attribute ha] at h
      cases h
  · rw [children_of_size_le hp] at h
    cases h

theorem LaidOut.mem_children (h : LaidOut top id parent previous (t :: ts)) :
    id ∈ (ofTrees top).children parent := by
  obtain ⟨earlier, hchildren, -⟩ := h.exists_children_eq
  rw [hchildren]
  exact List.mem_append_right _ List.mem_cons_self

theorem sortedLT_children (top : List Tree) (p : Nat) :
    ((ofTrees top).children p).SortedLT := by
  rcases Nat.lt_or_ge p (ofTrees top).size with hp | hp
  · cases occupied_of_lt hp with
    | document => exact children_zero top ▸ Tree.sortedLT_ids 1 top
    | tree ht => exact ht.children_eq ▸ Tree.sortedLT_ids _ _
    | attributeOf ht ha =>
      rw [ht.children_attribute ha]
      exact List.Pairwise.nil.sortedLT
  · rw [children_of_size_le hp]
    exact List.Pairwise.nil.sortedLT

theorem kind?_attribute (h : LaidOut top id parent previous (t :: ts)) {k : Nat}
    {a : TreeAttribute} (ha : t.attributes[k]? = some a) :
    (ofTrees top).kind? (id + 1 + k) = some .attribute := by
  rw [kind?, h.node?_attribute ha]
  rfl

theorem LaidOut.kind?_eq (h : LaidOut top id parent previous (t :: ts)) :
    (ofTrees top).kind? id = some t.kind := by
  rw [kind?, h.node?_eq]
  rfl

theorem kind_ne_attribute (t : Tree) : t.kind ≠ .attribute := by
  rcases t with _ | ⟨_ | _, _⟩ <;> simp [Tree.kind, LeafKind.nodeKind]

theorem parent?_zero (top : List Tree) : (ofTrees top).parent? 0 = none := by
  rw [parent?, node?_zero]
  rfl

/-- Only the nodes of the table have links. -/
theorem lt_size_of_bind_eq_some {d : Document} {link : Node → Option Nat} {i j : Nat}
    (h : (d.node? i).bind link = some j) : i < d.size := by
  obtain ⟨n, hn, -⟩ := Option.bind_eq_some_iff.1 h
  exact (Array.getElem?_eq_some_iff.1 hn).1

/-- The children of a node are the nodes that have it as their parent, attributes aside. -/
theorem mem_children_iff {i p : Nat} :
    i ∈ (ofTrees top).children p ↔
      (ofTrees top).parent? i = some p ∧ (ofTrees top).kind? i ≠ some .attribute := by
  constructor
  · -- A child is a tree that is laid out inside the node.
    intro h
    obtain ⟨previous, t, ts, h⟩ := exists_laidOut_of_mem_children h
    refine ⟨h.parent?_eq, ?_⟩
    rw [h.kind?_eq]
    exact fun hkind => kind_ne_attribute t (Option.some.inj hkind)
  · rintro ⟨hparent, hkind⟩
    -- The document node has no parent and attributes are excluded, so the place is a tree's.
    cases occupied_of_lt (lt_size_of_bind_eq_some hparent) with
    | document =>
      rw [parent?_zero] at hparent
      cases hparent
    | tree ht =>
      rw [ht.parent?_eq] at hparent
      cases hparent
      exact ht.mem_children
    | attributeOf ht ha => exact absurd (kind?_attribute ht ha) hkind

/-- The children of a node, found along the links, are the nodes of the table that have it as
their parent, attributes aside. -/
theorem children_eq_filter (top : List Tree) (p : Nat) :
    (ofTrees top).children p = (List.range (ofTrees top).size).filter fun i =>
      (ofTrees top).parent? i = some p ∧ (ofTrees top).kind? i ≠ some .attribute := by
  -- Both lists are in the order of the table, so their members decide.
  apply (sortedLT_children top p).eq_of_mem_iff
  · exact (List.pairwise_lt_range.filter _).sortedLT
  · intro i
    rw [mem_children_iff, List.mem_filter, List.mem_range, decide_eq_true_iff]
    exact ⟨fun h => ⟨lt_size_of_bind_eq_some h.1, h⟩, And.right⟩

/-! ## Siblings -/

/-- The node after a node among its siblings. -/
def next? (d : Document) (i : Nat) : Option Nat := (d.node? i).bind (·.next)

/-- The node before a node among its siblings. -/
def previous? (d : Document) (i : Nat) : Option Nat := (d.node? i).bind (·.previous)

theorem LaidOut.next?_eq (h : LaidOut top id parent previous (t :: ts)) :
    (ofTrees top).next? id = firstId? (id + t.size) ts := by
  rw [next?, h.node?_eq]
  rfl

theorem LaidOut.previous?_eq (h : LaidOut top id parent previous (t :: ts)) :
    (ofTrees top).previous? id = previous := by
  rw [previous?, h.node?_eq]
  rfl

/-- A node with a node after it is laid out in front of that node. -/
theorem exists_laidOut_of_next? {i j : Nat} (h : (ofTrees top).next? i = some j) :
    ∃ parent previous t u ts, LaidOut top i parent previous (t :: u :: ts) ∧ j = i + t.size := by
  cases occupied_of_lt (lt_size_of_bind_eq_some h) with
  | document =>
    rw [next?, node?_zero] at h
    cases h
  | @tree _ parent previous t ts ht =>
    rw [ht.next?_eq] at h
    -- The link is set only where a sibling follows.
    cases ts with
    | nil => cases h
    | cons u ts =>
      cases h
      exact ⟨_, _, _, _, _, ht, rfl⟩
  | attributeOf ht ha =>
    rw [next?, ht.node?_attribute ha] at h
    cases h

/-- The links between siblings are inverse to each other. -/
theorem next?_eq_some_iff {i j : Nat} :
    (ofTrees top).next? i = some j ↔ (ofTrees top).previous? j = some i := by
  constructor
  · intro h
    obtain ⟨parent, previous, t, u, ts, ht, rfl⟩ := exists_laidOut_of_next? h
    exact ht.rest.previous?_eq
  · intro h
    cases occupied_of_lt (lt_size_of_bind_eq_some h) with
    | document =>
      rw [previous?, node?_zero] at h
      cases h
    | tree ht =>
      rw [ht.previous?_eq] at h
      cases h
      -- Only what follows a sibling is laid out with a sibling in front of it.
      cases ht with
      | rest ht => exact ht.next?_eq
    | attributeOf ht ha =>
      rw [previous?, ht.node?_attribute ha] at h
      cases h

/-! ## Ranges -/

theorem LaidOut.last_eq (h : LaidOut top id parent previous (t :: ts)) :
    (ofTrees top).last id = id + t.size - 1 := by
  rw [last, h.node?_eq]
  rfl

theorem LaidOut.last_attribute (h : LaidOut top id parent previous (t :: ts)) {k : Nat}
    {a : TreeAttribute} (ha : t.attributes[k]? = some a) :
    (ofTrees top).last (id + 1 + k) = id + 1 + k := by
  rw [last, h.node?_attribute ha]
  rfl

theorem le_last (top : List Tree) (i : Nat) : i ≤ (ofTrees top).last i := by
  rcases Nat.lt_or_ge i (ofTrees top).size with hi | hi
  · cases occupied_of_lt hi with
    | document => exact Nat.zero_le _
    | @tree _ parent previous t ts ht =>
      have := t.size_pos
      rw [ht.last_eq]
      omega
    | attributeOf ht ha => exact (ht.last_attribute ha).ge
  · rw [last, node?, Array.getElem?_eq_none hi]
    exact le_rfl

/-- The range of a node is inside that of its parent. -/
theorem range_of_parent? {i p : Nat} (h : (ofTrees top).parent? i = some p) :
    p < i ∧ (ofTrees top).last i ≤ (ofTrees top).last p := by
  cases occupied_of_lt (lt_size_of_bind_eq_some h) with
  | document =>
    rw [parent?_zero] at h
    cases h
  | @tree _ parent previous t ts ht =>
    rw [ht.parent?_eq] at h
    cases h
    -- The last of the siblings ends where the parent does, so this one ends no later.
    have hstop := ht.stop_eq
    rw [sizes] at hstop
    refine ⟨ht.parent_lt, ?_⟩
    rw [ht.last_eq]
    omega
  | @attributeOf id parent previous t ts k a ht ha =>
    rw [ht.parent?_attribute ha] at h
    cases h
    have hk : k < t.attributes.length := (List.getElem?_eq_some_iff.1 ha).1
    have hsize := t.size_eq
    refine ⟨by omega, ?_⟩
    rw [ht.last_attribute ha, ht.last_eq]
    omega

/-- What is below a node, and the node itself, are the places up to its last one. -/
theorem isBelow_iff {n i : Nat} :
    (ofTrees top).IsBelow n i ↔ n ≤ i ∧ i ≤ (ofTrees top).last n := by
  constructor
  · intro h
    -- Every link leads to a range inside the one that it comes from.
    have hrange : n ≤ i ∧ (ofTrees top).last i ≤ (ofTrees top).last n := by
      induction h with
      | refl => exact ⟨le_rfl, le_rfl⟩
      | tail _ hparent ih =>
        have := range_of_parent? hparent
        omega
    exact ⟨hrange.1, (le_last top i).trans hrange.2⟩
  · rintro ⟨hn, hi⟩
    -- The places in the range of a tree are occupied by what is below the tree.
    rcases Nat.lt_or_ge n (ofTrees top).size with hlt | hge
    · cases occupied_of_lt hlt with
      | document =>
        have hstop : 1 + sizes top = (ofTrees top).last 0 + 1 := LaidOut.top.stop_eq
        rcases Nat.eq_zero_or_pos i with rfl | hpos
        · exact .refl
        · exact (LaidOut.occupied_trees .top hpos (by omega)).2
      | @tree _ parent previous t ts ht =>
        have := t.size_pos
        rw [ht.last_eq] at hi
        exact (ht.occupied_tree hn (by omega)).2
      | attributeOf ht ha =>
        rw [ht.last_attribute ha] at hi
        exact Nat.le_antisymm hn hi ▸ .refl
    · rw [last, node?, Array.getElem?_eq_none hge] at hi
      exact Nat.le_antisymm hn hi ▸ .refl

/-! ## Ancestors -/

/-- The places go down on the way up, so the way is not cut short. -/
theorem follow_parent_eq {i : Nat} {fuel fuel' : Nat} (h : i < fuel) (h' : i < fuel') :
    (ofTrees top).follow (·.parent) fuel (some i) =
      (ofTrees top).follow (·.parent) fuel' (some i) := by
  induction i using Nat.strongRecOn generalizing fuel fuel' with
  | ind i ih =>
    obtain ⟨fuel, rfl⟩ := Nat.exists_eq_succ_of_ne_zero (Nat.ne_zero_of_lt h)
    obtain ⟨fuel', rfl⟩ := Nat.exists_eq_succ_of_ne_zero (Nat.ne_zero_of_lt h')
    rw [follow, follow]
    refine congrArg (i :: ·) ?_
    -- Above the document node the way ends; below it, it goes on from an earlier place.
    cases hparent : ((ofTrees top).node? i).bind (·.parent) with
    | none => rw [follow_none, follow_none]
    | some p =>
      have hp : p < i := (range_of_parent? hparent).1
      exact ih p hp (by omega) (by omega)

/-- The nodes around a node are its parent and the nodes around the parent. -/
theorem walk_parent_eq {i p : Nat} (h : (ofTrees top).parent? i = some p) :
    (ofTrees top).walk (·.parent) i = p :: (ofTrees top).walk (·.parent) p := by
  have hp : p < i := (range_of_parent? h).1
  have hi : i < (ofTrees top).size := lt_size_of_bind_eq_some h
  obtain ⟨fuel, hfuel⟩ := Nat.exists_eq_succ_of_ne_zero (Nat.ne_zero_of_lt hi)
  have hwalk : (ofTrees top).walk (·.parent) i =
      (ofTrees top).follow (·.parent) (fuel + 1) (some p) := by
    rw [walk, hfuel]
    exact congrArg _ h
  rw [hwalk, follow, walk, hfuel]
  -- Both ways go on from the parent of `p`, one of them with a step less to spare.
  refine congrArg (p :: ·) ?_
  cases hparent : ((ofTrees top).node? p).bind (·.parent) with
  | none => rw [follow_none, follow_none]
  | some q =>
    have hq : q < p := (range_of_parent? hparent).1
    exact follow_parent_eq (by omega) (by omega)

theorem walk_parent_zero (top : List Tree) : (ofTrees top).walk (·.parent) 0 = [] := by
  rw [walk, node?_zero]
  exact follow_none _ _ _

end XmlQuery.Document
