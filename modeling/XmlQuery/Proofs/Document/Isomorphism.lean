import XmlQuery.Proofs.Document.Tour

/-!
# The nodes of trees

A document has the nodes of some trees if there is a node for each of them, with its kind, name,
value and attributes, and with nodes for its contents in their order; and if there are no other
nodes. Nothing is said of the numbers of nodes but that they are in document order.

## Main definitions

* `Document.Shows`: nodes show trees
* `Document.Isomorphic`: a document has the nodes of some trees, and no others

## Main results

* `Document.LaidOut.shows`: trees are shown where they are laid out
* `Document.isomorphic_ofTrees`: **the table of trees has their nodes**
-/

namespace XmlQuery.Document

/-- A node shows an attribute. -/
structure ShowsAttribute (d : Document) (a : TreeAttribute) (i : Nat) : Prop where
  /-- It is an attribute. -/
  kind : d.kind? i = some .attribute
  /-- It has the prefix, the local part and the namespace of the attribute. -/
  name : d.name i = a.name
  /-- It has the value of the attribute. -/
  value : d.value i = a.value
  /-- It is marked as a declaration if the attribute is one. -/
  isDeclaration : d.isDeclaration i = a.isDeclaration

/-- Nodes show trees, with all that is in them. -/
inductive Shows (d : Document) : List Nat → List Tree → Prop
  /-- No trees. -/
  | nil : Shows d [] []
  /-- A leaf. -/
  | leaf {i : Nat} {is : List Nat} {kind : LeafKind} {value : String} {ts : List Tree} :
    d.kind? i = some kind.nodeKind → d.name i = kind.name → d.value i = value →
    d.attributes i = [] → d.children i = [] → Shows d is ts →
    Shows d (i :: is) (.leaf kind value :: ts)
  /-- An element, whose attributes and contents are in the same order. -/
  | element {i : Nat} {is : List Nat} {name : Name} {attributes : List TreeAttribute}
    {contents ts : List Tree} :
    d.kind? i = some .element → d.name i = name →
    List.Forall₂ d.ShowsAttribute attributes (d.attributes i) → Shows d (d.children i) contents →
    Shows d is ts → Shows d (i :: is) (.element name attributes contents :: ts)

/-- A document has the nodes of some trees, and no others. -/
structure Isomorphic (d : Document) (top : List Tree) : Prop where
  /-- The first node is the document. -/
  document : d.kind? 0 = some .document
  /-- Its contents show the trees. -/
  contents : d.Shows (d.children 0) top
  /-- From it all nodes are reached, in the order of the table. -/
  order : (d.tour d.size 0).flatMap d.entered = List.range d.size

variable {top ts : List Tree} {id parent : Nat} {previous : Option Nat} {t : Tree}

theorem LaidOut.forall₂_showsAttribute (h : LaidOut top id parent previous (t :: ts)) :
    List.Forall₂ (ofTrees top).ShowsAttribute t.attributes ((ofTrees top).attributes id) := by
  have hkind : ∀ i ∈ (ofTrees top).attributes id, (ofTrees top).kind? i = some .attribute :=
    fun i hi => (mem_attributes_iff.1 hi).1
  refine (((List.forall₂_and_left _ _).2 ⟨hkind, h.forall₂_attributes.flip⟩).imp ?_).flip
  rintro i a ⟨hi, hname, hvalue, hdeclaration⟩
  exact ⟨hi, hname, hvalue, hdeclaration⟩

/-- The nodes of trees show them. The contents of a tree and the trees behind it are smaller. -/
theorem LaidOut.shows {top ts : List Tree} {id parent : Nat} {previous : Option Nat}
    (h : LaidOut top id parent previous ts) : (ofTrees top).Shows (Tree.ids id ts) ts := by
  match ts, h with
  | [], _ => exact .nil
  | .leaf kind value :: ts, h =>
    have hattributes : (ofTrees top).attributes id = [] := h.attributes_eq
    have hchildren : (ofTrees top).children id = [] := h.children_eq
    exact .leaf h.kind?_eq h.name_eq h.value_eq hattributes hchildren h.rest.shows
  | .element name attributes inside :: ts, h =>
    have hcontents : (ofTrees top).Shows ((ofTrees top).children id) inside := by
      rw [h.children_eq]
      exact h.contents.shows
    exact .element h.kind?_eq h.name_eq h.forall₂_showsAttribute hcontents h.rest.shows
termination_by Tree.sizes ts
decreasing_by
  all_goals simp only [Tree.sizes, Tree.size, Tree.contents]
  all_goals omega

/-- **The table of trees has their nodes**, and no others. -/
theorem isomorphic_ofTrees (top : List Tree) : (ofTrees top).Isomorphic top where
  document := kind?_document_iff.2 rfl
  contents := by
    rw [children_zero]
    exact LaidOut.top.shows
  order := (tour_ofTrees top).2

end XmlQuery.Document
