import XmlQuery.Document.Arena
import XmlQuery.Proofs.Document.Growth
import XmlQuery.Proofs.Text.Stores

/-!
# Numbered nodes

An arena shows a list of nodes if it has them in their order, with the numbers of their strings, and
its store knows these strings. What is done to an arena is then done to the list: a node comes at
its end, a link or the end of a subtree is set in one of the nodes. A child that is appended to the
table so far of a document is linked to its parent and to the child in front of it.

## Main definitions

* `Node.numbered`: a node with the numbers of its strings
* `Arena.Shows`: an arena shows nodes

## Main results

* `Shows.intern`, `Shows.push`, `Shows.update`, `Shows.close`: what is done to an arena
* `Shows.append`: **a child that is appended is linked to its neighbours**
* `Shows.nodes_document`: the document that an arena shows has the nodes
-/

namespace XmlQuery

open Builder (contents contentsStart holder holderNode size table)
open Text (Store LawfulStore)
open Text.LawfulStore (Fits Holds number number_of_isPrefix get_number)
open Text.Pool (add isPrefix_add)
open XmlQuery.Tree (lastId? layoutsTo)

variable {σ ι : Type}

/-- A name with the numbers of its strings. -/
def Name.numbered (number : String → ι) (n : Name) : NumberedName ι :=
  ⟨number n.nsPrefix, number n.localPart, number n.uri⟩

/-- The strings of a name. -/
def Name.strings (n : Name) : List String := [n.nsPrefix, n.localPart, n.uri]

theorem Name.strings_subset {n : Name} {strings : List String} (hpre : n.nsPrefix ∈ strings)
    (hlocal : n.localPart ∈ strings) (huri : n.uri ∈ strings) : n.strings ⊆ strings :=
  List.cons_subset.2 ⟨hpre, List.cons_subset.2 ⟨hlocal, List.cons_subset.2
    ⟨huri, List.nil_subset _⟩⟩⟩

/-- A node with the numbers of its strings. -/
def Node.numbered (number : String → ι) (n : Node) : ArenaNode ι where
  kind := n.kind
  name := n.name.numbered number
  value := number n.value
  isDeclaration := n.isDeclaration
  parent := n.parent
  firstChild := n.firstChild
  lastChild := n.lastChild
  previous := n.previous
  next := n.next
  attributeStart := n.attributeStart
  attributeCount := n.attributeCount
  last := n.last

/-- The strings of a node. -/
def Node.strings (n : Node) : List String := n.value :: n.name.strings

variable [OfNat ι 0] [Store σ ι] [LawfulStore σ]

section

variable {strings longer : List String} {p : σ}

theorem Name.numbered_of_isPrefix {n : Name} (hextends : strings <+: longer)
    (hn : n.strings ⊆ strings) :
    n.numbered (number σ longer) = n.numbered (number σ strings) := by
  simp only [Name.strings, List.cons_subset, List.nil_subset, and_true] at hn
  rw [Name.numbered, Name.numbered, number_of_isPrefix hextends hn.1,
    number_of_isPrefix hextends hn.2.1, number_of_isPrefix hextends hn.2.2]

/-- Further strings change no number in a node. -/
theorem Node.numbered_of_isPrefix {n : Node} (hextends : strings <+: longer)
    (hn : n.strings ⊆ strings) :
    n.numbered (number σ longer) = n.numbered (number σ strings) := by
  obtain ⟨hvalue, hname⟩ := List.cons_subset.1 hn
  rw [Node.numbered, Node.numbered, Name.numbered_of_isPrefix hextends hname,
    number_of_isPrefix hextends hvalue]

/-- A node is read with the strings that it has been numbered with. -/
theorem Node.read_numbered {n : Node} (h : Holds strings p) (hfits : Fits σ strings)
    (hn : n.strings ⊆ strings) : (n.numbered (number σ strings)).read p = n := by
  simp only [Node.strings, Name.strings, List.cons_subset, List.nil_subset, and_true] at hn
  obtain ⟨hvalue, hpre, hlocal, huri⟩ := hn
  simp only [Node.numbered, Name.numbered, ArenaNode.read, get_number h hfits hvalue,
    get_number h hfits hpre, get_number h hfits hlocal, get_number h hfits huri]

end

theorem modify_append_cons {α : Type} (before : List α) (x : α) (after : List α) (f : α → α) :
    (before ++ x :: after).modify before.length f = before ++ f x :: after := by
  induction before with
  | nil => rfl
  | cons y before ih => exact congrArg (y :: ·) ih

namespace Arena

/-- An arena shows nodes whose strings its store knows. -/
structure Shows (strings : List String) (nodes : List Node) (a : Arena σ ι) : Prop where
  /-- The store stands for the strings. -/
  holds : Holds strings a.strings
  /-- The nodes have the numbers of their strings. -/
  nodes_eq : a.nodes.toList = nodes.map (Node.numbered (number σ strings))
  /-- The strings of the nodes are known. -/
  known : ∀ n ∈ nodes, n.strings ⊆ strings

namespace Shows

variable {strings : List String} {nodes before after : List Node} {a : Arena σ ι} {n m : Node}
  {id : Nat}

theorem size_eq (h : a.Shows strings nodes) : a.nodes.size = nodes.length := by
  rw [← Array.length_toList, h.nodes_eq, List.length_map]

theorem getElem?_eq (h : a.Shows strings (before ++ n :: after)) (hid : before.length = id) :
    a.nodes[id]? = some (n.numbered (number σ strings)) := by
  rw [← Array.getElem?_toList, h.nodes_eq, List.getElem?_map, ← hid,
    List.getElem?_append_right (Nat.le_refl _), Nat.sub_self]
  rfl

/-- Interning a string changes the store alone. -/
theorem intern (h : a.Shows strings nodes) (hfits : Fits σ strings) (s : String) :
    (Store.intern a.strings s).1 = number σ (add strings s) s ∧
      Shows (add strings s) nodes { a with strings := (Store.intern a.strings s).2 } := by
  obtain ⟨hnumber, hholds⟩ := LawfulStore.intern s h.holds hfits
  have hextends := isPrefix_add strings s
  refine ⟨hnumber, hholds, h.nodes_eq.trans (List.map_congr_left fun n hn => ?_),
    fun n hn => List.Subset.trans (h.known n hn) hextends.subset⟩
  exact (Node.numbered_of_isPrefix hextends (h.known n hn)).symm

/-- A node is pushed behind the others. -/
theorem push (h : a.Shows strings nodes) (hn : n.strings ⊆ strings) :
    (a.push (n.numbered (number σ strings))).Shows strings
      (nodes ++ [{ n with last := nodes.length }]) where
  holds := h.holds
  nodes_eq := by
    rw [Arena.push, Array.toList_push, h.nodes_eq, h.size_eq, List.map_append]
    rfl
  known m hm := by
    rcases List.mem_append.1 hm with hm | hm
    · exact h.known m hm
    · rw [List.mem_singleton.1 hm]
      exact hn

theorem known_node (h : a.Shows strings (before ++ n :: after)) : n.strings ⊆ strings :=
  h.known n (List.mem_append_right _ List.mem_cons_self)

/-- A node is changed where it stands, but for its strings. -/
theorem update (h : a.Shows strings (before ++ n :: after)) (hid : before.length = id)
    {f : ArenaNode ι → ArenaNode ι} (g : Node → Node)
    (hf : f (n.numbered (number σ strings)) = (g n).numbered (number σ strings))
    (hg : (g n).strings = n.strings) : (a.update id f).Shows strings (before ++ g n :: after) where
  holds := h.holds
  nodes_eq := by
    rw [Arena.update, Array.toList_modify, h.nodes_eq, List.map_append, List.map_cons, ← hid,
      ← List.length_map (Node.numbered (number σ strings)), modify_append_cons, hf, List.map_append,
      List.map_cons]
  known m hm := by
    rcases List.mem_append.1 hm with hm | hm
    · exact h.known m (List.mem_append_left _ hm)
    · rcases List.mem_cons.1 hm with rfl | hm
      · exact hg ▸ h.known_node
      · exact h.known m (List.mem_append_right _ (List.mem_cons_of_mem _ hm))

/-- A node that is closed learns where what is below it ends. -/
theorem close (h : a.Shows strings (before ++ n :: after)) (hid : before.length = id) :
    (a.close id).Shows strings
      (before ++ { n with last := before.length + after.length } :: after) := by
  have hlast : a.nodes.size - 1 = before.length + after.length := by
    rw [h.size_eq, List.length_append, List.length_cons]
    rfl
  rw [Arena.close, hlast]
  exact h.update hid (fun n => { n with last := _ }) rfl rfl

/-- The document that an arena shows has the nodes. -/
theorem nodes_document (h : a.Shows strings nodes) (hfits : Fits σ strings) :
    a.document = ⟨nodes.toArray, a.root.getD 0⟩ := by
  rw [Arena.document, ← @Array.toArray_toList _ a.nodes, h.nodes_eq, List.map_toArray,
    List.map_map]
  congr
  refine (List.map_congr_left fun n hn => ?_).trans (List.map_id _)
  exact Node.read_numbered h.holds hfits (h.known n hn)

/-- **A child that is appended is linked to its neighbours**: the node that holds it learns of its
last child, and the child in front of it of its next sibling. -/
theorem append {top : List Tree} {opened : List OpenElement}
    (h : a.Shows strings (table top none opened)) (hn : n.strings ⊆ strings)
    (hparent : n.parent = some (holder top opened)) (hprevious : n.previous = none) :
    (a.append (n.numbered (number σ strings))).Shows strings
      (table top (some (size top opened)) opened ++
        [{ n with
          previous := lastId? (contentsStart top opened) (contents top opened)
          last := size top opened }]) := by
  obtain ⟨before, attributes, hbefore, hstart, htable⟩ := Builder.exists_table_eq top opened
  have hsize := Builder.length_table top none opened
  have hpushed := h.push hn
  rw [hsize] at hpushed
  rw [htable, List.append_assoc, List.cons_append] at hpushed
  have hlast : ((a.push (n.numbered (number σ strings))).nodes[holder top opened]?).bind
      (·.lastChild) = lastId? (contentsStart top opened) (contents top opened) := by
    rw [hpushed.getElem?_eq hbefore]
    rfl
  have hholder : (n.numbered (number σ strings)).parent.getD 0 = holder top opened :=
    congrArg (·.getD 0) hparent
  rw [Arena.append, h.size_eq, hsize, hholder, Arena.link, hlast, htable, List.append_assoc,
    List.cons_append]
  cases hcontents : contents top opened with
  | nil =>
    -- The node that holds it learns of its first child too.
    rw [← Builder.holderNode_first top hcontents]
    rw [hcontents] at hpushed
    have hfirst := hpushed.update (f := fun n => { n with firstChild := some (size top opened) })
      hbefore (fun n => { n with firstChild := some (size top opened) }) rfl rfl
    have hlast := hfirst.update (f := fun n => { n with lastChild := some (size top opened) })
      hbefore (fun n => { n with lastChild := some (size top opened) }) rfl rfl
    rw [hprevious] at hlast
    exact hlast
  | cons t ts =>
    -- The last child so far and the new one learn of each other.
    obtain ⟨last, hlast⟩ := Tree.exists_lastId?_eq (contentsStart top opened) t ts
    obtain ⟨front, l, back, hfront, hnext, hlayouts⟩ :=
      Tree.exists_layoutsTo_eq (contentsStart top opened) (holder top opened) none
        (t :: ts) hlast
    rw [← Builder.holderNode_next top hcontents]
    rw [hcontents, hlayouts, ← List.cons_append, ← List.append_assoc] at hpushed
    rw [htable, hcontents, hlayouts] at hsize
    have hchild := hpushed.update (f := fun n => { n with previous := some last }) hsize
      (fun n => { n with previous := some last }) rfl rfl
    have hplace : (before ++ holderNode top none opened :: (attributes ++ front)).length =
        last := by
      rw [← hfront, ← hstart, ← hbefore, List.length_append, List.length_cons, List.length_append]
      omega
    rw [← List.append_assoc attributes, ← List.cons_append, ← List.append_assoc before,
      List.append_assoc _ (_ :: back), List.cons_append] at hchild
    have hsibling := hchild.update (f := fun n => { n with next := some (size top opened) }) hplace
      (fun n => { n with next := some (size top opened) }) rfl rfl
    rw [List.append_assoc before, List.cons_append, List.append_assoc attributes] at hsibling
    have hdone := hsibling.update (f := fun n => { n with lastChild := some (size top opened) })
      hbefore (fun n => { n with lastChild := some (size top opened) }) rfl rfl
    rw [hlayouts, hlast, List.append_assoc attributes, List.append_assoc front]
    exact hdone

end Shows

end Arena

end XmlQuery
