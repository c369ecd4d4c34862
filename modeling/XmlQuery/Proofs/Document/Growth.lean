import XmlQuery.Document.Build
import XmlQuery.Proofs.Document.Places

/-!
# Tables that grow

Between two events the table of a document ends inside the elements that are open. Their contents so
far are laid out as they will be, but for the links to what comes next: an open element is the last
of its siblings, and neither it nor the document node knows yet where it ends. The table so far is
written down here by recursion on the open elements, from the state that collects trees, and shown
to grow at its end only.

## Main definitions

* `Tree.layoutsTo`: siblings in front of one that is still open
* `Builder.table`: the nodes so far

## Main results

* `Builder.exists_table_eq`: where the node stands that holds what comes next
* `Builder.table_add`: **a further tree comes behind the nodes so far**
* `Builder.table_open`, `Builder.table_close`: the table when an element is opened and closed
* `Builder.table_nil_closed`: the table of a finished document
-/

namespace XmlQuery

namespace Tree

/-- The nodes of siblings that start at a place, in front of a sibling at the place `next`, if there
is one. -/
def layoutsTo (id parent : Nat) (previous next : Option Nat) : List Tree → List Node
  | [] => []
  | t :: ts =>
    t.layout id parent previous ((firstId? (id + t.size) ts).or next) ++
      layoutsTo (id + t.size) parent (some id) next ts

variable (id parent : Nat) (previous next : Option Nat) (t : Tree) (ts : List Tree)

/-- Without a sibling behind them they are laid out as all contents of their parent. -/
theorem layoutsTo_none : layoutsTo id parent previous none ts = layouts id parent previous ts := by
  induction ts generalizing id previous with
  | nil => rfl
  | cons t ts ih => rw [layoutsTo, Option.or_none, ih, layouts]

theorem length_layoutsTo : (layoutsTo id parent previous next ts).length = sizes ts := by
  induction ts generalizing id previous with
  | nil => rfl
  | cons t ts ih => rw [layoutsTo, List.length_append, length_layout, ih, sizes]

theorem firstId?_concat :
    firstId? id (ts ++ [t]) = (firstId? id ts).or (some (id + sizes ts)) := by
  cases ts <;> rfl

theorem lastId?_cons : lastId? id (t :: ts) = (lastId? (id + t.size) ts).or (some id) := by
  induction ts generalizing id t with
  | nil => rfl
  | cons u us ih =>
    rw [lastId?, ih]
    · cases lastId? (id + t.size + u.size) us <;> rfl
    · exact nofun

theorem exists_lastId?_eq : ∃ last, lastId? id (t :: ts) = some last := by
  rw [lastId?_cons]
  cases lastId? (id + t.size) ts with
  | none => exact ⟨id, rfl⟩
  | some last => exact ⟨last, rfl⟩

theorem lastId?_concat : lastId? id (ts ++ [t]) = some (id + sizes ts) := by
  induction ts generalizing id with
  | nil => rfl
  | cons u us ih => rw [List.cons_append, lastId?_cons, ih, sizes, Nat.add_assoc]; rfl

/-- A further sibling comes behind the nodes of the others, and the last of these is linked
to it. -/
theorem layoutsTo_concat :
    layoutsTo id parent previous none (ts ++ [t]) =
      layoutsTo id parent previous (some (id + sizes ts)) ts ++
        t.layout (id + sizes ts) parent ((lastId? id ts).or previous) none := by
  induction ts generalizing id previous with
  | nil =>
    rw [List.nil_append, layoutsTo_none, layouts, layouts, List.append_nil]
    rfl
  | cons u us ih =>
    rw [List.cons_append, layoutsTo, ih, layoutsTo, firstId?_concat, Option.or_none, sizes,
      lastId?_cons, List.append_assoc, ← Nat.add_assoc, Option.or_assoc]
    rfl

/-- The last of some siblings is the only one whose node depends on what comes next. -/
theorem exists_layoutsTo_eq {last : Nat} (h : lastId? id ts = some last) :
    ∃ (before : List Node) (n : Node) (after : List Node),
      id + before.length = last ∧ n.next = none ∧ ∀ next,
        layoutsTo id parent previous next ts = before ++ { n with next := next } :: after := by
  induction ts generalizing id previous with
  | nil => cases h
  | cons t ts ih =>
    cases ts with
    | nil =>
      -- The place of the next sibling is in the first node of the layout alone.
      cases h
      refine ⟨[], t.node last parent previous none,
        TreeAttribute.layouts (last + 1) last t.attributes ++
          layouts (last + 1 + t.attributes.length) last none t.contents, rfl, rfl, fun next => ?_⟩
      rw [layoutsTo, layoutsTo, List.append_nil, layout_eq]
      rfl
    | cons u us =>
      obtain ⟨before, n, after, hlast, hnext, heq⟩ := ih (id + t.size) (some id) h
      refine ⟨t.layout id parent previous (some (id + t.size)) ++ before, n, after, ?_, hnext,
        fun next => ?_⟩
      · rw [List.length_append, length_layout, ← Nat.add_assoc, hlast]
      · rw [layoutsTo, heq, List.append_assoc]
        rfl

end Tree

namespace Builder

open XmlQuery.Tree (sizes firstId? lastId? layouts layoutsTo)

@[simp] theorem scope_add {b : Builder} (t : Tree) : (b.add t).scope = b.scope := by
  rw [add]
  split <;> rfl

variable (top : List Tree)

/-- The number of nodes so far, of which the document has the trees `top` at its top, the latest
first. -/
def size : List OpenElement → Nat
  | [] => 1 + sizes top.reverse
  | e :: outer => size outer + 1 + e.attributes.length + sizes e.contents.reverse

/-- The node that holds what comes next. -/
def holder : List OpenElement → Nat
  | [] => 0
  | _ :: outer => size top outer

/-- Where its contents start. -/
def contentsStart : List OpenElement → Nat
  | [] => 1
  | e :: outer => size top outer + 1 + e.attributes.length

/-- Its contents so far. -/
def contents : List OpenElement → List Tree
  | [] => top.reverse
  | e :: _ => e.contents.reverse

theorem size_eq (opened : List OpenElement) :
    size top opened = contentsStart top opened + sizes (contents top opened) := by
  cases opened <;> rfl

theorem size_pos (opened : List OpenElement) : 0 < size top opened := by
  cases opened <;> simp only [size] <;> omega

/-- The node of an element that is still open, or the document node, if its next child is at the
place `next`. -/
def holderNode (next : Option Nat) (opened : List OpenElement) : Node where
  kind := match opened with
    | [] => .document
    | _ :: _ => .element
  name := match opened with
    | [] => .none
    | e :: _ => e.name
  value := ""
  isDeclaration := false
  parent := match opened with
    | [] => none
    | _ :: outer => some (holder top outer)
  firstChild := (firstId? (contentsStart top opened) (contents top opened)).or next
  lastChild := next.or (lastId? (contentsStart top opened) (contents top opened))
  previous := match opened with
    | [] => none
    | _ :: outer => lastId? (contentsStart top outer) (contents top outer)
  next := none
  attributeStart := match opened with
    | [] => 0
    | _ :: outer => size top outer + 1
  attributeCount := match opened with
    | [] => 0
    | e :: _ => e.attributes.length
  last := holder top opened

/-- The first child of the node that holds what comes next is its last one too. -/
theorem holderNode_first {opened : List OpenElement} (h : contents top opened = []) (id : Nat) :
    { holderNode top none opened with firstChild := some id, lastChild := some id } =
      holderNode top (some id) opened := by
  simp only [holderNode, h, firstId?, Option.none_or, Option.some_or]

/-- A further child is the last one. -/
theorem holderNode_next {opened : List OpenElement} {t : Tree} {ts : List Tree}
    (h : contents top opened = t :: ts) (id : Nat) :
    { holderNode top none opened with lastChild := some id } =
      holderNode top (some id) opened := by
  simp only [holderNode, h, firstId?, Option.some_or]

/-- The nodes so far, if the next child of the node that holds it is at the place `next`. -/
def table (next : Option Nat) : List OpenElement → List Node
  | [] => holderNode top next [] :: layoutsTo 1 0 none next top.reverse
  | e :: outer =>
    table (some (size top outer)) outer ++ holderNode top next (e :: outer) ::
      (TreeAttribute.layouts (size top outer + 1) (size top outer) e.attributes ++
        layoutsTo (contentsStart top (e :: outer)) (size top outer) none next e.contents.reverse)

theorem length_table (next : Option Nat) (opened : List OpenElement) :
    (table top next opened).length = size top opened := by
  induction opened generalizing next with
  | nil => rw [table, List.length_cons, Tree.length_layoutsTo, size, Nat.add_comm]
  | cons e outer ih =>
    rw [table, List.length_append, ih, List.length_cons, List.length_append,
      Tree.length_attributeLayouts, Tree.length_layoutsTo, size]
    omega

/-- Only the node that holds what comes next and the nodes of its contents depend on it. -/
theorem exists_table_eq (opened : List OpenElement) :
    ∃ before attributes : List Node, before.length = holder top opened ∧
      holder top opened + 1 + attributes.length = contentsStart top opened ∧
      ∀ next, table top next opened = before ++ holderNode top next opened ::
        (attributes ++ layoutsTo (contentsStart top opened) (holder top opened) none next
          (contents top opened)) := by
  cases opened with
  | nil => exact ⟨[], [], rfl, rfl, fun _ => rfl⟩
  | cons e outer =>
    refine ⟨table top (some (size top outer)) outer,
      TreeAttribute.layouts (size top outer + 1) (size top outer) e.attributes, length_table ..,
      ?_, fun _ => rfl⟩
    rw [Tree.length_attributeLayouts]
    rfl

/-- **A further tree comes behind the nodes so far**, linked to the sibling in front of it. -/
theorem table_add (b : Builder) (t : Tree) :
    table (b.add t).top none (b.add t).opened =
      table b.top (some (size b.top b.opened)) b.opened ++
        t.layout (size b.top b.opened) (holder b.top b.opened)
          (lastId? (contentsStart b.top b.opened) (contents b.top b.opened)) none := by
  obtain ⟨opened, top, scope⟩ := b
  cases opened with
  | nil =>
    -- What the holder would know of its next child it knows of the one that has come.
    have hnode : holderNode (t :: top) none [] = holderNode top (some (size top [])) [] := by
      simp only [holderNode, contents, List.reverse_cons, Tree.firstId?_concat,
        Tree.lastId?_concat, Option.or_none, Option.none_or, Option.some_or]
      rfl
    simp only [add, table, List.reverse_cons, Tree.layoutsTo_concat, hnode, Option.or_none,
      List.cons_append]
    rfl
  | cons e outer =>
    have hnode : holderNode top none ({ e with contents := t :: e.contents } :: outer) =
        holderNode top (some (size top (e :: outer))) (e :: outer) := by
      simp only [holderNode, contents, List.reverse_cons, Tree.firstId?_concat,
        Tree.lastId?_concat, Option.or_none, Option.none_or, Option.some_or]
      rfl
    simp only [add, table, List.reverse_cons, Tree.layoutsTo_concat, hnode, Option.or_none,
      List.cons_append, List.append_assoc]
    rfl

/-- An element that is opened comes behind the nodes so far, with its attributes. -/
theorem table_open (written : String) (name : Name) (attributes : List TreeAttribute)
    (opened : List OpenElement) :
    table top none (⟨written, name, attributes, []⟩ :: opened) =
      table top (some (size top opened)) opened ++
        holderNode top none (⟨written, name, attributes, []⟩ :: opened) ::
          TreeAttribute.layouts (size top opened + 1) (size top opened) attributes := by
  rw [table, List.reverse_nil, layoutsTo, List.append_nil]

/-- An element becomes a tree where its node learns where the element ends. -/
theorem table_close (b : Builder) (e : OpenElement) :
    let closed := b.add (.element e.name e.attributes e.contents.reverse)
    table closed.top none closed.opened =
      table b.top (some (size b.top b.opened)) b.opened ++
        { holderNode b.top none (e :: b.opened) with last := size b.top (e :: b.opened) - 1 } ::
          (TreeAttribute.layouts (size b.top b.opened + 1) (size b.top b.opened) e.attributes ++
            layoutsTo (contentsStart b.top (e :: b.opened)) (size b.top b.opened) none none
              e.contents.reverse) := by
  dsimp only
  rw [table_add, Tree.layoutsTo_none, Tree.layout]
  simp only [holderNode, contents, Option.or_none, Option.none_or]
  rw [size, contentsStart]

/-- The table is that of a document as soon as its first node knows where it ends. -/
theorem table_nil_closed :
    { holderNode top none [] with last := size top [] - 1 } ::
        layoutsTo 1 0 none none top.reverse =
      Document.topNode top.reverse :: layouts 1 0 none top.reverse := by
  rw [Tree.layoutsTo_none, size, Nat.add_sub_cancel_left]
  simp only [holderNode, contents, Option.or_none, Option.none_or]
  rfl

end Builder

end XmlQuery
