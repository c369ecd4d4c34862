import XmlQuery.Document.Parse
import XmlQuery.Proofs.Document.NumberedTags
import XmlQuery.Proofs.Markup.EventGrammar

/-!
# Assembling

An assembly represents a state that collects trees: its arena shows the table so far, and its open
elements stand where the table has them. Taking an event keeps this, and fails exactly if the state
with trees does, with the same fault. So the arena of a reading shows the table of the trees that
the reading has, whatever store keeps the strings, as long as these can be numbered.

## Main definitions

* `Assembly.Represents`: an assembly represents a state that collects trees
* `eventStrings`, `Builder.interned`, `internedStrings`: the strings that events bring

## Main results

* `Represents.step`: **taking an event keeps what an assembly represents**
* `Represents.run`: so do events in order
* `agree_ofReading`: **the arena of a reading shows the table of its trees**
* `Document.ofText_eq`: **the document of a text has the trees of its reading**
* `Document.exists_ofReading_pool`: a pool numbers its strings as well
-/

namespace XmlQuery

open Builder (contents contentsStart holderNode size table)
open Markup (Attribute ErrorKind Event Fault Placed Reading)
open Namespace (Resolver Scope)
open Text (Store LawfulStore addAll addAll_append isPrefix_addAll mem_addAll mem_add_self)
open Text.LawfulStore (Fits Holds number number_inj number_empty number_of_isPrefix empty_mem
  fits_of_isPrefix)
open Text.Pool (add isPrefix_add)
open XmlQuery.Tree (firstId? lastId? layouts layoutsTo rootId)

namespace Builder

/-- The open elements with their places. -/
def openNodes (top : List Tree) : List OpenElement → List OpenNode
  | [] => []
  | e :: outer => ⟨size top outer, e.written⟩ :: openNodes top outer

/-- The root element, open or closed, as soon as there is one. -/
def root? (b : Builder) : Option Nat :=
  if b.atTop && !b.hasRoot then none else some (rootId 1 b.top.reverse)

/-- What an assembly knows besides its nodes, its strings and its bindings. -/
def rest (b : Builder) : List OpenNode × Bool × Option Nat :=
  (openNodes b.top b.opened, b.top.any (·.isDoctype), b.root?)

theorem rootId_append_of_any {id : Nat} {ts us : List Tree}
    (h : ts.any (·.isElement) = true) : rootId id (ts ++ us) = rootId id ts := by
  induction ts generalizing id with
  | nil => cases h
  | cons t ts ih =>
    rw [List.cons_append, rootId, rootId]
    by_cases ht : t.isElement = true
    · rw [if_pos ht, if_pos ht]
    · rw [if_neg ht, if_neg ht]
      rw [List.any_cons, Bool.or_eq_true] at h
      exact ih (h.resolve_left ht)

/-- Behind trees of which none is an element, it is where they end. -/
theorem rootId_append_of_not_any {id : Nat} {ts us : List Tree}
    (h : ts.any (·.isElement) = false) :
    rootId id (ts ++ us) = rootId (id + Tree.sizes ts) us := by
  induction ts generalizing id with
  | nil => rfl
  | cons t ts ih =>
    rw [List.any_cons, Bool.or_eq_false_iff] at h
    rw [List.cons_append, rootId, if_neg (Bool.not_eq_true _ ▸ h.1), ih h.2, Tree.sizes,
      Nat.add_assoc]

/-- An element that is opened or closed at the top is the root element, if there is none yet. -/
theorem rootId_eq_size {top : List Tree} (h : top.any (·.isElement) = false) :
    rootId 1 top.reverse = size top [] := by
  rw [← List.any_reverse] at h
  have happend : rootId 1 (top.reverse ++ []) = _ := rootId_append_of_not_any h
  rw [List.append_nil] at happend
  exact happend

theorem root?_of_opened {b : Builder} (h : b.opened ≠ []) :
    b.root? = some (rootId 1 b.top.reverse) := by
  rw [root?, atTop, List.isEmpty_eq_false_iff.2 h]
  rfl

theorem root?_isSome {b : Builder} (h : b.atTop = true) : b.root?.isSome = b.hasRoot := by
  rw [root?, h]
  cases b.hasRoot <;> rfl

/-- With an element, there is a root element. -/
theorem root?_add_element (b : Builder) (name : Name) (attributes : List TreeAttribute)
    (contents : List Tree) :
    (b.add (.element name attributes contents)).root? = some (rootId 1 b.top.reverse) := by
  obtain ⟨opened, top, scope⟩ := b
  cases opened with
  | nil =>
    change some (rootId 1 (_ :: top).reverse) = _
    rw [List.reverse_cons]
    by_cases h : top.reverse.any (·.isElement) = true
    · rw [rootId_append_of_any h]
    · rw [Bool.not_eq_true] at h
      rw [rootId_append_of_not_any h, rootId_eq_size (List.any_reverse.symm.trans h)]
      rfl
  | cons e outer => rfl

/-- A leaf is not the root element. -/
theorem root?_add_leaf (b : Builder) (kind : LeafKind) (value : String) :
    (b.add (.leaf kind value)).root? = b.root? := by
  obtain ⟨opened, top, scope⟩ := b
  cases opened with
  | nil =>
    change (if (true && !top.any (·.isElement)) = true then none
      else some (rootId 1 (_ :: top).reverse)) =
        if (true && !top.any (·.isElement)) = true then none else some (rootId 1 top.reverse)
    cases h : top.any (·.isElement) with
    | true => rw [List.reverse_cons, rootId_append_of_any (List.any_reverse.trans h)]
    | false => rfl
  | cons e outer => rfl

theorem openNodes_add (b : Builder) (t : Tree) :
    openNodes (b.add t).top (b.add t).opened = openNodes b.top b.opened := by
  obtain ⟨opened, top, scope⟩ := b
  cases opened <;> rfl

/-- A leaf changes what is known only if it is a document type declaration. -/
theorem rest_add_leaf {b : Builder} {kind : LeafKind} {value : String} (h : kind ≠ .doctype) :
    (b.add (.leaf kind value)).rest = b.rest := by
  rw [rest, openNodes_add, root?_add_leaf, rest]
  obtain ⟨opened, top, scope⟩ := b
  cases opened with
  | nil => cases kind <;> first | rfl | exact absurd rfl h
  | cons e outer => rfl

theorem rest_add_doctype {b : Builder} {value : String} (h : b.opened = []) :
    (b.add (.leaf .doctype value)).rest = (openNodes b.top b.opened, true, b.root?) := by
  rw [rest, openNodes_add, root?_add_leaf]
  obtain ⟨opened, top, scope⟩ := b
  cases h
  rfl

theorem rest_add_element {b : Builder} {name : Name} {attributes : List TreeAttribute}
    {contents : List Tree} :
    (b.add (.element name attributes contents)).rest =
      (openNodes b.top b.opened, b.top.any (·.isDoctype), some (rootId 1 b.top.reverse)) := by
  rw [rest, openNodes_add, root?_add_element]
  obtain ⟨opened, top, scope⟩ := b
  cases opened <;> rfl

end Builder

/-- The strings of a start tag. -/
def tagStrings (written : String) (attributes : List Attribute) : List String :=
  (attributes.filter (·.isDeclaration)).flatMap declarationStrings ++ nameStrings written ++
    attributes.flatMap attributeStrings

/-- The strings of an event, at the top of the document or in an element. -/
def eventStrings (atTop : Bool) : Event → List String
  | .declaration content => ["xml", content]
  | .instruction target content => [target, content]
  | .comment data | .doctype data | .cdata data => [data]
  | .text data => if atTop then [] else [data]
  | .startTag name attributes _ => tagStrings name attributes
  | .endTag _ => []

/-- The strings of events, as far as they are taken. -/
def Builder.interned (b : Builder) : List Placed → List String
  | [] => []
  | e :: rest =>
    eventStrings b.atTop e.event ++
      match b.step e.offset e.event with
      | .error _ => []
      | .ok b => b.interned rest

namespace Assembly

variable {σ ι : Type} [Store σ ι] [OfNat ι 0] [LawfulStore σ]

/-- An assembly represents a state that collects trees. -/
structure Represents (strings : List String) (a : Assembly σ ι) (b : Builder) : Prop where
  /-- The arena shows the table so far, and the bindings are those of the scope. -/
  stands : a.Stands strings (table b.top none b.opened) b.scope
  /-- The rest is as the trees say. -/
  rest_eq : a.rest = b.rest

variable {strings : List String} {a : Assembly σ ι} {b : Builder} {s : Scope}

section

omit [Store σ ι] [OfNat ι 0] [LawfulStore σ]

theorem rest_append (a : Assembly σ ι) (n : ArenaNode ι) : (a.append n).rest = a.rest := by
  rw [rest, append, Arena.append, Arena.link]
  split <;> rfl

theorem holder_eq (h : a.rest = b.rest) : a.holder = Builder.holder b.top b.opened := by
  have hopened : a.opened = Builder.openNodes b.top b.opened := congrArg (·.1) h
  rw [holder, hopened]
  cases b.opened <;> rfl

theorem isEmpty_opened (h : a.rest = b.rest) : a.opened.isEmpty = b.atTop := by
  have hopened : a.opened = Builder.openNodes b.top b.opened := congrArg (·.1) h
  rw [hopened, Builder.atTop]
  cases b.opened <;> rfl

/-- Whether there is a root element is known at the top. -/
theorem isSome_root (h : a.rest = b.rest) (htop : b.atTop = true) :
    a.arena.root.isSome = b.hasRoot := by
  have hroot : a.arena.root = b.root? := congrArg (·.2.2) h
  rw [hroot, Builder.root?_isSome htop]

end

namespace Stands

/-- A leaf comes behind the nodes so far. -/
theorem append_leaf (h : a.Stands strings (table b.top none b.opened) s) (kind : LeafKind)
    {value : String} (hname : kind.name.strings ⊆ strings) (hvalue : value ∈ strings) :
    (a.append (((Tree.leaf kind value).node 0 (Builder.holder b.top b.opened) none none).numbered
      (number σ strings))).Stands strings
        (table (b.add (.leaf kind value)).top none (b.add (.leaf kind value)).opened) s := by
  refine ⟨?_, h.resolver⟩
  rw [Builder.table_add]
  exact h.shows.append
    (n := (Tree.leaf kind value).node 0 (Builder.holder b.top b.opened) none none)
    (List.cons_subset.2 ⟨hvalue, hname⟩) rfl rfl

/-- A leaf without a name comes behind the nodes so far. -/
theorem addLeaf (h : a.Stands strings (table b.top none b.opened) s) (hfits : Fits σ strings)
    (kind : LeafKind) (hkind : kind.name = .none) (value : String) :
    (a.addLeaf kind.nodeKind (Builder.holder b.top b.opened) value).Stands (add strings value)
      (table (b.add (.leaf kind value)).top none (b.add (.leaf kind value)).opened) s ∧
      (a.addLeaf kind.nodeKind (Builder.holder b.top b.opened) value).rest = a.rest := by
  obtain ⟨hvalue, ha⟩ := h.intern hfits value
  have hempty := empty_mem ha.shows.holds
  have hleaf := ha.append_leaf kind
    (hkind ▸ Name.strings_subset hempty hempty hempty) (mem_add_self strings value)
  have hnode : ArenaNode.leaf kind.nodeKind (Builder.holder b.top b.opened)
      (number σ (add strings value) value) =
        ((Tree.leaf kind value).node 0 (Builder.holder b.top b.opened) none none).numbered
          (number σ (add strings value)) := by
    simp only [ArenaNode.leaf, ArenaNode.new, Node.numbered, Tree.node, Tree.name, hkind,
      Name.numbered, Name.none, number_empty ha.shows.holds]
    rfl
  refine ⟨?_, rest_append ..⟩
  rw [Assembly.addLeaf]
  dsimp only
  rw [hvalue, hnode]
  exact hleaf

/-- The XML declaration or a processing instruction comes behind the nodes so far. -/
theorem addDeclaration (h : a.Stands strings (table b.top none b.opened) s) {target value : String}
    (hfits : Fits σ (addAll strings [target, value])) :
    (a.addDeclaration (Builder.holder b.top b.opened) target value).Stands
      (addAll strings [target, value])
      (table (b.add (.leaf (.declaration target) value)).top none
        (b.add (.leaf (.declaration target) value)).opened) s ∧
      (a.addDeclaration (Builder.holder b.top b.opened) target value).rest = a.rest := by
  have hadd := isPrefix_add (add strings target) value
  have hfits' : Fits σ (add strings target) := fits_of_isPrefix hfits hadd
  obtain ⟨htarget, ha⟩ := h.intern (fits_of_isPrefix hfits' (isPrefix_add _ _)) target
  obtain ⟨hvalue, ha'⟩ := ha.intern hfits' value
  have hempty := empty_mem ha'.shows.holds
  have hleaf := ha'.append_leaf (.declaration target)
    (Name.strings_subset hempty (hadd.subset (mem_add_self _ _)) hempty) (mem_add_self _ _)
  have hnode : ArenaNode.declaration (Builder.holder b.top b.opened)
      (number σ (add strings target) target) (number σ (add (add strings target) value) value) =
        ((Tree.leaf (.declaration target) value).node 0 (Builder.holder b.top b.opened)
          none none).numbered (number σ (add (add strings target) value)) := by
    rw [← number_of_isPrefix hadd (mem_add_self _ _)]
    simp only [ArenaNode.declaration, ArenaNode.new, Node.numbered, Tree.node, Tree.name,
      LeafKind.name, Name.numbered, Name.none, number_empty ha'.shows.holds]
    rfl
  refine ⟨?_, rest_append ..⟩
  rw [Assembly.addDeclaration]
  dsimp only
  rw [htarget, hvalue, hnode]
  exact hleaf

/-- An element that is closed becomes a tree. -/
theorem close (e : OpenElement) (h : a.Stands strings (table b.top none (e :: b.opened)) s) :
    (a.arena.close (size b.top b.opened)).Shows strings
      (table (b.add (.element e.name e.attributes e.contents.reverse)).top none
        (b.add (.element e.name e.attributes e.contents.reverse)).opened) := by
  have hlength := Builder.length_table b.top none (e :: b.opened)
  have htable := h.shows
  rw [table] at htable hlength
  rw [Builder.table_close, ← hlength, List.length_append, List.length_cons]
  exact htable.close (Builder.length_table ..)

end Stands

/-! ## Elements -/

/-- The node of an element that has just been opened. -/
def openedNode (parent : Nat) (name : Name) : Node where
  kind := .element
  name := name
  value := ""
  isDeclaration := false
  parent := some parent
  firstChild := none
  lastChild := none
  previous := none
  next := none
  attributeStart := 0
  attributeCount := 0
  last := 0

/-- An element that is opened comes behind the nodes so far; the first one at the top is the
root. -/
theorem Stands.addElement (h : a.Stands strings (table b.top none b.opened) s)
    (hrest : a.rest = b.rest) (hroot : b.atTop = true → b.hasRoot = false) {name : Name}
    (hname : name.strings ⊆ strings) :
    (a.addElement (name.numbered (number σ strings))).Stands strings
        (table b.top (some (size b.top b.opened)) b.opened ++
          [{ openedNode (Builder.holder b.top b.opened) name with
            previous := lastId? (contentsStart b.top b.opened) (contents b.top b.opened)
            last := size b.top b.opened }]) s ∧
      (a.addElement (name.numbered (number σ strings))).rest =
        (Builder.openNodes b.top b.opened, b.top.any (·.isDoctype),
          some (rootId 1 b.top.reverse)) := by
  have hempty := empty_mem h.shows.holds
  have hnode : ArenaNode.element (Builder.holder b.top b.opened)
      (name.numbered (number σ strings)) =
      (openedNode (Builder.holder b.top b.opened) name).numbered (number σ strings) := by
    rw [ArenaNode.element, ArenaNode.new, Node.numbered, ← number_empty h.shows.holds]
    rfl
  have happend := h.shows.append (n := openedNode (Builder.holder b.top b.opened) name)
    (List.cons_subset.2 ⟨hempty, hname⟩) rfl rfl
  have hsize : a.arena.nodes.size = size b.top b.opened := by
    rw [h.shows.size_eq, Builder.length_table]
  rw [Assembly.addElement, holder_eq hrest, hnode, hsize]
  dsimp only
  have hrest' := hrest
  rw [← rest_append a ((openedNode (Builder.holder b.top b.opened) name).numbered
    (number σ strings)), Builder.rest] at hrest'
  cases hopened : b.opened with
  | nil =>
    -- There is no root element yet.
    have hroot : b.top.any (·.isElement) = false :=
      hroot (by rw [Builder.atTop, hopened]; rfl)
    rw [hopened] at happend hrest'
    have hholder : Builder.holder b.top [] = 0 := rfl
    rw [if_pos hholder, Builder.rootId_eq_size hroot]
    exact ⟨⟨⟨happend.holds, happend.nodes_eq, happend.known⟩, h.resolver⟩,
      Prod.ext (congrArg (·.1) hrest') (Prod.ext (congrArg (·.2.1) hrest') rfl)⟩
  | cons e outer =>
    -- What is open has the root element around it, or is that.
    have hne : b.opened ≠ [] := hopened ▸ List.cons_ne_nil e outer
    rw [Builder.root?_of_opened hne, hopened] at hrest'
    rw [hopened] at happend
    have hholder : Builder.holder b.top (e :: outer) ≠ 0 := (Builder.size_pos b.top outer).ne'
    rw [if_neg hholder]
    exact ⟨⟨happend, h.resolver⟩, hrest'⟩

/-- Behind its attributes an element is closed, or it is open. -/
theorem Stands.finishTag (written : String) {name : Name} {attributes : List TreeAttribute}
    (h : a.Stands strings (table b.top (some (size b.top b.opened)) b.opened ++
      { openedNode (Builder.holder b.top b.opened) name with
        previous := lastId? (contentsStart b.top b.opened) (contents b.top b.opened)
        last := size b.top b.opened } ::
        TreeAttribute.layouts (size b.top b.opened + 1) (size b.top b.opened) attributes) s)
    (hrest : a.rest = (Builder.openNodes b.top b.opened, b.top.any (·.isDoctype),
      some (rootId 1 b.top.reverse))) (isEmpty : Bool) :
    (a.finishTag (size b.top b.opened) written attributes.length isEmpty).Represents strings
      (if isEmpty then { b.add (.element name attributes []) with scope := s.pop }
      else ⟨⟨written, name, attributes, []⟩ :: b.opened, b.top, s⟩) := by
  have hopened : (a.finishTag (size b.top b.opened) written attributes.length false).Stands strings
      (table b.top none (⟨written, name, attributes, []⟩ :: b.opened)) s := by
    refine ⟨?_, h.resolver⟩
    rw [Builder.table_open]
    exact h.shows.update (f := fun n => { n with
        attributeStart := size b.top b.opened + 1, attributeCount := attributes.length })
      (Builder.length_table ..) (fun n => { n with
        attributeStart := size b.top b.opened + 1, attributeCount := attributes.length }) rfl rfl
  cases isEmpty with
  | false =>
    have hroot := Builder.root?_of_opened
      (b := ⟨⟨written, name, attributes, []⟩ :: b.opened, b.top, s⟩) (List.cons_ne_nil _ _)
    rw [rest, Prod.mk.injEq, Prod.mk.injEq] at hrest
    refine ⟨hopened, Prod.ext ?_ (Prod.ext hrest.2.1 (hrest.2.2.trans hroot.symm))⟩
    exact congrArg (OpenNode.mk (size b.top b.opened) written :: ·) hrest.1
  | true =>
    exact ⟨⟨hopened.close, h.resolver.leave⟩, hrest.trans Builder.rest_add_element.symm⟩

variable [DecidableEq ι]

/-- **Start tags are taken as by trees.** -/
theorem Represents.openElement (h : a.Represents strings b) {offset : Nat} {written : String}
    {attributes : List Attribute} {isEmpty : Bool}
    (hfits : Fits σ (addAll strings (tagStrings written attributes))) :
    Agree Eq (Represents (addAll strings (tagStrings written attributes)))
      (a.openElement offset written attributes isEmpty)
      (b.openElement offset written attributes isEmpty) := by
  -- While an element is open the trees do not tell yet whether there is a root element.
  have hguard : (a.opened.isEmpty && a.arena.root.isSome) = (b.atTop && b.hasRoot) := by
    rw [isEmpty_opened h.rest_eq]
    cases htop : b.atTop with
    | false => rfl
    | true => rw [isSome_root h.rest_eq htop]
  rw [tagStrings, addAll_append, addAll_append] at hfits ⊢
  rw [Assembly.openElement, Builder.openElement]
  dsimp only
  rw [hguard]
  refine .ite (fun _ => .error rfl) fun hroot => ?_
  have hnames := fits_of_isPrefix hfits (isPrefix_addAll _ _)
  have hentered : Stands strings (table b.top none b.opened) b.scope.push
      ({ a with resolver := a.resolver.enter } : Assembly σ ι) :=
    ⟨h.stands.shows, h.stands.resolver.enter⟩
  refine (hentered.declareAll (fits_of_isPrefix hnames (isPrefix_addAll _ _))).bind ?_
  rintro a' s ⟨ha', hrest⟩
  refine ((ha'.elementName written hnames).mapError fun _ _ => congrArg _).bind ?_
  rintro ⟨_, a''⟩ name ⟨rfl, hname, ha'', hrest'⟩
  have hplain : b.atTop = true → b.hasRoot = false := fun htop => by
    rw [htop, Bool.true_and, Bool.not_eq_true] at hroot
    exact hroot
  obtain ⟨hadded, hknown⟩ := ha''.addElement ((hrest'.trans hrest).trans h.rest_eq) hplain hname
  have hattributes := hadded.addAttributes (size b.top b.opened) [] [] attributes nofun hfits
  have hsize : a''.arena.nodes.size = size b.top b.opened := by
    rw [ha''.shows.size_eq, Builder.length_table]
  dsimp only
  rw [hsize]
  refine hattributes.bind ?_
  rintro a₃ resolved ⟨ha₃, hrest'', hlength⟩
  rw [List.length_append, Builder.length_table, List.append_assoc] at ha₃
  have hfinished := ha₃.finishTag written (hrest''.trans hknown) isEmpty
  rw [hlength] at hfinished
  cases isEmpty <;> exact .ok hfinished

omit [DecidableEq ι] in
/-- **End tags are taken as by trees.** -/
theorem Represents.closeElement (h : a.Represents strings b) (offset : Nat) (written : String) :
    Agree Eq (Represents strings) (a.closeElement offset written)
      (b.closeElement offset written) := by
  obtain ⟨opened, top, s⟩ := b
  rw [Assembly.closeElement, Builder.closeElement]
  cases opened with
  | nil =>
    have hopened : a.opened = [] := congrArg (·.1) h.rest_eq
    rw [hopened]
    exact .error rfl
  | cons e outer =>
    have hopened : a.opened = ⟨size top outer, e.written⟩ :: Builder.openNodes top outer :=
      congrArg (·.1) h.rest_eq
    rw [hopened]
    dsimp only
    refine .ite (fun _ => .ok ⟨⟨?_, h.stands.resolver.leave⟩, ?_⟩) fun _ => .error rfl
    · exact h.stands.close (b := ⟨outer, top, s⟩) e
    · have hrest := h.rest_eq
      rw [Builder.rest, Builder.root?_of_opened (List.cons_ne_nil e outer), rest,
        Prod.mk.injEq] at hrest
      have hclosed := @Builder.rest_add_element ⟨outer, top, s⟩ e.name e.attributes
        e.contents.reverse
      refine Eq.trans ?_ hclosed.symm
      exact Prod.ext rfl hrest.2

/-! ## Events -/

omit [DecidableEq ι] in
/-- A leaf but for a document type declaration changes nothing that is known besides. -/
theorem Represents.of_leaf (h : a.Represents strings b) {longer : List String}
    {a' : Assembly σ ι} (kind : LeafKind) {value : String} (hkind : kind ≠ .doctype)
    (ha' : a'.Stands longer
      (table (b.add (.leaf kind value)).top none (b.add (.leaf kind value)).opened) b.scope ∧
        a'.rest = a.rest) :
    a'.Represents longer (b.add (.leaf kind value)) :=
  ⟨Builder.scope_add (b := b) _ ▸ ha'.1,
    ha'.2.trans (h.rest_eq.trans (Builder.rest_add_leaf hkind).symm)⟩

/-- A document type declaration is taken at the top, in front of the root element and as the only
one. -/
theorem Represents.takeDoctype (h : a.Represents strings b) (hfits : Fits σ strings) (offset : Nat)
    (body : String) :
    Agree Eq (Represents (add strings body)) (a.step offset (.doctype body))
      (b.step offset (.doctype body)) := by
  have hdoctype : a.hasDoctype = b.top.any (·.isDoctype) := congrArg (·.2.1) h.rest_eq
  have hguard : (!a.opened.isEmpty || a.hasDoctype || a.arena.root.isSome) =
      (!b.atTop || b.top.any (·.isDoctype) || b.hasRoot) := by
    rw [isEmpty_opened h.rest_eq, hdoctype]
    cases htop : b.atTop with
    | false => rfl
    | true => rw [isSome_root h.rest_eq htop]
  rw [Assembly.step, hguard, Builder.step]
  refine .ite (fun _ => .error rfl) fun hfree => ?_
  have hopened : b.opened = [] := by
    rw [Bool.or_eq_true, Bool.or_eq_true, not_or, not_or, Bool.not_eq_true,
      Bool.not_eq_false'] at hfree
    exact List.isEmpty_iff.1 hfree.1.1
  have hmarked : ({ a with hasDoctype := true } : Assembly σ ι).Stands strings
      (table b.top none b.opened) b.scope := ⟨h.stands.shows, h.stands.resolver⟩
  obtain ⟨hstands, hrest⟩ := hmarked.addLeaf hfits .doctype rfl body
  have hknown := h.rest_eq
  rw [rest, Builder.rest, Prod.mk.injEq, Prod.mk.injEq] at hknown
  have hnode : Represents (add strings body)
      (({ a with hasDoctype := true } : Assembly σ ι).addLeaf .doctype
        (Builder.holder b.top b.opened) body) (b.add (.leaf .doctype body)) :=
    ⟨Builder.scope_add (b := b) _ ▸ hstands, hrest.trans <| by
      rw [Builder.rest_add_doctype hopened]
      exact Prod.ext hknown.1 (Prod.ext rfl hknown.2.2)⟩
  rw [hopened] at hnode
  exact .ok hnode

/-- **Taking an event keeps what an assembly represents**, and fails with the same fault. The XML
declaration is at the top. -/
theorem Represents.step (h : a.Represents strings b) (offset : Nat) {e : Event}
    (hfits : Fits σ (addAll strings (eventStrings b.atTop e)))
    (hfirst : ∀ content, e = .declaration content → b.atTop = true) :
    Agree Eq (Represents (addAll strings (eventStrings b.atTop e))) (a.step offset e)
      (b.step offset e) := by
  have hholder := holder_eq h.rest_eq
  have hempty := isEmpty_opened h.rest_eq
  have hstrings : Fits σ strings := fits_of_isPrefix hfits (isPrefix_addAll _ _)
  cases e with
  | declaration content =>
    -- It goes to the document whatever is open, so the trees agree at the top only.
    have hopened := List.isEmpty_iff.1 (hfirst content rfl)
    have hnode := h.of_leaf (.declaration "xml") (by rintro ⟨⟩) (h.stands.addDeclaration hfits)
    rw [hopened] at hnode
    exact .ok hnode
  | instruction target content =>
    rw [Assembly.step, hholder]
    exact .ok (h.of_leaf (.declaration target) (by rintro ⟨⟩) (h.stands.addDeclaration hfits))
  | comment data =>
    rw [Assembly.step, hholder]
    exact .ok (h.of_leaf .comment (by rintro ⟨⟩) (h.stands.addLeaf hstrings .comment rfl data))
  | doctype body => exact h.takeDoctype hstrings offset body
  | text data =>
    rw [Assembly.step, hholder, hempty, Builder.step]
    rw [eventStrings] at hfits ⊢
    cases htop : b.atTop with
    | true =>
      -- Blank text at the top leaves neither a node nor a string.
      exact .ite (fun _ => .ite (fun _ => .ok h) fun _ => .error rfl) fun htop => absurd rfl htop
    | false =>
      rw [htop] at hfits
      exact .ok (h.of_leaf .text (by rintro ⟨⟩) (h.stands.addLeaf hstrings .text rfl data))
  | cdata data =>
    rw [Assembly.step, hholder, hempty, Builder.step]
    refine .ite (fun _ => .error rfl) fun _ => ?_
    exact .ok (h.of_leaf .cdata (by rintro ⟨⟩) (h.stands.addLeaf hstrings .cdata rfl data))
  | startTag name attributes isEmpty => exact h.openElement hfits
  | endTag name => exact h.closeElement offset name

/-- **Events in order keep what an assembly represents**, if the XML declaration is only the first
of them, at the top. -/
theorem Represents.run (h : a.Represents strings b) {events : List Placed}
    (hfits : Fits σ (addAll strings (b.interned events)))
    (hfirst : ∀ e ∈ events.head?, ∀ content, e.event = .declaration content → b.atTop = true)
    (hplain : ∀ e ∈ events.tail, ∀ content, e.event ≠ .declaration content) :
    Agree Eq (Represents (addAll strings (b.interned events))) (a.run events) (b.run events) := by
  induction events generalizing strings a b with
  | nil => exact .ok h
  | cons e rest ih =>
    rw [Builder.interned, addAll_append] at hfits ⊢
    rw [Assembly.run, Builder.run, List.foldlM_cons, List.foldlM_cons]
    have hstep := h.step e.offset (fits_of_isPrefix hfits (isPrefix_addAll _ _))
      (hfirst e rfl)
    rcases hstep.exists_eq with ⟨a', b', ha', hb', hrepresents⟩ | ⟨_, _, ha', hb', rfl⟩
    · rw [hb'] at hfits ⊢
      rw [ha']
      refine ih hrepresents hfits (fun e he content hdeclaration => ?_) fun e he => ?_
      · exact absurd hdeclaration (hplain e (List.mem_of_mem_head? he) content)
      · exact hplain e (List.mem_of_mem_tail he)
    · rw [ha', hb']
      exact .error rfl

omit [DecidableEq ι] in
/-- The assembly in front of a document represents the state there. -/
theorem represents_start (hfits : Fits σ (addAll [""] Namespace.knownNames)) :
    (start : Assembly σ ι).Represents (addAll [""] Namespace.knownNames) .start := by
  obtain ⟨hholds, hmatches⟩ := Resolver.matches_new (LawfulStore.holds_empty (σ := σ)) hfits
  have hempty := empty_mem hholds
  have hnode : ArenaNode.new .document none = (holderNode [] none []).numbered
      (number σ (addAll [""] Namespace.knownNames)) := by
    rw [ArenaNode.new, ← number_empty hholds]
    rfl
  refine ⟨⟨⟨hholds, congrArg ([·]) hnode, fun n hn => ?_⟩, hmatches⟩, rfl⟩
  rw [List.mem_singleton.1 hn]
  exact List.cons_subset.2 ⟨hempty, Name.strings_subset hempty hempty hempty⟩

omit [DecidableEq ι] in
/-- What has been assembled at the end is the table of the trees. -/
theorem Represents.finish (h : a.Represents strings b) (offset : Nat) :
    Agree Eq (fun arena trees =>
        arena.Shows strings (Document.topNode trees :: layouts 1 0 none trees) ∧
          arena.root = some (rootId 1 trees))
      (a.finish offset) (b.finish offset) := by
  obtain ⟨opened, top, s⟩ := b
  have hopened : a.opened = Builder.openNodes top opened := congrArg (·.1) h.rest_eq
  have hroot : a.arena.root = Builder.root? ⟨opened, top, s⟩ := congrArg (·.2.2) h.rest_eq
  rw [Assembly.finish, Builder.finish, hopened]
  cases opened with
  | cons e outer => exact .error rfl
  | nil =>
    dsimp only [Builder.openNodes]
    rw [hroot, Builder.root?]
    cases hany : Builder.hasRoot ⟨[], top, s⟩ with
    | false => exact .error rfl
    | true =>
      -- The document node learns where the document ends.
      have hlength := Builder.length_table top none []
      have htable := h.stands.shows
      rw [table] at htable hlength
      have htable : a.arena.Shows strings ([] ++ _ :: _) := htable
      have hclosed := htable.close rfl
      rw [List.length_nil, Nat.zero_add, ← Nat.add_sub_cancel (n := List.length _) (m := 1),
        ← List.length_cons, hlength, List.nil_append, Builder.table_nil_closed] at hclosed
      refine .ok ⟨hclosed, ?_⟩
      exact hroot.trans (by rw [Builder.root?, hany]; rfl)

end Assembly

/-- The strings of a reading, in the order in which they are numbered. -/
def internedStrings (reading : Reading) : List String :=
  addAll (addAll [""] Namespace.knownNames) (Builder.start.interned reading.events)

variable {σ ι : Type} [Store σ ι] [OfNat ι 0] [LawfulStore σ] [DecidableEq ι]

/-- **The arena of a reading shows the table of its trees**, whatever store keeps the strings, and
there is none exactly if there are no trees, because of the same fault. -/
theorem agree_ofReading (reading : Reading) (hfits : Fits σ (internedStrings reading))
    (hplain : ∀ e ∈ reading.events.tail, ∀ content, e.event ≠ .declaration content) :
    Agree Eq (fun arena trees => Holds (internedStrings reading) arena.strings ∧
      arena.document = .ofTrees trees) (Arena.ofReading σ reading) (buildTrees reading) := by
  have hstart := Assembly.represents_start (σ := σ) (fits_of_isPrefix hfits (isPrefix_addAll _ _))
  rw [Arena.ofReading, buildTrees]
  rcases (hstart.run hfits (fun _ _ _ _ => rfl) hplain).exists_eq with
    ⟨a, b, ha, hb, hrepresents⟩ | ⟨_, _, ha, hb, rfl⟩
  · rw [ha, hb]
    cases reading.outcome with
    | error failure => exact .error rfl
    | ok offset =>
      refine (hrepresents.finish offset).mono ?_
      rintro arena trees ⟨hshows, hroot⟩
      exact ⟨hshows.holds, (hshows.nodes_document hfits).trans (by rw [hroot]; rfl)⟩
  · rw [ha, hb]
    exact .error rfl

/-- **The document of a text has the trees of its reading.** -/
theorem Document.ofText_eq (text : List Char) :
    Document.ofText text = (buildTrees (Markup.readAll text)).map Document.ofTrees := by
  have hagree := agree_ofReading (σ := Text.Register) (Markup.readAll text) trivial
    (Markup.ne_declaration_of_readAll text)
  rw [Document.ofText]
  rcases hagree.exists_eq with ⟨arena, trees, harena, htrees, -, hdocument⟩ |
    ⟨_, _, harena, htrees, rfl⟩
  · rw [harena, htrees]
    exact congrArg Except.ok hdocument
  · rw [harena, htrees]
    rfl

/-- A pool of strings that fit into 32 bits serves as well, whatever its hash. -/
theorem Document.exists_ofReading_pool {text : List Char} {d : Document}
    (h : Document.ofText text = .ok d) (hash : String → UInt64)
    (hfits : Text.Pool.Fits (internedStrings (Markup.readAll text))) :
    ∃ arena : Arena (Text.Pool hash) UInt32,
      Arena.ofReading (Text.Pool hash) (Markup.readAll text) = .ok arena ∧ arena.document = d := by
  rw [ofText_eq, map_eq_ok_iff] at h
  obtain ⟨trees, htrees, rfl⟩ := h
  have hagree := agree_ofReading (σ := Text.Pool hash) _ hfits
    (Markup.ne_declaration_of_readAll text)
  rcases hagree.exists_eq with ⟨arena, trees', harena, htrees', -, hdocument⟩ | ⟨_, _, -, hfault, -⟩
  · rw [htrees] at htrees'
    cases htrees'
    exact ⟨arena, harena, hdocument⟩
  · rw [htrees] at hfault
    cases hfault

end XmlQuery
