import XmlQuery.Proofs.Document.Assembling
import XmlQuery.Proofs.Markup.Rewriting

/-!
# Line ends in documents

A document does not depend on the line ends of its text: line feeds, carriage returns with line
feeds and carriage returns alone lead to the same table of nodes. The exceptions are the values of
the XML declaration and of a document type declaration, which are kept as they are written. A text
that is refused is refused for the same reason, although at another offset.

The builder is followed along two readings that correspond: its states are the same up to the line
ends of such leaves, and it looks at values only where these have been normalised.

## Main definitions

* `Node.isVerbatim`: the nodes whose values are kept as they are written
* `Document.withLineEnds`: a document with other line ends in the values of these nodes

## Main results

* `Document.ofTrees_withLineEndsAll`: the table of trees with other line ends
* `Builder.step_alike`, `Builder.run_alike`: one event and all events lead to the same state
* `Document.parseText_write`: **line ends make no difference**
-/

namespace XmlQuery

open Markup (Attribute Event Fault Failure Placed Reading)
open Namespace (Scope)
open Text (LineEnd)

/-! ## Documents with other line ends -/

/-- The leaf is kept as it is written: the XML declaration or a document type declaration. -/
def LeafKind.isVerbatim : LeafKind → Bool
  | .declaration target => target == "xml"
  | .doctype => true
  | _ => false

mutual

/-- A tree with other line ends in what is kept as it is written. -/
def Tree.withLineEnds (e : LineEnd) : Tree → Tree
  | .element name attributes contents =>
    .element name attributes (Tree.withLineEndsAll e contents)
  | .leaf kind value => .leaf kind (if kind.isVerbatim then e.rewrite value else value)

/-- Trees with other line ends in what is kept as it is written. -/
def Tree.withLineEndsAll (e : LineEnd) : List Tree → List Tree
  | [] => []
  | t :: ts => t.withLineEnds e :: Tree.withLineEndsAll e ts

end

/-- The node is the XML declaration or a document type declaration, whose values are kept as they
are written. -/
def Node.isVerbatim (n : Node) : Bool :=
  n.kind == .doctype || n.kind == .declaration && n.name.localPart == "xml"

/-- A node with other line ends in its value, if that is kept as it is written. -/
def Node.withLineEnds (e : LineEnd) (n : Node) : Node :=
  if n.isVerbatim then { n with value := e.rewrite n.value } else n

/-- A document with other line ends in the values that are kept as they are written. -/
def Document.withLineEnds (e : LineEnd) (d : Document) : Document :=
  { d with nodes := d.nodes.map (·.withLineEnds e) }

variable {e : LineEnd}

namespace Tree

theorem withLineEndsAll_eq_map (ts : List Tree) :
    withLineEndsAll e ts = ts.map (·.withLineEnds e) := by
  induction ts with
  | nil => rfl
  | cons t ts ih => rw [withLineEndsAll, ih, List.map_cons]

@[simp] theorem isElement_withLineEnds (t : Tree) : (t.withLineEnds e).isElement = t.isElement := by
  cases t <;> rfl

@[simp] theorem isDoctype_withLineEnds (t : Tree) : (t.withLineEnds e).isDoctype = t.isDoctype := by
  cases t with
  | element => rfl
  | leaf kind value => cases kind <;> rfl

mutual

@[simp] theorem size_withLineEnds (t : Tree) : (t.withLineEnds e).size = t.size := by
  cases t with
  | element name attributes contents =>
    rw [withLineEnds, size, size, sizes_withLineEndsAll]
  | leaf kind value => rfl

@[simp] theorem sizes_withLineEndsAll (ts : List Tree) :
    sizes (withLineEndsAll e ts) = sizes ts := by
  cases ts with
  | nil => rfl
  | cons t ts => rw [withLineEndsAll, sizes, sizes, size_withLineEnds, sizes_withLineEndsAll]

end

@[simp] theorem firstId?_withLineEndsAll (id : Nat) (ts : List Tree) :
    firstId? id (withLineEndsAll e ts) = firstId? id ts := by
  cases ts <;> rfl

@[simp] theorem lastId?_withLineEndsAll (id : Nat) (ts : List Tree) :
    lastId? id (withLineEndsAll e ts) = lastId? id ts := by
  induction ts generalizing id with
  | nil => rfl
  | cons t ts ih =>
    cases ts with
    | nil => rfl
    | cons u ts =>
      change lastId? (id + (t.withLineEnds e).size) (withLineEndsAll e (u :: ts)) =
        lastId? (id + t.size) (u :: ts)
      rw [size_withLineEnds, ih]

@[simp] theorem rootId_withLineEndsAll (id : Nat) (ts : List Tree) :
    rootId id (withLineEndsAll e ts) = rootId id ts := by
  induction ts generalizing id with
  | nil => rfl
  | cons t ts ih =>
    rw [withLineEndsAll, rootId, rootId, isElement_withLineEnds, size_withLineEnds, ih]

end Tree

/-- Attributes are never kept as they are written. -/
theorem TreeAttribute.map_layouts (id element : Nat) (attributes : List TreeAttribute) :
    (TreeAttribute.layouts id element attributes).map (·.withLineEnds e) =
      TreeAttribute.layouts id element attributes := by
  induction attributes generalizing id with
  | nil => rfl
  | cons a attributes ih =>
    rw [layouts, List.map_cons, ih]
    rfl

namespace Tree

mutual

theorem layout_withLineEnds (id parent : Nat) (previous next : Option Nat) (t : Tree) :
    (t.withLineEnds e).layout id parent previous next =
      (t.layout id parent previous next).map (·.withLineEnds e) := by
  cases t with
  | element name attributes contents =>
    rw [withLineEnds, layout, layout, List.map_cons, List.map_append, TreeAttribute.map_layouts,
      firstId?_withLineEndsAll, lastId?_withLineEndsAll, sizes_withLineEndsAll,
      layouts_withLineEndsAll]
    rfl
  | leaf kind value =>
    cases kind with
    | declaration target =>
      by_cases htarget : target = "xml"
      · subst htarget
        rfl
      · have hverbatim : (target == "xml") = false := beq_eq_false_iff_ne.2 htarget
        simp [withLineEnds, layout, LeafKind.isVerbatim, Node.withLineEnds, Node.isVerbatim,
          LeafKind.nodeKind, LeafKind.name, htarget]
    | _ => rfl

theorem layouts_withLineEndsAll (id parent : Nat) (previous : Option Nat) (ts : List Tree) :
    layouts id parent previous (withLineEndsAll e ts) =
      (layouts id parent previous ts).map (·.withLineEnds e) := by
  cases ts with
  | nil => rfl
  | cons t ts =>
    rw [withLineEndsAll, layouts, layouts, List.map_append, layout_withLineEnds,
      layouts_withLineEndsAll, size_withLineEnds, firstId?_withLineEndsAll]

end

end Tree

/-- The document of trees with other line ends. -/
theorem Document.ofTrees_withLineEndsAll (trees : List Tree) :
    ofTrees (Tree.withLineEndsAll e trees) = (ofTrees trees).withLineEnds e := by
  have htop : topNode (Tree.withLineEndsAll e trees) = topNode trees := by
    simp only [topNode, Tree.firstId?_withLineEndsAll, Tree.lastId?_withLineEndsAll,
      Tree.sizes_withLineEndsAll]
  have hnodes : (ofTrees (Tree.withLineEndsAll e trees)).nodes.toList =
      ((ofTrees trees).withLineEnds e).nodes.toList := by
    rw [nodes_ofTrees, Tree.layouts_withLineEndsAll, htop, withLineEnds, Array.toList_map,
      nodes_ofTrees, List.map_cons]
    rfl
  have hroot : (ofTrees (Tree.withLineEndsAll e trees)).root = (ofTrees trees).root :=
    Tree.rootId_withLineEndsAll 1 trees
  exact congr (congrArg Document.mk (Array.toList_inj.1 hnodes)) hroot

/-! ## Building -/

/-- An open element with other line ends in its contents. -/
def OpenElement.withLineEnds (e : LineEnd) (o : OpenElement) : OpenElement :=
  { o with contents := o.contents.map (·.withLineEnds e) }

/-- The state in a document with other line ends. -/
def Builder.withLineEnds (e : LineEnd) (b : Builder) : Builder :=
  ⟨b.opened.map (·.withLineEnds e), b.top.map (·.withLineEnds e), b.scope⟩

namespace Builder

variable {b : Builder} {attributes attributes' seen seen' : List Attribute}

@[simp] theorem atTop_withLineEnds (b : Builder) : (b.withLineEnds e).atTop = b.atTop :=
  List.isEmpty_map

@[simp] theorem hasRoot_withLineEnds (b : Builder) : (b.withLineEnds e).hasRoot = b.hasRoot := by
  rw [hasRoot, withLineEnds, List.any_map]
  exact congrArg b.top.any (funext Tree.isElement_withLineEnds)

theorem any_isDoctype_withLineEnds (b : Builder) :
    (b.withLineEnds e).top.any (·.isDoctype) = b.top.any (·.isDoctype) := by
  rw [withLineEnds, List.any_map]
  exact congrArg b.top.any (funext Tree.isDoctype_withLineEnds)

theorem add_withLineEnds (b : Builder) (t : Tree) :
    (b.withLineEnds e).add (t.withLineEnds e) = (b.add t).withLineEnds e := by
  obtain ⟨opened, top, scope⟩ := b
  cases opened <;> rfl

/-- A namespace declaration is taken alike wherever it stands. -/
theorem declare_alike (s : Scope) {a a' : Attribute} (h : a.Same a') :
    Agree Fault.SameKind Eq (declare s a) (declare s a') := by
  obtain ⟨name, value, offset⟩ := a
  obtain ⟨name', value', offset'⟩ := a'
  obtain ⟨hname, hvalue⟩ := h
  dsimp only at hname hvalue
  subst hname hvalue
  exact (Agree.refl _).mapError fun _ _ hkind => hkind

theorem declareAll_alike (s : Scope) (h : List.Forall₂ Attribute.Same attributes attributes') :
    Agree Fault.SameKind Eq (declareAll s attributes) (declareAll s attributes') := by
  induction h generalizing s with
  | nil => exact .ok rfl
  | @cons a a' attributes attributes' ha _ ih =>
    have hdeclaration : a'.isDeclaration = a.isDeclaration := by
      rw [Attribute.isDeclaration, Attribute.isDeclaration, Attribute.nsPrefix?,
        Attribute.nsPrefix?, ha.1]
    rw [declareAll, declareAll, List.filter_cons, List.filter_cons, hdeclaration]
    split
    · rw [List.foldlM_cons, List.foldlM_cons]
      refine (declare_alike s ha).bind fun s' _ hs => ?_
      exact hs ▸ ih s'
    · exact ih s

theorem any_name_eq (h : List.Forall₂ Attribute.Same seen seen') (name : String) :
    seen'.any (·.name == name) = seen.any (·.name == name) := by
  induction h with
  | nil => rfl
  | cons ha _ ih => rw [List.any_cons, List.any_cons, ih, ha.1]

theorem resolveAttribute_eq (s : Scope) {a a' : Attribute} (h : a.Same a') :
    resolveAttribute s a' = resolveAttribute s a := by
  obtain ⟨name, value, offset⟩ := a
  obtain ⟨name', value', offset'⟩ := a'
  obtain ⟨hname, hvalue⟩ := h
  dsimp only at hname hvalue
  subst hname hvalue
  rfl

theorem resolveAttributes_alike (s : Scope) (earlier : List TreeAttribute)
    (h : List.Forall₂ Attribute.Same attributes attributes')
    (hseen : List.Forall₂ Attribute.Same seen seen') :
    Agree Fault.SameKind Eq (resolveAttributes s seen earlier attributes)
      (resolveAttributes s seen' earlier attributes') := by
  induction h generalizing seen seen' earlier with
  | nil => exact .ok rfl
  | @cons a a' attributes attributes' ha _ ih =>
    rw [resolveAttributes, resolveAttributes, resolveAttribute_eq s ha, ← ha.1,
      any_name_eq hseen]
    refine .ite (fun _ => .error rfl) fun _ => ?_
    cases resolveAttribute s a with
    | error kind => exact .error rfl
    | ok resolved =>
      dsimp only
      refine .ite (fun _ => .error rfl) fun _ => ?_
      rcases (ih (resolved :: earlier) (.cons ha hseen)).exists_eq with
        ⟨others, others', hleft, hright, hothers⟩ | ⟨fault, fault', hleft, hright, hkind⟩
      · rw [hleft, hright]
        exact .ok (congrArg _ hothers)
      · rw [hleft, hright]
        exact .error hkind

/-- A start tag leads to the same state up to line ends. -/
theorem openElement_alike (b : Builder) (offset offset' : Nat) (written : String) (isEmpty : Bool)
    (h : List.Forall₂ Attribute.Same attributes attributes') :
    Agree Fault.SameKind (fun after after' => after' = after.withLineEnds e)
      (b.openElement offset written attributes isEmpty)
      ((b.withLineEnds e).openElement offset' written attributes' isEmpty) := by
  rw [openElement, openElement, atTop_withLineEnds, hasRoot_withLineEnds]
  -- What is open and what is in scope is the same, so each step of the builder is.
  refine .ite (fun _ => .error rfl) fun _ => ?_
  refine (declareAll_alike b.scope.push h).bind fun scope _ hscope => ?_
  subst hscope
  have hname : Agree Fault.SameKind Eq
      ((elementName scope written).mapError fun kind => ⟨offset + 1, kind⟩)
      ((elementName scope written).mapError fun kind => ⟨offset' + 1, kind⟩) :=
    (Agree.refl _).mapError fun _ _ hkind => hkind
  refine hname.bind fun name _ heq => ?_
  subst heq
  refine (resolveAttributes_alike scope [] h .nil).bind fun resolved _ heq => ?_
  subst heq
  obtain ⟨opened, top, _⟩ := b
  cases isEmpty with
  | false => exact .ok rfl
  | true => cases opened <;> exact .ok rfl

/-- An end tag leads to the same state up to line ends. -/
theorem closeElement_alike (b : Builder) (offset offset' : Nat) (written : String) :
    Agree Fault.SameKind (fun after after' => after' = after.withLineEnds e)
      (b.closeElement offset written) ((b.withLineEnds e).closeElement offset' written) := by
  obtain ⟨opened, top, scope⟩ := b
  cases opened with
  | nil => exact .error rfl
  | cons o outer =>
    change Agree _ _ (if o.written = written then _ else _) (if o.written = written then _ else _)
    refine .ite (fun _ => ?_) fun _ => .error rfl
    -- The contents that were collected are those of the other text up to line ends.
    have hclosed : (Tree.element o.name o.attributes o.contents.reverse).withLineEnds e =
        .element o.name o.attributes (o.withLineEnds e).contents.reverse := by
      rw [Tree.withLineEnds, Tree.withLineEndsAll_eq_map, List.map_reverse]
      rfl
    have hadd := add_withLineEnds (e := e) ⟨outer, top, scope⟩
      (.element o.name o.attributes o.contents.reverse)
    rw [hclosed] at hadd
    exact .ok (congrArg (fun after : Builder => { after with scope := scope.pop }) hadd)

/-- **An event leads to the same state up to line ends**, or to a fault of the same kind. -/
theorem step_alike (b : Builder) (offset offset' : Nat) {event event' : Event}
    (h : event.Rewritten e event') :
    Agree Fault.SameKind (fun after after' => after' = after.withLineEnds e)
      (b.step offset event) ((b.withLineEnds e).step offset' event') := by
  cases h with
  | declaration content => exact .ok (add_withLineEnds b (.leaf (.declaration "xml") content))
  | doctype body =>
    rw [step, step, atTop_withLineEnds, hasRoot_withLineEnds, any_isDoctype_withLineEnds]
    split
    · exact .error rfl
    · exact .ok (add_withLineEnds b (.leaf .doctype body))
  | startTag name isEmpty h => exact openElement_alike b _ _ name isEmpty h
  | endTag name => exact closeElement_alike b _ _ name
  | text data =>
    rw [step, step, atTop_withLineEnds]
    split
    · split
      · exact .ok rfl
      · exact .error rfl
    · exact .ok (add_withLineEnds b (.leaf .text data))
  | cdata data =>
    rw [step, step, atTop_withLineEnds]
    split
    · exact .error rfl
    · exact .ok (add_withLineEnds b (.leaf .cdata data))
  | comment data => exact .ok (add_withLineEnds b (.leaf .comment data))
  | @instruction target content htarget =>
    -- Only the XML declaration has this target, and its content is normalised for all others.
    have hadd := add_withLineEnds (e := e) b (.leaf (.declaration target) content)
    rw [Tree.withLineEnds, LeafKind.isVerbatim, if_neg (by simpa using htarget)] at hadd
    exact .ok hadd

/-- Events lead to the same state up to line ends, by induction on their number. -/
theorem run_alike (b : Builder) {events events' : List Placed}
    (h : List.Forall₂ (fun p p' => Event.Rewritten e p.event p'.event) events events') :
    Agree Fault.SameKind (fun after after' => after' = after.withLineEnds e)
      (b.run events) ((b.withLineEnds e).run events') := by
  induction h generalizing b with
  | nil => exact .ok rfl
  | @cons p p' events events' hp _ ih =>
    rw [run, run, List.foldlM_cons, List.foldlM_cons]
    refine (step_alike b p.offset p'.offset hp).bind fun after _ heq => ?_
    subst heq
    exact ih after

theorem finish_alike (b : Builder) (offset offset' : Nat) :
    Agree Fault.SameKind (fun trees trees' => trees' = Tree.withLineEndsAll e trees)
      (b.finish offset) ((b.withLineEnds e).finish offset') := by
  obtain ⟨opened, top, scope⟩ := b
  cases opened with
  | cons o outer => exact .error rfl
  | nil =>
    have hroot := hasRoot_withLineEnds (e := e) ⟨[], top, scope⟩
    change Agree _ _ (if hasRoot ⟨[], top, scope⟩ = true then _ else _)
      (if (hasRoot (withLineEnds e ⟨[], top, scope⟩)) = true then _ else _)
    rw [hroot]
    split
    · refine .ok ?_
      rw [Tree.withLineEndsAll_eq_map, List.map_reverse]
      rfl
    · exact .error rfl

end Builder

/-- The trees of readings that agree are the same up to line ends. -/
theorem buildTrees_alike {reading reading' : Reading} (h : reading.Rewritten e reading') :
    Agree Fault.SameKind (fun trees trees' => trees' = Tree.withLineEndsAll e trees)
      (buildTrees reading) (buildTrees reading') := by
  -- The state in front of a document is the same for all line ends.
  have hrun : Agree Fault.SameKind (fun after after' => after' = after.withLineEnds e)
      (Builder.start.run reading.events) (Builder.start.run reading'.events) :=
    Builder.run_alike .start h.events
  rw [buildTrees, buildTrees]
  rcases hrun.exists_eq with
    ⟨b, _, hleft, hright, rfl⟩ | ⟨fault, fault', hleft, hright, hkind⟩
  case inr =>
    rw [hleft, hright]
    exact .error hkind
  rw [hleft, hright]
  rcases h.outcome.exists_eq with
    ⟨stop, stop', hleft, hright, -⟩ | ⟨failure, failure', hleft, hright, hkind⟩
  · rw [hleft, hright]
    exact Builder.finish_alike b stop stop'
  · rw [hleft, hright]
    exact .error hkind

namespace Document

/-- A text and the same text with other line ends have faults of one kind, or are documents that
are the same up to line ends. -/
theorem parseText_alike {text : List Char} (htext : '\r' ∉ text) :
    Agree (fun fault fault' => fault'.kind = fault.kind) (fun d d' => d' = d.withLineEnds e)
      (parseText text) (parseText (e.write text)) := by
  have htrees := buildTrees_alike (Markup.readAll_rewritten (e := e) htext)
  rw [parseText, parseText, ofText_eq, ofText_eq]
  refine (htrees.map fun trees _ heq => ?_).mapError fun _ _ hkind => hkind.symm
  rw [heq, ofTrees_withLineEndsAll]

/-- **Line ends make no difference**: a text without carriage returns and the same text with other
line ends have faults of one kind, or are documents that differ at most in the line ends of the XML
declaration and of a document type declaration. -/
theorem parseText_write (e : LineEnd) {text : List Char} (htext : '\r' ∉ text) :
    (∃ fault fault', parseText text = .error fault ∧ parseText (e.write text) = .error fault' ∧
      fault'.kind = fault.kind) ∨
    ∃ d, parseText text = .ok d ∧ parseText (e.write text) = .ok (d.withLineEnds e) := by
  rcases (parseText_alike htext).exists_eq with ⟨d, _, hleft, hright, rfl⟩ | hfaults
  · exact .inr ⟨d, hleft, hright⟩
  · exact .inl hfaults

/-- Line ends in a document type declaration, where they are kept, and in a tag, in an attribute
value and in text, where they are not. -/
theorem parseText_write_element :
    '\r' ∉ "<!DOCTYPE\nr><r\n b='x\ny'>\n</r>".toList ∧
      parseText "<!DOCTYPE\nr><r\n b='x\ny'>\n</r>".toList =
        .ok (ofTrees [.leaf .doctype "DOCTYPE\nr",
          .element ⟨"", "r", ""⟩ [⟨⟨"", "b", ""⟩, "x y", false⟩] [.leaf .text "\n"]]) ∧
      parseText "<!DOCTYPE\r\nr><r\r\n b='x\r\ny'>\r\n</r>".toList =
        .ok (ofTrees [.leaf .doctype "DOCTYPE\r\nr",
          .element ⟨"", "r", ""⟩ [⟨⟨"", "b", ""⟩, "x y", false⟩] [.leaf .text "\n"]]) := by
  have hparse : parseText "<!DOCTYPE\nr><r\n b='x\ny'>\n</r>".toList =
      .ok (ofTrees [.leaf .doctype "DOCTYPE\nr",
        .element ⟨"", "r", ""⟩ [⟨⟨"", "b", ""⟩, "x y", false⟩] [.leaf .text "\n"]]) := by
    rw [parseText, ofText_eq]
    with_unfolding_all rfl
  have hnone : '\r' ∉ "<!DOCTYPE\nr><r\n b='x\ny'>\n</r>".toList := by decide
  refine ⟨hnone, hparse, ?_⟩
  rcases parseText_write .crlf hnone with ⟨fault, -, hfault, -⟩ | ⟨d, hd, hwritten⟩
  · rw [hparse] at hfault
    cases hfault
  · rw [hparse] at hd
    cases hd
    exact hwritten.trans (congrArg Except.ok (ofTrees_withLineEndsAll _).symm)

end Document

end XmlQuery
