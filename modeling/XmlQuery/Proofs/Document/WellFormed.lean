import XmlQuery.Proofs.Document.Links
import XmlQuery.Proofs.Document.Spelling
import XmlQuery.Proofs.Markup.Readings

/-!
# Well-formed documents

Which tables a parsed document can have. The links follow from the layout alone; that there is one
root element and that text is in one piece depends on the events, and is carried from them to the
trees and from the trees to every place of the table.

## Main definitions

* `Document.WellFormed`: the links of a document agree, its root is its only top element and its
  text is in one piece
* `Coalesced`: text is in one piece, at any depth of some trees

## Main results

* `Spells.coalesced`: text that the reader leaves in one piece is in one piece in the trees
* `LaidOut.filter_elements`: the root is the only element at the top
* `wellFormed_of_parse`: **every parsed document is well-formed**
-/

namespace XmlQuery

open Markup (Event)
open Namespace (Scope)

/-! ## Text in one piece -/

/-- The tree is plain text. -/
def Tree.isText (t : Tree) : Prop := t.kind = .text

/-- Text is not empty and not next to other text, at any depth. -/
inductive Coalesced : List Tree → Prop
  /-- No trees. -/
  | nil : Coalesced []
  /-- A further tree. -/
  | cons {t : Tree} {ts : List Tree} : (t.isText → t.value ≠ "") →
    (∀ u ∈ ts.head?, ¬ (t.isText ∧ u.isText)) → Coalesced t.contents → Coalesced ts →
    Coalesced (t :: ts)

theorem not_isText_element {name : Name} {attributes : List TreeAttribute}
    {contents : List Tree} : ¬ (Tree.element name attributes contents).isText := by
  intro h
  cases h

/-- Text stands for one text event, inside an element. -/
theorem leafOf?_text {atTop : Bool} {event : Event} {kind : LeafKind} {value : String}
    (h : leafOf? atTop event = some (kind, value)) (ht : (Tree.leaf kind value).isText) :
    event = .text value := by
  cases event with
  | declaration content | instruction target content | comment data =>
    cases h
    cases ht
  | doctype body | cdata data =>
    -- These are leaves at the top only or inside an element only, and never plain text.
    rw [leafOf?] at h
    split at h
    all_goals cases h
    all_goals cases ht
  | text data =>
    rw [leafOf?] at h
    split at h
    all_goals cases h
    all_goals rfl
  | startTag | endTag => cases h

/-- If the first tree is text, so is the first event. -/
theorem Spells.isText_head {atTop : Bool} {scope : Scope} {events : List Event}
    {trees : List Tree} (h : Spells atTop scope events trees) {t : Tree} (ht : t ∈ trees.head?)
    (htext : t.isText) : ∃ e ∈ events.head?, e.isText = true := by
  cases h with
  | nil => cases ht
  | blank => exact ⟨_, rfl, rfl⟩
  | leaf hleaf =>
    cases ht
    exact ⟨_, rfl, leafOf?_text hleaf htext ▸ rfl⟩
  | element =>
    cases ht
    exact absurd htext not_isText_element
  | empty =>
    cases ht
    exact absurd htext not_isText_element

/-- Text that is in one piece in the events is in one piece in the trees they stand for. -/
theorem Spells.coalesced {atTop : Bool} {scope : Scope} {events : List Event}
    {trees : List Tree} (h : Spells atTop scope events trees)
    (hlegal : ∀ e ∈ events, e.Legal)
    (hchain : events.IsChain fun a b => ¬ (a.isText = true ∧ b.isText = true)) :
    Coalesced trees := by
  induction h with
  | nil => exact .nil
  | blank _ _ ih =>
    exact ih (fun e he => hlegal e (List.mem_cons_of_mem _ he)) (List.isChain_cons.1 hchain).2
  | leaf hleaf hrest ih =>
    have hchain := List.isChain_cons.1 hchain
    refine .cons (fun ht => ?_) (fun u hu => ?_) .nil
      (ih (fun e he => hlegal e (List.mem_cons_of_mem _ he)) hchain.2)
    · -- No text event is empty.
      have hevent := hlegal _ List.mem_cons_self
      rw [leafOf?_text hleaf ht] at hevent
      exact hevent
    · -- Text next to this tree would come from a text event next to this one.
      rintro ⟨ht, hutext⟩
      obtain ⟨e, he, hetext⟩ := hrest.isText_head hu hutext
      exact hchain.1 e he ⟨leafOf?_text hleaf ht ▸ rfl, hetext⟩
  | element _ _ _ ihwithin ih =>
    -- The contents are in front of the end tag, what follows the element is behind it.
    have hrest := List.isChain_cons.1 (List.isChain_append.1 hchain).2.1
    have hwithin := List.isChain_cons.1 (List.isChain_append.1 hchain).1
    refine .cons (fun ht => absurd ht not_isText_element)
      (fun u _ ht => absurd ht.1 not_isText_element)
      (ihwithin (fun e he => hlegal e ?_) hwithin.2) (ih (fun e he => hlegal e ?_) hrest.2)
    · exact List.mem_append_left _ (List.mem_cons_of_mem _ he)
    · exact List.mem_append_right _ (List.mem_cons_of_mem _ he)
  | empty _ _ ih =>
    exact .cons (fun ht => absurd ht not_isText_element)
      (fun u _ ht => absurd ht.1 not_isText_element) .nil
      (ih (fun e he => hlegal e (List.mem_cons_of_mem _ he)) (List.isChain_cons.1 hchain).2)

namespace Document

open XmlQuery.Tree (ids rootId firstId?)

variable {top ts : List Tree} {id parent : Nat} {previous : Option Nat} {t : Tree}

/-- What is in one piece at the top is in one piece everywhere. -/
theorem LaidOut.coalesced (h : LaidOut top id parent previous ts) (htop : Coalesced top) :
    Coalesced ts := by
  induction h with
  | top => exact htop
  | rest _ ih =>
    cases ih with
    | cons _ _ _ hrest => exact hrest
  | contents _ ih =>
    cases ih with
    | cons _ _ hcontents _ => exact hcontents

theorem LaidOut.name_eq (h : LaidOut top id parent previous (t :: ts)) :
    (ofTrees top).name id = t.name := by
  rw [name, h.node?_eq]
  rfl

theorem LaidOut.value_eq (h : LaidOut top id parent previous (t :: ts)) :
    (ofTrees top).value id = t.value := by
  rw [value, h.node?_eq]
  rfl

/-- A node that is neither the document nor an attribute is a tree. -/
theorem exists_laidOut_of_kind? {i : Nat} {kind : NodeKind}
    (h : (ofTrees top).kind? i = some kind) (hdocument : kind ≠ .document)
    (hattribute : kind ≠ .attribute) :
    ∃ parent previous t ts, LaidOut top i parent previous (t :: ts) ∧ t.kind = kind := by
  obtain ⟨n, hn, -⟩ := Option.map_eq_some_iff.1 h
  cases occupied_of_lt (Array.getElem?_eq_some_iff.1 hn).1 with
  | document =>
    rw [kind?, node?_zero] at h
    exact absurd (Option.some.inj h).symm hdocument
  | tree ht =>
    rw [ht.kind?_eq] at h
    exact ⟨_, _, _, _, ht, Option.some.inj h⟩
  | attributeOf ht ha =>
    rw [kind?_attribute ht ha] at h
    exact absurd (Option.some.inj h).symm hattribute

/-! ## The root element -/

theorem kind_eq_element_iff (t : Tree) : t.kind = .element ↔ t.isElement = true := by
  rcases t with _ | ⟨_ | _, _⟩ <;> simp [Tree.kind, Tree.isElement, LeafKind.nodeKind]

/-- Among siblings without an element no node is an element. -/
theorem LaidOut.filter_eq_nil (h : LaidOut top id parent previous ts)
    (hts : ∀ t ∈ ts, t.isElement = false) :
    (ids id ts).filter (fun i => (ofTrees top).kind? i = some .element) = [] := by
  induction ts generalizing id previous with
  | nil => rfl
  | cons t ts ih =>
    have ht : ¬ (ofTrees top).kind? id = some .element := by
      rw [h.kind?_eq, Option.some.injEq, kind_eq_element_iff, hts t List.mem_cons_self]
      exact Bool.false_ne_true
    rw [ids, List.filter_cons, if_neg (by simpa using ht)]
    exact ih h.rest fun u hu => hts u (List.mem_cons_of_mem _ hu)

/-- The root is the only element at the top. -/
theorem LaidOut.filter_elements (h : LaidOut top id parent previous ts)
    (hprecede : ts.Pairwise Tree.MayPrecede) (hroot : ts.any (·.isElement) = true) :
    (ids id ts).filter (fun i => (ofTrees top).kind? i = some .element) = [rootId id ts] := by
  induction ts generalizing id previous with
  | nil => cases hroot
  | cons t ts ih =>
    rw [List.pairwise_cons] at hprecede
    have hkind : (ofTrees top).kind? id = some .element ↔ t.isElement = true := by
      rw [h.kind?_eq, Option.some.injEq, kind_eq_element_iff]
    rw [ids, List.filter_cons, rootId]
    by_cases ht : t.isElement = true
    · rw [if_pos (decide_eq_true (hkind.2 ht)), if_pos ht, h.rest.filter_eq_nil]
      -- An element behind this one would not be allowed behind it.
      intro u hu
      refine Bool.eq_false_iff.2 fun helement => ?_
      rw [(hprecede.1 u hu).1 helement] at ht
      cases ht
    · -- The root is one of the later ones.
      rw [if_neg (by simpa using fun hk => ht (hkind.1 hk)), if_neg ht]
      rw [List.any_cons, Bool.eq_false_iff.2 ht, Bool.false_or] at hroot
      exact ih h.rest hprecede.2 hroot

/-! ## The invariant -/

/-- The first of the contents of a node. -/
def firstChild? (d : Document) (i : Nat) : Option Nat := (d.node? i).bind (·.firstChild)

/-- The last of the contents of a node. -/
def lastChild? (d : Document) (i : Nat) : Option Nat := (d.node? i).bind (·.lastChild)

/-- The links of a document agree with each other, its root is its only top element and its text is
in one piece. -/
structure WellFormed (d : Document) : Prop where
  /-- The document node comes first, and there is no other one. -/
  kind?_document : ∀ i, d.kind? i = some .document ↔ i = 0
  /-- The document node has no parent. -/
  parent?_zero : d.parent? 0 = none
  /-- Every other node has a parent in front of it. -/
  parent?_lt : ∀ i, 0 < i → i < d.size → ∃ p, d.parent? i = some p ∧ p < i
  /-- The attributes of an element are the attribute nodes whose parent it is, and they stand
  directly after it; there are no others. -/
  attributes : ∀ e i, i ∈ d.attributes e ↔ d.kind? i = some .attribute ∧ d.parent? i = some e
  /-- The attributes of an element are a range of the table that starts behind it. -/
  attributeRange : ∀ e n, d.node? e = some n → n.kind = .element →
    n.attributeStart = e + 1 ∧ d.attributes e = List.range' (e + 1) n.attributeCount
  /-- The links from the first child on lead to the nodes whose parent a node is, attributes aside,
  in the order of the table. -/
  children : ∀ p, d.children p = (List.range d.size).filter fun i =>
    d.parent? i = some p ∧ d.kind? i ≠ some .attribute
  /-- The contents start with the first child. -/
  firstChild : ∀ p, d.firstChild? p = (d.children p).head?
  /-- The contents end with the last child. -/
  lastChild : ∀ p, d.lastChild? p = (d.children p).getLast?
  /-- The links between siblings are inverse to each other. -/
  siblings : ∀ i j, d.next? i = some j ↔ d.previous? j = some i
  /-- Only the document and elements have contents. -/
  holders : ∀ p i, i ∈ d.children p → d.kind? p = some .document ∨ d.kind? p = some .element
  /-- A node with what is below it is a range of the table. -/
  range : ∀ n i, d.IsBelow n i ↔ n ≤ i ∧ i ≤ d.last n
  /-- The root element is the only element at the top. -/
  root : (d.children 0).filter (fun i => d.kind? i = some .element) = [d.root]
  /-- Text is not empty. -/
  text : ∀ i, d.kind? i = some .text → d.value i ≠ ""
  /-- Text is not next to other text. -/
  texts : ∀ i j, d.next? i = some j → ¬ (d.kind? i = some .text ∧ d.kind? j = some .text)

theorem kind?_document_iff {i : Nat} : (ofTrees top).kind? i = some .document ↔ i = 0 := by
  constructor
  · intro h
    obtain ⟨n, hn, -⟩ := Option.map_eq_some_iff.1 h
    cases occupied_of_lt (Array.getElem?_eq_some_iff.1 hn).1 with
    | document => rfl
    | @tree _ _ _ t _ ht =>
      rw [ht.kind?_eq, Option.some.injEq] at h
      rcases t with _ | ⟨_ | _, _⟩ <;> cases h
    | attributeOf ht ha =>
      rw [kind?_attribute ht ha] at h
      cases h
  · rintro rfl
    rw [kind?, node?_zero]
    rfl

theorem exists_parent?_lt {i : Nat} (hpos : 0 < i) (hi : i < (ofTrees top).size) :
    ∃ p, (ofTrees top).parent? i = some p ∧ p < i := by
  cases occupied_of_lt hi with
  | document => exact absurd hpos (Nat.lt_irrefl 0)
  | tree ht => exact ⟨_, ht.parent?_eq, ht.parent_lt⟩
  | attributeOf ht ha => exact ⟨_, ht.parent?_attribute ha, by omega⟩

/-- The attributes of a tree stand directly after it; a leaf has none. -/
theorem LaidOut.attributes_eq (h : LaidOut top id parent previous (t :: ts)) :
    (ofTrees top).attributes id = List.range' (id + 1) t.attributes.length := by
  rw [Document.attributes, h.node?_eq]
  cases t with
  | element => rfl
  | leaf kind value => cases kind <;> rfl

/-- The nodes of attributes hold their names and values. -/
theorem LaidOut.forall₂_attributes (h : LaidOut top id parent previous (t :: ts)) :
    List.Forall₂ (fun a i => (ofTrees top).name i = a.name ∧ (ofTrees top).value i = a.value ∧
      (ofTrees top).isDeclaration i = a.isDeclaration) t.attributes
      ((ofTrees top).attributes id) := by
  rw [h.attributes_eq, List.forall₂_iff_get]
  refine ⟨List.length_range'.symm, fun k hk _ => ?_⟩
  have hnode := h.node?_attribute (List.getElem?_eq_getElem hk)
  rw [List.get_eq_getElem, List.get_eq_getElem, List.getElem_range', Nat.one_mul, Document.name,
    Document.value, Document.isDeclaration, hnode]
  exact ⟨rfl, rfl, rfl⟩

theorem attributes_zero (top : List Tree) : (ofTrees top).attributes 0 = [] := by
  rw [Document.attributes, node?_zero]
  rfl

theorem LaidOut.attributes_attribute (h : LaidOut top id parent previous (t :: ts)) {k : Nat}
    {a : TreeAttribute} (ha : t.attributes[k]? = some a) :
    (ofTrees top).attributes (id + 1 + k) = [] := by
  rw [Document.attributes, h.node?_attribute ha]
  rfl

theorem attributes_of_size_le {d : Document} {i : Nat} (h : d.size ≤ i) : d.attributes i = [] := by
  rw [Document.attributes, node?, Array.getElem?_eq_none h]

/-- Only elements have attributes. -/
theorem kind?_of_mem_attributes {e a : Nat} (h : a ∈ (ofTrees top).attributes e) :
    (ofTrees top).kind? e = some .element := by
  rw [attributes] at h
  cases hnode : (ofTrees top).node? e with
  | none =>
    rw [hnode] at h
    cases h
  | some n =>
    rw [hnode] at h
    dsimp only at h
    split at h
    · next hkind => rw [kind?, hnode, Option.map_some, hkind]
    · cases h

/-- The attributes of a node are the attribute nodes that have it as their parent. -/
theorem mem_attributes_iff {i e : Nat} :
    i ∈ (ofTrees top).attributes e ↔
      (ofTrees top).kind? i = some .attribute ∧ (ofTrees top).parent? i = some e := by
  constructor
  · intro h
    rcases Nat.lt_or_ge e (ofTrees top).size with he | he
    · cases occupied_of_lt he with
      | document =>
        rw [attributes_zero] at h
        cases h
      | @tree _ _ _ t _ ht =>
        -- A place directly after the tree is that of one of its attributes.
        rw [ht.attributes_eq, List.mem_range'_1] at h
        obtain ⟨k, rfl⟩ := Nat.exists_eq_add_of_le h.1
        obtain ⟨a, ha⟩ : ∃ a, t.attributes[k]? = some a :=
          ⟨_, List.getElem?_eq_getElem (by omega)⟩
        exact ⟨kind?_attribute ht ha, ht.parent?_attribute ha⟩
      | attributeOf ht ha =>
        rw [ht.attributes_attribute ha] at h
        cases h
    · rw [attributes_of_size_le he] at h
      cases h
  · rintro ⟨hkind, hparent⟩
    -- An attribute is neither the document nor a tree.
    cases occupied_of_lt (lt_size_of_bind_eq_some hparent) with
    | document =>
      rw [parent?_zero] at hparent
      cases hparent
    | @tree _ _ _ t _ ht =>
      rw [ht.kind?_eq] at hkind
      exact absurd (Option.some.inj hkind) (kind_ne_attribute t)
    | attributeOf ht ha =>
      rw [ht.parent?_attribute ha] at hparent
      cases hparent
      have hk := (List.getElem?_eq_some_iff.1 ha).1
      rw [ht.attributes_eq, List.mem_range'_1]
      omega

/-- The attributes of an element start behind it. -/
theorem attributeStart_eq {e : Nat} {n : Node} (hn : (ofTrees top).node? e = some n)
    (hkind : n.kind = .element) :
    n.attributeStart = e + 1 ∧
      (ofTrees top).attributes e = List.range' (e + 1) n.attributeCount := by
  have hstart : n.attributeStart = e + 1 := by
    cases occupied_of_lt (Array.getElem?_eq_some_iff.1 hn).1 with
    | document =>
      rw [node?_zero] at hn
      cases hn
      cases hkind
    | @tree _ _ _ t _ ht =>
      rw [ht.node?_eq] at hn
      cases hn
      cases t with
      | element => rfl
      | leaf kind value => cases kind <;> cases hkind
    | attributeOf ht ha =>
      rw [ht.node?_attribute ha] at hn
      cases hn
      cases hkind
  refine ⟨hstart, ?_⟩
  rw [Document.attributes, hn]
  dsimp only
  rw [if_pos hkind, hstart]

/-- The contents of a node start with its first child and end with its last one. -/
theorem ends_of_children (top : List Tree) (p : Nat) :
    (ofTrees top).firstChild? p = ((ofTrees top).children p).head? ∧
      (ofTrees top).lastChild? p = ((ofTrees top).children p).getLast? := by
  rcases Nat.lt_or_ge p (ofTrees top).size with hp | hp
  · cases occupied_of_lt hp with
    | document =>
      rw [children_zero, Tree.head?_ids, Tree.getLast?_ids, firstChild?, lastChild?, node?_zero]
      exact ⟨rfl, rfl⟩
    | tree ht =>
      rw [ht.children_eq, Tree.head?_ids, Tree.getLast?_ids, firstChild?, lastChild?, ht.node?_eq]
      exact ⟨rfl, rfl⟩
    | attributeOf ht ha =>
      rw [ht.children_attribute ha, firstChild?, lastChild?, ht.node?_attribute ha]
      exact ⟨rfl, rfl⟩
  · rw [children_of_size_le hp, firstChild?, lastChild?, node?, Array.getElem?_eq_none hp]
    exact ⟨rfl, rfl⟩

/-- What holds contents is the document or an element. -/
theorem kind?_of_mem_children {p i : Nat} (h : i ∈ (ofTrees top).children p) :
    (ofTrees top).kind? p = some .document ∨ (ofTrees top).kind? p = some .element := by
  rcases Nat.lt_or_ge p (ofTrees top).size with hp | hp
  · cases occupied_of_lt hp with
    | document => exact .inl (kind?_document_iff.2 rfl)
    | @tree _ _ _ t _ ht =>
      rw [ht.children_eq] at h
      rw [ht.kind?_eq]
      cases t with
      | element => exact .inr rfl
      | leaf => cases h
    | attributeOf ht ha =>
      rw [ht.children_attribute ha] at h
      cases h
  · rw [children_of_size_le hp] at h
    cases h

theorem value_ne_empty (htop : Coalesced top) {i : Nat}
    (h : (ofTrees top).kind? i = some .text) : (ofTrees top).value i ≠ "" := by
  obtain ⟨parent, previous, t, ts, ht, hkind⟩ :=
    exists_laidOut_of_kind? h (by decide) (by decide)
  rw [ht.value_eq]
  cases ht.coalesced htop with
  | cons hvalue _ _ _ => exact hvalue hkind

theorem not_text_of_next? (htop : Coalesced top) {i j : Nat}
    (h : (ofTrees top).next? i = some j) :
    ¬ ((ofTrees top).kind? i = some .text ∧ (ofTrees top).kind? j = some .text) := by
  obtain ⟨parent, previous, t, u, ts, ht, rfl⟩ := exists_laidOut_of_next? h
  rw [ht.kind?_eq, ht.rest.kind?_eq, Option.some.injEq, Option.some.injEq]
  cases ht.coalesced htop with
  | cons _ hnext _ _ => exact hnext u rfl

/-- The table of trees with one root element and text in one piece is well-formed. -/
theorem wellFormed_ofTrees (htop : Coalesced top) (hprecede : top.Pairwise Tree.MayPrecede)
    (hroot : top.any (·.isElement) = true) : (ofTrees top).WellFormed where
  kind?_document _ := kind?_document_iff
  parent?_zero := parent?_zero top
  parent?_lt _ := exists_parent?_lt
  attributes _ _ := mem_attributes_iff
  attributeRange _ _ := attributeStart_eq
  children := children_eq_filter top
  firstChild p := (ends_of_children top p).1
  lastChild p := (ends_of_children top p).2
  siblings _ _ := next?_eq_some_iff
  holders _ _ := kind?_of_mem_children
  range _ _ := isBelow_iff
  root := by
    rw [children_zero]
    exact LaidOut.top.filter_elements hprecede hroot
  text _ := value_ne_empty htop
  texts _ _ := not_text_of_next? htop

/-- **Every parsed document is well-formed.** -/
theorem wellFormed_of_parse {bytes : List UInt8} {d : Document} (h : parse bytes = .ok d) :
    d.WellFormed := by
  obtain ⟨text, htext⟩ := exists_text_of_parse h
  obtain ⟨trees, htrees, rfl⟩ := exists_trees_of_parseText htext
  obtain ⟨hspells, hprecede, hroot⟩ := spells_of_buildTrees htrees
  have hcoalesced := hspells.coalesced (fun _ => Markup.legal_of_mem_readAll)
    (Markup.isChain_readAll text)
  exact wellFormed_ofTrees hcoalesced hprecede hroot

/-! ## A document -/

/-- The text `<p:a xmlns:p="u">x</p:a>`. -/
def sample : List Char :=
  ['<', 'p', ':', 'a', ' ', 'x', 'm', 'l', 'n', 's', ':', 'p', '=', '"', 'u', '"', '>', 'x',
    '<', '/', 'p', ':', 'a', '>']

/-- The element that the text is. -/
def sampleTree : Tree :=
  .element ⟨"p", "a", "u"⟩ [⟨⟨"xmlns", "p", Namespace.xmlnsUri⟩, "u", true⟩] [.leaf .text "x"]

theorem readAll_sample :
    Markup.readAll sample =
      ⟨[⟨0, .startTag "p:a" [⟨"xmlns:p", "u", 5⟩] false, 17⟩, ⟨17, .text "x", 18⟩,
        ⟨18, .endTag "p:a", 24⟩], .ok 24⟩ := by
  with_unfolding_all rfl

theorem parseText_sample : parseText sample = .ok (ofTrees [sampleTree]) := by
  rw [parseText, ofText_eq, readAll_sample]
  rfl

theorem parse_sample : parse (Utf8.encode sample) = .ok (ofTrees [sampleTree]) := by
  have hbytes : toUtf8 (Utf8.encode sample) = some (Utf8.encode sample) := rfl
  have hdecode : Utf8.decode (Utf8.encode sample) = .ok sample := rfl
  rw [parse, hbytes]
  dsimp only
  rw [hdecode]
  exact parseText_sample

/-- The four nodes of a document with one element. -/
theorem wellFormed_of_parse_element :
    parse (Utf8.encode sample) = .ok (ofTrees [sampleTree]) ∧ (ofTrees [sampleTree]).size = 4 ∧
      (ofTrees [sampleTree]).WellFormed :=
  ⟨parse_sample, rfl, wellFormed_of_parse parse_sample⟩

end Document

end XmlQuery
