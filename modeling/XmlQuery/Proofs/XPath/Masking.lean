import Mathlib.Data.List.Find
import XmlQuery.Proofs.Namespace.Scoping
import XmlQuery.Proofs.XPath.Axes
import XmlQuery.XPath.Library

/-!
# What namespace declarations leave behind

A document in which nothing is left of how names are spelled: no prefixes, and of namespace
declarations neither what they declare nor what for. The nodes stay where they are, with the links
between them, so axes lead from a node to the same nodes. No axis leads to a declaration, and what
expressions ask of other nodes is the same in both documents.

## Main definitions

* `Node.masked`, `Document.masked`: without prefixes and without what declarations say
* `Document.Apart`: declarations are attributes that no axis leads to

## Main results

* `nodes_masked`: axes lead to the same nodes
* `holds_masked`, `stringValue_masked`, `isInLanguage_masked`: what is asked of other nodes than
  declarations is the same
* `apart_of_parse`: **no axis of a parsed document leads to a declaration**
-/

namespace XmlQuery

/-- The node without the prefix of its name, and without the name and the value of a declaration. -/
def Node.masked (n : Node) : Node :=
  { n with
    name := ⟨"", if n.isDeclaration then "" else n.name.localPart, n.name.uri⟩
    value := if n.isDeclaration then "" else n.value }

/-- The document without prefixes, and without the names and the values of declarations. -/
def Document.masked (d : Document) : Document :=
  { d with nodes := d.nodes.map Node.masked }

namespace Document

variable {d : Document} {id : Nat}

/-! ## Places and links -/

@[simp] theorem size_masked (d : Document) : d.masked.size = d.size :=
  Array.size_map

@[simp] theorem node?_masked (d : Document) (id : Nat) :
    d.masked.node? id = (d.node? id).map Node.masked :=
  Array.getElem?_map

@[simp] theorem kind?_masked (d : Document) (id : Nat) : d.masked.kind? id = d.kind? id := by
  rw [kind?, kind?, node?_masked, Option.map_map]
  rfl

@[simp] theorem isDeclaration_masked (d : Document) (id : Nat) :
    d.masked.isDeclaration id = d.isDeclaration id := by
  rw [isDeclaration, isDeclaration, node?_masked, Option.any_map]
  rfl

@[simp] theorem last_masked (d : Document) (id : Nat) : d.masked.last id = d.last id := by
  rw [last, last, node?_masked, Option.map_map]
  rfl

@[simp] theorem below_masked (d : Document) (id : Nat) : d.masked.below id = d.below id := by
  rw [below, below, last_masked]

@[simp] theorem attributes_masked (d : Document) (id : Nat) :
    d.masked.attributes id = d.attributes id := by
  rw [attributes, attributes, node?_masked]
  cases d.node? id <;> rfl

theorem isCharacterData_masked (d : Document) : d.masked.isCharacterData = d.isCharacterData := by
  funext id
  rw [isCharacterData, isCharacterData, kind?_masked]

section

variable {link : Node → Option Nat}

theorem bind_masked (hlink : ∀ n, link n.masked = link n) (d : Document) (id : Nat) :
    (d.masked.node? id).bind link = (d.node? id).bind link := by
  rw [node?_masked, Option.bind_map]
  exact congrArg _ (funext hlink)

/-- A link that is still there leads along the same way. -/
theorem follow_masked (hlink : ∀ n, link n.masked = link n) (d : Document) (fuel : Nat)
    (start : Option Nat) : d.masked.follow link fuel start = d.follow link fuel start := by
  induction fuel generalizing start with
  | zero => rfl
  | succ fuel ih =>
    cases start with
    | none => rfl
    | some id => rw [follow, follow, bind_masked hlink, ih]

theorem walk_masked (hlink : ∀ n, link n.masked = link n) (d : Document) (id : Nat) :
    d.masked.walk link id = d.walk link id := by
  rw [walk, walk, follow_masked hlink, bind_masked hlink, size_masked]

end

theorem children_masked (d : Document) (id : Nat) : d.masked.children id = d.children id := by
  rw [children, children, follow_masked fun _ => rfl, bind_masked fun _ => rfl, size_masked]

theorem parent?_masked (d : Document) (id : Nat) : d.masked.parent? id = d.parent? id :=
  bind_masked (fun _ => rfl) d id

/-! ## Names and values -/

@[simp] theorem uri_masked (d : Document) (id : Nat) :
    (d.masked.name id).uri = (d.name id).uri := by
  rw [name, name, node?_masked]
  cases d.node? id <;> rfl

/-- Of nodes that are no declarations the local parts are still there. -/
theorem localPart_masked (h : d.isDeclaration id = false) :
    (d.masked.name id).localPart = (d.name id).localPart := by
  rw [name, name, node?_masked]
  cases hnode : d.node? id with
  | none => rfl
  | some n =>
    rw [isDeclaration, hnode, Option.any_some] at h
    simp [Node.masked, h]

/-- Of nodes that are no declarations the values are still there. -/
theorem value_masked (h : d.isDeclaration id = false) : d.masked.value id = d.value id := by
  rw [value, value, node?_masked]
  cases hnode : d.node? id with
  | none => rfl
  | some n =>
    rw [isDeclaration, hnode, Option.any_some] at h
    simp [Node.masked, h]

/-! ## Axes -/

open XPath (Axis ResolvedTest isTreeNode descendants ancestors followingNodes precedingNodes)

theorem isTreeNode_masked (d : Document) : isTreeNode d.masked = isTreeNode d := by
  funext id
  rw [isTreeNode, isTreeNode, node?_masked, Option.any_map]
  rfl

theorem ancestors_masked (d : Document) (id : Nat) : ancestors d.masked id = ancestors d id :=
  walk_masked (fun _ => rfl) d id

/-- **Axes lead to the same nodes.** -/
theorem nodes_masked (d : Document) (id : Nat) (axis : Axis) :
    axis.nodes d.masked id = axis.nodes d id := by
  have hdescendants : descendants d.masked id = descendants d id := by
    rw [descendants, descendants, below_masked, isTreeNode_masked]
  cases axis with
  | child => exact children_masked d id
  | descendant => exact hdescendants
  | descendantOrSelf => exact congrArg (id :: ·) hdescendants
  | parent => exact congrArg Option.toList (parent?_masked d id)
  | ancestor => exact ancestors_masked d id
  | ancestorOrSelf => exact congrArg (id :: ·) (ancestors_masked d id)
  | followingSibling => exact walk_masked (fun _ => rfl) d id
  | precedingSibling => exact walk_masked (fun _ => rfl) d id
  | following =>
    change followingNodes d.masked id = followingNodes d id
    rw [followingNodes, followingNodes, last_masked, size_masked, isTreeNode_masked]
  | preceding =>
    change precedingNodes d.masked id = precedingNodes d id
    simp only [precedingNodes, last_masked, size_masked, isTreeNode_masked]
  | self => rfl
  | «attribute» =>
    change (d.masked.attributes id).filter _ = (d.attributes id).filter _
    simp only [attributes_masked, isDeclaration_masked]
  | namespaces => rfl

/-- A node test holds of the same nodes, declarations aside. -/
theorem holds_masked (axis : Axis) (test : ResolvedTest) (h : d.isDeclaration id = false) :
    test.holds d.masked axis id = test.holds d axis id := by
  rw [ResolvedTest.holds, ResolvedTest.holds, node?_masked]
  cases hnode : d.node? id with
  | none => rfl
  | some n =>
    rw [isDeclaration, hnode, Option.any_some] at h
    rw [Option.map_some, Option.any_some, Option.any_some]
    cases test <;> simp [ResolvedTest.accepts, Node.masked, h]

/-! ## Declarations apart -/

/-- Declarations are attributes in a namespace of their own, and no axis leads to one. -/
structure Apart (d : Document) : Prop where
  /-- The document node is no declaration. -/
  root : d.isDeclaration 0 = false
  /-- Declarations are attributes. -/
  kind : ∀ n, d.isDeclaration n = true → d.kind? n = some .attribute
  /-- Declarations are not in the namespace of the prefix `xml`. -/
  uri : ∀ e, ∀ a ∈ d.attributes e, d.isDeclaration a = true → (d.name a).uri ≠ Namespace.xmlUri
  /-- From a node that is no declaration, no axis leads to one. -/
  nodes : ∀ n, d.isDeclaration n = false → ∀ axis : Axis, ∀ m ∈ axis.nodes d n,
    d.isDeclaration m = false

namespace Apart

theorem isDeclaration_of_kind? (h : d.Apart) (hid : d.kind? id ≠ some .attribute) :
    d.isDeclaration id = false :=
  Bool.eq_false_iff.2 fun hdeclaration => hid (h.kind id hdeclaration)

/-- The text of a node is the same, unless it is a declaration. -/
theorem stringValue_masked (h : d.Apart) (hid : d.isDeclaration id = false) :
    d.masked.stringValue id = d.stringValue id := by
  have hbelow : ((d.masked.below id).filter d.masked.isCharacterData).map d.masked.value =
      ((d.below id).filter d.isCharacterData).map d.value := by
    rw [below_masked, isCharacterData_masked]
    refine List.map_congr_left fun n hn => value_masked (h.isDeclaration_of_kind? ?_)
    -- Character data is no attribute.
    intro hattribute
    have hdata := (List.mem_filter.1 hn).2
    rw [isCharacterData, hattribute] at hdata
    cases hdata
  rw [stringValue, stringValue, kind?_masked]
  cases d.kind? id with
  | none => rfl
  | some kind =>
    cases kind
    case document => exact congrArg String.join hbelow
    case element => exact congrArg String.join hbelow
    all_goals exact value_masked hid

/-- The language that is said of a node is the same: it is never said by a declaration. -/
theorem language?_masked (h : d.Apart) (id : Nat) :
    XPath.Builtin.language? d.masked id = XPath.Builtin.language? d id := by
  have hdeclaration : ∀ a ∈ d.attributes id, (d.name a).uri = Namespace.xmlUri →
      d.isDeclaration a = false :=
    fun a ha huri => Bool.eq_false_iff.2 fun hdeclaration => h.uri id a ha hdeclaration huri
  have hfind : ((d.attributes id).find? fun a => (d.masked.name a).localPart == "lang" &&
        (d.masked.name a).uri == Namespace.xmlUri) =
      (d.attributes id).find? fun a => (d.name a).localPart == "lang" &&
        (d.name a).uri == Namespace.xmlUri := by
    refine List.find?_congr fun a ha => ?_
    rw [uri_masked]
    by_cases huri : (d.name a).uri = Namespace.xmlUri
    · rw [localPart_masked (hdeclaration a ha huri)]
    · rw [beq_eq_false_iff_ne.2 huri, Bool.and_false, Bool.and_false]
  rw [XPath.Builtin.language?, XPath.Builtin.language?, attributes_masked, hfind]
  refine Option.map_congr fun a ha =>
    value_masked (hdeclaration a (List.mem_of_find?_eq_some ha) ?_)
  have hlang := List.find?_some ha
  rw [Bool.and_eq_true] at hlang
  exact eq_of_beq hlang.2

theorem isInLanguage_masked (h : d.Apart) (id : Nat) (target : String) :
    XPath.Builtin.isInLanguage d.masked id target = XPath.Builtin.isInLanguage d id target := by
  rw [XPath.Builtin.isInLanguage, XPath.Builtin.isInLanguage, ancestors_masked,
    funext h.language?_masked]

end Apart

theorem localNameOf_masked (h : d.isDeclaration id = false) :
    XPath.Builtin.localNameOf d.masked id = XPath.Builtin.localNameOf d id := by
  rw [XPath.Builtin.localNameOf, XPath.Builtin.localNameOf, kind?_masked, localPart_masked h]

theorem namespaceUriOf_masked (d : Document) (id : Nat) :
    XPath.Builtin.namespaceUriOf d.masked id = XPath.Builtin.namespaceUriOf d id := by
  rw [XPath.Builtin.namespaceUriOf, XPath.Builtin.namespaceUriOf, kind?_masked, uri_masked]

/-! ## Parsed documents -/

variable {top : List Tree}

theorem kind?_of_isDeclaration (h : (ofTrees top).isDeclaration id = true) :
    (ofTrees top).kind? id = some .attribute := by
  rw [isDeclaration, Option.any_eq_true] at h
  obtain ⟨n, hn, hdeclaration⟩ := h
  cases occupied_of_lt (Array.getElem?_eq_some_iff.1 hn).1 with
  | document =>
    rw [node?_zero] at hn
    cases hn
    cases hdeclaration
  | tree ht =>
    rw [ht.node?_eq] at hn
    cases hn
    cases hdeclaration
  | attributeOf ht ha => exact kind?_attribute ht ha

/-- Where no node is, no link leads on, so an axis leads to the place itself or to nodes in
front. -/
theorem mem_nodes_of_size_le {axis : Axis} {m n : Nat} (h : d.size ≤ n) (hm : m ∈ axis.nodes d n) :
    m = n ∨ isTreeNode d m = true := by
  have hlink : ∀ link : Node → Option Nat, (d.node? n).bind link = none := by
    rw [node?, Array.getElem?_eq_none h]
    exact fun _ => rfl
  have hwalk : ∀ link, d.walk link n = [] := fun link => walk_eq_nil_of_bind_eq_none (hlink link)
  have hnil : ∀ nodes : List Nat, nodes = [] → m ∈ nodes → isTreeNode d m = true := by
    rintro _ rfl hm
    cases hm
  cases axis with
  | child => exact .inr (hnil _ (children_of_size_le h) hm)
  | descendant => exact .inr (List.mem_filter.1 hm).2
  | descendantOrSelf => exact (List.mem_cons.1 hm).imp_right fun hm => (List.mem_filter.1 hm).2
  | parent => exact .inr (hnil _ (congrArg Option.toList (hlink (·.parent))) hm)
  | ancestor => exact .inr (hnil _ (hwalk _) hm)
  | ancestorOrSelf => exact (List.mem_cons.1 hm).imp_right (hnil _ (hwalk _))
  | followingSibling => exact .inr (hnil _ (hwalk _) hm)
  | precedingSibling => exact .inr (hnil _ (hwalk _) hm)
  | following => exact .inr (List.mem_filter.1 hm).2
  | preceding => exact .inr ((Bool.and_eq_true _ _).mp (List.mem_filter.1 hm).2).1
  | self => exact .inl (List.mem_singleton.1 hm)
  | «attribute» =>
    exact .inr (hnil _ (attributes_of_size_le h) (List.mem_filter.1 hm).1)
  | namespaces => cases hm

/-- What an axis leads to is the node itself, a node that is no attribute, or an attribute that is
no declaration. -/
theorem isDeclaration_of_mem_nodes {axis : Axis} {m n : Nat}
    (hn : (ofTrees top).isDeclaration n = false) (hm : m ∈ axis.nodes (ofTrees top) n) :
    (ofTrees top).isDeclaration m = false := by
  have htree : isTreeNode (ofTrees top) m = true → (ofTrees top).isDeclaration m = false :=
    fun h => Bool.eq_false_iff.2 fun hdeclaration =>
      (XPath.isTreeNode_iff.1 h).2 (kind?_of_isDeclaration hdeclaration)
  rcases Nat.lt_or_ge n (ofTrees top).size with hlt | hge
  · rw [XPath.mem_nodes_iff hlt] at hm
    cases axis with
    | child => exact htree hm.1
    | descendant => exact htree hm.1
    | descendantOrSelf =>
      rcases hm with rfl | hm
      · exact hn
      · exact htree hm.1
    | parent => exact htree (XPath.isTreeNode_of_isProperlyBelow (.single hm))
    | ancestor => exact htree (XPath.isTreeNode_of_isProperlyBelow hm)
    | ancestorOrSelf =>
      rcases hm with rfl | hm
      · exact hn
      · exact htree (XPath.isTreeNode_of_isProperlyBelow hm)
    | followingSibling => exact htree hm.1.2.1
    | precedingSibling => exact htree hm.1.2.1
    | following => exact htree hm.1
    | preceding => exact htree hm.1
    | self => exact hm ▸ hn
    | «attribute» => exact hm.2.2.2
    | namespaces => cases hm
  · rcases mem_nodes_of_size_le hge hm with rfl | hm
    · exact hn
    · exact htree hm

/-- **No axis of a parsed document leads to a declaration**, except from itself. -/
theorem apart_of_parse {bytes : List UInt8} (h : parse bytes = .ok d) : d.Apart := by
  obtain ⟨text, htext⟩ := exists_text_of_parse h
  obtain ⟨trees, htrees, rfl⟩ := exists_trees_of_parseText htext
  have hscoped := lexicallyScoped_ofTrees ((spells_of_buildTrees htrees).1.scoped rfl)
  have hroot : (ofTrees trees).isDeclaration 0 = false := by
    rw [isDeclaration, node?_zero]
    rfl
  refine ⟨hroot, fun n => kind?_of_isDeclaration, fun e a ha hdeclaration => ?_,
    fun n hn axis m => isDeclaration_of_mem_nodes hn⟩
  rw [(hscoped.attribute e a ha).declaration hdeclaration]
  decide

end Document

end XmlQuery
