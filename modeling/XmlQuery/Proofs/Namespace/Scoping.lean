import Mathlib.Data.List.Perm.Basic
import XmlQuery.Proofs.Document.WellFormed

/-!
# Lexical scoping

What a prefix stands for at an element of a parsed document can be read off the document: it is the
value of the declaration on the nearest element around it, or on the element itself. The stack of
bindings that the builder keeps is forgotten once the document is there, but it agrees, at every
start tag, with what the declarations around the tag say.

## Main definitions

* `Environment`: what prefixes stand for
* `Environment.extend`: inside a tag
* `Scoped`: the names of trees are resolved in an environment
* `Document.inScope?`: what a prefix stands for at an element, found in the document
* `Document.LexicallyScoped`: the names of a document are resolved by its declarations

## Main results

* `Opens.resolve?_eq`: the scope of a tag is the environment around it, extended by its declarations
* `Opens.perm`: the order of the attributes of a tag does not matter
* `Spells.scoped`: the names of trees are resolved in the environment of their events
* `lexicallyScoped_of_parse`: **the names of a parsed document are resolved by its declarations**
-/

namespace XmlQuery

open Markup (Attribute Event)
open Namespace (Scope xmlUri xmlnsUri)

/-! ## Tags -/

/-- What prefixes stand for; the empty prefix stands for the default namespace. -/
abbrev Environment := String → Option String

/-- The value of the attribute that declares a prefix. -/
def declaredIn (attributes : List TreeAttribute) (p : String) : Option String :=
  (attributes.find? (·.name.Declares p)).map (·.value)

/-- What prefixes stand for inside a tag: what its attributes declare, and otherwise what they
stand for around it. -/
def Environment.extend (env : Environment) (attributes : List TreeAttribute) : Environment :=
  fun p => if p = "xml" then some xmlUri else (declaredIn attributes p).or (env p)

/-- The name of an element is resolved in an environment. -/
structure ElementResolved (env : Environment) (n : Name) : Prop where
  /-- Without a prefix an element is in the default namespace, if there is one. -/
  unprefixed : n.nsPrefix = "" → n.uri = (env "").getD ""
  /-- With a prefix it is in the namespace that the prefix stands for. -/
  prefixed : n.nsPrefix ≠ "" → env n.nsPrefix = some n.uri

/-- The name of an attribute, which may declare a namespace, is resolved in an environment. -/
structure AttributeResolved (env : Environment) (n : Name) (isDeclaration : Bool) : Prop where
  /-- The attributes `xmlns` and `xmlns:p` are the declarations. -/
  isDeclaration_iff : isDeclaration = true ↔ ∃ p, n.Declares p
  /-- A declaration is in the namespace of declarations. -/
  declaration : isDeclaration = true → n.uri = xmlnsUri
  /-- Without a prefix another attribute is in no namespace. -/
  unprefixed : isDeclaration = false → n.nsPrefix = "" → n.uri = ""
  /-- With a prefix it is in the namespace that the prefix stands for. -/
  prefixed : isDeclaration = false → n.nsPrefix ≠ "" → env n.nsPrefix = some n.uri

/-- The names of a tag are resolved in an environment. -/
structure Resolved (env : Environment) (name : Name) (attributes : List TreeAttribute) : Prop where
  /-- The name of the element is resolved. -/
  element : ElementResolved env name
  /-- The names of the attributes are resolved. -/
  «attribute» : ∀ a ∈ attributes, AttributeResolved env a.name a.isDeclaration
  /-- No prefix is declared twice. -/
  distinct : attributes.Pairwise fun a b => ∀ p, ¬ (a.name.Declares p ∧ b.name.Declares p)

/-- A name declares one prefix. -/
theorem Name.Declares.eq {m n : Name} {p : String} (hm : m.Declares p) (hn : n.Declares p) :
    m.nsPrefix = n.nsPrefix ∧ m.localPart = n.localPart := by
  rw [Name.Declares] at hm hn
  split at hm
  · next hp =>
    rw [if_pos hp] at hn
    exact ⟨hm.1.trans hn.1.symm, hm.2.trans hn.2.symm⟩
  · next hp =>
    rw [if_neg hp] at hn
    exact ⟨hm.1.trans hn.1.symm, hm.2.trans hn.2.symm⟩

namespace Builder

/-- A declaration is told from the parts of its name, and so is the prefix that it declares. -/
theorem declares_iff_of_parts {a : Attribute} {n : Name} (hpre : n.nsPrefix = a.nsPrefix?.getD "")
    (hpart : n.localPart = a.localName) (hne : a.nsPrefix? ≠ some "")
    (hlocal : a.isDeclaration = true → a.localName ≠ "") {p : String} :
    n.Declares p ↔ a.isDeclaration = true ∧ declared a = p := by
  rw [Name.Declares, hpre, hpart, declared, declaredPrefix?]
  cases hqualifier : a.nsPrefix? with
  | none =>
    -- Without a prefix it declares the default namespace, if it is `xmlns`.
    rw [Attribute.isDeclaration_of_no_prefix hqualifier]
    by_cases hp : p = ""
    · simp [hp]
    · simp [hp, Ne.symm hp]
  | some q =>
    -- With a prefix it declares its local part, which is not empty.
    have hq : q ≠ "" := fun hempty => hne (hempty ▸ hqualifier)
    rw [Attribute.isDeclaration_of_nsPrefix? hqualifier] at hlocal ⊢
    by_cases hp : p = ""
    · simpa [hp, hq] using hlocal
    · simp [hp]

/-- A declaration is told from its resolved name, and so is the prefix that it declares. -/
theorem Resolves.declares_iff {s : Scope} {a : Attribute} {r : TreeAttribute}
    (h : Resolves s a r) (hlocal : a.isDeclaration = true → a.localName ≠ "") {p : String} :
    r.name.Declares p ↔ a.isDeclaration = true ∧ declared a = p :=
  declares_iff_of_parts h.nsPrefix_eq h.localPart_eq h.nsPrefix?_ne hlocal

/-- What a name of an element stands for depends on what prefixes stand for. -/
theorem elementName_congr {s t : Scope} (h : s.resolve? = t.resolve?) :
    elementName s = elementName t := by
  funext written
  rw [elementName, elementName, Scope.default, Scope.default, h]

theorem resolveAttribute_congr {s t : Scope} (h : s.resolve? = t.resolve?) :
    resolveAttribute s = resolveAttribute t := by
  funext a
  rw [resolveAttribute, resolveAttribute, attributeName, attributeName, h]

theorem sameExpanded_comm (q r : TreeAttribute) : sameExpanded q r = sameExpanded r q := by
  rw [sameExpanded, sameExpanded, Bool.and_comm (!q.isDeclaration),
    Bool.beq_comm (a := q.name.uri), Bool.beq_comm (a := q.name.localPart)]

/-- The name of a declaration is given by the prefix that it declares. -/
theorem name_eq_of_isDeclaration {a : Attribute} (h : a.isDeclaration = true)
    (hlocal : a.localName ≠ "") :
    a.name = if declared a = "" then "xmlns" else "xmlns" ++ ":" ++ declared a := by
  rw [declared, declaredPrefix?]
  cases hpre : a.nsPrefix? with
  | none =>
    rw [Attribute.name_eq_localName hpre]
    exact (Attribute.isDeclaration_of_no_prefix hpre).1 h
  | some q =>
    rw [Option.map_some, Option.getD_some, if_neg hlocal,
      Attribute.name_eq_of_nsPrefix? hpre, (Attribute.isDeclaration_of_nsPrefix? hpre).1 h]

/-- A declaration that is accepted declares something. -/
theorem Accepted.localName_ne {a : Attribute} (ha : Accepted a) (h : a.isDeclaration = true) :
    a.localName ≠ "" := by
  cases hpre : a.nsPrefix? with
  | none =>
    rw [(Attribute.isDeclaration_of_no_prefix hpre).1 h]
    decide
  | some p => exact ha.localName_ne_empty hpre

/-- Attributes with different names do not declare the same prefix. -/
theorem declared_ne_of_name_ne {attributes : List Attribute}
    (haccepted : ∀ a ∈ attributes, a.isDeclaration = true → Accepted a)
    (hnames : attributes.Pairwise fun a b => a.name ≠ b.name) :
    (attributes.filter (·.isDeclaration)).Pairwise fun a b => declared a ≠ declared b := by
  rw [List.pairwise_filter]
  refine hnames.imp_of_mem ?_
  -- Two declarations of a prefix have the same name.
  intro a b ha hb hname hadecl hbdecl hdeclared
  apply hname
  rw [name_eq_of_isDeclaration hadecl ((haccepted a ha hadecl).localName_ne hadecl),
    name_eq_of_isDeclaration hbdecl ((haccepted b hb hbdecl).localName_ne hbdecl), hdeclared]

end Builder

/-- What is found first is found first among what stands for it. -/
theorem map_find?_eq_of_forall₂ {α β γ : Type} {xs : List α} {ys : List β} {f : α → Bool}
    {g : β → Bool} {u : α → γ} {v : β → γ}
    (h : List.Forall₂ (fun x y => g y = f x ∧ v y = u x) xs ys) :
    (ys.find? g).map v = (xs.find? f).map u := by
  induction h with
  | nil => rfl
  | @cons x y xs ys hxy _ ih =>
    rw [List.find?_cons, List.find?_cons, hxy.1]
    cases f x with
    | true => exact congrArg some hxy.2
    | false => exact ih

theorem exists_of_forall₂ {α β : Type} {R : α → β → Prop} {xs : List α} {ys : List β}
    (h : List.Forall₂ R xs ys) {y : β} (hy : y ∈ ys) : ∃ x ∈ xs, R x y := by
  induction h with
  | nil => cases hy
  | @cons x _ xs _ hxy _ ih =>
    rcases List.mem_cons.1 hy with rfl | hy
    · exact ⟨x, List.mem_cons_self, hxy⟩
    · obtain ⟨x', hx', hR⟩ := ih hy
      exact ⟨x', List.mem_cons_of_mem _ hx', hR⟩

/-- The order does not matter to what is found, if there is at most one. -/
theorem find?_eq_of_perm {α : Type} {xs ys : List α} {f : α → Bool} (h : xs.Perm ys)
    (hunique : xs.Pairwise fun x y => ¬ (f x = true ∧ f y = true)) : xs.find? f = ys.find? f := by
  induction h with
  | nil => rfl
  | cons x _ ih =>
    rw [List.find?_cons, List.find?_cons, ih (List.pairwise_cons.1 hunique).2]
  | swap x y xs =>
    -- Of two neighbours at most one can be what is found.
    have hxy := (List.pairwise_cons.1 hunique).1 x List.mem_cons_self
    rw [List.find?_cons, List.find?_cons, List.find?_cons, List.find?_cons]
    cases hx : f x with
    | false => rfl
    | true =>
      cases hy : f y with
      | false => rfl
      | true => exact absurd ⟨hy, hx⟩ hxy
  | trans h _ ih ih' =>
    have hsymm : ∀ {x y : α}, ¬ (f x = true ∧ f y = true) → ¬ (f y = true ∧ f x = true) :=
      fun hne hyx => hne hyx.symm
    exact (ih hunique).trans (ih' ((h.pairwise_iff hsymm).1 hunique))

/-- The declarations of a tag extend what prefixes stand for by what its attributes, with their
names resolved, declare. -/
theorem Builder.resolve?_declarations {s : Scope} {attributes : List Attribute}
    {resolved : List TreeAttribute}
    (h : List.Forall₂ (fun a r => (∀ p, r.name.Declares p ↔
      a.isDeclaration = true ∧ declared a = p) ∧ r.value = a.value) attributes resolved)
    (hdistinct : (attributes.filter (·.isDeclaration)).Pairwise fun a b => declared a ≠ declared b)
    (hxml : s.resolve? "xml" = some xmlUri) :
    ((attributes.filter (·.isDeclaration)).foldl afterDeclaration s.push).resolve? =
      Environment.extend s.resolve? resolved := by
  funext p
  rw [Environment.extend]
  split
  · -- The prefix `xml` stands for what it did around the tag.
    next hp =>
    subst hp
    rw [resolve?_xml_foldl]
    exact hxml
  · next hp =>
    have hfind : ((attributes.filter (·.isDeclaration)).find? (declared · == p)).map (·.value) =
        declaredIn resolved p := by
      rw [List.find?_filter, declaredIn]
      refine (map_find?_eq_of_forall₂ (h.imp ?_)).symm
      rintro a r ⟨hdeclares, hvalue⟩
      -- An attribute and what it is resolved to declare the same prefix and have the same value.
      refine ⟨?_, hvalue⟩
      rw [Bool.eq_iff_iff, decide_eq_true_iff, decide_eq_true_iff, hdeclares, beq_iff_eq]
    rw [resolve?_foldl _ hdistinct hp, hfind]
    rfl

namespace Opens

variable {scope inner : Scope} {written : String} {attributes : List Attribute} {name : Name}
  {resolved : List TreeAttribute}

/-- The declarations of a tag are accepted. -/
theorem accepted (h : Opens scope written attributes inner name resolved) :
    ∀ a ∈ attributes, a.isDeclaration = true → Builder.Accepted a := by
  intro a ha hdeclaration
  exact (Builder.foldlM_declare_eq_ok_iff.1 h.declareAll_eq).1 a
    (List.mem_filter.2 ⟨ha, hdeclaration⟩)

/-- A declaration of a tag declares something. -/
theorem localName_ne_empty (h : Opens scope written attributes inner name resolved) :
    ∀ a ∈ attributes, a.isDeclaration = true → a.localName ≠ "" :=
  fun a ha hdeclaration => (h.accepted a ha hdeclaration).localName_ne hdeclaration

/-- The attributes of a tag are resolved in its scope, and its declarations stay declarations of the
same prefixes. -/
theorem forall₂ (h : Opens scope written attributes inner name resolved) :
    List.Forall₂ (fun a r => Builder.Resolves inner a r ∧
      ∀ p, r.name.Declares p ↔ a.isDeclaration = true ∧ Builder.declared a = p)
      attributes resolved := by
  have hforall := (Builder.resolveAttributes_eq_ok_iff.1 h.resolveAttributes_eq).1
  refine List.Forall₂.imp ?_ ((List.forall₂_and_left _ _).2 ⟨h.localName_ne_empty, hforall⟩)
  rintro a r ⟨hlocal, hr⟩
  have hresolves := Builder.resolves_of_resolveAttribute hr
  exact ⟨hresolves, fun p => hresolves.declares_iff hlocal⟩

/-- No two attributes of a tag declare the same prefix. -/
theorem declared_ne (h : Opens scope written attributes inner name resolved) :
    (attributes.filter (·.isDeclaration)).Pairwise fun a b =>
      Builder.declared a ≠ Builder.declared b :=
  Builder.declared_ne_of_name_ne h.accepted
    (Builder.resolveAttributes_eq_ok_iff.1 h.resolveAttributes_eq).2.1.2

/-- The scope of a tag is the one around it, extended by the declarations of the tag. -/
theorem resolve?_eq (h : Opens scope written attributes inner name resolved)
    (hxml : scope.resolve? "xml" = some xmlUri) :
    inner.resolve? = Environment.extend scope.resolve? resolved := by
  rw [(Builder.foldlM_declare_eq_ok_iff.1 h.declareAll_eq).2]
  refine Builder.resolve?_declarations ?_ h.declared_ne hxml
  exact h.forall₂.imp fun a r hr => ⟨hr.2, hr.1.value_eq⟩

/-- Reordering the attributes of a tag changes neither whether it is accepted nor what its names
stand for. -/
theorem perm (h : Opens scope written attributes inner name resolved) {reordered : List Attribute}
    (hperm : attributes.Perm reordered) :
    ∃ inner' resolved', Opens scope written reordered inner' name resolved' ∧
      inner'.resolve? = inner.resolve? ∧ resolved'.Perm resolved := by
  obtain ⟨haccepted, hinner⟩ := Builder.foldlM_declare_eq_ok_iff.1 h.declareAll_eq
  have hfilter : (attributes.filter (·.isDeclaration)).Perm (reordered.filter (·.isDeclaration)) :=
    hperm.filter _
  -- Each prefix is declared once, so what is found for it does not depend on the order.
  have hdistinct := h.declared_ne
  have hresolve : ((reordered.filter (·.isDeclaration)).foldl Builder.afterDeclaration
      scope.push).resolve? = inner.resolve? := by
    funext p
    rw [hinner]
    by_cases hp : p = "xml"
    · rw [hp, Builder.resolve?_xml_foldl, Builder.resolve?_xml_foldl]
    · rw [Builder.resolve?_foldl _ hdistinct hp,
        Builder.resolve?_foldl _ ((hfilter.pairwise_iff Ne.symm).1 hdistinct) hp]
      rw [find?_eq_of_perm hfilter]
      refine hdistinct.imp fun {a b} hne hboth => hne ?_
      exact (beq_iff_eq.1 hboth.1).trans (beq_iff_eq.1 hboth.2).symm
  -- What is asked of the attributes is asked of each of them, or of every two in either order.
  obtain ⟨hforall, ⟨-, hnames⟩, -, hexpanded⟩ :=
    Builder.resolveAttributes_eq_ok_iff.1 h.resolveAttributes_eq
  obtain ⟨resolved', hforall', hperm'⟩ := List.perm_comp_forall₂ hperm.symm hforall
  refine ⟨_, resolved', ⟨?_, ?_, ?_⟩, hresolve, hperm'⟩
  · exact Builder.foldlM_declare_eq_ok_iff.2
      ⟨fun a ha => haccepted a (hfilter.mem_iff.2 ha), rfl⟩
  · rw [Builder.elementName_congr hresolve]
    exact h.elementName_eq
  · refine Builder.resolveAttributes_eq_ok_iff.2 ⟨?_, ⟨fun b hb => ?_, ?_⟩, fun q hq => ?_, ?_⟩
    · simpa only [Builder.resolveAttribute_congr hresolve] using hforall'
    · cases hb
    · exact (hperm.pairwise_iff Ne.symm).1 hnames
    · cases hq
    · refine (hperm'.pairwise_iff ?_).2 hexpanded
      intro q r hqr
      rw [Builder.sameExpanded_comm]
      exact hqr

/-- The names of a tag are resolved in the environment around it, extended by its declarations. -/
theorem resolved_names (h : Opens scope written attributes inner name resolved)
    (hxml : scope.resolve? "xml" = some xmlUri) :
    Resolved (Environment.extend scope.resolve? resolved) name resolved := by
  obtain ⟨-, hdefault, hprefixed⟩ := Builder.elementName_spec h.elementName_eq
  rw [← h.resolve?_eq hxml]
  refine ⟨⟨hdefault, hprefixed⟩, fun r hr => ?_, ?_⟩
  · obtain ⟨a, -, hresolves, hdeclares⟩ := exists_of_forall₂ h.forall₂ hr
    refine ⟨?_, hresolves.declaration_uri, hresolves.uri_eq_empty, hresolves.resolve?_eq⟩
    simp only [hdeclares, hresolves.isDeclaration_eq, exists_and_left, exists_eq', and_true]
  · -- Attributes that declare the same prefix would be written in the same way.
    have hnames := (Builder.resolveAttributes_eq_ok_iff.1 h.resolveAttributes_eq).2.1.2
    have hmap := congrArg (List.map Prod.fst) h.map_qualified
    rw [List.map_map, List.map_map] at hmap
    rw [← List.pairwise_map (f := Attribute.name)] at hnames
    have hqualified : (resolved.map (·.name.qualified)).Pairwise (· ≠ ·) := hmap ▸ hnames
    rw [List.pairwise_map] at hqualified
    refine hqualified.imp fun {q r} hne p hdeclares => hne ?_
    obtain ⟨hpre, hlocal⟩ := hdeclares.1.eq hdeclares.2
    rw [Name.qualified, Name.qualified, hpre, hlocal]

end Opens

/-! ## Trees -/

/-- The names of trees are resolved in an environment. -/
inductive Scoped : Environment → List Tree → Prop
  /-- No trees. -/
  | nil {env : Environment} : Scoped env []
  /-- A leaf. -/
  | leaf {env : Environment} {kind : LeafKind} {value : String} {ts : List Tree} :
    Scoped env ts → Scoped env (.leaf kind value :: ts)
  /-- An element. -/
  | element {env : Environment} {name : Name} {attributes : List TreeAttribute}
    {contents ts : List Tree} : Resolved (env.extend attributes) name attributes →
    Scoped (env.extend attributes) contents → Scoped env ts →
    Scoped env (.element name attributes contents :: ts)

theorem Environment.extend_xml (env : Environment) (attributes : List TreeAttribute) :
    env.extend attributes "xml" = some xmlUri := if_pos rfl

/-- The names of trees are resolved in the environment of the events that spell them. -/
theorem Spells.scoped {atTop : Bool} {scope : Scope} {events : List Event} {trees : List Tree}
    (h : Spells atTop scope events trees) (hxml : scope.resolve? "xml" = some xmlUri) :
    Scoped scope.resolve? trees := by
  induction h with
  | nil => exact .nil
  | blank _ _ ih => exact ih hxml
  | leaf _ _ ih => exact .leaf (ih hxml)
  | element hopens _ _ ihwithin ih =>
    -- Only the contents see the declarations of the tag; what follows is where the tag is.
    have hinner := hopens.resolve?_eq hxml
    refine .element (hopens.resolved_names hxml) ?_ (ih hxml)
    rw [← hinner]
    exact ihwithin (hinner ▸ Environment.extend_xml _ _)
  | empty hopens _ ih => exact .element (hopens.resolved_names hxml) .nil (ih hxml)

namespace Document

open XmlQuery.Tree (ids)

/-! ## Documents -/

/-- The value of the attribute of an element that declares a prefix. -/
def declared? (d : Document) (e : Nat) (p : String) : Option String :=
  ((d.attributes e).find? fun a => (d.name a).Declares p).map d.value

/-- What a prefix stands for at an element: what is declared for it on the nearest element, from
this one outwards. The prefix `xml` always stands for its own namespace. -/
def inScope? (d : Document) (e : Nat) (p : String) : Option String :=
  if p = "xml" then some xmlUri
  else (e :: d.walk (·.parent) e).findSome? fun a => d.declared? a p

/-- The names of a document are resolved by the declarations on the elements around them. -/
structure LexicallyScoped (d : Document) : Prop where
  /-- The names of elements are resolved. -/
  element : ∀ e, d.kind? e = some .element → ElementResolved (d.inScope? e) (d.name e)
  /-- The names of attributes are resolved. -/
  «attribute» : ∀ e, ∀ a ∈ d.attributes e,
    AttributeResolved (d.inScope? e) (d.name a) (d.isDeclaration a)
  /-- The order of the attributes of an element does not matter to what they declare. -/
  order : ∀ e p, ∀ l : List Nat, l.Perm (d.attributes e) →
    (l.find? fun a => (d.name a).Declares p).map d.value = d.declared? e p

variable {top ts : List Tree} {id parent : Nat} {previous : Option Nat} {t : Tree}

theorem LaidOut.declared?_eq (h : LaidOut top id parent previous (t :: ts)) (p : String) :
    (ofTrees top).declared? id p = declaredIn t.attributes p := by
  refine map_find?_eq_of_forall₂ (h.forall₂_attributes.imp ?_)
  rintro a i ⟨hname, hvalue, -⟩
  rw [hname]
  exact ⟨rfl, hvalue⟩

/-- What prefixes stand for at a tree is what they stand for around it, extended by what the tree
declares. -/
theorem LaidOut.inScope?_eq (h : LaidOut top id parent previous (t :: ts)) :
    (ofTrees top).inScope? id =
      Environment.extend ((ofTrees top).inScope? parent) t.attributes := by
  funext p
  rw [inScope?, Environment.extend]
  split
  · rfl
  · next hp =>
    -- From the parent outwards the way is the way from the tree without its first step.
    rw [walk_parent_eq h.parent?_eq, inScope?, if_neg hp, List.findSome?_cons, h.declared?_eq]
    cases declaredIn t.attributes p <;> rfl

theorem inScope?_zero (top : List Tree) :
    (ofTrees top).inScope? 0 = Scope.initial.resolve? := by
  funext p
  rw [inScope?, walk_parent_zero, List.findSome?_cons, declared?, attributes_zero]
  by_cases hp : p = "xml"
  · subst hp
    rfl
  · simp [hp, Scope.initial, Scope.resolve?, Ne.symm hp]

/-- The environment of trees can be read off the document around them. -/
theorem LaidOut.scoped (h : LaidOut top id parent previous ts)
    (htop : Scoped Scope.initial.resolve? top) : Scoped ((ofTrees top).inScope? parent) ts := by
  induction h with
  | top =>
    -- Around the top nothing is declared but `xml`.
    rw [inScope?_zero]
    exact htop
  | rest _ ih =>
    cases ih with
    | leaf hrest => exact hrest
    | element _ _ hrest => exact hrest
  | contents h ih =>
    rw [h.inScope?_eq]
    cases ih with
    | leaf => exact .nil
    | element _ hcontents _ => exact hcontents

/-- The names of an element are resolved in the environment that is read off the document. -/
theorem resolved_of_kind? (htop : Scoped Scope.initial.resolve? top) {e : Nat}
    (h : (ofTrees top).kind? e = some .element) :
    ∃ attributes, Resolved ((ofTrees top).inScope? e) ((ofTrees top).name e) attributes ∧
      List.Forall₂ (fun a i => (ofTrees top).name i = a.name ∧ (ofTrees top).value i = a.value ∧
        (ofTrees top).isDeclaration i = a.isDeclaration) attributes
        ((ofTrees top).attributes e) := by
  obtain ⟨parent, previous, t, ts, ht, hkind⟩ :=
    exists_laidOut_of_kind? h (by decide) (by decide)
  refine ⟨t.attributes, ?_, ht.forall₂_attributes⟩
  rw [ht.name_eq, ht.inScope?_eq]
  cases ht.scoped htop with
  | @leaf _ kind =>
    cases kind <;> cases hkind
  | element hresolved _ _ => exact hresolved

/-- No prefix is declared twice on an element. -/
theorem distinct_attributes (htop : Scoped Scope.initial.resolve? top) (e : Nat) (p : String) :
    ((ofTrees top).attributes e).Pairwise fun a b =>
      ¬ (((ofTrees top).name a).Declares p ∧ ((ofTrees top).name b).Declares p) := by
  by_cases hnil : (ofTrees top).attributes e = []
  · rw [hnil]
    exact .nil
  · -- What has attributes is an element, and they have the names of the attributes of its tag.
    obtain ⟨i, hi⟩ := List.exists_mem_of_ne_nil _ hnil
    obtain ⟨attributes, hresolved, hforall⟩ := resolved_of_kind? htop (kind?_of_mem_attributes hi)
    have hnames : attributes.map (·.name) =
        ((ofTrees top).attributes e).map (ofTrees top).name := by
      rw [← List.forall₂_eq_eq_eq, List.forall₂_map_left_iff, List.forall₂_map_right_iff]
      exact hforall.imp fun a j hj => hj.1.symm
    have hdistinct : (attributes.map (·.name)).Pairwise fun m n =>
        ¬ (m.Declares p ∧ n.Declares p) := by
      rw [List.pairwise_map]
      exact hresolved.distinct.imp fun hne => hne p
    rw [hnames, List.pairwise_map] at hdistinct
    exact hdistinct

/-- The table of trees whose names are resolved is lexically scoped. -/
theorem lexicallyScoped_ofTrees (htop : Scoped Scope.initial.resolve? top) :
    (ofTrees top).LexicallyScoped where
  element e he := by
    obtain ⟨attributes, hresolved, -⟩ := resolved_of_kind? htop he
    exact hresolved.element
  «attribute» e i hi := by
    obtain ⟨attributes, hresolved, hforall⟩ := resolved_of_kind? htop (kind?_of_mem_attributes hi)
    obtain ⟨a, ha, hname, -, hdeclaration⟩ := exists_of_forall₂ hforall hi
    rw [hname, hdeclaration]
    exact hresolved.attribute a ha
  order e p l hl := by
    refine congrArg _ (find?_eq_of_perm hl.symm ?_).symm
    simpa only [decide_eq_true_iff] using distinct_attributes htop e p

/-- **The names of a parsed document are resolved by its declarations.** -/
theorem lexicallyScoped_of_parse {bytes : List UInt8} {d : Document}
    (h : parse bytes = .ok d) : d.LexicallyScoped := by
  obtain ⟨text, htext⟩ := exists_text_of_parse h
  obtain ⟨trees, htrees, rfl⟩ := exists_trees_of_parseText htext
  exact lexicallyScoped_ofTrees ((spells_of_buildTrees htrees).1.scoped rfl)

/-- The prefix of the element is declared on the element itself. -/
theorem lexicallyScoped_of_parse_element :
    parse (Utf8.encode sample) = .ok (ofTrees [sampleTree]) ∧
      (ofTrees [sampleTree]).name 1 = ⟨"p", "a", "u"⟩ ∧ (ofTrees [sampleTree]).LexicallyScoped :=
  ⟨parse_sample, rfl, lexicallyScoped_of_parse parse_sample⟩

end Document

end XmlQuery
