import XmlQuery.Proofs.Namespace.Tags

/-!
# Tags that can be written

A tag is given by its resolved names and the values of its attributes. It can be written if its
names have a form that can be, if its prefixes stand for the namespaces that its names are in, and
if its declarations are legal. Written down, with a colon between prefix and local part, it is
accepted wherever prefixes stand for what they did, and its names are resolved to what they were.

## Main definitions

* `Name.Writable`: the parts of a name contain no colon
* `MayStandFor`: the namespaces that a prefix may be declared to stand for
* `TreeAttribute.Legal`, `LegalTag`: an attribute and a tag can be written

## Main results

* `TreeAttribute.Legal.resolveAttribute_eq`: an attribute is resolved to what it was
* `LegalTag.exists_opens`: **a tag that can be written is accepted, and resolved to what it was**
-/

namespace XmlQuery

open Markup (Attribute QName isChar isNCName)
open Namespace (Scope xmlUri xmlnsUri)

/-! ## Names -/

/-- The prefix of a name, if it has one. -/
def Name.prefix? (n : Name) : Option String := if n.nsPrefix = "" then .none else some n.nsPrefix

/-- A name has a form that can be written: neither part contains a colon. -/
structure Name.Writable (n : Name) : Prop where
  /-- There is no prefix, or it is a name without a colon. -/
  nsPrefix : n.nsPrefix = "" ∨ isNCName n.nsPrefix.toList = true
  /-- The local part is a name without a colon. -/
  localPart : isNCName n.localPart.toList = true

variable {n : Name}

theorem Name.prefix?_getD (n : Name) : n.prefix?.getD "" = n.nsPrefix := by
  rw [prefix?]
  split
  · next hempty => exact hempty.symm
  · rfl

theorem Name.prefix?_ne (n : Name) : n.prefix? ≠ some "" := by
  rw [prefix?]
  split
  · nofun
  · next hne => exact fun hsome => hne (Option.some.inj hsome)

theorem Name.Writable.qName (h : n.Writable) : QName n.qualified n.prefix? n.localPart := by
  rw [Name.qualified, Name.prefix?]
  rcases h.nsPrefix with hempty | hqualifier
  · rw [if_pos hempty, if_pos hempty]
    exact .unprefixed h.localPart
  · have hne : n.nsPrefix ≠ "" := by
      intro hempty
      rw [hempty] at hqualifier
      cases hqualifier
    rw [if_neg hne, if_neg hne]
    exact .prefixed hqualifier h.localPart

theorem Name.Writable.localPart_ne_empty (h : n.Writable) : n.localPart ≠ "" := by
  intro hempty
  have hpart := h.localPart
  rw [hempty] at hpart
  cases hpart

/-- The parts of an attribute are those of its name. -/
theorem Markup.QName.parts {a : Attribute} {p? : Option String} {part : String}
    (h : QName a.name p? part) : a.nsPrefix? = p? ∧ a.localName = part := by
  rw [Attribute.nsPrefix?, Attribute.localName]
  generalize a.name = written at h
  cases h with
  | unprefixed hpart =>
    rw [Markup.splitColon_of_no_colon (Markup.ne_colon_of_isNCName hpart)]
    exact ⟨rfl, rfl⟩
  | @prefixed p part hp _ =>
    have hlist : (p ++ ":" ++ part).toList = p.toList ++ ':' :: part.toList := by simp
    rw [hlist, Markup.splitColon_append (Markup.ne_colon_of_isNCName hp)]
    dsimp only
    rw [String.ofList_toList, String.ofList_toList]
    exact ⟨rfl, rfl⟩

namespace Builder

variable {s : Scope}

/-- The name of an element that is resolved is resolved to what it is. -/
theorem elementName_qualified (hwritable : n.Writable) (h : ElementResolved s.resolve? n) :
    elementName s n.qualified = .ok n := by
  rw [elementName, Markup.qName_iff.1 hwritable.qName, Name.prefix?]
  obtain ⟨nsPrefix, part, uri⟩ := n
  by_cases hempty : nsPrefix = ""
  · subst hempty
    obtain rfl : uri = (s.resolve? "").getD "" := h.unprefixed rfl
    rw [if_pos rfl]
    dsimp only [Option.map_none]
    rw [String.ofList_toList, Scope.default]
  · have huri := h.prefixed hempty
    dsimp only at huri
    rw [if_neg hempty]
    dsimp only [Option.map_some]
    rw [String.ofList_toList, String.ofList_toList, huri]

end Builder

/-! ## Attributes -/

/-- What a prefix may be declared to stand for. The empty prefix is that of the default namespace,
which may be none. -/
structure MayStandFor (p uri : String) : Prop where
  /-- The prefix `xmlns` is not declared. -/
  ne_xmlns : p ≠ "xmlns"
  /-- The prefix `xml` stands for its own namespace. -/
  xml : p = "xml" → uri = xmlUri
  /-- Another prefix does not stand for a reserved namespace. -/
  other : p ≠ "xml" → uri ≠ xmlUri ∧ uri ≠ xmlnsUri
  /-- Every prefix that is declared stands for a namespace. -/
  uri_ne : p ≠ "" → uri ≠ ""

/-- An attribute can be written where prefixes stand for what they do in an environment. -/
structure TreeAttribute.Legal (env : Environment) (a : TreeAttribute) : Prop where
  /-- The name can be written. -/
  writable : a.name.Writable
  /-- The name is resolved. -/
  resolved : AttributeResolved env a.name a.isDeclaration
  /-- A declaration is legal. -/
  declares : ∀ p, a.name.Declares p → MayStandFor p a.value
  /-- A document may hold the characters of the value. -/
  value : ∀ c ∈ a.value.toList, isChar c = true

/-- The namespace of an attribute follows from the other parts of its name. -/
theorem AttributeResolved.uri_eq {env : Environment} {m n : Name} {d d' : Bool}
    (hm : AttributeResolved env m d) (hn : AttributeResolved env n d')
    (hpre : m.nsPrefix = n.nsPrefix) (hpart : m.localPart = n.localPart) : m.uri = n.uri := by
  have hdeclares : ∀ p, m.Declares p ↔ n.Declares p := by
    intro p
    rw [Name.Declares, Name.Declares, hpre, hpart]
  obtain rfl : d = d' := by
    rw [Bool.eq_iff_iff, hm.isDeclaration_iff, hn.isDeclaration_iff, exists_congr hdeclares]
  cases d with
  | true => rw [hm.declaration rfl, hn.declaration rfl]
  | false =>
    by_cases hempty : m.nsPrefix = ""
    · rw [hm.unprefixed rfl hempty, hn.unprefixed rfl (hpre ▸ hempty)]
    · have huri := hm.prefixed rfl hempty
      rw [hpre, hn.prefixed rfl (hpre ▸ hempty)] at huri
      exact (Option.some.inj huri).symm

namespace TreeAttribute.Legal

variable {env : Environment} {r : TreeAttribute} {a : Attribute}

/-- An attribute as written declares the prefix that the resolved one does. -/
theorem declares_iff (h : r.Legal env) (hname : a.name = r.name.qualified) {p : String} :
    r.name.Declares p ↔ a.isDeclaration = true ∧ Builder.declared a = p := by
  obtain ⟨hpre, hpart⟩ := Markup.QName.parts (hname ▸ h.writable.qName)
  have hlocal : a.isDeclaration = true → a.localName ≠ "" :=
    fun _ => hpart ▸ h.writable.localPart_ne_empty
  exact Builder.declares_iff_of_parts (hpre ▸ r.name.prefix?_getD.symm) hpart.symm
    (hpre ▸ r.name.prefix?_ne) hlocal

theorem isDeclaration_eq (h : r.Legal env) (hname : a.name = r.name.qualified) :
    a.isDeclaration = r.isDeclaration := by
  rw [Bool.eq_iff_iff, h.resolved.isDeclaration_iff]
  simp only [h.declares_iff hname, exists_and_left, exists_eq', and_true]

/-- A declaration that can be written is accepted. -/
theorem accepted (h : r.Legal env) (hname : a.name = r.name.qualified) (hvalue : a.value = r.value)
    (hdeclaration : a.isDeclaration = true) : Builder.Accepted a := by
  have hmay : MayStandFor (Builder.declared a) a.value :=
    hvalue ▸ h.declares _ ((h.declares_iff hname).2 ⟨hdeclaration, rfl⟩)
  rw [Builder.declared] at hmay
  cases hqualifier : Builder.declaredPrefix? a with
  | none =>
    rw [hqualifier] at hmay
    exact (Builder.accepted_default_iff hqualifier).2 (hmay.other (by decide))
  | some p =>
    rw [hqualifier, Option.getD_some] at hmay
    -- The prefix is the local part, which is a name.
    have hpart : a.localName = p := by
      rw [Builder.declaredPrefix?, Option.map_eq_some_iff] at hqualifier
      obtain ⟨-, -, hpart⟩ := hqualifier
      exact hpart
    have hncName : isNCName p.toList = true := by
      rw [← hpart, (Markup.QName.parts (hname ▸ h.writable.qName)).2]
      exact h.writable.localPart
    refine (Builder.accepted_prefix_iff hqualifier).2 ⟨hncName, hmay.ne_xmlns, ?_⟩
    split
    · next hxml => exact hmay.xml hxml
    · next hxml =>
      refine ⟨hmay.uri_ne ?_, hmay.other hxml⟩
      rintro rfl
      cases hncName

/-- An attribute that is written is resolved to what it was. -/
theorem resolveAttribute_eq {s : Scope} (h : r.Legal s.resolve?)
    (hname : a.name = r.name.qualified) (hvalue : a.value = r.value) :
    Builder.resolveAttribute s a = .ok r := by
  have hdeclaration := h.isDeclaration_eq hname
  have hqName : QName a.name r.name.prefix? r.name.localPart := hname ▸ h.writable.qName
  have hqualifier := r.name.prefix?_getD
  obtain ⟨⟨nsPrefix, part, uri⟩, value, isDeclaration⟩ := r
  rw [Builder.resolveAttribute, hdeclaration, hvalue]
  cases isDeclaration with
  | true =>
    obtain rfl : uri = xmlnsUri := h.resolved.declaration rfl
    rw [if_pos rfl, Builder.declarationName, hqName.parts.1, hqName.parts.2, hqualifier]
  | false =>
    have huri : Environment.uriOf? s.resolve? (Name.prefix? ⟨nsPrefix, part, uri⟩) = some uri := by
      rw [Name.prefix?]
      split
      · next hempty => exact congrArg some (h.resolved.unprefixed rfl hempty).symm
      · next hne => exact h.resolved.prefixed rfl hne
    rw [if_neg Bool.false_ne_true,
      Builder.attributeName_eq_ok_iff.2 ⟨_, hqName, huri, hqualifier.symm⟩]
    rfl

/-- Attributes that are written alike have the same expanded name. -/
theorem uri_eq_of_qualified_eq {q : TreeAttribute} (hq : q.Legal env) (hr : r.Legal env)
    (hname : q.name.qualified = r.name.qualified) :
    q.name.uri = r.name.uri ∧ q.name.localPart = r.name.localPart := by
  obtain ⟨hqualifier, hpart⟩ := hq.writable.qName.unique (hname ▸ hr.writable.qName)
  have hpre : q.name.nsPrefix = r.name.nsPrefix := by
    rw [← q.name.prefix?_getD, hqualifier, r.name.prefix?_getD]
  exact ⟨hq.resolved.uri_eq hr.resolved hpre hpart, hpart⟩

end TreeAttribute.Legal

/-! ## Tags -/

/-- A tag can be written where prefixes stand for what they do in an environment, its own
declarations included. -/
structure LegalTag (env : Environment) (name : Name) (attributes : List TreeAttribute) : Prop where
  /-- The name of the element can be written. -/
  writable : name.Writable
  /-- The name of the element is resolved. -/
  element : ElementResolved env name
  /-- The attributes can be written. -/
  «attribute» : ∀ a ∈ attributes, a.Legal env
  /-- No two attributes have the same namespace and local part. -/
  distinct : attributes.Pairwise fun a b =>
    ¬ (a.name.uri = b.name.uri ∧ a.name.localPart = b.name.localPart)

/-- **A tag that can be written is accepted, and resolved to what it was**, where prefixes stand for
what they did. -/
theorem LegalTag.exists_opens {scope : Scope} {name : Name} {attributes : List TreeAttribute}
    (h : LegalTag (Environment.extend scope.resolve? attributes) name attributes)
    (hxml : scope.resolve? "xml" = some xmlUri) {written : List Attribute}
    (hwritten : written.map (fun a => (a.name, a.value)) =
      attributes.map fun r => (r.name.qualified, r.value)) :
    ∃ inner, Opens scope name.qualified written inner name attributes ∧
      inner.resolve? = Environment.extend scope.resolve? attributes := by
  have hforall : List.Forall₂ (fun a r => r.Legal (Environment.extend scope.resolve? attributes) ∧
      a.name = r.name.qualified ∧ a.value = r.value) written attributes := by
    rw [← List.forall₂_eq_eq_eq, List.forall₂_map_left_iff, List.forall₂_map_right_iff] at hwritten
    refine List.Forall₂.flip (((List.forall₂_and_left _ _).2 ⟨h.attribute, hwritten.flip⟩).imp ?_)
    rintro r a ⟨hr, hra⟩
    exact ⟨hr, congrArg Prod.fst hra, congrArg Prod.snd hra⟩
  have haccepted : ∀ a ∈ written, a.isDeclaration = true → Builder.Accepted a := by
    intro a ha hdeclaration
    obtain ⟨r, -, hr, hname, hvalue⟩ := exists_of_forall₂ hforall.flip ha
    exact hr.accepted hname hvalue hdeclaration
  -- What is written alike has the same expanded name, and no two attributes have.
  have hqualified : attributes.Pairwise fun q r => q.name.qualified ≠ r.name.qualified := by
    refine h.distinct.imp_of_mem fun {q r} hq hr hne hname => hne ?_
    exact (h.attribute q hq).uri_eq_of_qualified_eq (h.attribute r hr) hname
  have hnames : written.Pairwise fun a b => a.name ≠ b.name := by
    have hmap := congrArg (List.map Prod.fst) hwritten
    rw [List.map_map, List.map_map] at hmap
    rw [← List.pairwise_map (f := fun r : TreeAttribute => r.name.qualified)] at hqualified
    exact List.pairwise_map.1 (hmap ▸ hqualified)
  -- What prefixes stand for inside the tag is known before any name is resolved there.
  have hinner := Builder.resolve?_declarations
    (hforall.imp fun a r hr => ⟨fun p => hr.1.declares_iff hr.2.1, hr.2.2.symm⟩)
    (Builder.declared_ne_of_name_ne haccepted hnames) hxml
  refine ⟨_, ⟨?_, ?_, ?_⟩, hinner⟩
  · refine Builder.foldlM_declare_eq_ok_iff.2 ⟨fun a ha => ?_, rfl⟩
    exact haccepted a (List.mem_of_mem_filter ha) (List.of_mem_filter ha)
  · exact Builder.elementName_qualified h.writable (hinner ▸ h.element)
  · refine Builder.resolveAttributes_eq_ok_iff.2 ⟨?_, ⟨nofun, hnames⟩, nofun, ?_⟩
    · rw [← hinner] at hforall
      exact hforall.imp fun a r hr => hr.1.resolveAttribute_eq hr.2.1 hr.2.2
    · refine h.distinct.imp fun {q r} hne => ?_
      rw [← Bool.not_eq_true, Builder.sameExpanded_eq_true_iff]
      rintro ⟨-, huri, hpart⟩
      exact hne ⟨huri.symm, hpart.symm⟩

end XmlQuery
