import XmlQuery.Proofs.Namespace.QualifiedNames

/-!
# Admissible tags

What is asked of a tag inside other tags, in terms of what is written in them: its names are
qualified names, and their prefixes are declared in the tag or around it; its declarations are
legal; no two of its attributes have the same name, as written or as expanded. The builder accepts
exactly such tags.

## Main definitions

* `Tag`: a start tag, as written
* `uriIn`, `KnownIn`: what prefixes stand for inside tags, and which do
* `Tag.Admissible`: what is asked of a tag inside others
* `ScopeOf`: the scope that the builder has inside tags

## Main results

* `ScopeOf.agrees`: the scope inside tags binds prefixes to what they stand for there
* `exists_opens_iff`: **a tag is accepted exactly if it is admissible**
-/

namespace XmlQuery

open Markup (Attribute QName)
open Namespace (Scope xmlUri)

/-- A start tag, as written. -/
structure Tag where
  /-- The name of the element. -/
  name : String
  /-- The attributes. -/
  attributes : List Attribute

/-- What a tag declares a prefix to stand for. -/
def Tag.declared? (t : Tag) (p : String) : Option String :=
  (t.attributes.find? (·.name == "xmlns:" ++ p)).map (·.value)

/-- What a prefix stands for inside tags, the innermost first: what the innermost of those that
declare it says. The prefix `xml` always stands for its own namespace. -/
def uriIn (tags : List Tag) : Environment := fun p =>
  if p = "xml" then some xmlUri else tags.findSome? (·.declared? p)

/-- A prefix stands for something inside tags: it is `xml`, or one of them declares it. -/
def KnownIn (tags : List Tag) (p : String) : Prop :=
  p = "xml" ∨ ∃ t ∈ tags, ∃ a ∈ t.attributes, a.name = "xmlns:" ++ p

/-- A name is a qualified name inside tags, and its prefix, if any, stands for something. -/
def NamesIn (tags : List Tag) (written : String) : Prop :=
  ∃ p? part, QName written p? part ∧ ∀ p, p? = some p → KnownIn tags p

/-- The name of an attribute inside tags has a namespace and a local part. -/
def ExpandsTo (tags : List Tag) (written uri part : String) : Prop :=
  ∃ p?, QName written p? part ∧ (uriIn tags).uriOf? p? = some uri

/-- What is asked of a tag inside other tags, the innermost first. -/
structure Tag.Admissible (around : List Tag) (t : Tag) : Prop where
  /-- The name of the element has a prefix that is known in the tag, if any. -/
  name : NamesIn (t :: around) t.name
  /-- The names of attributes have prefixes that are known in the tag, if any. -/
  attributes : ∀ a ∈ t.attributes, a.isDeclaration = false → NamesIn (t :: around) a.name
  /-- The declarations are legal. -/
  declarations : ∀ a ∈ t.attributes, a.isDeclaration = true → a.LegalDeclaration
  /-- No two attributes have the same name as written. -/
  written : t.attributes.Pairwise fun a b => a.name ≠ b.name
  /-- No two attributes that are no declarations have the same namespace and local part. -/
  expanded : t.attributes.Pairwise fun a b => a.isDeclaration = false → b.isDeclaration = false →
    ∀ uri part, ¬ (ExpandsTo (t :: around) a.name uri part ∧
      ExpandsTo (t :: around) b.name uri part)

variable {around : List Tag} {t : Tag} {s : Scope}

/-- What is known stands for something. -/
theorem exists_uriIn_eq_some_iff {tags : List Tag} {p : String} :
    (∃ uri, uriIn tags p = some uri) ↔ KnownIn tags p := by
  rw [← Option.isSome_iff_exists, uriIn, KnownIn]
  by_cases hp : p = "xml"
  · simp [hp]
  · simp [hp, Tag.declared?]

/-! ## Scopes -/

/-- A scope binds prefixes to what they stand for inside tags. -/
def Namespace.Scope.Agrees (s : Scope) (tags : List Tag) : Prop :=
  ∀ p, p ≠ "" → s.resolve? p = uriIn tags p

theorem agrees_initial : Scope.initial.Agrees [] := by
  intro p _
  rw [uriIn, Scope.initial, Scope.resolve?]
  by_cases hxml : p = "xml"
  · simp [hxml]
  · simp [hxml, Ne.symm hxml]

/-- The declarations of a tag bind prefixes to what they stand for inside the tag. -/
theorem agrees_declarations (h : s.Agrees around)
    (haccepted : ∀ a ∈ t.attributes, a.isDeclaration = true → Builder.Accepted a)
    (hnames : t.attributes.Pairwise fun a b => a.name ≠ b.name) :
    Scope.Agrees ((t.attributes.filter (·.isDeclaration)).foldl Builder.afterDeclaration s.push)
      (t :: around) := by
  intro p hp
  by_cases hxml : p = "xml"
  · -- The prefix `xml` is the same everywhere.
    subst hxml
    rw [Builder.resolve?_xml_foldl, Scope.resolve?_push, h _ hp]
    rfl
  · -- The declaration of another prefix is told from its name.
    have hdeclares : (fun a : Attribute => decide (a.isDeclaration = true ∧
        (Builder.declared a == p) = true)) = fun a => a.name == "xmlns:" ++ p := by
      funext a
      rw [Bool.eq_iff_iff, decide_eq_true_iff, beq_iff_eq, beq_iff_eq]
      exact Attribute.declares_iff hp
    rw [Builder.resolve?_foldl _ (Builder.declared_ne_of_name_ne haccepted hnames) hxml,
      List.find?_filter, hdeclares, Scope.resolve?_push, h p hp, uriIn, uriIn, if_neg hxml,
      if_neg hxml, List.findSome?_cons, ← Tag.declared?]
    cases t.declared? p <;> rfl

/-- The scope that the builder has inside tags that it has accepted, the innermost first. -/
inductive ScopeOf : List Tag → Scope → Prop
  /-- Outside of all tags. -/
  | top : ScopeOf [] .initial
  /-- Inside a further tag. -/
  | inside {around : List Tag} {t : Tag} {s inner : Scope} {name : Name}
    {resolved : List TreeAttribute} :
    ScopeOf around s → Opens s t.name t.attributes inner name resolved → ScopeOf (t :: around) inner

theorem ScopeOf.bounded {tags : List Tag} (h : ScopeOf tags s) : s.Bounded := by
  induction h with
  | top => exact Scope.bounded_initial
  | inside _ hopens ih => exact Builder.bounded_declareAll ih hopens.declareAll_eq

/-- The scope inside tags binds prefixes to what they stand for there. -/
theorem ScopeOf.agrees {tags : List Tag} (h : ScopeOf tags s) : s.Agrees tags := by
  induction h with
  | top => exact agrees_initial
  | inside _ hopens ih =>
    obtain ⟨-, rfl⟩ := Builder.foldlM_declare_eq_ok_iff.1 hopens.declareAll_eq
    exact agrees_declarations ih hopens.accepted
      (Builder.resolveAttributes_eq_ok_iff.1 hopens.resolveAttributes_eq).2.1.2

/-! ## Names inside tags -/

/-- A name expands exactly if it is a name. -/
theorem exists_expandsTo_iff {tags : List Tag} {written : String} :
    (∃ uri part, ExpandsTo tags written uri part) ↔ NamesIn tags written := by
  constructor
  · rintro ⟨uri, part, p?, hname, huri⟩
    refine ⟨p?, part, hname, fun p hp => ?_⟩
    subst hp
    exact exists_uriIn_eq_some_iff.1 ⟨uri, huri⟩
  · rintro ⟨p?, part, hname, hknown⟩
    cases p? with
    | none => exact ⟨"", part, none, hname, rfl⟩
    | some p =>
      obtain ⟨uri, huri⟩ := exists_uriIn_eq_some_iff.2 (hknown p rfl)
      exact ⟨uri, part, some p, hname, huri⟩

namespace Builder

/-- Elements have the names that are names inside the tags. -/
theorem exists_elementName_iff {tags : List Tag} (h : s.Agrees tags) {written : String} :
    (∃ n, elementName s written = .ok n) ↔ NamesIn tags written := by
  rw [exists_elementName_eq_ok_iff, NamesIn]
  refine exists_congr fun p? => exists_congr fun part => and_congr_right fun hname => ?_
  refine forall_congr' fun p => imp_congr_right fun hp => ?_
  rw [h p (hp ▸ hname).ne_empty, exists_uriIn_eq_some_iff]

/-- An attribute that is no declaration is resolved to what its name expands to. -/
theorem exists_resolveAttribute_iff {tags : List Tag} (h : s.Agrees tags) {a : Attribute}
    (ha : a.isDeclaration = false) {uri part : String} :
    (∃ r, resolveAttribute s a = .ok r ∧ r.name.uri = uri ∧ r.name.localPart = part) ↔
      ExpandsTo tags a.name uri part := by
  have huri : ∀ {p? l}, QName a.name p? l →
      Environment.uriOf? s.resolve? p? = (uriIn tags).uriOf? p? := by
    intro p? l hname
    cases p? with
    | none => rfl
    | some p => exact h p hname.ne_empty
  rw [resolveAttribute, if_neg (Bool.eq_false_iff.1 ha)]
  simp only [map_eq_ok_iff, attributeName_eq_ok_iff]
  constructor
  · rintro ⟨r, ⟨n, ⟨p?, hname, hn, -⟩, rfl⟩, rfl, rfl⟩
    exact ⟨p?, hname, huri hname ▸ hn⟩
  · rintro ⟨p?, hname, hn⟩
    exact ⟨_, ⟨⟨p?.getD "", part, uri⟩, ⟨p?, hname, (huri hname).trans hn, rfl⟩, rfl⟩, rfl, rfl⟩

/-- An attribute is resolved if it is a declaration, or its name is a name inside the tags. -/
theorem exists_resolveAttribute_eq_ok_iff {tags : List Tag} (h : s.Agrees tags) {a : Attribute} :
    (∃ r, resolveAttribute s a = .ok r) ↔ (a.isDeclaration = false → NamesIn tags a.name) := by
  cases ha : a.isDeclaration with
  | true =>
    rw [resolveAttribute, if_pos ha]
    simp
  | false =>
    simp only [← exists_expandsTo_iff, ← exists_resolveAttribute_iff h ha, forall_const]
    constructor
    · rintro ⟨r, hr⟩
      exact ⟨_, _, r, hr, rfl, rfl⟩
    · rintro ⟨_, _, r, hr, -, -⟩
      exact ⟨r, hr⟩

theorem sameExpanded_eq_true_iff {q r : TreeAttribute} :
    sameExpanded q r = true ↔ (q.isDeclaration = false ∧ r.isDeclaration = false) ∧
      q.name.uri = r.name.uri ∧ q.name.localPart = r.name.localPart := by
  simp only [sameExpanded, Bool.and_eq_true, Bool.not_eq_true', beq_iff_eq, and_assoc]

/-- Two attributes have different expanded names if they are resolved to such names. -/
theorem sameExpanded_eq_false_iff {tags : List Tag} (h : s.Agrees tags) {a b : Attribute} :
    (∀ q r, resolveAttribute s a = .ok q → resolveAttribute s b = .ok r →
        sameExpanded r q = false) ↔
      (a.isDeclaration = false → b.isDeclaration = false →
        ∀ uri part, ¬ (ExpandsTo tags a.name uri part ∧ ExpandsTo tags b.name uri part)) := by
  constructor
  · rintro hdistinct ha hb uri part ⟨hexpands, hexpands'⟩
    obtain ⟨q, hq, huri, hpart⟩ := (exists_resolveAttribute_iff h ha).2 hexpands
    obtain ⟨r, hr, huri', hpart'⟩ := (exists_resolveAttribute_iff h hb).2 hexpands'
    have hsame : sameExpanded r q = true := by
      refine sameExpanded_eq_true_iff.2 ⟨⟨?_, ?_⟩, huri'.trans huri.symm, hpart'.trans hpart.symm⟩
      · rw [(resolves_of_resolveAttribute hr).isDeclaration_eq, hb]
      · rw [(resolves_of_resolveAttribute hq).isDeclaration_eq, ha]
    rw [hdistinct q r hq hr] at hsame
    cases hsame
  · intro hdistinct q r hq hr
    rw [← Bool.not_eq_true, sameExpanded_eq_true_iff]
    rintro ⟨⟨hrdecl, hqdecl⟩, huri, hpart⟩
    rw [(resolves_of_resolveAttribute hq).isDeclaration_eq] at hqdecl
    rw [(resolves_of_resolveAttribute hr).isDeclaration_eq] at hrdecl
    refine hdistinct hqdecl hrdecl q.name.uri q.name.localPart ⟨?_, ?_⟩
    · exact (exists_resolveAttribute_iff h hqdecl).1 ⟨q, hq, rfl, rfl⟩
    · exact (exists_resolveAttribute_iff h hrdecl).1 ⟨r, hr, huri, hpart⟩

end Builder

/-- A relation that is a partial function relates a list to one in which any two are related, if it
does so for each of its elements, and for any two of them. -/
theorem exists_forall₂_pairwise_iff {α β : Type} {R : α → β → Prop} {P : β → β → Prop}
    (hR : ∀ {x y z}, R x y → R x z → y = z) {xs : List α} :
    (∃ ys, List.Forall₂ R xs ys ∧ ys.Pairwise P) ↔
      (∀ x ∈ xs, ∃ y, R x y) ∧ xs.Pairwise fun x x' => ∀ y y', R x y → R x' y' → P y y' := by
  induction xs with
  | nil => simp
  | cons x xs ih =>
    rw [List.forall_mem_cons, List.pairwise_cons]
    constructor
    · rintro ⟨ys, hforall, hpairwise⟩
      obtain ⟨y, ys, hy, hys, rfl⟩ := List.forall₂_cons_left_iff.1 hforall
      rw [List.pairwise_cons] at hpairwise
      obtain ⟨hexists, hdistinct⟩ := ih.1 ⟨ys, hys, hpairwise.2⟩
      refine ⟨⟨⟨y, hy⟩, hexists⟩, fun x' hx' z z' hz hz' => ?_, hdistinct⟩
      -- What the element is related to is the element in the place of it.
      obtain ⟨w, hw, hxw⟩ := exists_of_forall₂ hys.flip hx'
      rw [hR hz hy, hR hz' hxw]
      exact hpairwise.1 w hw
    · rintro ⟨⟨⟨y, hy⟩, hexists⟩, hfirst, hdistinct⟩
      obtain ⟨ys, hys, hpairwise⟩ := ih.2 ⟨hexists, hdistinct⟩
      refine ⟨y :: ys, .cons hy hys, List.pairwise_cons.2 ⟨fun y' hy' => ?_, hpairwise⟩⟩
      obtain ⟨x', hx', hR'⟩ := exists_of_forall₂ hys hy'
      exact hfirst x' hx' y y' hy hR'

/-- **A tag is accepted exactly if it is admissible**, inside tags that have been accepted. -/
theorem exists_opens_iff (h : ScopeOf around s) :
    (∃ inner name resolved, Opens s t.name t.attributes inner name resolved) ↔
      t.Admissible around := by
  constructor
  · rintro ⟨inner, name, resolved, hopens⟩
    have hagrees : inner.Agrees (t :: around) := (ScopeOf.inside h hopens).agrees
    obtain ⟨hforall, ⟨-, hnames⟩, -, hexpanded⟩ :=
      Builder.resolveAttributes_eq_ok_iff.1 hopens.resolveAttributes_eq
    obtain ⟨hresolved, hdistinct⟩ := (exists_forall₂_pairwise_iff
      (fun hy hz => Except.ok.inj (hy.symm.trans hz))).1 ⟨resolved, hforall, hexpanded⟩
    refine ⟨?_, fun a ha => ?_, fun a ha hdecl => ?_, hnames, ?_⟩
    · exact (Builder.exists_elementName_iff hagrees).1 ⟨name, hopens.elementName_eq⟩
    · exact (Builder.exists_resolveAttribute_eq_ok_iff hagrees).1 (hresolved a ha)
    · exact (Builder.accepted_iff hdecl).1 (hopens.accepted a ha hdecl)
    · exact hdistinct.imp fun hab => (Builder.sameExpanded_eq_false_iff hagrees).1 hab
  · intro hadmissible
    have haccepted : ∀ a ∈ t.attributes, a.isDeclaration = true → Builder.Accepted a :=
      fun a ha hdecl => (Builder.accepted_iff hdecl).2 (hadmissible.declarations a ha hdecl)
    -- The scope in the tag is known before its names are resolved.
    have hdeclare : Builder.declareAll s.push t.attributes =
        .ok ((t.attributes.filter (·.isDeclaration)).foldl Builder.afterDeclaration s.push) := by
      rw [Builder.declareAll, Builder.foldlM_declare_eq_ok_iff]
      exact ⟨fun a ha => haccepted a (List.mem_of_mem_filter ha) (List.of_mem_filter ha), rfl⟩
    have hagrees := agrees_declarations h.agrees haccepted hadmissible.written
    obtain ⟨name, hname⟩ := (Builder.exists_elementName_iff hagrees).2 hadmissible.name
    obtain ⟨resolved, hforall, hpairwise⟩ := (exists_forall₂_pairwise_iff
      (R := fun a r => Builder.resolveAttribute _ a = .ok r)
      (fun hy hz => Except.ok.inj (hy.symm.trans hz))).2
      ⟨fun a ha => (Builder.exists_resolveAttribute_eq_ok_iff hagrees).2
        (hadmissible.attributes a ha),
        hadmissible.expanded.imp fun hab => (Builder.sameExpanded_eq_false_iff hagrees).2 hab⟩
    refine ⟨_, name, resolved, hdeclare, hname, Builder.resolveAttributes_eq_ok_iff.2
      ⟨hforall, ⟨fun b hb => ?_, hadmissible.written⟩, fun q hq => ?_, hpairwise⟩⟩
    · cases hb
    · cases hq

end XmlQuery
