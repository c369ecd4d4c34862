import Mathlib.Data.List.Forall2
import XmlQuery.Document.Build
import XmlQuery.Proofs.Outcome

/-!
# Names as written and as resolved

A name is split at its first colon, and resolving it adds a namespace to the parts. Nothing is
lost on the way: a resolved name is written as it was in the document. An attribute that declares
a namespace is told from its name alone, before and after it is resolved.

## Main definitions

* `Name.Declares`: the name of the attribute that declares a prefix
* `Builder.Resolves`: what resolving makes of an attribute

## Main results

* `Builder.elementName_spec`, `Builder.attributeName_spec`: what resolving makes of a name
* `Builder.resolveAttributes_eq_ok_iff`: the attributes of a tag, which have different names
-/

namespace XmlQuery

open Markup (Attribute Fault)
open Namespace (Scope xmlnsUri)

/-! ## Splitting names -/

namespace Markup

theorem append_of_splitColon {name before after : List Char}
    (h : splitColon name = (before, some after)) : name = before ++ ':' :: after := by
  rw [splitColon] at h
  split at h
  · cases h
  · next x rest hdrop =>
    cases h
    -- What is left starts with the first character that is not passed over, a colon.
    have hx := List.head_dropWhile_not (· != ':') (hdrop ▸ List.cons_ne_nil x after)
    simp only [hdrop, List.head_cons, bne_eq_false_iff_eq] at hx
    have happend := List.takeWhile_append_dropWhile (p := (· != ':')) (l := name)
    rw [hdrop, hx] at happend
    exact happend.symm

theorem eq_of_splitColon {name before : List Char} (h : splitColon name = (before, none)) :
    before = name := by
  rw [splitColon] at h
  split at h
  · cases h
    rfl
  · cases h

theorem ne_nil_of_isNCName {name : List Char} (h : isNCName name = true) : name ≠ [] := by
  rintro rfl
  cases h

/-- The parts of a qualified name are those around its first colon, and there is a prefix in front
of a colon. -/
theorem splitQName?_spec {name part : List Char} {nsPrefix : Option (List Char)}
    (h : splitQName? name = some (nsPrefix, part)) :
    (nsPrefix = none ∧ splitColon name = (part, none)) ∨
      ∃ p, nsPrefix = some p ∧ p ≠ [] ∧ splitColon name = (p, some part) := by
  rw [splitQName?] at h
  split at h
  · next before after hsplit =>
    split at h
    · next hnames =>
      cases h
      rw [Bool.and_eq_true] at hnames
      exact .inr ⟨before, rfl, ne_nil_of_isNCName hnames.1, hsplit⟩
    · cases h
  · next whole hsplit =>
    split at h
    · cases h
      exact .inl ⟨rfl, hsplit⟩
    · cases h

namespace Attribute

theorem name_eq_of_nsPrefix? {a : Attribute} {p : String} (h : a.nsPrefix? = some p) :
    a.name = p ++ ":" ++ a.localName := by
  rw [nsPrefix?] at h
  split at h
  · next before after hsplit =>
    cases h
    rw [localName, hsplit]
    have hname := append_of_splitColon hsplit
    rw [← String.ofList_toList (s := a.name), hname, String.ofList_append, ← List.singleton_append,
      String.ofList_append, String.append_assoc]
  · cases h

theorem name_eq_localName {a : Attribute} (h : a.nsPrefix? = none) : a.name = a.localName := by
  rw [nsPrefix?] at h
  split at h
  · cases h
  · next whole hsplit => rw [localName, hsplit]

/-- With a prefix the attributes with the prefix `xmlns` declare namespaces. -/
theorem isDeclaration_of_nsPrefix? {a : Attribute} {p : String} (h : a.nsPrefix? = some p) :
    a.isDeclaration = true ↔ p = "xmlns" := by
  have hname : ¬ a.name = "xmlns" := by
    intro hname
    rw [nsPrefix?, hname] at h
    cases h
  rw [isDeclaration, h, beq_eq_false_iff_ne.2 hname, Bool.false_or, beq_iff_eq, Option.some.injEq]

/-- Without a prefix only the attribute `xmlns` declares a namespace. -/
theorem isDeclaration_of_no_prefix {a : Attribute} (h : a.nsPrefix? = none) :
    a.isDeclaration = true ↔ a.localName = "xmlns" := by
  rw [isDeclaration, h, name_eq_localName h, Bool.or_eq_true, beq_iff_eq]
  simp

end Attribute

end Markup

/-! ## Resolved names -/

/-- The name of the attribute that declares a prefix: `xmlns:` and the prefix, or `xmlns` alone for
the default namespace. -/
def Name.Declares (n : Name) (p : String) : Prop :=
  if p = "" then n.nsPrefix = "" ∧ n.localPart = "xmlns"
  else n.nsPrefix = "xmlns" ∧ n.localPart = p

instance (n : Name) (p : String) : Decidable (n.Declares p) := by
  unfold Name.Declares
  infer_instance

/-- A name with a prefix declares its local part, if it declares anything. -/
theorem Name.Declares.eq_localPart {n : Name} {p : String} (h : n.Declares p)
    (hn : n.nsPrefix ≠ "") : p = n.localPart := by
  rw [Declares] at h
  split at h
  · exact absurd h.1 hn
  · exact h.2.symm

/-- A name without `xmlns` in it declares nothing. -/
theorem Name.not_declares {n : Name} (hpre : n.nsPrefix ≠ "xmlns")
    (hlocal : n.localPart ≠ "xmlns") (p : String) : ¬ n.Declares p := by
  intro h
  rw [Declares] at h
  split at h
  · exact hlocal h.2
  · exact hpre h.1

theorem Name.qualified_of_nsPrefix {n : Name} (h : n.nsPrefix ≠ "") :
    n.qualified = n.nsPrefix ++ ":" ++ n.localPart := by
  rw [qualified, if_neg h]

namespace Builder

theorem ofList_ne_empty {text : List Char} (h : text ≠ []) : String.ofList text ≠ "" :=
  fun hempty => h (String.ofList_eq_empty_iff.1 hempty)

/-- The name of an element is written as in the document. Without a prefix it is in the default
namespace, with one in the namespace that the prefix is bound to. -/
theorem elementName_spec {s : Scope} {written : String} {name : Name}
    (h : elementName s written = .ok name) :
    name.qualified = written ∧ (name.nsPrefix = "" → name.uri = s.default) ∧
      (name.nsPrefix ≠ "" → s.resolve? name.nsPrefix = some name.uri) := by
  rw [elementName] at h
  split at h
  · cases h
  · -- Without a prefix the name is its local part.
    next part hsplit =>
    cases h
    rcases Markup.splitQName?_spec hsplit with ⟨-, hcolon⟩ | ⟨p, hp, -⟩
    · refine ⟨?_, fun _ => rfl, fun hne => absurd rfl hne⟩
      rw [Name.qualified, if_pos rfl, Markup.eq_of_splitColon hcolon, String.ofList_toList]
    · cases hp
  · next p part hsplit =>
    split at h
    · cases h
    · next uri huri =>
      cases h
      rcases Markup.splitQName?_spec hsplit with ⟨hp, -⟩ | ⟨q, hq, hne, hcolon⟩
      · cases hp
      · cases hq
        refine ⟨?_, fun hempty => absurd hempty (ofList_ne_empty hne), fun _ => huri⟩
        rw [Name.qualified_of_nsPrefix (ofList_ne_empty hne)]
        rw [← String.ofList_toList (s := written), Markup.append_of_splitColon hcolon,
          String.ofList_append, ← List.singleton_append, String.ofList_append, String.append_assoc]

/-- The name of an attribute has the parts of the name as written. Without a prefix it is in no
namespace, with one in the namespace that the prefix is bound to. -/
theorem attributeName_spec {s : Scope} {a : Attribute} {name : Name}
    (h : attributeName s a.name = .ok name) :
    (name.nsPrefix = a.nsPrefix?.getD "" ∧ name.localPart = a.localName ∧ a.nsPrefix? ≠ some "") ∧
      (name.nsPrefix = "" → name.uri = "") ∧
      (name.nsPrefix ≠ "" → s.resolve? name.nsPrefix = some name.uri) := by
  rw [attributeName] at h
  split at h
  · cases h
  · next part hsplit =>
    cases h
    rcases Markup.splitQName?_spec hsplit with ⟨-, hcolon⟩ | ⟨p, hp, -⟩
    · refine ⟨⟨?_, ?_, ?_⟩, fun _ => rfl, fun hne => absurd rfl hne⟩
      · rw [Attribute.nsPrefix?, hcolon]
        rfl
      · rw [Attribute.localName, hcolon, Markup.eq_of_splitColon hcolon, String.ofList_toList]
      · rw [Attribute.nsPrefix?, hcolon]
        intro hempty
        cases hempty
    · cases hp
  · next p part hsplit =>
    split at h
    · cases h
    · next uri huri =>
      cases h
      rcases Markup.splitQName?_spec hsplit with ⟨hp, -⟩ | ⟨q, hq, hne, hcolon⟩
      · cases hp
      · cases hq
        refine ⟨⟨?_, ?_, ?_⟩, fun hempty => absurd hempty (ofList_ne_empty hne), fun _ => huri⟩
        · rw [Attribute.nsPrefix?, hcolon]
          rfl
        · rw [Attribute.localName, hcolon]
        · rw [Attribute.nsPrefix?, hcolon]
          exact fun hempty => ofList_ne_empty hne (Option.some.inj hempty)

/-- What resolving makes of an attribute. -/
structure Resolves (s : Scope) (a : Attribute) (resolved : TreeAttribute) : Prop where
  /-- The prefix is the one as written. -/
  nsPrefix_eq : resolved.name.nsPrefix = a.nsPrefix?.getD ""
  /-- The local part is the one as written. -/
  localPart_eq : resolved.name.localPart = a.localName
  /-- There is a prefix in front of a colon. -/
  nsPrefix?_ne : a.nsPrefix? ≠ some ""
  /-- The value is kept. -/
  value_eq : resolved.value = a.value
  /-- Declarations are marked. -/
  isDeclaration_eq : resolved.isDeclaration = a.isDeclaration
  /-- A declaration is in the namespace of declarations. -/
  declaration_uri : resolved.isDeclaration = true → resolved.name.uri = xmlnsUri
  /-- Without a prefix another attribute is in no namespace. -/
  uri_eq_empty : resolved.isDeclaration = false → resolved.name.nsPrefix = "" →
    resolved.name.uri = ""
  /-- With a prefix another attribute is in the namespace that the prefix is bound to. -/
  resolve?_eq : resolved.isDeclaration = false → resolved.name.nsPrefix ≠ "" →
    s.resolve? resolved.name.nsPrefix = some resolved.name.uri

theorem resolves_of_resolveAttribute {s : Scope} {a : Attribute} {resolved : TreeAttribute}
    (h : resolveAttribute s a = .ok resolved) : Resolves s a resolved := by
  rw [resolveAttribute] at h
  split at h
  · -- A declaration is split at its colon as it stands, and one does not start with a colon.
    next hdeclaration =>
    cases h
    refine ⟨rfl, rfl, fun hempty => ?_, rfl, hdeclaration.symm, fun _ => rfl, ?_, ?_⟩
    · rw [Attribute.isDeclaration, hempty, Bool.or_eq_true] at hdeclaration
      rcases hdeclaration with hname | hpre
      · rw [beq_iff_eq] at hname
        rw [Attribute.nsPrefix?, hname] at hempty
        cases hempty
      · exact absurd hpre (by decide)
    · intro hnot
      cases hnot
    · intro hnot
      cases hnot
  · next hdeclaration =>
    rw [map_eq_ok_iff] at h
    obtain ⟨name, hname, rfl⟩ := h
    obtain ⟨⟨hpre, hlocal, hne⟩, hempty, hbound⟩ := attributeName_spec hname
    refine ⟨hpre, hlocal, hne, rfl, (Bool.eq_false_iff.2 hdeclaration).symm, fun hnot => ?_,
      fun _ => hempty, fun _ => hbound⟩
    cases hnot

/-- A resolved attribute is written as in the document. -/
theorem Resolves.qualified_eq {s : Scope} {a : Attribute} {resolved : TreeAttribute}
    (h : Resolves s a resolved) : resolved.name.qualified = a.name := by
  rw [Name.qualified, h.nsPrefix_eq, h.localPart_eq]
  cases hp : a.nsPrefix? with
  | none =>
    rw [Option.getD_none, if_pos rfl]
    exact (Attribute.name_eq_localName hp).symm
  | some p =>
    have hne : p ≠ "" := fun hempty => h.nsPrefix?_ne (hempty ▸ hp)
    rw [Option.getD_some, if_neg hne]
    exact (Attribute.name_eq_of_nsPrefix? hp).symm

/-! ## The attributes of a tag -/

/-- The attributes of a tag are resolved from the first on: it must differ from those before. -/
theorem resolveAttributes_cons_eq_ok_iff {s : Scope} {seen rest : List Attribute} {a : Attribute}
    {earlier resolved : List TreeAttribute} :
    resolveAttributes s seen earlier (a :: rest) = .ok resolved ↔
      (∀ b ∈ seen, b.name ≠ a.name) ∧ ∃ r others, resolveAttribute s a = .ok r ∧
        (∀ q ∈ earlier, sameExpanded r q = false) ∧
        resolveAttributes s (a :: seen) (r :: earlier) rest = .ok others ∧
        resolved = r :: others := by
  rw [resolveAttributes]
  constructor
  · intro h
    split at h
    · cases h
    · next hseen =>
      split at h
      · cases h
      · next r hr =>
        split at h
        · cases h
        · next hearlier =>
          split at h
          · cases h
          · next others hothers =>
            cases h
            refine ⟨fun b hb hname => hseen ?_, r, others, hr, fun q hq => ?_, hothers, rfl⟩
            · exact List.any_eq_true.2 ⟨b, hb, beq_iff_eq.2 hname⟩
            · exact Bool.eq_false_iff.2 fun hsame => hearlier (List.any_eq_true.2 ⟨q, hq, hsame⟩)
  · rintro ⟨hseen, r, others, hr, hearlier, hothers, rfl⟩
    -- None of the refusals applies.
    have hnames : ¬ seen.any (·.name == a.name) = true := by
      rw [List.any_eq_true]
      rintro ⟨b, hb, hname⟩
      exact hseen b hb (beq_iff_eq.1 hname)
    have hexpanded : ¬ earlier.any (sameExpanded r) = true := by
      rw [List.any_eq_true]
      rintro ⟨q, hq, hsame⟩
      rw [hearlier q hq] at hsame
      cases hsame
    rw [if_neg hnames, hr]
    dsimp only
    rw [if_neg hexpanded, hothers]

/-- The attributes of a tag are resolved one by one, if no two of them are the same as written or
as resolved. -/
theorem resolveAttributes_eq_ok_iff {s : Scope} {seen attributes : List Attribute}
    {earlier resolved : List TreeAttribute} :
    resolveAttributes s seen earlier attributes = .ok resolved ↔
      List.Forall₂ (fun a r => resolveAttribute s a = .ok r) attributes resolved ∧
        ((∀ b ∈ seen, ∀ a ∈ attributes, b.name ≠ a.name) ∧
          attributes.Pairwise fun b a => b.name ≠ a.name) ∧
        (∀ q ∈ earlier, ∀ r ∈ resolved, sameExpanded r q = false) ∧
          resolved.Pairwise fun q r => sameExpanded r q = false := by
  induction attributes generalizing seen earlier resolved with
  | nil =>
    rw [resolveAttributes]
    constructor
    · intro h
      cases h
      exact ⟨.nil, ⟨fun _ _ _ ha => (by cases ha), .nil⟩, fun _ _ _ hr => (by cases hr), .nil⟩
    · rintro ⟨hforall, -, -⟩
      cases hforall
      rfl
  | cons a rest ih =>
    rw [resolveAttributes_cons_eq_ok_iff]
    -- The first attribute joins those that the rest must differ from.
    simp only [ih, List.forall₂_cons_left_iff, List.pairwise_cons, List.mem_cons, forall_eq_or_imp]
    constructor
    · rintro ⟨hseen, r, others, hr, hearlier, ⟨hforall, ⟨⟨ha, hnames⟩, hdistinct⟩,
        ⟨hr', hexpanded⟩, hpairwise⟩, rfl⟩
      refine ⟨⟨r, others, hr, hforall, rfl⟩, ⟨fun b hb => ⟨hseen b hb, hnames b hb⟩, ha, hdistinct⟩,
        ?_, List.pairwise_cons.2 ⟨hr', hpairwise⟩⟩
      intro q hq
      exact List.forall_mem_cons.2 ⟨hearlier q hq, hexpanded q hq⟩
    · rintro ⟨⟨r, others, hr, hforall, rfl⟩, ⟨hnames, ha, hdistinct⟩, hexpanded, hpairwise⟩
      rw [List.pairwise_cons] at hpairwise
      exact ⟨fun b hb => (hnames b hb).1, r, others, hr,
        fun q hq => (List.forall_mem_cons.1 (hexpanded q hq)).1,
        ⟨hforall, ⟨⟨ha, fun b hb => (hnames b hb).2⟩, hdistinct⟩,
          ⟨hpairwise.1, fun q hq => (List.forall_mem_cons.1 (hexpanded q hq)).2⟩, hpairwise.2⟩, rfl⟩

end Builder

end XmlQuery
