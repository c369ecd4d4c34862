import XmlQuery.Proofs.Namespace.Scoping

/-!
# Qualified names and declarations

The rules of the namespace recommendation, as they are worded there: a qualified name is a local
part, or a prefix, a colon and a local part, neither with a colon in it; a declaration is an
attribute `xmlns`, or `xmlns:` with a prefix behind it, and some prefixes and namespaces are
reserved. Splitting a name at its first colon and taking declarations one by one decide them.

## Main definitions

* `Markup.QName`: a name with an optional prefix and a local part
* `Markup.Attribute.LegalDeclaration`: the rules for declarations
* `Environment.uriOf?`: the namespace of an attribute, by its prefix

## Main results

* `Markup.splitQName?_eq_some_iff`: splitting finds the parts of qualified names
* `Builder.accepted_iff`: the declarations that are accepted are the legal ones
* `Builder.exists_elementName_eq_ok_iff`, `Builder.attributeName_eq_ok_iff`: the names that are
  resolved
-/

namespace XmlQuery

open Namespace (Scope xmlUri xmlnsUri)

namespace Markup

/-! ## Qualified names -/

/-- A qualified name, with its prefix and its local part. -/
inductive QName : String → Option String → String → Prop
  /-- A local part alone. -/
  | unprefixed {part : String} : isNCName part.toList = true → QName part none part
  /-- A prefix and a local part. -/
  | prefixed {p part : String} : isNCName p.toList = true → isNCName part.toList = true →
    QName (p ++ ":" ++ part) (some p) part

/-- There is no colon in the parts of a qualified name. -/
theorem ne_colon_of_isNCName {name : List Char} (h : isNCName name = true) :
    ∀ c ∈ name, (c != ':') = true := by
  intro c hc
  cases name with
  | nil => cases hc
  | cons x rest =>
    rw [isNCName, Bool.and_eq_true, List.all_eq_true] at h
    rcases List.mem_cons.1 hc with rfl | hc
    · exact (Bool.and_eq_true _ _ ▸ h.1).1
    · exact (Bool.and_eq_true _ _ ▸ h.2 c hc).1

theorem splitColon_of_no_colon {name : List Char} (h : ∀ c ∈ name, (c != ':') = true) :
    splitColon name = (name, none) := by
  rw [splitColon, List.dropWhile_eq_nil_iff.2 h]

theorem splitColon_append {before : List Char} (h : ∀ c ∈ before, (c != ':') = true)
    (after : List Char) : splitColon (before ++ ':' :: after) = (before, some after) := by
  rw [splitColon, List.dropWhile_append_of_pos h, List.takeWhile_append_of_pos h,
    List.dropWhile_cons_of_neg (by decide), List.takeWhile_cons_of_neg (by decide),
    List.append_nil]

/-- A name splits into the parts that make it a qualified name. -/
theorem splitQName?_eq_some_iff {written : String} {p? : Option (List Char)} {part : List Char} :
    splitQName? written.toList = some (p?, part) ↔
      QName written (p?.map String.ofList) (String.ofList part) := by
  constructor
  · intro h
    rw [splitQName?] at h
    split at h
    · next before after hsplit =>
      split at h
      · next hnames =>
        cases h
        rw [Bool.and_eq_true] at hnames
        have hwritten : written = String.ofList before ++ ":" ++ String.ofList part := by
          rw [← String.ofList_toList (s := written), append_of_splitColon hsplit,
            String.ofList_append, ← List.singleton_append, String.ofList_append,
            String.append_assoc]
        rw [hwritten]
        exact .prefixed (by simpa using hnames.1) (by simpa using hnames.2)
      · cases h
    · next whole hsplit =>
      split at h
      · next hname =>
        cases h
        rw [← String.ofList_toList (s := written), ← eq_of_splitColon hsplit]
        exact .unprefixed (by simpa using hname)
      · cases h
  · intro h
    generalize hp : p?.map String.ofList = q? at h
    generalize hpart : String.ofList part = l at h
    cases h with
    | unprefixed hl =>
      rw [Option.map_eq_none_iff] at hp
      rw [splitQName?, splitColon_of_no_colon (ne_colon_of_isNCName hl), hp]
      dsimp only
      rw [if_pos hl, ← hpart, String.toList_ofList]
    | @prefixed q _ hq hl =>
      rw [Option.map_eq_some_iff] at hp
      obtain ⟨p, rfl, rfl⟩ := hp
      subst hpart
      rw [String.toList_ofList] at hq hl
      have hwritten : (String.ofList p ++ ":" ++ String.ofList part).toList = p ++ ':' :: part := by
        simp
      rw [splitQName?, hwritten, splitColon_append (ne_colon_of_isNCName hq)]
      dsimp only
      rw [hq, hl]
      rfl

theorem qName_iff {written part : String} {p? : Option String} :
    QName written p? part ↔
      splitQName? written.toList = some (p?.map String.toList, part.toList) := by
  rw [splitQName?_eq_some_iff, Option.map_map, String.ofList_toList]
  rw [show String.ofList ∘ String.toList = id from funext fun _ => String.ofList_toList,
    Option.map_id, id]

theorem QName.ne_empty {written p part : String} (h : QName written (some p) part) :
    p ≠ "" := by
  cases h with
  | prefixed hp _ =>
    rintro rfl
    cases hp

/-- A name has one prefix and one local part, if any. -/
theorem QName.unique {written part part' : String} {p? p?' : Option String}
    (h : QName written p? part) (h' : QName written p?' part') : p? = p?' ∧ part = part' := by
  have heq := (qName_iff.1 h).symm.trans (qName_iff.1 h')
  rw [Option.some.injEq, Prod.mk.injEq] at heq
  exact ⟨Option.map_injective (fun _ _ => String.toList_inj.1) heq.1, String.toList_inj.1 heq.2⟩

/-! ## Declarations -/

namespace Attribute

/-- The rules for an attribute that declares a namespace. -/
structure LegalDeclaration (a : Attribute) : Prop where
  /-- It is `xmlns`, or `xmlns:` with a name without a colon behind it. -/
  name_eq : a.name = "xmlns" ∨ ∃ p, a.name = "xmlns:" ++ p ∧ isNCName p.toList = true
  /-- The prefix `xmlns` is not declared. -/
  ne_xmlns : a.name ≠ "xmlns:xmlns"
  /-- The prefix `xml` is bound to its own namespace only. -/
  xml : a.name = "xmlns:xml" → a.value = xmlUri
  /-- Another prefix is bound to a namespace, which is not a reserved one. -/
  other : ∀ p, a.name = "xmlns:" ++ p → p ≠ "xml" →
    a.value ≠ "" ∧ a.value ≠ xmlUri ∧ a.value ≠ xmlnsUri
  /-- The default namespace is not a reserved one. -/
  default : a.name = "xmlns" → a.value ≠ xmlUri ∧ a.value ≠ xmlnsUri

/-- A declaration is told from its name, and so is the prefix that it declares. -/
theorem isDeclaration_cases {a : Attribute} (h : a.isDeclaration = true) :
    (a.name = "xmlns" ∧ Builder.declaredPrefix? a = none) ∨
      ∃ p, a.name = "xmlns:" ++ p ∧ Builder.declaredPrefix? a = some p := by
  rw [Builder.declaredPrefix?]
  cases hpre : a.nsPrefix? with
  | none =>
    refine .inl ⟨?_, rfl⟩
    rw [name_eq_localName hpre]
    exact (Attribute.isDeclaration_of_no_prefix hpre).1 h
  | some q =>
    refine .inr ⟨a.localName, ?_, rfl⟩
    rw [name_eq_of_nsPrefix? hpre, (isDeclaration_of_nsPrefix? hpre).1 h]
    rfl

/-- The attribute `xmlns:p` declares the prefix `p`. -/
theorem declares_of_name_eq {a : Attribute} {p : String} (h : a.name = "xmlns:" ++ p) :
    a.isDeclaration = true ∧ Builder.declared a = p := by
  have hlist : a.name.toList = "xmlns".toList ++ ':' :: p.toList := by
    rw [h, String.toList_append]
    rfl
  have hxmlns : ∀ c ∈ "xmlns".toList, (c != ':') = true := by simp
  have hsplit := splitColon_append hxmlns p.toList
  have hpre : a.nsPrefix? = some "xmlns" := by
    rw [nsPrefix?, hlist, hsplit]
    rfl
  have hlocal : a.localName = p := by
    rw [localName, hlist, hsplit]
    exact String.ofList_toList
  refine ⟨(isDeclaration_of_nsPrefix? hpre).2 rfl, ?_⟩
  rw [Builder.declared, Builder.declaredPrefix?, hpre, hlocal]
  rfl

/-- The attribute that declares a prefix is told from its name. -/
theorem declares_iff {a : Attribute} {p : String} (hp : p ≠ "") :
    a.isDeclaration = true ∧ Builder.declared a = p ↔ a.name = "xmlns:" ++ p := by
  refine ⟨?_, declares_of_name_eq⟩
  rintro ⟨h, rfl⟩
  rw [Builder.declared] at hp ⊢
  rcases isDeclaration_cases h with ⟨-, hnone⟩ | ⟨q, hname, hq⟩
  · rw [hnone] at hp
    exact absurd rfl hp
  · rw [hq]
    exact hname

/-- A declaration of the default namespace declares no prefix. -/
theorem xmlns_ne_append (p : String) : "xmlns" ≠ "xmlns:" ++ p := by
  intro h
  have hlist := congrArg String.toList h
  rw [String.toList_append] at hlist
  exact absurd hlist (by simp)

theorem append_xmlns_inj {p q : String} : "xmlns:" ++ p = "xmlns:" ++ q ↔ p = q :=
  String.append_right_inj "xmlns:"

end Attribute

end Markup

open Markup (Attribute QName)

/-- The namespace of an attribute, by its prefix: without one it is in none. -/
def Environment.uriOf? (env : Environment) : Option String → Option String
  | none => some ""
  | some p => env p

namespace Builder

theorem isReserved_eq_false_iff {uri : String} :
    ¬ Scope.isReserved uri = true ↔ uri ≠ xmlUri ∧ uri ≠ xmlnsUri := by
  rw [Scope.isReserved, Bool.or_eq_true, beq_iff_eq, beq_iff_eq, not_or]

/-- The default namespace may be declared to be any but a reserved one. -/
theorem accepted_default_iff {a : Attribute} (h : declaredPrefix? a = none) :
    Accepted a ↔ a.value ≠ xmlUri ∧ a.value ≠ xmlnsUri := by
  rw [Accepted]
  simp only [declare, h, mapError_eq_ok_iff, Scope.declareDefault]
  rw [← isReserved_eq_false_iff]
  constructor
  · rintro ⟨s, s', hs⟩ hreserved
    rw [if_pos hreserved] at hs
    cases hs
  · intro hreserved
    exact ⟨.initial, _, if_neg hreserved⟩

/-- A prefix other than `xmlns` may be declared. Its namespace is fixed if it is `xml`, and may
otherwise be any but the empty one and the reserved ones. -/
theorem exists_scope_declare_eq_ok_iff {s : Scope} {p uri : String} :
    (∃ s', s.declare p uri = .ok s') ↔ p ≠ "xmlns" ∧
      if p = "xml" then uri = xmlUri else uri ≠ "" ∧ uri ≠ xmlUri ∧ uri ≠ xmlnsUri := by
  rw [Scope.declare, ← isReserved_eq_false_iff]
  by_cases hxmlns : p = "xmlns"
  · simp [hxmlns]
  · by_cases hxml : p = "xml"
    · by_cases huri : uri = xmlUri <;> simp [hxml, huri]
    · by_cases hempty : uri = "" <;> by_cases hreserved : Scope.isReserved uri = true <;>
        simp [hxmlns, hxml, hempty, hreserved]

theorem accepted_prefix_iff {a : Attribute} {p : String} (h : declaredPrefix? a = some p) :
    Accepted a ↔ Markup.isNCName p.toList = true ∧ p ≠ "xmlns" ∧
      if p = "xml" then a.value = xmlUri
      else a.value ≠ "" ∧ a.value ≠ xmlUri ∧ a.value ≠ xmlnsUri := by
  rw [Accepted]
  simp only [declare, h, mapError_eq_ok_iff]
  by_cases hname : Markup.isNCName p.toList = true
  · -- Whether it is accepted does not depend on the scope.
    simp only [hname, if_true, true_and]
    constructor
    · rintro ⟨s, s', hs⟩
      exact exists_scope_declare_eq_ok_iff.1 ⟨s', mapError_eq_ok_iff.1 hs⟩
    · intro hp
      obtain ⟨s', hs⟩ := (exists_scope_declare_eq_ok_iff (s := .initial)).2 hp
      exact ⟨.initial, s', mapError_eq_ok_iff.2 hs⟩
  · simp [hname]

/-- The declarations that are accepted are the legal ones. -/
theorem accepted_iff {a : Attribute} (h : a.isDeclaration = true) :
    Accepted a ↔ a.LegalDeclaration := by
  rcases Attribute.isDeclaration_cases h with ⟨hname, hp⟩ | ⟨p, hname, hp⟩
  · rw [accepted_default_iff hp]
    constructor
    · intro hvalue
      refine ⟨.inl hname, ?_, ?_, ?_, fun _ => hvalue⟩
      all_goals rw [hname]
      · decide
      · exact fun hxml => absurd hxml (by decide)
      · exact fun p hp => absurd hp (Attribute.xmlns_ne_append p)
    · intro hlegal
      exact hlegal.default hname
  · rw [accepted_prefix_iff hp]
    have hxmlns : a.name ≠ "xmlns:xmlns" ↔ p ≠ "xmlns" := by
      rw [hname, show "xmlns:xmlns" = "xmlns:" ++ "xmlns" from rfl]
      exact not_congr Attribute.append_xmlns_inj
    have hxml : a.name = "xmlns:xml" ↔ p = "xml" := by
      rw [hname, show "xmlns:xml" = "xmlns:" ++ "xml" from rfl]
      exact Attribute.append_xmlns_inj
    constructor
    · rintro ⟨hnc, hne, hvalue⟩
      refine ⟨.inr ⟨p, hname, hnc⟩, hxmlns.2 hne, fun hp => ?_, fun q hq hqne => ?_, fun hdef => ?_⟩
      · rwa [if_pos (hxml.1 hp)] at hvalue
      · rw [hname, Attribute.append_xmlns_inj] at hq
        rwa [if_neg (hq ▸ hqne)] at hvalue
      · exact absurd (hdef.symm.trans hname) (Attribute.xmlns_ne_append p)
    · intro hlegal
      refine ⟨?_, hxmlns.1 hlegal.ne_xmlns, ?_⟩
      · rcases hlegal.name_eq with hdef | ⟨q, hq, hnc⟩
        · exact absurd (hdef.symm.trans hname) (Attribute.xmlns_ne_append p)
        · rw [hname, Attribute.append_xmlns_inj] at hq
          rwa [hq]
      · split
        · next hp => exact hlegal.xml (hxml.2 hp)
        · next hp => exact hlegal.other p hname hp

/-! ## Resolved names -/

/-- An element has a name if it is written as a qualified name whose prefix stands for something. -/
theorem exists_elementName_eq_ok_iff {s : Scope} {written : String} :
    (∃ n, elementName s written = .ok n) ↔
      ∃ p? part, QName written p? part ∧ ∀ p, p? = some p → ∃ uri, s.resolve? p = some uri := by
  constructor
  · rintro ⟨n, h⟩
    rw [elementName] at h
    split at h
    · cases h
    · next part hsplit =>
      refine ⟨none, _, Markup.splitQName?_eq_some_iff.1 hsplit, fun q hq => ?_⟩
      cases hq
    · next p part hsplit =>
      split at h
      · cases h
      · next uri huri =>
        refine ⟨some (String.ofList p), _, Markup.splitQName?_eq_some_iff.1 hsplit, fun q hq => ?_⟩
        cases hq
        exact ⟨uri, huri⟩
  · rintro ⟨p?, part, hname, hbound⟩
    rw [elementName, Markup.qName_iff.1 hname]
    cases p? with
    | none => exact ⟨_, rfl⟩
    | some p =>
      obtain ⟨uri, huri⟩ := hbound p rfl
      refine ⟨⟨p, part, uri⟩, ?_⟩
      dsimp only [Option.map_some]
      rw [String.ofList_toList, String.ofList_toList, huri]

/-- An attribute has a name if it is written as a qualified name whose prefix stands for
something. -/
theorem attributeName_eq_ok_iff {s : Scope} {written : String} {n : Name} :
    attributeName s written = .ok n ↔
      ∃ p?, QName written p? n.localPart ∧ Environment.uriOf? s.resolve? p? = some n.uri ∧
        n.nsPrefix = p?.getD "" := by
  constructor
  · intro h
    rw [attributeName] at h
    split at h
    · cases h
    · next part hsplit =>
      cases h
      exact ⟨none, Markup.splitQName?_eq_some_iff.1 hsplit, rfl, rfl⟩
    · next p part hsplit =>
      split at h
      · cases h
      · next uri huri =>
        cases h
        exact ⟨some (String.ofList p), Markup.splitQName?_eq_some_iff.1 hsplit, huri, rfl⟩
  · rintro ⟨p?, hname, huri, hpre⟩
    obtain ⟨nsPrefix, part, uri⟩ := n
    obtain rfl : nsPrefix = p?.getD "" := hpre
    rw [attributeName, Markup.qName_iff.1 hname]
    cases p? with
    | none =>
      cases huri
      dsimp only [Option.map_none]
      rw [String.ofList_toList]
      rfl
    | some p =>
      dsimp only [Option.map_some]
      rw [String.ofList_toList, String.ofList_toList]
      rw [Environment.uriOf?] at huri
      rw [huri]
      rfl

end Builder

end XmlQuery
