import Mathlib.Data.List.TakeWhile
import XmlQuery.Proofs.Namespace.Names

/-!
# Declarations of namespaces

Whether a declaration is accepted depends on the attribute alone, and what it does is to put a
binding in front of those that are in force. The declarations of a tag put their bindings at the
depth of the element; leaving the element takes away these bindings and no others, so the scope in
front of an element is the scope behind it.

## Main definitions

* `Scope.Bounded`: no binding is deeper than the innermost element
* `Builder.declared`: the prefix that an attribute declares, empty for the default namespace
* `Builder.Accepted`: the declaration is accepted
* `Builder.afterDeclaration`: the scope after a declaration

## Main results

* `Builder.foldlM_declare_eq_ok_iff`: the declarations of a tag are taken one by one
* `Builder.resolve?_foldl`: what prefixes stand for after the declarations of a tag
* `Builder.pop_declareAll`: leaving an element undoes the declarations of its tag
-/

namespace XmlQuery

open Markup (Attribute Fault)
open Namespace (Scope Binding xmlUri)

/-! ## Entering and leaving -/

namespace Namespace.Scope

/-- No binding is deeper than the innermost element. -/
def Bounded (s : Scope) : Prop := ∀ b ∈ s.bindings, b.depth ≤ s.depth

theorem bounded_initial : Scope.initial.Bounded := by
  intro b hb
  rw [initial, List.mem_singleton] at hb
  rw [hb]
  exact le_rfl

/-- Bindings at the depth of an element are gone once the element is left. -/
theorem pop_append {s : Scope} (hs : s.Bounded) {new : List Binding}
    (hnew : ∀ b ∈ new, b.depth = s.depth + 1) :
    pop ⟨new ++ s.bindings, s.depth + 1⟩ = s := by
  -- The new bindings are as deep as the element, and those behind them are not.
  have htaken : new.dropWhile (s.depth + 1 ≤ ·.depth) = [] := by
    rw [List.dropWhile_eq_nil_iff]
    intro b hb
    rw [hnew b hb, decide_eq_true_iff]
  have hkept : s.bindings.dropWhile (s.depth + 1 ≤ ·.depth) = s.bindings := by
    rw [List.dropWhile_eq_self_iff]
    intro hlength
    have := hs _ (List.getElem_mem hlength)
    simp only [decide_eq_true_iff]
    omega
  rw [pop, List.dropWhile_append, htaken, hkept]
  rfl

end Namespace.Scope

namespace Builder

/-! ## One declaration -/

/-- The prefix that a declaration attribute declares, empty for the default namespace. -/
def declared (a : Attribute) : String := (declaredPrefix? a).getD ""

/-- The declaration is accepted. -/
def Accepted (a : Attribute) : Prop := ∃ s s', declare s a = .ok s'

/-- The scope after a declaration that is accepted; one of `xml` has no effect. -/
def afterDeclaration (s : Scope) (a : Attribute) : Scope :=
  if declared a = "xml" then s else s.bind (declared a) a.value

/-- A declaration that is accepted in one scope is accepted in every scope. -/
theorem declare_eq_of_eq_ok {s s' : Scope} {a : Attribute} (h : declare s a = .ok s')
    (t : Scope) : declare t a = .ok (afterDeclaration t a) := by
  rw [declare, mapError_eq_ok_iff] at h
  rw [declare, mapError_eq_ok_iff, afterDeclaration, declared]
  cases hp : declaredPrefix? a with
  | none =>
    -- The default namespace: only its name is looked at.
    rw [hp] at h
    rw [mapError_eq_ok_iff, Scope.declareDefault] at h ⊢
    split at h
    · cases h
    · next hreserved =>
      rw [if_neg hreserved]
      rfl
  | some p =>
    rw [hp] at h
    dsimp only [Option.getD_some] at h ⊢
    split at h
    · next hname =>
      rw [if_pos hname]
      rw [mapError_eq_ok_iff, Scope.declare] at h ⊢
      split at h
      · cases h
      · next hxmlns =>
        rw [if_neg hxmlns]
        split at h
        · -- The prefix `xml` is accepted with its own namespace only, and nothing is bound.
          next hxml =>
          rw [if_pos hxml, if_pos hxml]
          split at h
          · next huri => rw [if_pos huri]
          · cases h
        · -- Any other prefix is bound to a namespace that is neither empty nor reserved.
          next hxml =>
          rw [if_neg hxml, if_neg hxml]
          split at h
          · cases h
          · next hempty =>
            rw [if_neg hempty]
            split at h
            · cases h
            · next hreserved => rw [if_neg hreserved]
    · cases h

theorem declare_eq_ok_iff {s s' : Scope} {a : Attribute} :
    declare s a = .ok s' ↔ Accepted a ∧ s' = afterDeclaration s a := by
  constructor
  · intro h
    refine ⟨⟨s, s', h⟩, ?_⟩
    rw [declare_eq_of_eq_ok h s] at h
    exact (Except.ok.inj h).symm
  · rintro ⟨⟨t, t', h⟩, rfl⟩
    exact declare_eq_of_eq_ok h s

/-- A prefix that is declared is not empty. -/
theorem Accepted.localName_ne_empty {a : Attribute} {p : String} (h : Accepted a)
    (hp : a.nsPrefix? = some p) : a.localName ≠ "" := by
  obtain ⟨s, s', h⟩ := h
  rw [declare, mapError_eq_ok_iff, declaredPrefix?, hp] at h
  dsimp only [Option.map_some] at h
  split at h
  · next hname =>
    intro hempty
    rw [hempty] at hname
    exact absurd hname (by decide)
  · cases h

theorem resolve?_afterDeclaration_of_ne {s : Scope} {a : Attribute} {p : String}
    (h : declared a ≠ p) : (afterDeclaration s a).resolve? p = s.resolve? p := by
  rw [afterDeclaration]
  split
  · rfl
  · rw [Scope.resolve?_bind, if_neg h]

/-! ## The declarations of a tag -/

/-- The declarations of a tag are taken one by one. -/
theorem foldlM_declare_eq_ok_iff {s s' : Scope} {declarations : List Attribute} :
    declarations.foldlM declare s = .ok s' ↔
      (∀ a ∈ declarations, Accepted a) ∧ s' = declarations.foldl afterDeclaration s := by
  induction declarations generalizing s with
  | nil =>
    constructor
    · intro h
      cases h
      exact ⟨fun a ha => absurd ha List.not_mem_nil, rfl⟩
    · rintro ⟨-, rfl⟩
      rfl
  | cons a rest ih =>
    rw [List.foldlM_cons, bind_eq_ok_iff, List.forall_mem_cons, List.foldl_cons]
    simp only [declare_eq_ok_iff, ih]
    constructor
    · rintro ⟨middle, ⟨ha, rfl⟩, hrest, hs'⟩
      exact ⟨⟨ha, hrest⟩, hs'⟩
    · rintro ⟨⟨ha, hrest⟩, hs'⟩
      exact ⟨_, ⟨ha, rfl⟩, hrest, hs'⟩

/-- The declarations of a tag are in force, other prefixes stand for what they did before. -/
theorem resolve?_foldl {declarations : List Attribute} (s : Scope)
    (hdistinct : declarations.Pairwise fun a b => declared a ≠ declared b) {p : String}
    (hp : p ≠ "xml") :
    (declarations.foldl afterDeclaration s).resolve? p =
      ((declarations.find? (declared · == p)).map (·.value)).or (s.resolve? p) := by
  induction declarations generalizing s with
  | nil => rfl
  | cons a rest ih =>
    rw [List.pairwise_cons] at hdistinct
    rw [List.foldl_cons, ih _ hdistinct.2, List.find?_cons]
    by_cases hap : declared a = p
    · -- No later declaration of the tag is one of this prefix.
      have hnone : rest.find? (declared · == p) = none := by
        rw [List.find?_eq_none]
        intro b hb hbp
        exact hdistinct.1 b hb (hap.trans (beq_iff_eq.1 hbp).symm)
      rw [hnone, afterDeclaration, hap, if_neg hp, Scope.resolve?_bind, if_pos rfl,
        beq_self_eq_true]
      rfl
    · rw [resolve?_afterDeclaration_of_ne hap, beq_eq_false_iff_ne.2 hap]

/-- No declaration touches `xml`. -/
theorem resolve?_xml_foldl (declarations : List Attribute) (s : Scope) :
    (declarations.foldl afterDeclaration s).resolve? "xml" = s.resolve? "xml" := by
  induction declarations generalizing s with
  | nil => rfl
  | cons a rest ih =>
    rw [List.foldl_cons, ih]
    by_cases hxml : declared a = "xml"
    · rw [afterDeclaration, if_pos hxml]
    · exact resolve?_afterDeclaration_of_ne hxml

/-- The declarations of a tag put bindings in front, at the depth of the scope. -/
theorem foldl_afterDeclaration_eq (declarations : List Attribute) (s : Scope) :
    ∃ new, declarations.foldl afterDeclaration s = ⟨new ++ s.bindings, s.depth⟩ ∧
      ∀ b ∈ new, b.depth = s.depth := by
  induction declarations generalizing s with
  | nil => exact ⟨[], rfl, fun b hb => absurd hb List.not_mem_nil⟩
  | cons a rest ih =>
    rw [List.foldl_cons, afterDeclaration]
    split
    · exact ih s
    · -- Later declarations put theirs in front of this one.
      obtain ⟨new, hnew, hdepth⟩ := ih (s.bind (declared a) a.value)
      refine ⟨new ++ [⟨declared a, a.value, s.depth⟩], ?_, fun b hb => ?_⟩
      · rw [hnew, Scope.bind, List.append_assoc, List.singleton_append]
      · rcases List.mem_append.1 hb with hb | hb
        · exact hdepth b hb
        · rw [List.mem_singleton.1 hb]

theorem declareAll_eq {s inner : Scope} {attributes : List Attribute}
    (h : declareAll s.push attributes = .ok inner) :
    ∃ new, inner = ⟨new ++ s.bindings, s.depth + 1⟩ ∧ ∀ b ∈ new, b.depth = s.depth + 1 := by
  rw [(foldlM_declare_eq_ok_iff.1 h).2]
  exact foldl_afterDeclaration_eq _ s.push

/-- Leaving an element undoes the declarations of its tag. -/
theorem pop_declareAll {s inner : Scope} (hs : s.Bounded) {attributes : List Attribute}
    (h : declareAll s.push attributes = .ok inner) : inner.pop = s := by
  obtain ⟨new, rfl, hnew⟩ := declareAll_eq h
  exact Scope.pop_append hs hnew

theorem bounded_declareAll {s inner : Scope} (hs : s.Bounded) {attributes : List Attribute}
    (h : declareAll s.push attributes = .ok inner) : inner.Bounded := by
  obtain ⟨new, rfl, hnew⟩ := declareAll_eq h
  intro b hb
  rcases List.mem_append.1 hb with hb | hb
  · exact (hnew b hb).le
  · exact (hs b hb).trans (Nat.le_succ _)

end Builder

end XmlQuery
