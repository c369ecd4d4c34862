import Mathlib.Data.List.Find
import XmlQuery.Namespace.Resolver
import XmlQuery.Proofs.Outcome
import XmlQuery.Proofs.Text.Stores

/-!
# Numbered prefixes

The resolver that works with numbers does what the scope does with strings: it has the bindings of
the scope, with the numbers of their strings. As long as all strings are known to the store, they
are equal exactly if their numbers are, so that the same declarations are refused, for the same
reasons, and the same binding is found.

## Main definitions

* `Resolver.Matches`: a resolver has the bindings of a scope

## Main results

* `Matches.declare`, `Matches.declareDefault`: declarations agree
* `Matches.resolve?`, `Matches.default`: the bindings that are found are those of the scope
* `matches_new`: the resolver of a document has the bindings of its scope
-/

namespace XmlQuery.Namespace

open Text (Store LawfulStore addAll isPrefix_addAll mem_addAll mem_add_self)
open Text.LawfulStore (Fits Holds number number_inj number_empty number_of_isPrefix empty_mem
  fits_of_isPrefix)
open Text.Pool (add)

/-- A binding with the numbers of its strings. -/
def Binding.numbered {ι : Type} (number : String → ι) (x : Binding) : NumberedBinding ι :=
  ⟨number x.nsPrefix, number x.uri, x.depth⟩

/-- The names that the rules know. -/
def knownNames : List String := ["xml", "xmlns", xmlUri, xmlnsUri]

namespace Resolver

variable {σ ι : Type} [Store σ ι] [OfNat ι 0] [LawfulStore σ]

/-- A resolver has the bindings of a scope, with numbers for the strings. -/
structure Matches (σ : Type) [Store σ ι] [LawfulStore σ] (strings : List String) (r : Resolver ι)
    (s : Scope) : Prop where
  /-- The bindings are those of the scope. -/
  bindings_eq : r.bindings = s.bindings.map (Binding.numbered (number σ strings))
  /-- The strings of the bindings are known. -/
  mem : ∀ x ∈ s.bindings, x.nsPrefix ∈ strings ∧ x.uri ∈ strings
  /-- So are the names that the rules know. -/
  mem_of_known : ∀ name ∈ knownNames, name ∈ strings
  /-- The number of open elements. -/
  depth_eq : r.depth = s.depth
  /-- The prefix `xml`. -/
  xmlPrefix_eq : r.xmlPrefix = number σ strings "xml"
  /-- The prefix `xmlns`. -/
  xmlnsPrefix_eq : r.xmlnsPrefix = number σ strings "xmlns"
  /-- The namespace of `xml`. -/
  xmlUri_eq : r.xmlUri = number σ strings Namespace.xmlUri
  /-- The namespace of declarations. -/
  xmlnsUri_eq : r.xmlnsUri = number σ strings Namespace.xmlnsUri

namespace Matches

variable {strings longer : List String} {r : Resolver ι} {s : Scope} {p : σ} {q uri : String}

theorem xml_mem (h : Matches σ strings r s) : "xml" ∈ strings :=
  h.mem_of_known _ (by simp [knownNames])

theorem xmlns_mem (h : Matches σ strings r s) : "xmlns" ∈ strings :=
  h.mem_of_known _ (by simp [knownNames])

theorem xmlUri_mem (h : Matches σ strings r s) : Namespace.xmlUri ∈ strings :=
  h.mem_of_known _ (by simp [knownNames])

theorem xmlnsUri_mem (h : Matches σ strings r s) : Namespace.xmlnsUri ∈ strings :=
  h.mem_of_known _ (by simp [knownNames])

/-- Further strings change no number. -/
theorem mono (h : Matches σ strings r s) (hextends : strings <+: longer) :
    Matches σ longer r s where
  bindings_eq := by
    rw [h.bindings_eq]
    refine List.map_congr_left fun x hx => ?_
    rw [Binding.numbered, Binding.numbered, number_of_isPrefix hextends (h.mem x hx).1,
      number_of_isPrefix hextends (h.mem x hx).2]
  mem x hx := ⟨hextends.subset (h.mem x hx).1, hextends.subset (h.mem x hx).2⟩
  mem_of_known name hname := hextends.subset (h.mem_of_known name hname)
  depth_eq := h.depth_eq
  xmlPrefix_eq := by rw [h.xmlPrefix_eq, number_of_isPrefix hextends h.xml_mem]
  xmlnsPrefix_eq := by rw [h.xmlnsPrefix_eq, number_of_isPrefix hextends h.xmlns_mem]
  xmlUri_eq := by rw [h.xmlUri_eq, number_of_isPrefix hextends h.xmlUri_mem]
  xmlnsUri_eq := by rw [h.xmlnsUri_eq, number_of_isPrefix hextends h.xmlnsUri_mem]

theorem enter (h : Matches σ strings r s) : Matches σ strings r.enter s.push :=
  { h with depth_eq := congrArg (· + 1) h.depth_eq }

theorem leave (h : Matches σ strings r s) : Matches σ strings r.leave s.pop :=
  { h with
    bindings_eq := by
      rw [Resolver.leave, h.bindings_eq, h.depth_eq, Scope.pop, List.dropWhile_map]
      rfl
    mem := fun x hx => h.mem x ((List.dropWhile_suffix _).subset hx)
    depth_eq := congrArg (· - 1) h.depth_eq }

theorem bind (h : Matches σ strings r s) (hq : q ∈ strings) (huri : uri ∈ strings) :
    Matches σ strings (r.bind (number σ strings q) (number σ strings uri)) (s.bind q uri) :=
  { h with
    bindings_eq := by
      rw [Resolver.bind, Scope.bind, h.bindings_eq, h.depth_eq]
      rfl
    mem := by
      rintro x hx
      rcases List.mem_cons.1 hx with rfl | hx
      · exact ⟨hq, huri⟩
      · exact h.mem x hx }

/-- A namespace that is found is a known string. -/
theorem mem_of_resolve? (h : Matches σ strings r s) (hfound : s.resolve? q = some uri) :
    uri ∈ strings := by
  rw [Scope.resolve?, Option.map_eq_some_iff] at hfound
  obtain ⟨x, hx, rfl⟩ := hfound
  exact (h.mem x (List.mem_of_find?_eq_some hx)).2

theorem default_mem (h : Matches σ strings r s) (hp : Holds strings p) : s.default ∈ strings := by
  rw [Scope.default]
  cases hfound : s.resolve? "" with
  | none => exact empty_mem hp
  | some uri => exact h.mem_of_resolve? hfound

section

variable [DecidableEq ι] (hp : Holds strings p) (hfits : Fits σ strings)

include hp hfits

/-- The binding that is found is that of the scope. -/
theorem resolve? (h : Matches σ strings r s) (hq : q ∈ strings) :
    r.resolve? (number σ strings q) = (s.resolve? q).map (number σ strings) := by
  have hfound : ∀ x ∈ s.bindings,
      ((fun y => decide (y.nsPrefix = number σ strings q)) ∘
        Binding.numbered (number σ strings)) x = (x.nsPrefix == q) := fun x hx =>
    decide_eq_decide.2 (number_inj hp hfits (h.mem x hx).1 hq)
  rw [Resolver.resolve?, h.bindings_eq, List.find?_map, Scope.resolve?, Option.map_map,
    Option.map_map, List.find?_congr hfound]
  rfl

theorem default (h : Matches σ strings r s) : r.default = number σ strings s.default := by
  rw [Resolver.default, ← number_empty hp, h.resolve? hp hfits (empty_mem hp), Scope.default]
  cases s.resolve? "" <;> rfl

omit [DecidableEq ι] in
/-- A namespace is reserved exactly if its number is one of those of the reserved ones. -/
theorem isReserved_iff (h : Matches σ strings r s) (huri : uri ∈ strings) :
    number σ strings uri = r.xmlUri ∨ number σ strings uri = r.xmlnsUri ↔
      Scope.isReserved uri = true := by
  rw [h.xmlUri_eq, h.xmlnsUri_eq, number_inj hp hfits huri h.xmlUri_mem,
    number_inj hp hfits huri h.xmlnsUri_mem, Scope.isReserved, Bool.or_eq_true, beq_iff_eq,
    beq_iff_eq]

/-- **Declarations of prefixes agree**, in what they bind and in why they are refused. -/
theorem declare (h : Matches σ strings r s) (hq : q ∈ strings) (huri : uri ∈ strings) :
    Agree Eq (Matches σ strings)
      (r.declare (number σ strings q) (number σ strings uri) p) (s.declare q uri) := by
  rw [Resolver.declare, Scope.declare, h.xmlnsPrefix_eq, h.xmlPrefix_eq, ← number_empty hp]
  simp only [number_inj hp hfits hq h.xmlns_mem, number_inj hp hfits hq h.xml_mem,
    number_inj hp hfits huri (empty_mem hp), h.isReserved_iff hp hfits huri,
    LawfulStore.get_number hp hfits hq]
  simp only [h.xmlUri_eq, number_inj hp hfits huri h.xmlUri_mem]
  refine .ite (fun _ => .error rfl) fun _ => .ite (fun _ => ?_) fun _ => ?_
  · exact .ite (fun _ => .ok h) fun _ => .error rfl
  · exact .ite (fun _ => .error rfl) fun _ => .ite (fun _ => .error rfl) fun _ =>
      .ok (h.bind hq huri)

/-- **Declarations of the default namespace agree.** -/
theorem declareDefault (h : Matches σ strings r s) (huri : uri ∈ strings) :
    Agree Eq (Matches σ strings) (r.declareDefault (number σ strings uri))
      (s.declareDefault uri) := by
  have hbound := h.bind (empty_mem hp) huri
  rw [number_empty hp] at hbound
  rw [Resolver.declareDefault, Scope.declareDefault]
  simp only [h.isReserved_iff hp hfits huri]
  exact .ite (fun _ => .error rfl) fun _ => .ok hbound

end

end Matches

variable {strings : List String} {p : σ}

/-- The resolver of a document has the bindings of its scope, and the store has its names. -/
theorem matches_new (hp : Holds strings p) (hfits : Fits σ (addAll strings knownNames)) :
    Holds (addAll strings knownNames) (new p).2 ∧
      Matches σ (addAll strings knownNames) (new p).1 .initial := by
  have hxml : add strings "xml" <+: addAll strings knownNames :=
    isPrefix_addAll _ ["xmlns", Namespace.xmlUri, Namespace.xmlnsUri]
  have hxmlns : add (add strings "xml") "xmlns" <+: addAll strings knownNames :=
    isPrefix_addAll _ [Namespace.xmlUri, Namespace.xmlnsUri]
  have hxmlUri : add (add (add strings "xml") "xmlns") Namespace.xmlUri <+:
      addAll strings knownNames := isPrefix_addAll _ [Namespace.xmlnsUri]
  obtain ⟨hfirst, hp⟩ := LawfulStore.intern "xml" hp
    (fits_of_isPrefix hfits (isPrefix_addAll strings knownNames))
  obtain ⟨hsecond, hp⟩ := LawfulStore.intern "xmlns" hp (fits_of_isPrefix hfits hxml)
  obtain ⟨hthird, hp⟩ := LawfulStore.intern Namespace.xmlUri hp (fits_of_isPrefix hfits hxmlns)
  obtain ⟨hfourth, hp⟩ := LawfulStore.intern Namespace.xmlnsUri hp (fits_of_isPrefix hfits hxmlUri)
  -- A string keeps the number that it got when it was new.
  have hxmlPrefix := hfirst.trans (number_of_isPrefix hxml (mem_add_self _ _)).symm
  have hxmlUri' := hthird.trans (number_of_isPrefix hxmlUri (mem_add_self _ _)).symm
  refine ⟨hp, ⟨?_, fun x hx => ?_, fun _ => mem_addAll strings, rfl, hxmlPrefix,
    hsecond.trans (number_of_isPrefix hxmlns (mem_add_self _ _)).symm, hxmlUri', hfourth⟩⟩
  · exact congrArg₂ (fun nsPrefix uri => [NumberedBinding.mk nsPrefix uri 0]) hxmlPrefix hxmlUri'
  · rw [List.mem_singleton.1 hx]
    exact ⟨mem_addAll strings (by simp [knownNames]), mem_addAll strings (by simp [knownNames])⟩

end Resolver

end XmlQuery.Namespace
