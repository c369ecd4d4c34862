import XmlQuery.Document.Assembly
import XmlQuery.Proofs.Document.Numbering
import XmlQuery.Proofs.Namespace.Numbering

/-!
# Start tags by numbers

The declarations, the name and the attributes of a start tag are taken with numbers in the place of
strings. What is found by numbers is what is found by strings, the same faults are found in the same
order, and the attributes come behind the nodes so far. Which strings a tag brings, and in which
order, is said by the tag alone.

## Main definitions

* `Assembly.Stands`: an assembly shows nodes, and its bindings are those of a scope
* `declarationStrings`, `nameStrings`, `attributeNameStrings`, `attributeStrings`: the strings that
  a tag brings

## Main results

* `Stands.declareAll`: the namespace declarations of a tag
* `Stands.elementName`: the name of an element
* `Stands.addAttributes`: the attributes of a tag
-/

namespace XmlQuery

open Markup (Attribute ErrorKind Fault)
open Namespace (Resolver Scope)
open Text (Store LawfulStore addAll addAll_append isPrefix_addAll mem_addAll mem_add_self)
open Text.LawfulStore (Fits Holds number number_inj number_empty number_of_isPrefix empty_mem
  fits_of_isPrefix)
open Text.Pool (add isPrefix_add)

/-! ## Strings of tags -/

/-- The strings of a namespace declaration, in the order in which it is taken. -/
def declarationStrings (a : Attribute) : List String :=
  a.value :: (Builder.declaredPrefix? a).toList

/-- The strings of the name of an element. -/
def nameStrings (written : String) : List String :=
  match Markup.splitQName? written.toList with
  | none => []
  | some (none, part) => [String.ofList part]
  | some (some p, part) => [String.ofList p, String.ofList part]

/-- The strings of the name of an attribute that declares no namespace. -/
def attributeNameStrings (written : String) : List String :=
  match Markup.splitQName? written.toList with
  | none => []
  | some (none, part) => [String.ofList part]
  | some (some p, part) => [String.ofList part, String.ofList p]

/-- The strings of an attribute. -/
def attributeStrings (a : Attribute) : List String :=
  a.value ::
    if a.isDeclaration then [a.nsPrefix?.getD "", a.localName] else attributeNameStrings a.name

namespace Assembly

variable {σ ι : Type}

/-- The namespaces and local parts of attributes that declare no namespace, by numbers. -/
def expandedKeys (number : String → ι) (attributes : List TreeAttribute) : List (ι × ι) :=
  (attributes.filter (!·.isDeclaration)).map fun t => (number t.name.uri, number t.name.localPart)

theorem expandedKeys_cons (number : String → ι) (t : TreeAttribute)
    (attributes : List TreeAttribute) :
    expandedKeys number (t :: attributes) =
      if t.isDeclaration = true then expandedKeys number attributes
      else (number t.name.uri, number t.name.localPart) :: expandedKeys number attributes := by
  rw [expandedKeys, List.filter_cons]
  cases t.isDeclaration <;> rfl

variable [Store σ ι] [OfNat ι 0] [LawfulStore σ]

/-- An assembly shows nodes, and has the bindings of a scope in force. -/
structure Stands (strings : List String) (nodes : List Node) (s : Scope) (b : Assembly σ ι) :
    Prop where
  /-- The arena shows the nodes. -/
  shows : b.arena.Shows strings nodes
  /-- The resolver has the bindings of the scope. -/
  resolver : b.resolver.Matches σ strings s

/-- What an assembly knows besides its nodes, its strings and its bindings. -/
def rest (b : Assembly σ ι) : List OpenNode × Bool × Option Nat :=
  (b.opened, b.hasDoctype, b.arena.root)

namespace Stands

variable {strings : List String} {nodes : List Node} {s : Scope} {b : Assembly σ ι}

theorem intern (h : b.Stands strings nodes s) (hfits : Fits σ strings) (t : String) :
    (b.intern t).1 = number σ (add strings t) t ∧
      (b.intern t).2.Stands (add strings t) nodes s :=
  have ⟨hnumber, hshows⟩ := h.shows.intern hfits t
  ⟨hnumber, hshows, h.resolver.mono (isPrefix_add strings t)⟩

variable [DecidableEq ι]

/-- **A namespace declaration is taken as by strings.** -/
theorem declare (h : b.Stands strings nodes s) (a : Attribute)
    (hfits : Fits σ (addAll strings (declarationStrings a))) :
    Agree Eq (fun b' s' => b'.Stands (addAll strings (declarationStrings a)) nodes s' ∧
      b'.rest = b.rest) (b.declare a) (Builder.declare s a) := by
  have hvalue : Fits σ (add strings a.value) := fits_of_isPrefix hfits (isPrefix_addAll _ _)
  obtain ⟨huri, hstands⟩ := h.intern (fits_of_isPrefix hvalue (isPrefix_add _ _)) a.value
  have hmem := mem_add_self strings a.value
  rw [Assembly.declare, Builder.declare]
  dsimp only
  rw [huri]
  refine .mapError (E := Eq) ?_ fun _ _ => congrArg _
  rw [declarationStrings] at hfits ⊢
  cases hpre : Builder.declaredPrefix? a with
  | none =>
    refine .map_left ((hstands.resolver.declareDefault hstands.shows.holds hvalue hmem).mapError
      fun _ _ => congrArg _) fun r s' hr => ?_
    exact ⟨⟨hstands.shows, hr⟩, rfl⟩
  | some p =>
    rw [hpre] at hfits
    -- The namespace keeps its number when the prefix comes behind it.
    obtain ⟨hp, hboth⟩ := hstands.intern hvalue p
    have hadd := isPrefix_add (add strings a.value) p
    dsimp only
    rw [hp, ← number_of_isPrefix hadd hmem]
    refine .ite (fun _ => ?_) fun _ => .error rfl
    refine .map_left ((hboth.resolver.declare hboth.shows.holds hfits (mem_add_self _ _)
      (hadd.subset hmem)).mapError fun _ _ => congrArg _) fun r s' hr => ?_
    exact ⟨⟨hboth.shows, hr⟩, rfl⟩

/-- So are declarations in order. -/
theorem declareAll {attributes : List Attribute} (h : b.Stands strings nodes s)
    (hfits : Fits σ (addAll strings (attributes.flatMap declarationStrings))) :
    Agree Eq (fun b' s' =>
        b'.Stands (addAll strings (attributes.flatMap declarationStrings)) nodes s' ∧
      b'.rest = b.rest) (attributes.foldlM Assembly.declare b)
      (attributes.foldlM Builder.declare s) := by
  induction attributes generalizing strings s b with
  | nil => exact .ok ⟨h, rfl⟩
  | cons a rest ih =>
    rw [List.flatMap_cons, addAll_append] at hfits ⊢
    rw [List.foldlM_cons, List.foldlM_cons]
    refine (h.declare a (fits_of_isPrefix hfits (isPrefix_addAll _ _))).bind ?_
    rintro b' s' ⟨hb', hrest⟩
    rw [← hrest]
    exact ih hb' hfits

/-- **The name of an element is resolved as by strings.** -/
theorem elementName (h : b.Stands strings nodes s) (written : String)
    (hfits : Fits σ (addAll strings (nameStrings written))) :
    Agree Eq (fun named name =>
        named.1 = name.numbered (number σ (addAll strings (nameStrings written))) ∧
          name.strings ⊆ addAll strings (nameStrings written) ∧
          named.2.Stands (addAll strings (nameStrings written)) nodes s ∧ named.2.rest = b.rest)
      (b.elementName written) (Builder.elementName s written) := by
  have hstrings : Fits σ strings := fits_of_isPrefix hfits (isPrefix_addAll _ _)
  rw [Assembly.elementName, Builder.elementName]
  rw [nameStrings] at hfits ⊢
  cases hsplit : Markup.splitQName? written.toList with
  | none => exact .error rfl
  | some split =>
    rw [hsplit] at hfits
    obtain ⟨_ | p, part⟩ := split
    · obtain ⟨hlocal, hb'⟩ := h.intern hstrings (String.ofList part)
      have hadd := isPrefix_add strings (String.ofList part)
      have hdefault := h.resolver.default_mem h.shows.holds
      dsimp only
      rw [h.resolver.default h.shows.holds hstrings, hlocal, ← number_empty hb'.shows.holds,
        ← number_of_isPrefix hadd hdefault]
      exact .ok ⟨rfl, Name.strings_subset (empty_mem hb'.shows.holds) (mem_add_self _ _)
        (hadd.subset hdefault), hb', rfl⟩
    · -- The prefix is looked up before the local part gets a number.
      obtain ⟨hpre, hb'⟩ := h.intern hstrings (String.ofList p)
      have hfits' : Fits σ (add strings (String.ofList p)) :=
        fits_of_isPrefix hfits (isPrefix_add _ _)
      have hmem := mem_add_self strings (String.ofList p)
      have hresolve := hb'.resolver.resolve? hb'.shows.holds hfits' hmem
      dsimp only
      rw [hpre, hresolve]
      cases hfound : s.resolve? (String.ofList p) with
      | none => exact .error rfl
      | some uri =>
        obtain ⟨hlocal, hb₂⟩ := hb'.intern hfits' (String.ofList part)
        have hadd := isPrefix_add (add strings (String.ofList p)) (String.ofList part)
        have huri := hb'.resolver.mem_of_resolve? hfound
        rw [Option.map_some]
        dsimp only
        rw [hlocal, ← number_of_isPrefix hadd hmem, ← number_of_isPrefix hadd huri]
        exact .ok ⟨rfl, Name.strings_subset (hadd.subset hmem) (mem_add_self _ _)
          (hadd.subset huri), hb₂, rfl⟩

/-- **The name of an attribute is resolved as by strings.** -/
theorem attributeName (h : b.Stands strings nodes s) (written : String)
    (hfits : Fits σ (addAll strings (attributeNameStrings written))) :
    Agree Eq (fun named name =>
        named.1 = name.numbered (number σ (addAll strings (attributeNameStrings written))) ∧
          name.strings ⊆ addAll strings (attributeNameStrings written) ∧
          named.2.Stands (addAll strings (attributeNameStrings written)) nodes s ∧
          named.2.rest = b.rest)
      (b.attributeName written) (Builder.attributeName s written) := by
  have hstrings : Fits σ strings := fits_of_isPrefix hfits (isPrefix_addAll _ _)
  rw [Assembly.attributeName, Builder.attributeName]
  rw [attributeNameStrings] at hfits ⊢
  cases hsplit : Markup.splitQName? written.toList with
  | none => exact .error rfl
  | some split =>
    rw [hsplit] at hfits
    obtain ⟨_ | p, part⟩ := split
    · obtain ⟨hlocal, hb'⟩ := h.intern hstrings (String.ofList part)
      have hempty := empty_mem hb'.shows.holds
      dsimp only
      rw [hlocal, ← number_empty hb'.shows.holds]
      exact .ok ⟨rfl, Name.strings_subset hempty (mem_add_self _ _) hempty, hb', rfl⟩
    · -- Here the local part gets its number first.
      have hadd := isPrefix_add (add strings (String.ofList part)) (String.ofList p)
      have hfits' : Fits σ (add strings (String.ofList part)) := fits_of_isPrefix hfits hadd
      obtain ⟨hlocal, hb'⟩ := h.intern hstrings (String.ofList part)
      obtain ⟨hpre, hb₂⟩ := hb'.intern hfits' (String.ofList p)
      have hmem := mem_add_self (add strings (String.ofList part)) (String.ofList p)
      have hresolve := hb₂.resolver.resolve? hb₂.shows.holds hfits hmem
      dsimp only
      rw [hpre, hresolve]
      cases hfound : s.resolve? (String.ofList p) with
      | none => exact .error rfl
      | some uri =>
        rw [Option.map_some]
        dsimp only
        rw [hlocal, ← number_of_isPrefix hadd (mem_add_self _ _)]
        exact .ok ⟨rfl, Name.strings_subset hmem (hadd.subset (mem_add_self _ _))
          (hb₂.resolver.mem_of_resolve? hfound), hb₂, rfl⟩

/-- **The node of an attribute is that of the attribute resolved by strings**, but for its
place. -/
theorem attributeNode (h : b.Stands strings nodes s) (element : Nat) (a : Attribute)
    (hfits : Fits σ (addAll strings (attributeStrings a))) :
    Agree Eq (fun pushed resolved =>
        pushed.1 = (resolved.layout 0 element).numbered
          (number σ (addAll strings (attributeStrings a))) ∧
          (resolved.layout 0 element).strings ⊆ addAll strings (attributeStrings a) ∧
          pushed.2.Stands (addAll strings (attributeStrings a)) nodes s ∧
          pushed.2.rest = b.rest)
      (b.attributeNode element a) (Builder.resolveAttribute s a) := by
  have hvalue : Fits σ (add strings a.value) := fits_of_isPrefix hfits (isPrefix_addAll _ _)
  obtain ⟨hnumber, hb'⟩ := h.intern (fits_of_isPrefix hvalue (isPrefix_add _ _)) a.value
  have hmem := mem_add_self strings a.value
  rw [Assembly.attributeNode, Builder.resolveAttribute]
  rw [attributeStrings] at hfits ⊢
  dsimp only
  rw [hnumber]
  by_cases ha : a.isDeclaration = true
  · -- A declaration is split at its colon, and its namespace has had its number from the start.
    rw [if_pos ha] at hfits ⊢
    rw [if_pos ha, if_pos ha]
    have hfirst := isPrefix_add (add strings a.value) (a.nsPrefix?.getD "")
    have hsecond := isPrefix_add (add (add strings a.value) (a.nsPrefix?.getD "")) a.localName
    have hfits' : Fits σ (add (add strings a.value) (a.nsPrefix?.getD "")) :=
      fits_of_isPrefix hfits hsecond
    obtain ⟨hpre, hb₂⟩ := hb'.intern hvalue (a.nsPrefix?.getD "")
    obtain ⟨hlocal, hb₃⟩ := hb₂.intern hfits' a.localName
    rw [hpre, hlocal, hb₃.resolver.xmlnsUri_eq, ← number_of_isPrefix hfirst hmem,
      ← number_of_isPrefix hsecond (hfirst.subset hmem),
      ← number_of_isPrefix hsecond (mem_add_self _ _)]
    refine .ok ⟨rfl, List.cons_subset.2 ⟨hsecond.subset (hfirst.subset hmem), ?_⟩, hb₃, rfl⟩
    exact Name.strings_subset (hsecond.subset (mem_add_self _ _)) (mem_add_self _ _)
      hb₃.resolver.xmlnsUri_mem
  · rw [if_neg ha] at hfits ⊢
    rw [if_neg ha, if_neg ha]
    have hextends : add strings a.value <+:
        addAll strings (a.value :: attributeNameStrings a.name) := isPrefix_addAll _ _
    rw [← number_of_isPrefix hextends hmem]
    refine (hb'.attributeName a.name hfits).map ?_
    rintro ⟨_, _⟩ name ⟨rfl, hstrings, hb₂, hrest⟩
    exact ⟨rfl, List.cons_subset.2 ⟨hextends.subset hmem, hstrings⟩, hb₂, hrest⟩

omit [DecidableEq ι] in
/-- A node is pushed behind the others. -/
theorem push (h : b.Stands strings nodes s) {n : Node} (hn : n.strings ⊆ strings) :
    ({ b with arena := b.arena.push (n.numbered (number σ strings)) } : Assembly σ ι).Stands strings
      (nodes ++ [{ n with last := nodes.length }]) s :=
  ⟨h.shows.push hn, h.resolver⟩

omit [DecidableEq ι] in
/-- Expanded names keep their numbers when strings come behind the others. -/
theorem expandedKeys_of_isPrefix {longer : List String} {earlier : List TreeAttribute}
    (hextends : strings <+: longer)
    (h : ∀ t ∈ earlier, t.name.uri ∈ strings ∧ t.name.localPart ∈ strings) :
    expandedKeys (number σ longer) earlier = expandedKeys (number σ strings) earlier := by
  refine List.map_congr_left fun t ht => ?_
  obtain ⟨huri, hlocal⟩ := h t (List.mem_of_mem_filter ht)
  rw [number_of_isPrefix hextends huri, number_of_isPrefix hextends hlocal]

/-- An attribute has the expanded name of an earlier one exactly if it has its numbers. -/
theorem contains_expandedKeys (h : b.Stands strings nodes s) (hfits : Fits σ strings)
    {earlier : List TreeAttribute} {t : TreeAttribute}
    (hearlier : ∀ u ∈ earlier, u.name.uri ∈ strings ∧ u.name.localPart ∈ strings)
    (ht : t.name.uri ∈ strings ∧ t.name.localPart ∈ strings) :
    (!t.isDeclaration && (expandedKeys (number σ strings) earlier).contains
      (number σ strings t.name.uri, number σ strings t.name.localPart)) =
        earlier.any (Builder.sameExpanded t) := by
  have hnumber : ∀ u ∈ earlier, (number σ strings u.name.uri = number σ strings t.name.uri ∧
      number σ strings u.name.localPart = number σ strings t.name.localPart) ↔
        t.name.uri = u.name.uri ∧ t.name.localPart = u.name.localPart := fun u hu => by
    rw [number_inj h.shows.holds hfits (hearlier u hu).1 ht.1,
      number_inj h.shows.holds hfits (hearlier u hu).2 ht.2, eq_comm,
      eq_comm (a := u.name.localPart)]
  rw [Bool.eq_iff_iff]
  simp only [Bool.and_eq_true, Bool.not_eq_true', List.contains_iff_mem, expandedKeys,
    List.mem_map, List.mem_filter, List.any_eq_true, Builder.sameExpanded, beq_iff_eq,
    Prod.mk.injEq]
  constructor
  · rintro ⟨hkind, u, ⟨hu, hplain⟩, hkey⟩
    obtain ⟨huri, hlocal⟩ := (hnumber u hu).1 hkey
    exact ⟨u, hu, ⟨⟨hkind, hplain⟩, huri⟩, hlocal⟩
  · rintro ⟨u, hu, ⟨⟨hkind, hplain⟩, huri⟩, hlocal⟩
    exact ⟨hkind, u, ⟨hu, hplain⟩, (hnumber u hu).2 ⟨huri, hlocal⟩⟩

/-- **The attributes of a tag come behind the nodes so far**, and the first fault in them is found
as by strings. -/
theorem addAttributes (h : b.Stands strings nodes s) (element : Nat) (seen : List Attribute)
    (earlier : List TreeAttribute) (attributes : List Attribute)
    (hearlier : ∀ t ∈ earlier, t.name.uri ∈ strings ∧ t.name.localPart ∈ strings)
    (hfits : Fits σ (addAll strings (attributes.flatMap attributeStrings))) :
    Agree Eq (fun b' resolved =>
        b'.Stands (addAll strings (attributes.flatMap attributeStrings))
          (nodes ++ TreeAttribute.layouts nodes.length element resolved) s ∧ b'.rest = b.rest ∧
          resolved.length = attributes.length)
      (b.addAttributes element seen (expandedKeys (number σ strings) earlier) attributes)
      (Builder.resolveAttributes s seen earlier attributes) := by
  induction attributes generalizing strings nodes seen earlier b with
  | nil =>
    refine .ok ⟨?_, rfl, rfl⟩
    rw [TreeAttribute.layouts, List.append_nil]
    exact h
  | cons a rest ih =>
    rw [List.flatMap_cons, addAll_append] at hfits ⊢
    rw [Assembly.addAttributes, Builder.resolveAttributes]
    refine .ite (fun _ => .error rfl) fun _ => ?_
    have hfits' := fits_of_isPrefix hfits (isPrefix_addAll _ _)
    have hextends := isPrefix_addAll strings (attributeStrings a)
    rcases (h.attributeNode element a hfits').exists_eq with
      ⟨⟨_, b'⟩, resolved, hnode, hresolved, rfl, hstrings, hb', hrest⟩ |
      ⟨e, _, hnode, hresolved, rfl⟩
    · rw [hnode, hresolved]
      have ht : resolved.name.uri ∈ addAll strings (attributeStrings a) ∧
          resolved.name.localPart ∈ addAll strings (attributeStrings a) :=
        ⟨hstrings (by simp [Node.strings, Name.strings, TreeAttribute.layout]),
          hstrings (by simp [Node.strings, Name.strings, TreeAttribute.layout])⟩
      have hearlier' : ∀ t ∈ resolved :: earlier, t.name.uri ∈ addAll strings (attributeStrings a) ∧
          t.name.localPart ∈ addAll strings (attributeStrings a) :=
        List.forall_mem_cons.2 ⟨ht, fun t ht' =>
          (hearlier t ht').imp (fun h => hextends.subset h) fun h => hextends.subset h⟩
      have hcontains := hb'.contains_expandedKeys hfits' (fun t h => hearlier' t (.tail _ h)) ht
      have hothers := ih (hb'.push hstrings) (a :: seen) _ hearlier' hfits
      rw [← expandedKeys_of_isPrefix (σ := σ) hextends hearlier]
      -- An expanded name is among the numbers of earlier ones exactly if it is one of them.
      change Agree Eq _ (if (!resolved.isDeclaration && List.contains _
        (number σ _ resolved.name.uri, number σ _ resolved.name.localPart)) = true then _ else _) _
      rw [hcontains]
      refine .ite (fun _ => .error rfl) fun _ => ?_
      rw [expandedKeys_cons] at hothers
      rcases hothers.exists_eq with ⟨b'', others, hb₂, hlist, hstands, hrest', hlength⟩ |
        ⟨e, _, hb₂, hlist, rfl⟩
      · rw [hlist]
        refine hb₂ ▸ .ok ⟨?_, hrest'.trans hrest, congrArg (· + 1) hlength⟩
        rw [List.length_append, List.append_assoc] at hstands
        exact hstands
      · rw [hlist]
        exact hb₂ ▸ .error rfl
    · rw [hnode, hresolved]
      exact .error rfl

end Stands

end Assembly

end XmlQuery
