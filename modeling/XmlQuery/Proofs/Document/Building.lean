import XmlQuery.Proofs.Document.Admission

/-!
# Building what is spelled

The builder takes every spelling: events that stand for trees add these trees to the innermost open
element, or to the top of the document if what is there already may stand in front of them. What is
open around the events, and the scope, are the same behind them as in front of them, so the builder
can be followed along a spelling, one tree at a time.

## Main definitions

* `Builder.addAll`: the state with further trees
* `Builder.Fits`: further trees may stand behind those at the top

## Main results

* `Spells.run_eq_ok`: events that stand for trees add them
* `buildTrees_eq_ok_iff`: **the trees of a reading are those that its events spell**
-/

namespace XmlQuery

open Markup (Event Fault Placed Reading)
open Namespace (Scope)

namespace Builder

variable {b : Builder} {t : Tree} {ts : List Tree}

/-- The state with further trees in the innermost element or at the top. -/
def addAll (b : Builder) (ts : List Tree) : Builder := ts.foldl add b

/-- Further trees may stand where the builder is: at the top, behind those that are there. -/
def Fits (b : Builder) (ts : List Tree) : Prop :=
  b.atTop = true → (b.top.reverse ++ ts).Pairwise Tree.MayPrecede

@[simp] theorem atTop_add (b : Builder) (t : Tree) : (b.add t).atTop = b.atTop := by
  obtain ⟨opened, top, scope⟩ := b
  cases opened <;> rfl

/-- Further trees are contents of the innermost open element. -/
theorem addAll_opened (e : OpenElement) (outer : List OpenElement) (top : List Tree) (s : Scope)
    (ts : List Tree) : (⟨e :: outer, top, s⟩ : Builder).addAll ts =
      ⟨{ e with contents := ts.reverse ++ e.contents } :: outer, top, s⟩ := by
  induction ts generalizing e with
  | nil => rfl
  | cons t ts ih =>
    rw [List.reverse_cons, List.append_assoc]
    exact ih { e with contents := t :: e.contents }

/-- Further trees stand at the top, if no element is open. -/
theorem addAll_top (top : List Tree) (s : Scope) (ts : List Tree) :
    (⟨[], top, s⟩ : Builder).addAll ts = ⟨[], ts.reverse ++ top, s⟩ := by
  induction ts generalizing top with
  | nil => rfl
  | cons t ts ih =>
    rw [List.reverse_cons, List.append_assoc]
    exact ih (t :: top)

theorem Fits.add (h : b.Fits (t :: ts)) : (b.add t).Fits ts := by
  obtain ⟨opened, top, scope⟩ := b
  intro htop
  cases opened with
  | nil =>
    have hpairwise := h rfl
    rw [List.append_cons, ← List.reverse_cons] at hpairwise
    exact hpairwise
  | cons => cases htop

theorem Fits.mayPrecede (h : b.Fits (t :: ts)) (htop : b.atTop = true) :
    ∀ u ∈ b.top, u.MayPrecede t := fun u hu =>
  (List.pairwise_append.1 (h htop)).2.2 u (List.mem_reverse.2 hu) t List.mem_cons_self

/-- An element fits where there is no element yet. -/
theorem Fits.hasRoot_eq_false (h : b.Fits (t :: ts)) (ht : t.isElement = true)
    (htop : b.atTop = true) : b.hasRoot = false := by
  rw [hasRoot, List.any_eq_false]
  intro u hu helement
  rw [(h.mayPrecede htop u hu).1 ht] at helement
  cases helement

/-- A document type declaration fits where there is neither an element nor another one. -/
theorem Fits.of_isDoctype (h : b.Fits (t :: ts)) (ht : t.isDoctype = true)
    (htop : b.atTop = true) : b.hasRoot = false ∧ b.top.any (·.isDoctype) = false := by
  rw [hasRoot, List.any_eq_false, List.any_eq_false, ← forall_and]
  intro u
  rw [← imp_and, Bool.not_eq_true, Bool.not_eq_true]
  exact fun hu => (h.mayPrecede htop u hu).2 ht

theorem run_cons_of_takes {middle : Builder} {p : Placed} (h : b.Takes p.event middle)
    (rest : List Placed) : b.run (p :: rest) = middle.run rest := by
  rw [run, List.foldlM_cons, step_eq_ok_iff.2 h]
  rfl

theorem run_append_of_eq_ok {middle : Builder} {first : List Placed} (h : b.run first = .ok middle)
    (second : List Placed) : b.run (first ++ second) = middle.run second := by
  rw [run, List.foldlM_append, ← run, h]
  rfl

/-- A leaf is taken where it fits. -/
theorem takes_of_leafOf? {event : Event} {kind : LeafKind} {value : String}
    (hleaf : leafOf? b.atTop event = some (kind, value)) (hfits : b.Fits (.leaf kind value :: ts)) :
    b.Takes event (b.add (.leaf kind value)) := by
  refine .leaf hleaf fun hkind => ?_
  subst hkind
  -- A document type declaration is a leaf at the top only.
  refine hfits.of_isDoctype rfl ?_
  cases event with
  | doctype body =>
    rw [leafOf?] at hleaf
    split at hleaf
    · next htop => exact htop
    · cases hleaf
  | text data | cdata data =>
    rw [leafOf?] at hleaf
    split at hleaf <;> cases hleaf
  | _ => cases hleaf

end Builder

/-- **Events that stand for trees add them**, where they fit. -/
theorem Spells.run_eq_ok {atTop : Bool} {scope : Scope} {events : List Event} {ts : List Tree}
    (h : Spells atTop scope events ts) {b : Builder} (htop : b.atTop = atTop)
    (hscope : b.scope = scope) (hbounded : scope.Bounded) (hfits : b.Fits ts)
    {placed : List Placed} (hplaced : placed.map (·.event) = events) :
    b.run placed = .ok (b.addAll ts) := by
  induction h generalizing b placed with
  | nil =>
    rw [List.map_eq_nil_iff.1 hplaced]
    rfl
  | blank hblank _ ih =>
    obtain ⟨p, rest, rfl, hp, hrest⟩ := List.map_eq_cons_iff.1 hplaced
    have htakes : b.Takes p.event b := hp ▸ .blank htop hblank
    rw [Builder.run_cons_of_takes htakes]
    exact ih htop hscope hbounded hfits hrest
  | leaf hleaf _ ih =>
    obtain ⟨p, rest, rfl, hp, hrest⟩ := List.map_eq_cons_iff.1 hplaced
    have htakes : b.Takes p.event _ := hp ▸ Builder.takes_of_leafOf? (htop ▸ hleaf) hfits
    rw [Builder.run_cons_of_takes htakes]
    exact ih ((b.atTop_add _).trans htop) ((Builder.scope_add _).trans hscope) hbounded hfits.add
      hrest
  | @element _ scope inner written name attributes resolved within events contents ts hopens _ _
      ihwithin ih =>
    obtain ⟨inside, behind, rfl, hinside, hbehind⟩ := List.map_eq_append_iff.1 hplaced
    obtain ⟨p, inside, rfl, hp, hinside⟩ := List.map_eq_cons_iff.1 hinside
    obtain ⟨q, rest, rfl, hq, hrest⟩ := List.map_eq_cons_iff.1 hbehind
    -- Inside the element everything fits, and its contents are collected there.
    have hopened : b.Takes p.event ⟨⟨written, name, resolved, []⟩ :: b.opened, b.top, inner⟩ :=
      hp ▸ .opened (hfits.hasRoot_eq_false rfl) (hscope ▸ hopens)
    have hcontents := @ihwithin ⟨⟨written, name, resolved, []⟩ :: b.opened, b.top, inner⟩ rfl rfl
      (Builder.bounded_declareAll hbounded hopens.declareAll_eq) nofun inside hinside
    rw [Builder.addAll_opened, List.append_nil] at hcontents
    -- The end tag makes a tree of them, and leaves the scope as it was.
    have hclosed : Builder.Takes
        ⟨⟨written, name, resolved, contents.reverse⟩ :: b.opened, b.top, inner⟩ q.event
        (b.add (.element name resolved contents)) := by
      have htakes := @Builder.Takes.closed
        ⟨⟨written, name, resolved, contents.reverse⟩ :: b.opened, b.top, inner⟩ _ _ rfl
      dsimp only at htakes
      rw [Builder.pop_declareAll hbounded hopens.declareAll_eq, ← hscope, Builder.add_scope,
        List.reverse_reverse] at htakes
      exact hq ▸ htakes
    rw [List.cons_append, Builder.run_cons_of_takes hopened, Builder.run_append_of_eq_ok hcontents,
      Builder.run_cons_of_takes hclosed]
    exact ih ((b.atTop_add _).trans htop) ((Builder.scope_add _).trans hscope) hbounded hfits.add
      hrest
  | @empty _ scope inner written name attributes resolved events ts hopens _ ih =>
    obtain ⟨p, rest, rfl, hp, hrest⟩ := List.map_eq_cons_iff.1 hplaced
    have htakes : b.Takes p.event (b.add (.element name resolved [])) := by
      have htakes : b.Takes p.event { b.add (.element name resolved []) with scope := inner.pop } :=
        hp ▸ .empty (hfits.hasRoot_eq_false rfl) (hscope ▸ hopens)
      rw [Builder.pop_declareAll hbounded hopens.declareAll_eq, ← hscope] at htakes
      exact Builder.add_scope b b.scope _ ▸ htakes
    rw [Builder.run_cons_of_takes htakes]
    exact ih ((b.atTop_add _).trans htop) ((Builder.scope_add _).trans hscope) hbounded hfits.add
      hrest

/-- **The trees of a reading are those that its events spell**, with one root element, and any
document type declaration in front of it. -/
theorem buildTrees_eq_ok_iff {reading : Reading} {stop : Nat} {trees : List Tree}
    (h : reading.outcome = .ok stop) :
    buildTrees reading = .ok trees ↔
      Spells true .initial (reading.events.map (·.event)) trees ∧
        trees.Pairwise Tree.MayPrecede ∧ trees.any (·.isElement) = true := by
  refine ⟨spells_of_buildTrees, ?_⟩
  rintro ⟨hspells, hprecede, hroot⟩
  have hfits : Builder.start.Fits trees := fun _ => hprecede
  have hrun := hspells.run_eq_ok rfl rfl Scope.bounded_initial hfits rfl
  rw [Builder.start, Builder.addAll_top, List.append_nil, ← Builder.start] at hrun
  rw [buildTrees, hrun, h]
  dsimp only
  rw [Builder.finish, Builder.hasRoot, List.any_reverse, hroot, List.reverse_reverse]
  rfl

end XmlQuery
