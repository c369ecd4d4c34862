import XmlQuery.Proofs.Document.Assembling
import XmlQuery.Proofs.Namespace.Declarations

/-!
# Spelling

How events stand for trees, without a stack: a leaf is one event, an element is its start tag, the
events of its contents and an end tag with the same name, or the tag of an empty element. The
builder, which keeps a stack of open elements, finds exactly such trees: what it has taken is a
finished spelling at the top, or an element that is still open after what came before it, with the
finished part of its contents.

## Main definitions

* `leafOf?`: the leaf that an event is
* `Opens`: a start tag is accepted in a scope, and what it makes of its names
* `Spells`: events stand for trees
* `Builder.Takes`: what the builder makes of an event that it accepts
* `Builder.Reached`: what the builder has made of the events so far

## Main results

* `Builder.step_eq_ok_iff`: the events that the builder accepts, one case for each kind of event
* `Builder.Reached.step`: taking an event
* `Builder.Reached.run`: taking events in order
* `spells_of_buildTrees`: **the trees of a reading are spelled by its events**
-/

namespace XmlQuery

open Markup (Attribute Event Fault Placed Reading)
open Namespace (Scope)

/-- The leaf that an event is at the top of a document or inside an element. -/
def leafOf? (atTop : Bool) : Event → Option (LeafKind × String)
  | .declaration content => some (.declaration "xml", content)
  | .instruction target content => some (.declaration target, content)
  | .comment data => some (.comment, data)
  | .doctype body => if atTop then some (.doctype, body) else none
  | .text data => if atTop then none else some (.text, data)
  | .cdata data => if atTop then none else some (.cdata, data)
  | .startTag .. | .endTag _ => none

/-- A start tag is accepted in a scope: its declarations lead to the scope `inner`, in which its
names are resolved. -/
structure Opens (scope : Scope) (written : String) (attributes : List Attribute)
    (inner : Scope) (name : Name) (resolved : List TreeAttribute) : Prop where
  /-- The declarations are accepted. -/
  declareAll_eq : Builder.declareAll scope.push attributes = .ok inner
  /-- The name of the element is resolved. -/
  elementName_eq : Builder.elementName inner written = .ok name
  /-- The names of the attributes are resolved, and no two of them are the same. -/
  resolveAttributes_eq : Builder.resolveAttributes inner [] [] attributes = .ok resolved

/-- The attributes of a tag are written as in the document, with the same values. -/
theorem Opens.map_qualified {scope inner : Scope} {written : String} {name : Name}
    {attributes : List Attribute} {resolved : List TreeAttribute}
    (h : Opens scope written attributes inner name resolved) :
    resolved.map (fun r => (r.name.qualified, r.value)) =
      attributes.map fun a => (a.name, a.value) := by
  -- Attribute by attribute, the parts of the resolved name make up the written one.
  have hforall := (Builder.resolveAttributes_eq_ok_iff.1 h.resolveAttributes_eq).1
  rw [← List.forall₂_eq_eq_eq, List.forall₂_map_left_iff, List.forall₂_map_right_iff]
  refine hforall.flip.imp fun r a hr => ?_
  have hresolves := Builder.resolves_of_resolveAttribute hr
  rw [hresolves.qualified_eq, hresolves.value_eq]

/-- Events stand for trees in a scope, at the top of a document or inside an element. -/
inductive Spells : (atTop : Bool) → Scope → List Event → List Tree → Prop
  /-- No events. -/
  | nil {atTop : Bool} {scope : Scope} : Spells atTop scope [] []
  /-- White space at the top of a document stands for nothing. -/
  | blank {scope : Scope} {data : String} {events : List Event} {trees : List Tree} :
    data.toList.all Text.isBlank = true → Spells true scope events trees →
    Spells true scope (.text data :: events) trees
  /-- A leaf. -/
  | leaf {atTop : Bool} {scope : Scope} {event : Event} {kind : LeafKind} {value : String}
    {events : List Event} {trees : List Tree} :
    leafOf? atTop event = some (kind, value) → Spells atTop scope events trees →
    Spells atTop scope (event :: events) (.leaf kind value :: trees)
  /-- An element with its contents. -/
  | element {atTop : Bool} {scope inner : Scope} {written : String} {name : Name}
    {attributes : List Attribute} {resolved : List TreeAttribute} {within events : List Event}
    {contents trees : List Tree} :
    Opens scope written attributes inner name resolved → Spells false inner within contents →
    Spells atTop scope events trees →
    Spells atTop scope (.startTag written attributes false :: within ++ .endTag written :: events)
      (.element name resolved contents :: trees)
  /-- The tag of an empty element. -/
  | empty {atTop : Bool} {scope inner : Scope} {written : String} {name : Name}
    {attributes : List Attribute} {resolved : List TreeAttribute} {events : List Event}
    {trees : List Tree} :
    Opens scope written attributes inner name resolved → Spells atTop scope events trees →
    Spells atTop scope (.startTag written attributes true :: events)
      (.element name resolved [] :: trees)

theorem Spells.append {atTop : Bool} {scope : Scope} {first second : List Event}
    {ts us : List Tree} (h : Spells atTop scope first ts) (h' : Spells atTop scope second us) :
    Spells atTop scope (first ++ second) (ts ++ us) := by
  induction h with
  | nil => exact h'
  | blank hdata _ ih => exact .blank hdata (ih h')
  | leaf hleaf _ ih => exact .leaf hleaf (ih h')
  | element hopens hwithin _ _ ih =>
    -- The second events go behind the end tag.
    rw [List.append_assoc, List.cons_append]
    exact .element hopens hwithin (ih h')
  | empty hopens _ ih => exact .empty hopens (ih h')

/-- What may stand at the top of a document in front of what: there is one element, and one
document type declaration in front of it. -/
def Tree.MayPrecede (earlier later : Tree) : Prop :=
  (later.isElement → earlier.isElement = false) ∧
    (later.isDoctype → earlier.isElement = false ∧ earlier.isDoctype = false)

namespace Builder

/-! ## One event -/

/-- No element is at the top, if there is no root element. -/
theorem isElement_of_hasRoot {b : Builder} (h : b.hasRoot = false) :
    ∀ u ∈ b.top, u.isElement = false := by
  intro u hu
  rw [hasRoot, List.any_eq_false] at h
  exact Bool.eq_false_iff.2 (h u hu)

/-- An event can be taken, and what the builder makes of it. -/
inductive Takes (b : Builder) : Event → Builder → Prop
  /-- White space at the top of a document. -/
  | blank {data : String} : b.atTop = true → data.toList.all Text.isBlank = true →
    Takes b (.text data) b
  /-- A leaf; in front of a document type declaration there is neither an element nor another
  one. -/
  | leaf {event : Event} {kind : LeafKind} {value : String} :
    leafOf? b.atTop event = some (kind, value) →
    (kind = .doctype → b.hasRoot = false ∧ b.top.any (·.isDoctype) = false) →
    Takes b event (b.add (.leaf kind value))
  /-- A start tag; at the top there is one element. -/
  | opened {written : String} {attributes : List Attribute} {inner : Scope} {name : Name}
    {resolved : List TreeAttribute} : (b.atTop = true → b.hasRoot = false) →
    Opens b.scope written attributes inner name resolved →
    Takes b (.startTag written attributes false)
      ⟨⟨written, name, resolved, []⟩ :: b.opened, b.top, inner⟩
  /-- The tag of an empty element. -/
  | empty {written : String} {attributes : List Attribute} {inner : Scope} {name : Name}
    {resolved : List TreeAttribute} : (b.atTop = true → b.hasRoot = false) →
    Opens b.scope written attributes inner name resolved →
    Takes b (.startTag written attributes true)
      { b.add (.element name resolved []) with scope := inner.pop }
  /-- The end tag of the innermost open element. -/
  | closed {e : OpenElement} {outer : List OpenElement} : b.opened = e :: outer →
    Takes b (.endTag e.written)
      { (⟨outer, b.top, b.scope⟩ : Builder).add (.element e.name e.attributes e.contents.reverse)
        with scope := b.scope.pop }

/-- A tag that is accepted, where the root is missing or an element is open. -/
theorem openElement_of_opens {b : Builder} {offset : Nat} {written : String}
    {attributes : List Attribute} {inner : Scope} {name : Name} {resolved : List TreeAttribute}
    (hroot : b.atTop = true → b.hasRoot = false)
    (hopens : Opens b.scope written attributes inner name resolved) (isEmpty : Bool) :
    b.openElement offset written attributes isEmpty =
      .ok (if isEmpty then { b.add (.element name resolved []) with scope := inner.pop }
        else ⟨⟨written, name, resolved, []⟩ :: b.opened, b.top, inner⟩) := by
  rw [← Bool.not_eq_true, ← not_and, ← Bool.and_eq_true] at hroot
  rw [openElement, if_neg hroot, hopens.declareAll_eq]
  change ((elementName _ written).mapError _ >>= _) = _
  rw [hopens.elementName_eq]
  change (resolveAttributes _ [] [] attributes >>= _) = _
  rw [hopens.resolveAttributes_eq]
  cases isEmpty <;> rfl

theorem openElement_eq_ok_iff {b b' : Builder} {offset : Nat} {written : String}
    {attributes : List Attribute} {isEmpty : Bool} :
    b.openElement offset written attributes isEmpty = .ok b' ↔
      b.Takes (.startTag written attributes isEmpty) b' := by
  constructor
  · intro h
    rw [openElement] at h
    split at h
    · cases h
    · next hroot =>
      simp only [bind_eq_ok_iff, mapError_eq_ok_iff] at h
      obtain ⟨inner, hinner, name, hname, resolved, hresolved, h⟩ := h
      rw [Bool.and_eq_true, not_and, Bool.not_eq_true] at hroot
      cases isEmpty with
      | false =>
        cases h
        exact .opened hroot ⟨hinner, hname, hresolved⟩
      | true =>
        cases h
        exact .empty hroot ⟨hinner, hname, hresolved⟩
  · intro h
    cases h with
    | leaf hleaf => cases hleaf
    | opened hroot hopens => exact openElement_of_opens hroot hopens false
    | empty hroot hopens => exact openElement_of_opens hroot hopens true

theorem closeElement_eq_ok_iff {b b' : Builder} {offset : Nat} {written : String} :
    b.closeElement offset written = .ok b' ↔ b.Takes (.endTag written) b' := by
  constructor
  · intro h
    rw [closeElement] at h
    split at h
    · cases h
    · next e outer heq =>
      split at h
      · next hwritten =>
        cases h
        exact hwritten ▸ .closed heq
      · cases h
  · intro h
    cases h with
    | leaf hleaf => cases hleaf
    | closed heq =>
      rw [closeElement, heq]
      exact if_pos rfl

/-- **One step of the builder**: it takes an event, wherever the event starts, or refuses it. -/
theorem step_eq_ok_iff {b b' : Builder} {offset : Nat} {event : Event} :
    b.step offset event = .ok b' ↔ b.Takes event b' := by
  cases event with
  | startTag name attributes isEmpty => exact openElement_eq_ok_iff
  | endTag name => exact closeElement_eq_ok_iff
  | declaration | instruction | comment =>
    constructor
    · intro h
      cases h
      exact .leaf rfl (by rintro ⟨⟩)
    · intro h
      cases h with
      | leaf hleaf =>
        cases hleaf
        rfl
  | text data =>
    rw [step]
    cases htop : b.atTop with
    | true =>
      constructor
      · intro h
        rw [if_pos rfl] at h
        split at h
        · next hblank =>
          cases h
          exact .blank htop hblank
        · cases h
      · intro h
        cases h with
        | blank _ hblank => exact (if_pos rfl).trans (if_pos hblank)
        | leaf hleaf => rw [htop] at hleaf; cases hleaf
    | false =>
      constructor
      · intro h
        cases h
        exact .leaf (by rw [htop]; rfl) (by rintro ⟨⟩)
      · intro h
        cases h with
        | blank hatTop => rw [htop] at hatTop; cases hatTop
        | leaf hleaf =>
          rw [htop] at hleaf
          cases hleaf
          rfl
  | cdata data =>
    rw [step]
    cases htop : b.atTop with
    | true =>
      constructor
      · rintro ⟨⟩
      · intro h
        cases h with
        | leaf hleaf => rw [htop] at hleaf; cases hleaf
    | false =>
      constructor
      · intro h
        cases h
        exact .leaf (by rw [htop]; rfl) (by rintro ⟨⟩)
      · intro h
        cases h with
        | leaf hleaf =>
          rw [htop] at hleaf
          cases hleaf
          rfl
  | doctype body =>
    rw [step]
    constructor
    · intro h
      split at h
      · cases h
      · next hplace =>
        cases h
        simp only [Bool.or_eq_true, Bool.not_eq_true', not_or, Bool.not_eq_false,
          Bool.not_eq_true] at hplace
        exact .leaf (by rw [leafOf?, if_pos hplace.1.1]) fun _ => ⟨hplace.2, hplace.1.2⟩
    · intro h
      cases h with
      | leaf hleaf hdoctype =>
        rw [leafOf?] at hleaf
        split at hleaf
        · next htop =>
          cases hleaf
          obtain ⟨hroot, hnone⟩ := hdoctype rfl
          rw [if_neg]
          rw [htop, hroot, hnone]
          exact Bool.false_ne_true
        · cases hleaf

/-! ## All events -/

/-- What the builder has made of the events so far. -/
inductive Reached : List Event → Builder → Prop
  /-- No element is open. -/
  | atTop {events : List Event} {trees : List Tree} :
    Spells true .initial events trees → trees.Pairwise Tree.MayPrecede →
    Reached events ⟨[], trees.reverse, .initial⟩
  /-- An element is open, after the events that came before it. -/
  | within {before events : List Event} {b : Builder} {written : String}
    {attributes : List Attribute} {inner : Scope} {name : Name} {resolved : List TreeAttribute}
    {contents : List Tree} :
    Reached before b → (b.atTop = true → b.hasRoot = false) →
    Opens b.scope written attributes inner name resolved → Spells false inner events contents →
    Reached (before ++ .startTag written attributes false :: events)
      ⟨⟨written, name, resolved, contents.reverse⟩ :: b.opened, b.top, inner⟩

theorem reached_start : Reached [] .start := .atTop .nil .nil

theorem Reached.bounded {events : List Event} {b : Builder} (h : Reached events b) :
    b.scope.Bounded := by
  induction h with
  | atTop => exact Scope.bounded_initial
  | within _ _ hopens _ ih => exact bounded_declareAll ih hopens.declareAll_eq

/-- A further tree, spelled by further events. -/
theorem Reached.add {events added : List Event} {b : Builder} {t : Tree} (h : Reached events b)
    (ht : Spells b.atTop b.scope added [t])
    (hprecede : b.atTop = true → ∀ u ∈ b.top, u.MayPrecede t) :
    Reached (events ++ added) (b.add t) := by
  -- The tree goes behind the finished ones at the top, or behind the contents of the open element.
  cases h with
  | @atTop _ trees hspells hpairwise =>
    have htrees : (trees ++ [t]).Pairwise Tree.MayPrecede := by
      rw [List.pairwise_append]
      refine ⟨hpairwise, List.pairwise_singleton .., fun u hu v hv => ?_⟩
      rw [List.mem_singleton.1 hv]
      exact hprecede rfl u (List.mem_reverse.2 hu)
    have hreached := Reached.atTop (hspells.append ht) htrees
    rw [List.reverse_append] at hreached
    exact hreached
  | @within before events b _ _ _ _ _ contents hbefore hroot hopens hspells =>
    have hreached := Reached.within hbefore hroot hopens (hspells.append ht)
    rw [List.reverse_append] at hreached
    rw [List.append_assoc, List.cons_append]
    exact hreached

theorem Reached.leaf {events : List Event} {b : Builder} {event : Event} {kind : LeafKind}
    {value : String} (h : Reached events b) (hleaf : leafOf? b.atTop event = some (kind, value))
    (hdoctype : kind = .doctype → ∀ u ∈ b.top, u.isElement = false ∧ u.isDoctype = false) :
    Reached (events ++ [event]) (b.add (.leaf kind value)) := by
  refine h.add (.leaf hleaf .nil) fun _ u hu => ⟨fun helement => ?_, fun htype => ?_⟩
  · exact absurd helement Bool.false_ne_true
  · cases kind with
    | doctype => exact hdoctype rfl u hu
    | _ => exact absurd htype Bool.false_ne_true

/-- Where a tree is added does not depend on the scope. -/
theorem add_scope (b : Builder) (s : Scope) (t : Tree) :
    { (⟨b.opened, b.top, s⟩ : Builder).add t with scope := b.scope } = b.add t := by
  obtain ⟨opened, top, scope⟩ := b
  cases opened <;> rfl

/-- **What the builder has made of the events goes on with the next**, whatever the kind of the
event. -/
theorem Reached.step {events : List Event} {b b' : Builder} {event : Event}
    (h : Reached events b) (hstep : b.Takes event b') : Reached (events ++ [event]) b' := by
  cases hstep with
  | blank htop hblank =>
    -- Nothing is added, so the same trees are spelled by one event more.
    cases h with
    | atTop hspells hpairwise =>
      have happend := hspells.append (.blank hblank .nil)
      rw [List.append_nil] at happend
      exact .atTop happend hpairwise
    | within => cases htop
  | leaf hleaf hdoctype =>
    refine h.leaf hleaf fun hkind u hu => ?_
    obtain ⟨hroot, hnone⟩ := hdoctype hkind
    exact ⟨isElement_of_hasRoot hroot u hu, Bool.eq_false_iff.2 (List.any_eq_false.1 hnone u hu)⟩
  | opened hroot hopens =>
    -- The element is open, and nothing is inside it yet.
    exact .within h hroot hopens .nil
  | @empty written attributes inner name resolved hroot hopens =>
    have hadd : Reached (events ++ [.startTag written attributes true])
        (b.add (.element name resolved [])) :=
      h.add (.empty hopens .nil) fun htop u hu =>
        ⟨fun _ => isElement_of_hasRoot (hroot htop) u hu, fun hdoctype => by cases hdoctype⟩
    -- The scope behind an element is the one in front of it, so only the tree has been added.
    rw [pop_declareAll h.bounded hopens.declareAll_eq]
    exact (add_scope b b.scope _).symm ▸ hadd
  | closed heq =>
    cases h with
    | atTop => cases heq
    | @within before events b opening _ inner name resolved contents hbefore hroot hopens hspells =>
      cases heq
      -- The element with its contents is one tree, after what came before its start tag.
      have hadd := hbefore.add (.element hopens hspells .nil) fun htop u hu =>
        ⟨fun _ => isElement_of_hasRoot (hroot htop) u hu, fun hdoctype => by cases hdoctype⟩
      rw [List.append_assoc, List.cons_append]
      rw [pop_declareAll hbefore.bounded hopens.declareAll_eq, List.reverse_reverse]
      exact (add_scope b inner _).symm ▸ hadd

/-- **A run of the builder**, by induction on the events that are left. -/
theorem Reached.run {events : List Event} {b b' : Builder} {placed : List Placed}
    (h : Reached events b) (hrun : b.run placed = .ok b') :
    Reached (events ++ placed.map (·.event)) b' := by
  induction placed generalizing events b with
  | nil =>
    cases hrun
    rw [List.map_nil, List.append_nil]
    exact h
  | cons e rest ih =>
    rw [Builder.run, List.foldlM_cons, bind_eq_ok_iff] at hrun
    -- The first event is taken by a step, the others by the induction.
    obtain ⟨middle, hstep, hrest⟩ := hrun
    have hreached := ih (h.step (step_eq_ok_iff.1 hstep)) hrest
    rw [List.append_assoc, List.singleton_append] at hreached
    exact hreached

end Builder

/-- **The trees of a reading are spelled by its events**, and there is one root element, with any
document type declaration in front of it. -/
theorem spells_of_buildTrees {reading : Reading} {trees : List Tree}
    (h : buildTrees reading = .ok trees) :
    Spells true .initial (reading.events.map (·.event)) trees ∧
      trees.Pairwise Tree.MayPrecede ∧ trees.any (·.isElement) = true := by
  rw [buildTrees] at h
  split at h
  · cases h
  · next b hrun =>
    have hreached := Builder.reached_start.run hrun
    rw [List.nil_append] at hreached
    split at h
    · cases h
    · rw [Builder.finish] at h
      split at h
      · cases h
      · next hopened =>
        split at h
        · next hroot =>
          cases h
          -- No element is open at the end, so all that has been reached is a finished spelling.
          generalize reading.events.map (·.event) = events at hreached
          cases hreached with
          | atTop hspells hpairwise =>
            rw [Builder.hasRoot, List.any_reverse] at hroot
            rw [List.reverse_reverse]
            exact ⟨hspells, hpairwise, hroot⟩
          | within => cases hopened
        · cases h

/-- The document of a byte sequence is that of a text. -/
theorem Document.exists_text_of_parse {bytes : List UInt8} {d : Document}
    (h : Document.parse bytes = .ok d) :
    ∃ text, Document.parseText text = .ok d := by
  rw [Document.parse] at h
  split at h
  · cases h
  · split at h
    · cases h
    · next text _ => exact ⟨text, h⟩

theorem Document.exists_trees_of_parseText {text : List Char} {d : Document}
    (h : Document.parseText text = .ok d) :
    ∃ trees, buildTrees (Markup.readAll text) = .ok trees ∧ d = Document.ofTrees trees := by
  rw [Document.parseText, mapError_eq_ok_iff, Document.ofText_eq, map_eq_ok_iff] at h
  obtain ⟨trees, htrees, rfl⟩ := h
  exact ⟨trees, htrees, rfl⟩

end XmlQuery
