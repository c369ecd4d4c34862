import Mathlib.Data.List.Infix
import XmlQuery.Proofs.Namespace.Tags

/-!
# Which documents are admitted

The builder keeps a stack of open elements and a scope, and looks at one event at a time. What it
admits can be said of the events alone: in front of each event the tags that are open are known, and
the rules for well-formed documents with namespaces are about them.

## Main definitions

* `openTags`: the tags that are open behind some events
* `NamespaceWellFormed`: the rules for the events of a document
* `Allowed`: what the rules ask of one event, behind others
* `Builder.Tracks`: the builder stands where the events lead to

## Main results

* `Builder.Tracks.exists_takes_iff`, `Builder.Tracks.step`: an event is taken exactly if it is
  allowed
* `Builder.Tracks.exists_run_iff`: events are taken exactly if each of them is allowed
* `Document.exists_parseText_iff`: **the documents that are admitted are the well-formed ones**
-/

namespace XmlQuery

open Markup (Attribute Event Placed Reading)

namespace Markup.Event

/-- The event is a start tag, or the tag of an empty element. -/
def isStartTag : Event → Bool
  | .startTag .. => true
  | _ => false

/-- The event is a document type declaration. -/
def isDoctype : Event → Bool
  | .doctype _ => true
  | _ => false

end Markup.Event

/-- The tags that are open behind an event, the innermost first. -/
def openAfter (tags : List Tag) : Event → List Tag
  | .startTag name attributes false => ⟨name, attributes⟩ :: tags
  | .endTag _ => tags.tail
  | _ => tags

/-- The tags that are open behind some events, the innermost first. -/
def openTags (events : List Event) : List Tag := events.foldl openAfter []

/-- The rules for the events of a document. -/
structure NamespaceWellFormed (events : List Event) : Prop where
  /-- An end tag has the name of the innermost open tag. -/
  nested : ∀ before name, before ++ [.endTag name] <+: events →
    ∃ t outer, openTags before = t :: outer ∧ t.name = name
  /-- No tag is left open. -/
  closed : openTags events = []
  /-- There is one element at the top. -/
  root : ∃! before, ∃ name attributes isEmpty,
    before ++ [.startTag name attributes isEmpty] <+: events ∧ openTags before = []
  /-- A document type declaration is at the top, in front of all elements and of any other one. -/
  doctype : ∀ before body, before ++ [.doctype body] <+: events →
    openTags before = [] ∧ ∀ e ∈ before, e.isStartTag = false ∧ e.isDoctype = false
  /-- Text at the top is white space. -/
  text : ∀ before data, before ++ [.text data] <+: events → openTags before = [] →
    data.toList.all Text.isBlank = true
  /-- There is no CDATA section at the top. -/
  cdata : ∀ before data, before ++ [.cdata data] <+: events → openTags before ≠ []
  /-- The tags are admissible inside those around them. -/
  tags : ∀ before name attributes isEmpty,
    before ++ [.startTag name attributes isEmpty] <+: events →
    Tag.Admissible (openTags before) ⟨name, attributes⟩

/-- What the rules ask of an event behind others. -/
def Allowed (before : List Event) : Event → Prop
  | .startTag name attributes _ =>
    (openTags before = [] → ∀ e ∈ before, e.isStartTag = false) ∧
      Tag.Admissible (openTags before) ⟨name, attributes⟩
  | .endTag name => ∃ t outer, openTags before = t :: outer ∧ t.name = name
  | .doctype _ =>
    openTags before = [] ∧ ∀ e ∈ before, e.isStartTag = false ∧ e.isDoctype = false
  | .text data => openTags before = [] → data.toList.all Text.isBlank = true
  | .cdata _ => openTags before ≠ []
  | .declaration _ | .instruction .. | .comment _ => True

theorem openTags_append (events : List Event) (event : Event) :
    openTags (events ++ [event]) = openAfter (openTags events) event := by
  rw [openTags, openTags, List.foldl_append]
  rfl

/-! ## Single events -/

/-- Without a start tag no tag is open. -/
theorem openTags_eq_nil {events : List Event} (h : ∀ e ∈ events, e.isStartTag = false) :
    openTags events = [] := by
  induction events using List.reverseRecOn with
  | nil => rfl
  | append_singleton events event ih =>
    rw [openTags_append, ih fun e he => h e (List.mem_append_left _ he)]
    have hevent := h event (List.mem_append_right _ List.mem_cons_self)
    cases event with
    | startTag => cases hevent
    | _ => rfl

/-- There is a first start tag, if there is one at all. -/
theorem exists_first_startTag {events : List Event} (h : ∃ e ∈ events, e.isStartTag = true) :
    ∃ before name attributes isEmpty, before ++ [.startTag name attributes isEmpty] <+: events ∧
      ∀ e ∈ before, e.isStartTag = false := by
  rw [← List.find?_isSome, Option.isSome_iff_exists] at h
  obtain ⟨e, he⟩ := h
  obtain ⟨hstart, before, after, rfl, hbefore⟩ := List.find?_eq_some_iff_append.1 he
  cases e with
  | startTag name attributes isEmpty =>
    refine ⟨before, name, attributes, isEmpty, ⟨after, List.append_assoc ..⟩, fun e he => ?_⟩
    simpa using hbefore e he
  | _ => cases hstart

/-- There is one first start tag. -/
theorem eq_of_first_startTag {events before before' : List Event} {e e' : Event}
    (h : before ++ [e] <+: events) (h' : before' ++ [e'] <+: events) (he : e.isStartTag = true)
    (he' : e'.isStartTag = true) (hbefore : ∀ x ∈ before, x.isStartTag = false)
    (hbefore' : ∀ x ∈ before', x.isStartTag = false) : before = before' := by
  -- One of the two places is not behind the other one, and a start tag in front of it is none.
  have hle : ∀ {b b' : List Event} {x x' : Event}, x.isStartTag = true →
      (∀ y ∈ b', y.isStartTag = false) → b ++ [x] <+: b' ++ [x'] → b = b' := by
    intro b b' x x' hx hb' hb
    rcases List.prefix_concat_iff.1 hb with heq | hinside
    · exact (List.append_inj' heq rfl).1
    · have hmem := hinside.mem (List.mem_append_right _ List.mem_cons_self)
      rw [hb' x hmem] at hx
      cases hx
  rcases List.prefix_or_prefix_of_prefix h h' with hpre | hpre
  · exact hle he hbefore' hpre
  · exact (hle he' hbefore hpre).symm

/-- The rules say what is allowed, event by event, and what is left at the end. -/
theorem namespaceWellFormed_iff {events : List Event} :
    NamespaceWellFormed events ↔
      (∀ before e, before ++ [e] <+: events → Allowed before e) ∧ openTags events = [] ∧
        ∃ e ∈ events, e.isStartTag = true := by
  constructor
  · intro h
    obtain ⟨first, ⟨name, attributes, isEmpty, hfirst, -⟩, hunique⟩ := h.root
    refine ⟨fun before e hbefore => ?_, h.closed, _,
      hfirst.mem (List.mem_append_right _ List.mem_cons_self), rfl⟩
    cases e with
    | declaration | instruction | comment => trivial
    | text => exact h.text before _ hbefore
    | cdata => exact h.cdata before _ hbefore
    | doctype => exact h.doctype before _ hbefore
    | endTag => exact h.nested before _ hbefore
    | startTag name attributes isEmpty =>
      refine ⟨fun htop e he => ?_, h.tags before _ _ _ hbefore⟩
      by_contra hstart
      -- In front of a start tag at the top there is none, since the first one is at the top too.
      obtain ⟨earlier, n, as, m, hearlier, hnone⟩ :=
        exists_first_startTag ⟨e, he, by simpa using hstart⟩
      have hwithin := hearlier.trans ((List.prefix_append before _).trans hbefore)
      have heq : earlier = before :=
        (hunique _ ⟨n, as, m, hwithin, openTags_eq_nil hnone⟩).trans
          (hunique _ ⟨name, attributes, isEmpty, hbefore, htop⟩).symm
      have hlength := hearlier.length_le
      rw [heq, List.length_append, List.length_singleton] at hlength
      omega
  · rintro ⟨hallowed, hclosed, hstart⟩
    refine ⟨fun before _ => hallowed before _, hclosed, ?_, fun before _ => hallowed before _,
      fun before _ => hallowed before _, fun before _ => hallowed before _,
      fun before _ _ _ hbefore => (hallowed before _ hbefore).2⟩
    -- The element at the top is that of the first start tag.
    obtain ⟨first, name, attributes, isEmpty, hfirst, hnone⟩ := exists_first_startTag hstart
    refine ⟨first, ⟨name, attributes, isEmpty, hfirst, openTags_eq_nil hnone⟩, ?_⟩
    rintro other ⟨n, as, m, hother, htop⟩
    exact eq_of_first_startTag hother hfirst rfl rfl ((hallowed other _ hother).1 htop) hnone

/-! ## The builder -/

namespace Builder

/-- The builder stands where the events lead to: it has the same elements open and the scope inside
their tags, and it knows whether there has been a start tag and a document type declaration. -/
structure Tracks (events : List Event) (b : Builder) : Prop where
  /-- The open elements have the names of the open tags. -/
  names : b.opened.map (·.written) = (openTags events).map (·.name)
  /-- The scope is the one inside the open tags. -/
  scope : ScopeOf (openTags events) b.scope
  /-- The root element is finished or open if there has been a start tag. -/
  root : (b.hasRoot = true ∨ b.opened ≠ []) ↔ ∃ e ∈ events, e.isStartTag = true
  /-- A document type declaration is at the top if there has been one. -/
  doctype : b.top.any (·.isDoctype) = true ↔ ∃ e ∈ events, e.isDoctype = true

theorem tracks_start : Tracks [] .start := by
  refine ⟨rfl, .top, ?_, ?_⟩
  · simp [start, hasRoot]
  · simp [start]

variable {events : List Event} {b b' : Builder} {event : Event}

/-- No element is open if no tag is. -/
theorem Tracks.atTop_iff (h : Tracks events b) : b.atTop = true ↔ openTags events = [] := by
  rw [atTop, List.isEmpty_iff, ← List.map_eq_nil_iff (f := fun e : OpenElement => e.written),
    h.names, List.map_eq_nil_iff]

/-- At the top there is a root element if there has been a start tag. -/
theorem Tracks.hasRoot_eq_false_iff (h : Tracks events b) (htop : b.atTop = true) :
    b.hasRoot = false ↔ ∀ e ∈ events, e.isStartTag = false := by
  have hroot := not_congr h.root
  rw [atTop, List.isEmpty_iff] at htop
  simpa [htop] using hroot

theorem Tracks.doctype_eq_false_iff (h : Tracks events b) :
    b.top.any (·.isDoctype) = false ↔ ∀ e ∈ events, e.isDoctype = false := by
  rw [← Bool.not_eq_true, h.doctype]
  simp

/-- An event is taken exactly if it is allowed behind the events that the builder has taken. -/
theorem Tracks.exists_takes_iff (h : Tracks events b) :
    (∃ b', b.Takes event b') ↔ Allowed events event := by
  cases event with
  | declaration | instruction | comment => exact ⟨fun _ => trivial, fun _ => ⟨_, .leaf rfl nofun⟩⟩
  | text data =>
    rw [Allowed, ← h.atTop_iff]
    constructor
    · rintro ⟨b', htakes⟩ htop
      cases htakes with
      | blank _ hblank => exact hblank
      | leaf hleaf =>
        rw [htop] at hleaf
        cases hleaf
    · intro hblank
      cases htop : b.atTop with
      | true => exact ⟨b, .blank htop (hblank htop)⟩
      | false =>
        have hleaf : leafOf? b.atTop (.text data) = some (.text, data) := by
          rw [htop]
          rfl
        exact ⟨_, .leaf hleaf nofun⟩
  | cdata data =>
    rw [Allowed, ne_eq, ← h.atTop_iff]
    constructor
    · rintro ⟨b', htakes⟩ htop
      cases htakes with
      | leaf hleaf =>
        rw [htop] at hleaf
        cases hleaf
    · intro htop
      have hleaf : leafOf? b.atTop (.cdata data) = some (.cdata, data) := by
        rw [Bool.eq_false_iff.2 htop]
        rfl
      exact ⟨_, .leaf hleaf nofun⟩
  | doctype body =>
    simp only [Allowed, forall_and, ← h.atTop_iff, ← h.doctype_eq_false_iff]
    constructor
    · rintro ⟨b', htakes⟩
      cases htakes with
      | leaf hleaf hdoctype =>
        rw [leafOf?] at hleaf
        split at hleaf
        · next htop =>
          cases hleaf
          obtain ⟨hroot, hnone⟩ := hdoctype rfl
          exact ⟨htop, (h.hasRoot_eq_false_iff htop).1 hroot, hnone⟩
        · cases hleaf
    · rintro ⟨htop, hstart, hnone⟩
      have hroot := (h.hasRoot_eq_false_iff htop).2 hstart
      exact ⟨_, .leaf (by rw [htop]; rfl) fun _ => ⟨hroot, hnone⟩⟩
  | startTag name attributes isEmpty =>
    rw [Allowed, ← exists_opens_iff h.scope]
    have hplace : (b.atTop = true → b.hasRoot = false) ↔
        (openTags events = [] → ∀ e ∈ events, e.isStartTag = false) := by
      rw [← h.atTop_iff]
      exact forall_congr' h.hasRoot_eq_false_iff
    rw [← hplace]
    constructor
    · rintro ⟨b', htakes⟩
      cases htakes with
      | leaf hleaf => cases hleaf
      | opened hroot hopens => exact ⟨hroot, _, _, _, hopens⟩
      | empty hroot hopens => exact ⟨hroot, _, _, _, hopens⟩
    · rintro ⟨hroot, inner, n, resolved, hopens⟩
      cases isEmpty with
      | false => exact ⟨_, .opened hroot hopens⟩
      | true => exact ⟨_, .empty hroot hopens⟩
  | endTag name =>
    have hnames := h.names
    constructor
    · rintro ⟨b', htakes⟩
      cases htakes with
      | leaf hleaf => cases hleaf
      | closed heq =>
        rw [heq, List.map_cons, eq_comm, List.map_eq_cons_iff] at hnames
        obtain ⟨t, outer, htags, hname, -⟩ := hnames
        exact ⟨t, outer, htags, hname⟩
    · rintro ⟨t, outer, htags, rfl⟩
      rw [htags, List.map_cons, List.map_eq_cons_iff] at hnames
      obtain ⟨e, inner, heq, hname, -⟩ := hnames
      exact hname ▸ ⟨_, .closed heq⟩

/-! ### Taking an event -/

@[simp] theorem map_written_add (t : Tree) :
    (b.add t).opened.map (·.written) = b.opened.map (·.written) := by
  rw [add]
  split
  · rfl
  · next e outer heq => rw [heq, List.map_cons, List.map_cons]

theorem hasRoot_add (t : Tree) :
    (b.add t).hasRoot = true ↔ (b.atTop = true ∧ t.isElement = true) ∨ b.hasRoot = true := by
  rw [add, atTop]
  split
  · next hopened => simp [hasRoot, hopened]
  · next e outer hopened => simp [hasRoot, hopened]

theorem any_isDoctype_add (t : Tree) :
    (b.add t).top.any (·.isDoctype) = true ↔
      (b.atTop = true ∧ t.isDoctype = true) ∨ b.top.any (·.isDoctype) = true := by
  rw [add, atTop]
  split
  · next hopened => simp [hopened]
  · next e outer hopened => simp [hopened]

theorem opened_add_ne (t : Tree) : (b.add t).opened ≠ [] ↔ b.opened ≠ [] := by
  rw [add]
  split
  · next hopened => simp [hopened]
  · next e outer hopened => simp [hopened]

/-- With an element more the root element is finished, if none is open. -/
theorem hasRoot_or_opened_add (name : Name) (attributes : List TreeAttribute)
    (contents : List Tree) :
    (b.add (.element name attributes contents)).hasRoot = true ∨
      (b.add (.element name attributes contents)).opened ≠ [] := by
  rw [hasRoot_add, opened_add_ne, atTop, List.isEmpty_iff]
  by_cases hopened : b.opened = []
  · exact .inl (.inl ⟨hopened, rfl⟩)
  · exact .inr hopened

theorem exists_mem_concat_iff {p : Event → Bool} :
    (∃ e ∈ events ++ [event], p e = true) ↔ (∃ e ∈ events, p e = true) ∨ p event = true := by
  simp [or_and_right, exists_or]

/-- A leaf is no tag. -/
theorem openAfter_of_leafOf? {atTop : Bool} {kind : LeafKind} {value : String}
    (h : leafOf? atTop event = some (kind, value)) (tags : List Tag) :
    openAfter tags event = tags ∧ event.isStartTag = false ∧
      (event.isDoctype = true ↔ atTop = true ∧ kind = .doctype) := by
  cases event with
  | startTag | endTag => cases h
  | doctype =>
    cases atTop with
    | false => cases h
    | true =>
      cases h
      simp [openAfter, Event.isStartTag, Event.isDoctype]
  | text | cdata =>
    cases atTop with
    | true => cases h
    | false =>
      cases h
      simp [openAfter, Event.isStartTag, Event.isDoctype]
  | declaration | instruction | comment =>
    cases h
    simp [openAfter, Event.isStartTag, Event.isDoctype]

/-- **What one event preserves**: the builder stands where the events lead to, whatever the kind of
the event. -/
theorem Tracks.step (h : Tracks events b) (htakes : b.Takes event b') :
    Tracks (events ++ [event]) b' := by
  cases htakes with
  | blank htop hblank =>
    refine ⟨h.names.trans ?_, ?_, h.root.trans ?_, h.doctype.trans ?_⟩
    · rw [openTags_append]
      rfl
    · rw [openTags_append]
      exact h.scope
    · simp [Event.isStartTag]
    · simp [Event.isDoctype]
  | @leaf _ kind value hleaf hdoctype =>
    obtain ⟨htags, hstart, htype⟩ := openAfter_of_leafOf? hleaf (openTags events)
    refine ⟨?_, ?_, ?_, ?_⟩
    · rw [openTags_append, htags, map_written_add, h.names]
    · rw [openTags_append, htags, scope_add]
      exact h.scope
    · rw [exists_mem_concat_iff, ← h.root, hasRoot_add, opened_add_ne, hstart]
      simp [Tree.isElement]
    · rw [exists_mem_concat_iff, ← h.doctype, any_isDoctype_add, htype]
      cases kind <;> simp [Tree.isDoctype, or_comm]
  | opened hroot hopens =>
    refine ⟨?_, ?_, ?_, h.doctype.trans ?_⟩
    · rw [openTags_append]
      exact congrArg _ h.names
    · rw [openTags_append]
      exact .inside h.scope hopens
    · simp [Event.isStartTag]
    · simp [Event.isDoctype]
  | @empty written attributes inner name resolved hroot hopens =>
    refine ⟨?_, ?_, ?_, ?_⟩
    · rw [openTags_append]
      exact (map_written_add _).trans h.names
    · -- The scope behind the element is the one in front of it.
      rw [openTags_append]
      exact (pop_declareAll h.scope.bounded hopens.declareAll_eq).symm ▸ h.scope
    · rw [exists_mem_concat_iff]
      exact iff_of_true (hasRoot_or_opened_add name resolved []) (.inr rfl)
    · rw [exists_mem_concat_iff, ← h.doctype]
      refine (any_isDoctype_add _).trans ?_
      simp [Tree.isDoctype, Event.isDoctype]
  | @closed e outer heq =>
    have hnames := h.names
    rw [heq, List.map_cons, eq_comm, List.map_eq_cons_iff] at hnames
    obtain ⟨t, tags, htags, -, hnames⟩ := hnames
    have hafter : openTags (events ++ [.endTag e.written]) = tags := by
      rw [openTags_append, htags]
      rfl
    refine ⟨?_, ?_, ?_, ?_⟩
    · rw [hafter, hnames]
      exact map_written_add _
    · -- The scope is that around the tag that has been closed.
      have hscope := h.scope
      rw [htags] at hscope
      cases hscope with
      | inside haround hopens =>
        rw [hafter]
        exact (pop_declareAll haround.bounded hopens.declareAll_eq).symm ▸ haround
    · have hopened : b.opened ≠ [] := heq ▸ List.cons_ne_nil e outer
      rw [exists_mem_concat_iff]
      exact iff_of_true (hasRoot_or_opened_add _ _ _) (.inl (h.root.1 (.inr hopened)))
    · rw [exists_mem_concat_iff, ← h.doctype]
      refine (any_isDoctype_add _).trans ?_
      simp [Tree.isDoctype, Event.isDoctype]

/-- What holds behind all first events holds in front of the first one, and behind it. -/
theorem forall_concat_prefix_cons_iff {first : Event} {rest : List Event}
    {P : List Event → Event → Prop} :
    (∀ before e, before ++ [e] <+: first :: rest → P before e) ↔
      P [] first ∧ ∀ before e, before ++ [e] <+: rest → P (first :: before) e := by
  constructor
  · intro h
    refine ⟨h [] first ⟨rest, rfl⟩, fun before e hbefore => h (first :: before) e ?_⟩
    exact (List.prefix_cons_inj first).2 hbefore
  · rintro ⟨hfirst, hrest⟩ before e hbefore
    cases before with
    | nil =>
      obtain ⟨rfl, -⟩ := List.cons_prefix_cons.1 hbefore
      exact hfirst
    | cons x before =>
      obtain ⟨rfl, hinside⟩ := List.cons_prefix_cons.1 hbefore
      exact hrest before e hinside

/-- **What a run preserves**: the builder stands where the events lead to. -/
theorem Tracks.run {placed : List Placed} (h : Tracks events b) (hrun : b.run placed = .ok b') :
    Tracks (events ++ placed.map (·.event)) b' := by
  induction placed generalizing events b with
  | nil =>
    cases hrun
    rw [List.map_nil, List.append_nil]
    exact h
  | cons first rest ih =>
    rw [Builder.run, List.foldlM_cons, bind_eq_ok_iff] at hrun
    obtain ⟨middle, hstep, hrest⟩ := hrun
    have htracks := ih (h.step (step_eq_ok_iff.1 hstep)) hrest
    rw [List.append_assoc, List.singleton_append] at htracks
    exact htracks

/-- Events are taken exactly if each of them is allowed behind those in front of it. -/
theorem Tracks.exists_run_iff {placed : List Placed} (h : Tracks events b) :
    (∃ b', b.run placed = .ok b') ↔
      ∀ before e, before ++ [e] <+: placed.map (·.event) → Allowed (events ++ before) e := by
  induction placed generalizing events b with
  | nil =>
    refine iff_of_true ⟨b, rfl⟩ fun before e hbefore => ?_
    rw [List.map_nil, List.prefix_nil] at hbefore
    exact absurd hbefore (List.concat_ne_nil e before)
  | cons first rest ih =>
    rw [List.map_cons, forall_concat_prefix_cons_iff, List.append_nil, ← h.exists_takes_iff]
    simp only [Builder.run, List.foldlM_cons, bind_eq_ok_iff, step_eq_ok_iff]
    -- Behind the first event the rest is taken from where that event leads to.
    have hrest : ∀ {middle}, b.Takes first.event middle →
        ((∃ b', middle.run rest = .ok b') ↔ ∀ before e, before ++ [e] <+: rest.map (·.event) →
          Allowed (events ++ first.event :: before) e) := by
      intro middle htakes
      rw [ih (h.step htakes)]
      simp only [List.append_assoc, List.singleton_append]
    constructor
    · rintro ⟨b', middle, htakes, hrun⟩
      exact ⟨⟨middle, htakes⟩, (hrest htakes).1 ⟨b', hrun⟩⟩
    · rintro ⟨⟨middle, htakes⟩, hallowed⟩
      obtain ⟨b', hrun⟩ := (hrest htakes).2 hallowed
      exact ⟨b', middle, htakes, hrun⟩

/-- At the end there are trees exactly if all tags are closed and there is an element. -/
theorem Tracks.exists_finish_iff (h : Tracks events b) (offset : Nat) :
    (∃ trees, b.finish offset = .ok trees) ↔
      openTags events = [] ∧ ∃ e ∈ events, e.isStartTag = true := by
  rw [← h.atTop_iff, ← h.root, finish, atTop]
  split
  · next e outer hopened => simp [hopened]
  · next hopened =>
    rw [hopened]
    by_cases hroot : b.hasRoot = true <;> simp [hroot]

end Builder

/-- The events of a document are made into trees exactly if they keep to the rules. -/
theorem exists_buildTrees_iff {reading : Reading} {stop : Nat} (h : reading.outcome = .ok stop) :
    (∃ trees, buildTrees reading = .ok trees) ↔
      NamespaceWellFormed (reading.events.map (·.event)) := by
  have hrun : (∃ b, Builder.start.run reading.events = .ok b) ↔ _ :=
    Builder.tracks_start.exists_run_iff
  have htracks {b : Builder} (hb : Builder.start.run reading.events = .ok b) :=
    (Builder.tracks_start.run hb).exists_finish_iff stop
  simp only [List.nil_append] at hrun htracks
  rw [namespaceWellFormed_iff, ← hrun, buildTrees]
  split
  · next fault hfault => simp [hfault]
  · next b hb =>
    rw [h]
    simp only [hb, Except.ok.injEq, exists_eq', true_and]
    exact htracks hb

namespace Document

/-- **The documents that are admitted are the well-formed ones**: where a text is read to its end,
it is a document exactly if its events keep to the rules. -/
theorem exists_parseText_iff {text : List Char} {stop : Nat}
    (h : (Markup.readAll text).outcome = .ok stop) :
    (∃ d, parseText text = .ok d) ↔
      NamespaceWellFormed ((Markup.readAll text).events.map (·.event)) := by
  rw [← exists_buildTrees_iff h]
  simp only [parseText, mapError_eq_ok_iff, ofText_eq, map_eq_ok_iff]
  constructor
  · rintro ⟨_, trees, htrees, -⟩
    exact ⟨trees, htrees⟩
  · rintro ⟨trees, htrees⟩
    exact ⟨_, trees, htrees, rfl⟩

/-- The events of a document with one element, whose prefix is declared in its own tag. -/
theorem exists_parseText_iff_element :
    (Markup.readAll sample).outcome = .ok 24 ∧ parseText sample = .ok (ofTrees [sampleTree]) ∧
      NamespaceWellFormed
        [.startTag "p:a" [⟨"xmlns:p", "u", 5⟩] false, .text "x", .endTag "p:a"] := by
  have hread : (Markup.readAll sample).outcome = .ok 24 := by rw [readAll_sample]
  have hrules := (exists_parseText_iff hread).1 ⟨_, parseText_sample⟩
  rw [readAll_sample] at hrules
  exact ⟨hread, parseText_sample, hrules⟩

end Document

end XmlQuery
