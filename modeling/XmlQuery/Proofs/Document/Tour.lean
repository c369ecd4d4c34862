import XmlQuery.Proofs.Document.WellFormed

/-!
# Walking a document

A parsed document can be read back: on a walk through it, depth first, every node is entered in
front of its contents and left behind them, and what it says of itself on entering and leaving are
the events of the text, up to the blank text at the top and the two ways to write an empty element.
Nodes are entered in the order of the table, so the order of the table is that of the text.

## Main definitions

* `Mark`: a construct, with start and end of an empty element apart
* `Event.marks`: the marks of an event
* `withDepths`: events with the number of elements around them
* `Document.tour`: the walk from a node
* `Document.mark?`: what a node says of itself on a visit
* `Document.entered`: the nodes that are reached by a visit

## Main results

* `Spells.marks_eq`: the marks of events are those of the trees they stand for
* `LaidOut.tour_spec`: the walk finds the marks of trees, and their places in order
* `tour_of_parseText`: **a walk through a parsed document reads back the text**
-/

namespace XmlQuery

open Markup (Attribute Event)
open Namespace (Scope)

/-- A construct of a document, where an empty element has a start and an end. -/
inductive Mark
  /-- The start of an element, with the names as written and the values of its attributes. -/
  | start (name : String) (attributes : List (String × String))
  /-- The end of an element. -/
  | stop (name : String)
  /-- The XML declaration. -/
  | declaration (content : String)
  /-- A processing instruction. -/
  | instruction (target content : String)
  /-- Plain text. -/
  | text (data : String)
  /-- A CDATA section. -/
  | cdata (data : String)
  /-- A comment. -/
  | comment (data : String)
  /-- A document type declaration. -/
  | doctype (body : String)

/-! ## Events -/

namespace Markup.Event

/-- The marks of an event: a tag of an empty element is a start and an end. -/
def marks : Event → List Mark
  | .declaration content => [.declaration content]
  | .startTag name attributes isEmpty =>
    .start name (attributes.map fun a => (a.name, a.value)) :: if isEmpty then [.stop name] else []
  | .endTag name => [.stop name]
  | .text data => [.text data]
  | .cdata data => [.cdata data]
  | .comment data => [.comment data]
  | .instruction target content => [.instruction target content]
  | .doctype body => [.doctype body]

/-- The number of open elements after an event. -/
def depthAfter (depth : Nat) : Event → Nat
  | .startTag _ _ false => depth + 1
  | .endTag _ => depth - 1
  | _ => depth

end Markup.Event

theorem Markup.Event.depthAfter_empty (depth : Nat) (name : String) (attributes : List Attribute) :
    (Event.startTag name attributes true).depthAfter depth = depth := rfl

/-- Events with the number of elements that are open in front of each. -/
def withDepths (depth : Nat) : List Event → List (Nat × Event)
  | [] => []
  | e :: rest => (depth, e) :: withDepths (e.depthAfter depth) rest

/-- The event is text outside of all elements. -/
def isTopText (p : Nat × Event) : Bool := p.1 == 0 && p.2.isText

/-- The marks of events, apart from text outside of all elements. -/
def marksOf (depth : Nat) (events : List Event) : List Mark :=
  ((withDepths depth events).filter (!isTopText ·)).flatMap (·.2.marks)

theorem withDepths_append (depth : Nat) (events rest : List Event) :
    withDepths depth (events ++ rest) =
      withDepths depth events ++ withDepths (events.foldl Event.depthAfter depth) rest := by
  induction events generalizing depth with
  | nil => rfl
  | cons e events ih => exact congrArg ((depth, e) :: ·) (ih _)

theorem isTopText_of_isText {e : Event} (h : e.isText = false) (depth : Nat) :
    isTopText (depth, e) = false := by
  rw [isTopText, h, Bool.and_false]

theorem marksOf_cons {depth : Nat} {e : Event} (h : isTopText (depth, e) = false)
    (events : List Event) :
    marksOf depth (e :: events) = e.marks ++ marksOf (e.depthAfter depth) events := by
  rw [marksOf, withDepths, List.filter_cons, h]
  exact List.flatMap_cons

theorem marksOf_cons_of_isTopText {depth : Nat} {e : Event} (h : isTopText (depth, e) = true)
    (events : List Event) : marksOf depth (e :: events) = marksOf (e.depthAfter depth) events := by
  rw [marksOf, withDepths, List.filter_cons, h]
  rfl

theorem marksOf_append (depth : Nat) (events rest : List Event) :
    marksOf depth (events ++ rest) =
      marksOf depth events ++ marksOf (events.foldl Event.depthAfter depth) rest := by
  rw [marksOf, withDepths_append, List.filter_append, List.flatMap_append]
  rfl

/-- The mark of a leaf. -/
def LeafKind.mark (value : String) : LeafKind → Mark
  | .declaration target => if target = "xml" then .declaration value else .instruction target value
  | .text => .text value
  | .cdata => .cdata value
  | .comment => .comment value
  | .doctype => .doctype value

namespace Tree

mutual

/-- The marks of a tree. -/
def marks : Tree → List Mark
  | .element name attributes contents =>
    .start name.qualified (attributes.map fun a => (a.name.qualified, a.value)) ::
      (marksAll contents ++ [.stop name.qualified])
  | .leaf kind value => [kind.mark value]

/-- The marks of a sequence of trees. -/
def marksAll : List Tree → List Mark
  | [] => []
  | t :: ts => t.marks ++ marksAll ts

end

end Tree

open XmlQuery.Tree (marksAll)

theorem depthAfter_of_leafOf? {atTop : Bool} {event : Event} {kind : LeafKind} {value : String}
    (h : leafOf? atTop event = some (kind, value)) (depth : Nat) :
    event.depthAfter depth = depth := by
  cases event with
  | startTag | endTag => cases h
  | _ => rfl

/-- Every element that is opened by events that spell trees is closed by them. -/
theorem Spells.foldl_depthAfter {atTop : Bool} {scope : Scope} {events : List Event}
    {trees : List Tree} (h : Spells atTop scope events trees) (depth : Nat) :
    events.foldl Event.depthAfter depth = depth := by
  induction h generalizing depth with
  | nil => rfl
  | blank _ _ ih => exact ih depth
  | leaf hleaf _ ih => rw [List.foldl_cons, depthAfter_of_leafOf? hleaf, ih]
  | element _ _ _ ihwithin ih =>
    rw [List.foldl_append, List.foldl_cons, List.foldl_cons, ihwithin, ih]
    rfl
  | empty _ _ ih => exact ih depth

/-- A leaf has the mark of its event. -/
theorem marks_of_leafOf? {atTop : Bool} {event : Event} {kind : LeafKind} {value : String}
    (h : leafOf? atTop event = some (kind, value)) (hlegal : event.Legal) :
    event.marks = [kind.mark value] := by
  cases event with
  | declaration content | comment data =>
    cases h
    rfl
  | instruction target content =>
    cases h
    rw [LeafKind.mark, if_neg hlegal]
    rfl
  | doctype body | text data | cdata data =>
    rw [leafOf?] at h
    split at h
    all_goals cases h
    all_goals rfl
  | startTag | endTag => cases h

/-- Text outside of all elements is no leaf. -/
theorem isTopText_of_leafOf? {atTop : Bool} {event : Event} {kind : LeafKind} {value : String}
    (h : leafOf? atTop event = some (kind, value)) {depth : Nat} (hdepth : atTop = (depth == 0)) :
    isTopText (depth, event) = false := by
  cases event with
  | text data =>
    rw [isTopText, ← hdepth]
    cases atTop with
    | false => rfl
    | true => cases h
  | _ => exact isTopText_of_isText rfl depth

/-- The marks of events, apart from text outside of all elements, are those of the trees that they
stand for. -/
theorem Spells.marks_eq {atTop : Bool} {scope : Scope} {events : List Event} {trees : List Tree}
    (h : Spells atTop scope events trees) (hlegal : ∀ e ∈ events, e.Legal) {depth : Nat}
    (hdepth : atTop = (depth == 0)) : marksOf depth events = marksAll trees := by
  induction h generalizing depth with
  | nil => rfl
  | @blank _ data _ _ _ _ ih =>
    -- This is the text that is left out.
    have htop : isTopText (depth, .text data) = true := by
      rw [isTopText, ← hdepth]
      rfl
    rw [marksOf_cons_of_isTopText htop]
    exact ih (fun e he => hlegal e (List.mem_cons_of_mem _ he)) hdepth
  | leaf hleaf _ ih =>
    rw [marksOf_cons (isTopText_of_leafOf? hleaf hdepth), depthAfter_of_leafOf? hleaf,
      marks_of_leafOf? hleaf (hlegal _ List.mem_cons_self),
      ih (fun e he => hlegal e (List.mem_cons_of_mem _ he)) hdepth]
    rfl
  | @element _ _ _ written _ attributes _ within events contents _ hopens hwithin _ ihwithin ih =>
    have hcontents : marksOf (depth + 1) within = marksAll contents := ihwithin
      (fun e he => hlegal e (List.mem_append_left _ (List.mem_cons_of_mem _ he))) rfl
    have hrest := ih
      (fun e he => hlegal e (List.mem_append_right _ (List.mem_cons_of_mem _ he))) hdepth
    -- The contents are one element deeper, and behind the end tag the depth is as before.
    rw [List.cons_append, marksOf_cons (isTopText_of_isText rfl _), marksOf_append,
      Event.depthAfter, hwithin.foldl_depthAfter, marksOf_cons (isTopText_of_isText rfl _),
      Event.depthAfter, Nat.add_sub_cancel, hcontents, hrest]
    rw [marksAll, Tree.marks, (Builder.elementName_spec hopens.elementName_eq).1,
      hopens.map_qualified, Event.marks, Event.marks]
    simp only [Bool.false_eq_true, if_false, List.cons_append, List.nil_append, List.append_assoc]
  | @empty _ _ _ written _ attributes _ events _ hopens _ ih =>
    -- The tag is a start and an end, with nothing in between.
    have hrest := ih (fun e he => hlegal e (List.mem_cons_of_mem _ he)) hdepth
    rw [marksOf_cons (isTopText_of_isText rfl _), Event.depthAfter_empty, hrest]
    rw [marksAll, Tree.marks, (Builder.elementName_spec hopens.elementName_eq).1,
      hopens.map_qualified, Event.marks]
    rfl

/-- Text outside of all elements is white space. -/
theorem Spells.isBlank_of_isTopText {atTop : Bool} {scope : Scope} {events : List Event}
    {trees : List Tree} (h : Spells atTop scope events trees) {depth : Nat}
    (hdepth : atTop = (depth == 0)) {data : String}
    (hmem : (0, .text data) ∈ withDepths depth events) : data.toList.all Text.isBlank = true := by
  induction h generalizing depth with
  | nil => cases hmem
  | @blank _ other _ _ hblank _ ih =>
    rcases List.mem_cons.1 hmem with heq | hmem
    · cases heq
      exact hblank
    · exact ih hdepth hmem
  | @leaf _ _ event _ _ _ _ hleaf _ ih =>
    rw [withDepths, depthAfter_of_leafOf? hleaf] at hmem
    rcases List.mem_cons.1 hmem with heq | hmem
    · -- No leaf is text outside of all elements.
      have htop := isTopText_of_leafOf? hleaf hdepth
      rw [← heq] at htop
      cases htop
    · exact ih hdepth hmem
  | element hopens hwithin _ ihwithin ih =>
    rw [List.cons_append, withDepths, withDepths_append, Event.depthAfter,
      hwithin.foldl_depthAfter, withDepths, Event.depthAfter, Nat.add_sub_cancel] at hmem
    -- The text is inside the element, where the depth is not zero, or behind it.
    rcases List.mem_cons.1 hmem with heq | hmem
    · cases heq
    rcases List.mem_append.1 hmem with hmem | hmem
    · exact ihwithin rfl hmem
    rcases List.mem_cons.1 hmem with heq | hmem
    · cases heq
    · exact ih hdepth hmem
  | empty hopens _ ih =>
    rcases List.mem_cons.1 hmem with heq | hmem
    · cases heq
    · exact ih hdepth hmem

namespace Document

/-! ## Walks -/

/-- A stop on a walk through a document. -/
inductive Visit
  /-- A node is reached. -/
  | enter (id : Nat)
  /-- The contents of a node have been walked through. -/
  | leave (id : Nat)

/-- The walk through a node and what it holds, in the order of the contents, down to a depth. -/
def tour (d : Document) : (fuel : Nat) → Nat → List Visit
  | 0, _ => []
  | fuel + 1, i => .enter i :: ((d.children i).flatMap (d.tour fuel) ++ [.leave i])

/-- What a node says of itself when it is entered. -/
def opening? (d : Document) (i : Nat) : Option Mark :=
  match d.kind? i with
  | some .element =>
    some (.start (d.name i).qualified
      ((d.attributes i).map fun a => ((d.name a).qualified, d.value a)))
  | some .declaration =>
    some (if (d.name i).localPart = "xml" then .declaration (d.value i)
      else .instruction (d.name i).localPart (d.value i))
  | some .text => some (.text (d.value i))
  | some .cdata => some (.cdata (d.value i))
  | some .comment => some (.comment (d.value i))
  | some .doctype => some (.doctype (d.value i))
  | some .document | some .attribute | none => none

/-- What a node says of itself when it is left. -/
def closing? (d : Document) (i : Nat) : Option Mark :=
  if d.kind? i = some .element then some (.stop (d.name i).qualified) else none

/-- What a node says of itself on a visit. -/
def mark? (d : Document) : Visit → Option Mark
  | .enter i => d.opening? i
  | .leave i => d.closing? i

/-- The nodes that are reached on a visit: a node, and its attributes with it. -/
def entered (d : Document) : Visit → List Nat
  | .enter i => i :: d.attributes i
  | .leave _ => []

open XmlQuery.Tree (sizes ids)

variable {top ts : List Tree} {id parent : Nat} {previous : Option Nat} {t : Tree}

/-- A tree says of itself on entering and leaving what its marks start and end with. -/
theorem LaidOut.marks_eq (h : LaidOut top id parent previous (t :: ts)) :
    t.marks = ((ofTrees top).opening? id).toList ++
      (Tree.marksAll t.contents ++ ((ofTrees top).closing? id).toList) := by
  rw [opening?, closing?, h.kind?_eq, h.name_eq, h.value_eq]
  cases t with
  | element name attributes contents =>
    -- The attributes in the table are those of the tree, one by one.
    have hattributes : ((ofTrees top).attributes id).map
        (fun a => (((ofTrees top).name a).qualified, (ofTrees top).value a)) =
        attributes.map fun a => (a.name.qualified, a.value) := by
      rw [← List.forall₂_eq_eq_eq, List.forall₂_map_left_iff, List.forall₂_map_right_iff]
      refine h.forall₂_attributes.flip.imp fun i a hi => ?_
      rw [hi.1, hi.2.1]
    rw [Tree.marks]
    dsimp only [Tree.kind]
    rw [hattributes]
    rfl
  | leaf kind value => cases kind <;> rfl

/-- What is said on a walk through a node: what the node says, around what is said inside. -/
theorem filterMap_mark? (d : Document) (i : Nat) (inside : List Visit) :
    (Visit.enter i :: (inside ++ [.leave i])).filterMap d.mark? =
      (d.opening? i).toList ++ (inside.filterMap d.mark? ++ (d.closing? i).toList) := by
  rw [List.filterMap_cons, List.filterMap_append, List.filterMap_cons, List.filterMap_nil, mark?,
    mark?]
  cases d.opening? i <;> cases d.closing? i <;> rfl

theorem flatMap_entered (d : Document) (i : Nat) (inside : List Visit) :
    (Visit.enter i :: (inside ++ [.leave i])).flatMap d.entered =
      i :: d.attributes i ++ inside.flatMap d.entered := by
  rw [List.flatMap_cons, List.flatMap_append, List.flatMap_singleton, entered, entered,
    List.append_nil]

/-- The walk through trees finds their marks and reaches their places in order. The induction is on
the depth and, at each depth, on the siblings. -/
theorem LaidOut.tour_spec (h : LaidOut top id parent previous ts) {fuel : Nat}
    (hfuel : sizes ts ≤ fuel) :
    ((ids id ts).flatMap ((ofTrees top).tour fuel)).filterMap (ofTrees top).mark? =
        Tree.marksAll ts ∧
      ((ids id ts).flatMap ((ofTrees top).tour fuel)).flatMap (ofTrees top).entered =
        List.range' id (sizes ts) := by
  induction fuel generalizing id parent previous ts with
  | zero =>
    cases ts with
    | nil => exact ⟨rfl, rfl⟩
    | cons t ts =>
      have := t.size_pos
      rw [sizes] at hfuel
      omega
  | succ fuel ihfuel =>
    induction ts generalizing id previous with
    | nil => exact ⟨rfl, rfl⟩
    | cons t ts ih =>
      have hsize := t.size_eq
      have hpos := t.size_pos
      rw [sizes] at hfuel
      -- The contents are walked through to one level less, the siblings to as many.
      obtain ⟨hcontents, hbelow⟩ := ihfuel h.contents (by omega)
      obtain ⟨hrest, hbehind⟩ := ih h.rest (by omega)
      rw [ids, List.flatMap_cons, List.filterMap_append, List.flatMap_append, hrest, hbehind,
        tour, h.children_eq, filterMap_mark?, flatMap_entered, hcontents, hbelow]
      refine ⟨?_, ?_⟩
      · rw [Tree.marksAll, h.marks_eq]
      · -- The node, its attributes, its contents and its siblings are adjacent ranges.
        have hnode : id :: List.range' (id + 1) t.attributes.length =
            List.range' id (1 + t.attributes.length) := by
          rw [Nat.add_comm 1, List.range'_succ]
        rw [h.attributes_eq, hnode, Nat.add_assoc id 1, List.range'_append_1, ← hsize,
          List.range'_append_1, sizes]

/-- The walk through a document finds the marks of its trees and reaches its nodes in order. -/
theorem tour_ofTrees (top : List Tree) :
    ((ofTrees top).tour (ofTrees top).size 0).filterMap (ofTrees top).mark? = Tree.marksAll top ∧
      ((ofTrees top).tour (ofTrees top).size 0).flatMap (ofTrees top).entered =
        List.range (ofTrees top).size := by
  have htop : LaidOut top 1 0 none top := .top
  obtain ⟨hmarks, hentered⟩ := htop.tour_spec le_rfl
  rw [size_ofTrees, tour, children_zero, filterMap_mark?, flatMap_entered, hmarks, hentered,
    attributes_zero]
  -- The document node says nothing of itself.
  have hopening : (ofTrees top).opening? 0 = none := by
    rw [opening?, kind?, node?_zero]
    rfl
  have hclosing : (ofTrees top).closing? 0 = none := by
    rw [closing?, kind?, node?_zero]
    rfl
  rw [hopening, hclosing, List.range_eq_range', List.range'_succ]
  exact ⟨List.append_nil _, rfl⟩

/-- **A walk through a parsed document reads back the text**: it finds the marks of the events of
the text, apart from the text outside of all elements, which is white space, and it reaches the
nodes in the order of the table. The document is the same if a pool of 32 bits keeps the strings,
as long as they fit, whatever its hash. -/
theorem tour_of_parseText {text : List Char} {d : Document} (h : parseText text = .ok d) :
    (d.tour d.size 0).filterMap d.mark? =
        marksOf 0 ((Markup.readAll text).events.map (·.event)) ∧
      (∀ data, (0, .text data) ∈ withDepths 0 ((Markup.readAll text).events.map (·.event)) →
        data.toList.all Text.isBlank = true) ∧
      (d.tour d.size 0).flatMap d.entered = List.range d.size ∧
      ∀ hash : String → UInt64, Text.Pool.Fits (internedStrings (Markup.readAll text)) →
        ∃ arena : Arena (Text.Pool hash) UInt32,
          Arena.ofReading (Text.Pool hash) (Markup.readAll text) = .ok arena ∧
            arena.document = d := by
  have htext := mapError_eq_ok_iff.1 h
  obtain ⟨trees, htrees, rfl⟩ := exists_trees_of_parseText h
  obtain ⟨hspells, -, -⟩ := spells_of_buildTrees htrees
  obtain ⟨hmarks, hentered⟩ := tour_ofTrees trees
  refine ⟨?_, fun data => hspells.isBlank_of_isTopText rfl, hentered,
    exists_ofReading_pool htext⟩
  rw [hmarks, hspells.marks_eq (fun _ => Markup.legal_of_mem_readAll) rfl]

/-- The marks of a document with one element, and its arena with all strings in one bucket. -/
theorem tour_of_parseText_element :
    parseText sample = .ok (ofTrees [sampleTree]) ∧
      ((ofTrees [sampleTree]).tour (ofTrees [sampleTree]).size 0).filterMap
          (ofTrees [sampleTree]).mark? =
        [.start "p:a" [("xmlns:p", "u")], .text "x", .stop "p:a"] ∧
      Text.Pool.Fits (internedStrings (Markup.readAll sample)) ∧
      ∃ arena : Arena (Text.Pool fun _ => 0) UInt32,
        Arena.ofReading (Text.Pool fun _ => 0) (Markup.readAll sample) = .ok arena ∧
          arena.document = ofTrees [sampleTree] := by
  obtain ⟨hmarks, -, -, hpool⟩ := tour_of_parseText parseText_sample
  have hfits : Text.Pool.Fits (internedStrings (Markup.readAll sample)) := by
    rw [readAll_sample]
    decide
  rw [readAll_sample] at hmarks
  exact ⟨parseText_sample, hmarks, hfits, hpool _ hfits⟩

end Document

end XmlQuery
