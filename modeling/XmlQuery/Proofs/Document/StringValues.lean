import XmlQuery.Proofs.Document.WellFormed

/-!
# String-values

The string-value of the document or of an element is read off the table in one pass: it is the
character data in the range of places below the node, and attributes, comments and the like in this
range are passed over. The tree does not show in this pass, and yet the string-value is made of what
the children add to it, each by itself: the range of a child is its own, and the ranges of the
children follow each other behind the attributes.

## Main definitions

* `Document.scan`: the character data among some nodes
* `Document.contribution`: what a child adds to the string-value of its parent
* `Document.TextOf`: the text of nodes, by their contents alone
* `Document.revalued`: other values for all nodes that are no character data

## Main results

* `LaidOut.scan_range`: the range of siblings holds what they add
* `LaidOut.textOf`, `TextOf.unique`: siblings have a text, and no other one
* `stringValue_of_parse`: **string-values are made of what the children add**
-/

namespace XmlQuery.Document

open XmlQuery.Tree (sizes ids)

variable {d : Document} {top ts : List Tree} {id parent x : Nat} {previous : Option Nat} {t : Tree}

/-! ## One pass -/

/-- The character data among some nodes, in their order. -/
def scan (d : Document) (is : List Nat) : String :=
  String.join ((is.filter d.isCharacterData).map d.value)

theorem scan_append (d : Document) (is js : List Nat) :
    d.scan (is ++ js) = d.scan is ++ d.scan js := by
  simp only [scan, List.filter_append, List.map_append, String.join_append]

theorem scan_cons (d : Document) (i : Nat) (is : List Nat) :
    d.scan (i :: is) = (if d.isCharacterData i then d.value i else "") ++ d.scan is := by
  rw [scan, List.filter_cons]
  cases d.isCharacterData i with
  | false => rw [if_neg Bool.false_ne_true, if_neg Bool.false_ne_true, String.empty_append, scan]
  | true => rw [if_pos rfl, if_pos rfl, List.map_cons, String.join_cons, scan]

theorem scan_eq_empty {is : List Nat} (h : ∀ i ∈ is, d.isCharacterData i = false) :
    d.scan is = "" := by
  rw [scan, List.filter_eq_nil_iff.2 fun i hi => Bool.eq_false_iff.1 (h i hi)]
  rfl

theorem stringValue_eq_scan (hx : d.kind? x = some .document ∨ d.kind? x = some .element) :
    d.stringValue x = d.scan (d.below x) := by
  rw [stringValue]
  rcases hx with hx | hx
  · rw [hx]
    rfl
  · rw [hx]
    rfl

/-- What a child adds to the string-value of the node that holds it: text and CDATA sections their
values, elements their string-values, and all others nothing. -/
def contribution (d : Document) (i : Nat) : String :=
  match d.kind? i with
  | some .text | some .cdata => d.value i
  | some .element => d.stringValue i
  | _ => ""

/-- No attribute adds to what is scanned. -/
theorem LaidOut.scan_attributes (h : LaidOut top id parent previous (t :: ts)) :
    (ofTrees top).scan (List.range' (id + 1) t.attributes.length) = "" := by
  refine scan_eq_empty fun i hi => ?_
  obtain ⟨hle, hlt⟩ := List.mem_range'_1.1 hi
  obtain ⟨k, rfl⟩ := Nat.exists_eq_add_of_le hle
  have hk : k < t.attributes.length := by omega
  rw [isCharacterData, kind?_attribute h (List.getElem?_eq_getElem hk)]
  rfl

/-- The range of a tree holds what the tree adds. -/
theorem LaidOut.scan_tree (h : LaidOut top id parent previous (t :: ts)) :
    (ofTrees top).scan (List.range' id t.size) = (ofTrees top).contribution id := by
  cases t with
  | leaf kind value =>
    have hkind : (ofTrees top).kind? id = some kind.nodeKind := h.kind?_eq
    rw [Tree.size, List.range'_one, scan_cons, isCharacterData, contribution, hkind]
    cases kind <;> exact String.append_empty
  | element name attributes contents =>
    -- An element is no character data itself, and the rest of its range is what is below it.
    have hkind : (ofTrees top).kind? id = some .element := h.kind?_eq
    have hbelow : (ofTrees top).below id =
        List.range' (id + 1) (attributes.length + sizes contents) := by
      rw [Document.below, h.last_eq, Tree.size]
      congr 1
      omega
    rw [contribution, hkind, stringValue_eq_scan (.inr hkind), hbelow, Tree.size, Nat.add_assoc,
      Nat.add_comm 1, List.range'_succ, scan_cons, isCharacterData, hkind]
    exact String.empty_append

/-- **The range of siblings holds what they add**, by induction on the siblings. -/
theorem LaidOut.scan_range (h : LaidOut top id parent previous ts) :
    (ofTrees top).scan (List.range' id (sizes ts)) =
      String.join ((ids id ts).map (ofTrees top).contribution) := by
  induction ts generalizing id previous with
  | nil => rfl
  | cons t ts ih =>
    rw [sizes, ← List.range'_append_1, scan_append, h.scan_tree, ih h.rest, ids, List.map_cons,
      String.join_cons]

/-- The string-value of the document or of an element is what its children add. -/
theorem stringValue_eq_join (hx : (ofTrees top).kind? x = some .document ∨
      (ofTrees top).kind? x = some .element) :
    (ofTrees top).stringValue x =
      String.join (((ofTrees top).children x).map (ofTrees top).contribution) := by
  rw [stringValue_eq_scan hx, below]
  rcases hx with hx | hx
  · obtain rfl := kind?_document_iff.1 hx
    rw [children_zero, ← LaidOut.top.scan_range, last, node?_zero]
    rfl
  · obtain ⟨parent, previous, t, ts, h, ht⟩ := exists_laidOut_of_kind? hx (by decide) (by decide)
    -- In the range below the element the attributes are in front of the contents.
    have hsplit : (ofTrees top).last x - x = t.attributes.length + sizes t.contents := by
      have := t.size_eq
      rw [h.last_eq]
      omega
    rw [hsplit, ← List.range'_append_1, scan_append, h.scan_attributes, h.children_eq,
      ← h.contents.scan_range, String.empty_append]

/-! ## By the contents -/

/-- The text of nodes, one after the other: that of character data is its value, that of an element
is the text of its contents, and other nodes have none. -/
inductive TextOf (d : Document) : List Nat → String → Prop
  /-- No nodes. -/
  | nil : TextOf d [] ""
  /-- Plain text or a CDATA section. -/
  | data {i : Nat} {is : List Nat} {s : String} :
    d.kind? i = some .text ∨ d.kind? i = some .cdata → TextOf d is s →
      TextOf d (i :: is) (d.value i ++ s)
  /-- An element. -/
  | element {i : Nat} {is : List Nat} {inner s : String} :
    d.kind? i = some .element → TextOf d (d.children i) inner → TextOf d is s →
      TextOf d (i :: is) (inner ++ s)
  /-- Any other node. -/
  | other {i : Nat} {is : List Nat} {s : String} :
    d.kind? i ≠ some .text → d.kind? i ≠ some .cdata → d.kind? i ≠ some .element → TextOf d is s →
      TextOf d (i :: is) s

/-- Nodes have no more than one text. -/
theorem TextOf.unique {is : List Nat} {s s' : String} (h : d.TextOf is s) (h' : d.TextOf is s') :
    s = s' := by
  induction h generalizing s' with
  | nil =>
    cases h'
    rfl
  | data hkind _ ih =>
    cases h' with
    | data _ hrest => rw [ih hrest]
    | element helement => rcases hkind with hkind | hkind <;> cases hkind.symm.trans helement
    | other htext hcdata => exact absurd hkind (not_or.2 ⟨htext, hcdata⟩)
  | element hkind _ _ ihinner ih =>
    cases h' with
    | data hdata => rcases hdata with hdata | hdata <;> cases hkind.symm.trans hdata
    | element _ hinner hrest => rw [ihinner hinner, ih hrest]
    | other _ _ helement => exact absurd hkind helement
  | other htext hcdata helement _ ih =>
    cases h' with
    | data hdata => exact absurd hdata (not_or.2 ⟨htext, hcdata⟩)
    | element hkind => exact absurd hkind helement
    | other _ _ _ hrest => exact ih hrest

/-- Siblings have the text that they add to the string-value of their parent. -/
theorem LaidOut.textOf {top ts : List Tree} {id parent : Nat} {previous : Option Nat}
    (h : LaidOut top id parent previous ts) :
    (ofTrees top).TextOf (ids id ts)
      (String.join ((ids id ts).map (ofTrees top).contribution)) := by
  match ts, h with
  | [], _ => exact .nil
  | .leaf kind value :: ts, h =>
    have hkind : (ofTrees top).kind? id = some kind.nodeKind := h.kind?_eq
    have hne : ∀ other, kind.nodeKind ≠ other → (ofTrees top).kind? id ≠ some other :=
      fun _ hother h => hother (Option.some.inj (hkind.symm.trans h))
    have hrest := h.rest.textOf
    rw [ids, List.map_cons, String.join_cons, contribution, hkind]
    cases kind with
    | text => exact .data (.inl hkind) hrest
    | cdata => exact .data (.inr hkind) hrest
    | declaration | comment | doctype =>
      change TextOf _ _ ("" ++ _)
      rw [String.empty_append]
      refine .other (hne _ ?_) (hne _ ?_) (hne _ ?_) hrest
      all_goals simp [LeafKind.nodeKind]
  | .element name attributes inside :: ts, h =>
    have hkind : (ofTrees top).kind? id = some .element := h.kind?_eq
    have hinner := h.contents.textOf
    rw [← h.children_eq, ← stringValue_eq_join (.inr hkind)] at hinner
    rw [ids, List.map_cons, String.join_cons, contribution, hkind]
    exact .element hkind hinner h.rest.textOf
termination_by sizes ts
decreasing_by
  all_goals simp only [Tree.sizes, Tree.size, Tree.contents]
  all_goals omega

theorem textOf_children (hx : (ofTrees top).kind? x = some .document ∨
      (ofTrees top).kind? x = some .element) :
    (ofTrees top).TextOf ((ofTrees top).children x) ((ofTrees top).stringValue x) := by
  rw [stringValue_eq_join hx]
  rcases hx with hx | hx
  · obtain rfl := kind?_document_iff.1 hx
    rw [children_zero]
    exact LaidOut.top.textOf
  · obtain ⟨parent, previous, t, ts, h, -⟩ := exists_laidOut_of_kind? hx (by decide) (by decide)
    rw [h.children_eq]
    exact h.contents.textOf

/-! ## Other values -/

/-- The document with other values for all nodes but character data: for attributes, comments,
declarations and document type declarations. -/
def revalued (d : Document) (f : Nat → String) : Document :=
  { d with
    nodes := d.nodes.mapIdx fun i n =>
      if n.kind = .text ∨ n.kind = .cdata then n else { n with value := f i } }

section

variable {f : Nat → String}

theorem node?_revalued (d : Document) (f : Nat → String) (i : Nat) :
    (d.revalued f).node? i = (d.node? i).map fun n =>
      if n.kind = .text ∨ n.kind = .cdata then n else { n with value := f i } :=
  Array.getElem?_mapIdx

theorem kind?_revalued (d : Document) (f : Nat → String) (i : Nat) :
    (d.revalued f).kind? i = d.kind? i := by
  rw [kind?, kind?, node?_revalued, Option.map_map]
  congr 1
  funext n
  dsimp only [Function.comp_apply]
  split <;> rfl

theorem last_revalued (d : Document) (f : Nat → String) (i : Nat) :
    (d.revalued f).last i = d.last i := by
  rw [last, last, node?_revalued, Option.map_map]
  congr 2
  funext n
  dsimp only [Function.comp_apply]
  split <;> rfl

theorem value_revalued {i : Nat} (h : d.isCharacterData i = true) :
    (d.revalued f).value i = d.value i := by
  rw [value, value, node?_revalued]
  rw [isCharacterData, kind?] at h
  cases hnode : d.node? i with
  | none => rfl
  | some n =>
    rw [hnode] at h
    rw [Option.map_some, if_pos (by simpa using h)]

/-- String-values depend on the values of character data alone. -/
theorem stringValue_revalued (hx : d.kind? x = some .document ∨ d.kind? x = some .element) :
    (d.revalued f).stringValue x = d.stringValue x := by
  have hdata : (d.revalued f).isCharacterData = d.isCharacterData := by
    funext i
    rw [isCharacterData, isCharacterData, kind?_revalued]
  rw [stringValue_eq_scan hx, stringValue_eq_scan (by rwa [kind?_revalued]), scan, scan, hdata,
    below, below, last_revalued]
  exact congrArg String.join
    (List.map_congr_left fun i hi => value_revalued (List.mem_filter.1 hi).2)

end

/-! ## Parsed documents -/

/-- **String-values are made of what the children add.** The string-value of the document or of an
element of a parsed document is that of its children one after the other: the values of text and
CDATA sections, the string-values of elements, and nothing for other children. It is the one text
that its contents have, whatever attributes, comments, declarations and document type declarations
there are. -/
theorem stringValue_of_parse {bytes : List UInt8} {d : Document} (h : parse bytes = .ok d) {x : Nat}
    (hx : d.kind? x = some .document ∨ d.kind? x = some .element) :
    d.stringValue x = String.join ((d.children x).map d.contribution) ∧
      (∀ s, d.TextOf (d.children x) s ↔ s = d.stringValue x) ∧
      ∀ f, (d.revalued f).stringValue x = d.stringValue x := by
  obtain ⟨text, htext⟩ := exists_text_of_parse h
  obtain ⟨top, -, rfl⟩ := exists_trees_of_parseText htext
  refine ⟨stringValue_eq_join hx, fun s => ?_, fun f => stringValue_revalued hx⟩
  constructor
  · exact fun hs => hs.unique (textOf_children hx)
  · rintro rfl
    exact textOf_children hx

/-- The text of the sample is that of its element, whatever its attribute is. -/
theorem stringValue_of_parse_sample :
    let d := ofTrees [sampleTree]
    let other := d.revalued fun _ => "y"
    parse (Utf8.encode sample) = .ok d ∧
      (d.kind? 0 = some .document ∨ d.kind? 0 = some .element) ∧
      d.children 0 = [1] ∧ d.contribution 1 = "x" ∧ d.stringValue 0 = "x" ∧ d.TextOf [1] "x" ∧
      d.value 2 = "u" ∧ other.value 2 = "y" ∧ other.stringValue 0 = "x" := by
  intro d other
  have hkind : d.kind? 0 = some .document ∨ d.kind? 0 = some .element := by decide
  have hchildren : d.children 0 = [1] := by decide
  have hcontribution : d.contribution 1 = "x" := by decide
  have hvalue : d.stringValue 0 = "x" := by decide
  obtain ⟨-, htext, hother⟩ := stringValue_of_parse parse_sample hkind
  rw [hchildren] at htext
  exact ⟨parse_sample, hkind, hchildren, hcontribution, hvalue, (htext _).2 hvalue.symm, by decide,
    by decide, (hother _).trans hvalue⟩

end XmlQuery.Document
