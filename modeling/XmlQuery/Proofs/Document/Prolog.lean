import XmlQuery.Proofs.Document.Spelling
import XmlQuery.Proofs.Markup.EventGrammar
import XmlQuery.Proofs.Text.Bytes

/-!
# Around the root element

The text of a document that is accepted has one root element; beside it stand an XML declaration at
the start, a document type declaration in front of the element, comments, processing instructions
and white space. White space is told by the builder, which knows where an element is open but sees
character data only decoded. So a character reference to white space passes for white space there,
although the productions of XML have none outside of the root element.

## Main definitions

* `SpellsElement`, `SpellsContents`: elements and what they hold
* `SpellsMisc`, `SpaceReference`: what may stand beside the root element, and what does besides
* `SpellsDocument`: a document with such things around its root element

## Main results

* `misc_of_decodes`: character data that is white space when it is decoded
* `Spells.contents`, `Spells.topParts`: what stands for trees, in the text
* `spellsDocument_of_parseText`: **what is accepted beside the root element**
* `Document.parseText_spaceReference`: a reference to white space, where XML has none
-/

namespace XmlQuery

open Markup
open Namespace (Scope)
open Text (utf8Length)

variable {text written rest : List Char} {offset : Nat} {trees : List Tree}

/-! ## Productions -/

/-- A leaf of an element: character data, a CDATA section, a comment or a processing instruction. -/
def SpellsLeaf (written : List Char) : Prop :=
  ∃ e, SpellsText written e ∨ SpellsCData written e ∨ SpellsComment written e ∨
    SpellsInstruction written e

mutual

/-- An element: the tag of an empty one, or contents between tags of one name. -/
inductive SpellsElement : List Char → Prop
  /-- The tag of an empty element. -/
  | empty {offset : Nat} {name : String} {attributes : List Attribute} {written : List Char} :
    SpellsStartTag offset written (.startTag name attributes true) → SpellsElement written
  /-- Contents between a start tag and an end tag. -/
  | mk {offset : Nat} {name : String} {attributes : List Attribute}
    {opening within closing : List Char} :
    SpellsStartTag offset opening (.startTag name attributes false) → SpellsContents within →
    SpellsEndTag closing (.endTag name) → SpellsElement (opening ++ (within ++ closing))

/-- The contents of an element. -/
inductive SpellsContents : List Char → Prop
  /-- No contents. -/
  | nil : SpellsContents []
  /-- A leaf in front of others. -/
  | leaf {written rest : List Char} : SpellsLeaf written → SpellsContents rest →
    SpellsContents (written ++ rest)
  /-- An element in front of others. -/
  | element {written rest : List Char} : SpellsElement written → SpellsContents rest →
    SpellsContents (written ++ rest)

end

/-- What may stand beside the root element: white space, a comment or a processing instruction. -/
inductive SpellsMisc : List Char → Prop
  /-- A character of white space. -/
  | blank {x : Char} : Text.isBlank x = true → SpellsMisc [x]
  /-- A comment. -/
  | comment {written : List Char} {e : Event} : SpellsComment written e → SpellsMisc written
  /-- A processing instruction. -/
  | instruction {written : List Char} {e : Event} : SpellsInstruction written e →
    SpellsMisc written

/-- A reference by its number to a character of white space. -/
inductive SpaceReference : List Char → Prop
  /-- A decimal or hexadecimal number. -/
  | mk {digits : List Char} {x : Char} : Refers ('#' :: digits) x → Text.isBlank x = true →
    SpaceReference ('&' :: '#' :: (digits ++ [';']))

/-- Items one behind the other. -/
def Items (Item : List Char → Prop) (text : List Char) : Prop :=
  ∃ items : List (List Char), text = items.flatten ∧ ∀ item ∈ items, Item item

/-- Something that may be missing. -/
def Optionally (Item : List Char → Prop) (text : List Char) : Prop := text = [] ∨ Item text

/-- A document: one root element, an XML declaration at the start, a document type declaration in
front of the element, and items of a kind between them and behind them. -/
inductive SpellsDocument (Item : List Char → Prop) : List Char → Prop
  /-- The parts of a document in their order. -/
  | mk {declaration first doctype second root last : List Char} :
    Optionally (fun written => ∃ e, SpellsXmlDeclaration written e) declaration →
    Items Item first → Optionally (fun written => ∃ e, SpellsDoctype written e) doctype →
    Items Item second → SpellsElement root → Items Item last →
    SpellsDocument Item (declaration ++ (first ++ (doctype ++ (second ++ (root ++ last)))))

variable {Item : List Char → Prop}

theorem Items.nil : Items Item [] := ⟨[], rfl, nofun⟩

theorem Items.single (h : Item written) : Items Item written :=
  ⟨[written], by rw [List.flatten_singleton], List.forall_mem_singleton.2 h⟩

theorem Items.append (h : Items Item written) (h' : Items Item rest) :
    Items Item (written ++ rest) := by
  obtain ⟨items, rfl, hitems⟩ := h
  obtain ⟨items', rfl, hitems'⟩ := h'
  exact ⟨items ++ items', List.flatten_append.symm, List.forall_mem_append.2 ⟨hitems, hitems'⟩⟩

/-- What is accepted beside the root element. -/
def AcceptedMisc (written : List Char) : Prop := SpellsMisc written ∨ SpaceReference written

/-! ## White space in character data -/

/-- A reference to white space is one by number. -/
theorem spaceReference_of_refers {body : List Char} {x : Char} (h : Refers body x)
    (hx : Text.isBlank x = true) : SpaceReference ('&' :: (body ++ [';'])) := by
  cases h with
  | named hname =>
    -- No predefined entity is white space.
    simp only [predefined, List.mem_cons, List.not_mem_nil, or_false, Prod.mk.injEq] at hname
    rcases hname with ⟨-, rfl⟩ | ⟨-, rfl⟩ | ⟨-, rfl⟩ | ⟨-, rfl⟩ | ⟨-, rfl⟩ <;> cases hx
  | decimal hdigits hchar => exact .mk (.decimal hdigits hchar) hx
  | hexadecimal hdigits hchar => exact .mk (.hexadecimal hdigits hchar) hx

/-- **Character data that is white space when it is decoded** is white space as it is written, and
references to it. -/
theorem misc_of_decodes {raw data : List Char} (h : Decodes .text raw data)
    (hdata : ∀ x ∈ data, Text.isBlank x = true) : Items AcceptedMisc raw := by
  induction h with
  | nil => exact .nil
  | plain _ _ _ _ ih =>
    obtain ⟨hx, hdata⟩ := List.forall_mem_cons.1 hdata
    exact (Items.single (.inl (.blank hx))).append (ih hdata)
  | crlf _ ih =>
    -- Line ends are white space, whatever they are decoded to.
    obtain ⟨-, hdata⟩ := List.forall_mem_cons.1 hdata
    exact (Items.single (.inl (.blank (x := '\r') rfl))).append
      ((Items.single (.inl (.blank (x := '\n') rfl))).append (ih hdata))
  | lone _ _ ih =>
    obtain ⟨-, hdata⟩ := List.forall_mem_cons.1 hdata
    exact (Items.single (.inl (.blank (x := '\r') rfl))).append (ih hdata)
  | reference hrefers _ ih =>
    obtain ⟨hx, hdata⟩ := List.forall_mem_cons.1 hdata
    have happend := (Items.single (.inr (spaceReference_of_refers hrefers hx))).append (ih hdata)
    rwa [List.cons_append, List.append_assoc] at happend

/-! ## Elements in the text -/

/-- A leaf inside of an element is written as one: the XML declaration is at the start of the text,
and a document type declaration is at the top. -/
theorem spellsLeaf_of_leafOf? {e : Event} {kind : LeafKind} {value : String}
    (h : SpellsEvent offset written e) (hoffset : offset ≠ 0)
    (hleaf : leafOf? false e = some (kind, value)) : SpellsLeaf written := by
  cases h with
  | declaration hstart => exact absurd hstart hoffset
  | startTag h | endTag h | doctype h =>
    cases h
    cases hleaf
  | text h => exact ⟨e, .inl h⟩
  | cdata h => exact ⟨e, .inr (.inl h)⟩
  | comment h => exact ⟨e, .inr (.inr (.inl h))⟩
  | instruction h => exact ⟨e, .inr (.inr (.inr h))⟩

/-- A start tag, what stands for the contents of an element, and an end tag are written as an
element, if the contents are. -/
theorem exists_of_element {name : String} {attributes : List Attribute}
    {within events : List Event}
    (h : SpellsEvents offset text
      (.startTag name attributes false :: within ++ .endTag name :: events))
    (hwithin : ∀ {offset text}, SpellsEvents offset text within → offset ≠ 0 →
      SpellsContents text) :
    ∃ written rest, text = written ++ rest ∧ SpellsElement written ∧ written ≠ [] ∧
      SpellsEvents (offset + utf8Length written) rest events := by
  cases h with
  | @cons _ opening _ _ _ hne hopening hothers =>
    obtain ⟨inside, behind, rfl, hinside, hbehind⟩ := hothers.exists_of_append
    cases hbehind with
    | @cons _ closing rest _ _ _ hclosing hrest =>
      -- The contents do not start where the text does, so no XML declaration is in them.
      have hoffset : offset + utf8Length opening ≠ 0 := fun hzero =>
        hne (Text.eq_nil_of_utf8Length (Nat.eq_zero_of_add_eq_zero_left hzero))
      refine ⟨opening ++ (inside ++ closing), rest, by simp only [List.append_assoc],
        .mk hopening.startTag_of (hwithin hinside hoffset) hclosing.endTag_of,
        List.append_ne_nil_of_left_ne_nil hne _, ?_⟩
      rwa [Text.utf8Length_append, Text.utf8Length_append, ← Nat.add_assoc, ← Nat.add_assoc]

theorem exists_of_empty {name : String} {attributes : List Attribute} {events : List Event}
    (h : SpellsEvents offset text (.startTag name attributes true :: events)) :
    ∃ written rest, text = written ++ rest ∧ SpellsElement written ∧ written ≠ [] ∧
      SpellsEvents (offset + utf8Length written) rest events := by
  cases h with
  | @cons _ written rest _ _ hne hspells hrest =>
    exact ⟨written, rest, rfl, .empty hspells.startTag_of, hne, hrest⟩

/-- **What stands for the contents of an element is written as contents**, by induction on how it
stands for trees. -/
theorem Spells.contents {atTop : Bool} {scope : Scope} {events : List Event}
    (h : Spells atTop scope events trees) (htop : atTop = false)
    (hspells : SpellsEvents offset text events) (hoffset : offset ≠ 0) : SpellsContents text := by
  induction h generalizing offset text with
  | nil =>
    cases hspells
    exact .nil
  | blank => cases htop
  | leaf hleaf _ ih =>
    cases hspells with
    | cons _ hwritten hrest =>
      refine .leaf (spellsLeaf_of_leafOf? hwritten hoffset (htop ▸ hleaf)) (ih htop hrest ?_)
      omega
  | element _ _ _ ihwithin ih =>
    obtain ⟨written, rest, rfl, helement, -, hrest⟩ := exists_of_element hspells (ihwithin rfl)
    exact .element helement (ih htop hrest (by omega))
  | empty _ _ ih =>
    obtain ⟨written, rest, rfl, helement, -, hrest⟩ := exists_of_empty hspells
    exact .element helement (ih htop hrest (by omega))

/-! ## The top of a document -/

/-- A part of the text at the top of a document, at the start or behind it, with the trees that it
stands for. -/
inductive TopPart : (atStart : Bool) → List Char → List Tree → Prop
  /-- The XML declaration. -/
  | declaration {written : List Char} {e : Event} {t : Tree} : SpellsXmlDeclaration written e →
    t.isElement = false → TopPart true written [t]
  /-- White space, comments and instructions. -/
  | misc {atStart : Bool} {written : List Char} {added : List Tree} : Items AcceptedMisc written →
    (∀ t ∈ added, t.isElement = false) → TopPart atStart written added
  /-- A document type declaration. -/
  | doctype {atStart : Bool} {written : List Char} {e : Event} {t : Tree} :
    SpellsDoctype written e → t.isDoctype = true → TopPart atStart written [t]
  /-- An element. -/
  | element {atStart : Bool} {written : List Char} {t : Tree} : SpellsElement written →
    t.isElement = true → TopPart atStart written [t]

/-- Parts one behind the other. -/
inductive TopParts : (atStart : Bool) → List Char → List Tree → Prop
  /-- No part. -/
  | nil {atStart : Bool} : TopParts atStart [] []
  /-- A part in front of others. -/
  | cons {atStart : Bool} {written rest : List Char} {added trees : List Tree} :
    TopPart atStart written added → TopParts false rest trees →
    TopParts atStart (written ++ rest) (added ++ trees)

theorem topPart_of_blank {data : String} (h : SpellsEvent offset written (.text data))
    (hdata : data.toList.all Text.isBlank = true) (atStart : Bool) :
    TopPart atStart written [] := by
  cases h with
  | text h =>
    cases h with
    | mk _ _ hdecodes => exact .misc (misc_of_decodes hdecodes (List.all_eq_true.1 hdata)) nofun
  | declaration _ h | startTag h | endTag h | cdata h | comment h | instruction h | doctype h =>
    cases h

theorem topPart_of_leafOf? {e : Event} {kind : LeafKind} {value : String}
    (h : SpellsEvent offset written e) (hleaf : leafOf? true e = some (kind, value)) :
    TopPart (decide (offset = 0)) written [.leaf kind value] := by
  cases h with
  | declaration hstart h =>
    rw [decide_eq_true hstart]
    exact .declaration h rfl
  | startTag h | endTag h | text h | cdata h =>
    cases h
    cases hleaf
  | comment h => exact .misc (.single (.inl (.comment h))) (List.forall_mem_singleton.2 rfl)
  | instruction h => exact .misc (.single (.inl (.instruction h))) (List.forall_mem_singleton.2 rfl)
  | doctype h =>
    have hdoctype := h
    cases h
    cases hleaf
    exact .doctype hdoctype rfl

/-- **What stands for the trees of a document is written in parts**, by induction on how it stands
for them. -/
theorem Spells.topParts {atTop : Bool} {scope : Scope} {events : List Event}
    (h : Spells atTop scope events trees) (htop : atTop = true)
    (hspells : SpellsEvents offset text events) :
    TopParts (decide (offset = 0)) text trees := by
  -- Behind a part of the text there is no start.
  have hbehind : ∀ {offset : Nat} {written : List Char}, written ≠ [] →
      decide (offset + utf8Length written = 0) = false := fun hne =>
    decide_eq_false fun hzero =>
      hne (Text.eq_nil_of_utf8Length (Nat.eq_zero_of_add_eq_zero_left hzero))
  induction h generalizing offset text with
  | nil =>
    cases hspells
    exact .nil
  | blank hdata _ ih =>
    cases hspells with
    | cons hne hwritten hrest =>
      have hothers := ih htop hrest
      rw [hbehind hne] at hothers
      exact .cons (topPart_of_blank hwritten hdata _) hothers
  | leaf hleaf _ ih =>
    cases hspells with
    | cons hne hwritten hrest =>
      have hothers := ih htop hrest
      rw [hbehind hne] at hothers
      exact .cons (topPart_of_leafOf? hwritten (htop ▸ hleaf)) hothers
  | element _ hwithin _ _ ih =>
    obtain ⟨written, rest, rfl, helement, hne, hrest⟩ :=
      exists_of_element hspells (hwithin.contents rfl)
    have hothers := ih htop hrest
    rw [hbehind hne] at hothers
    exact .cons (.element helement rfl) hothers
  | empty _ _ ih =>
    obtain ⟨written, rest, rfl, helement, hne, hrest⟩ := exists_of_empty hspells
    have hothers := ih htop hrest
    rw [hbehind hne] at hothers
    exact .cons (.element helement rfl) hothers

/-! ## The order of the parts -/

theorem any_isElement_append {added : List Tree} (hadded : ∀ t ∈ added, t.isElement = false) :
    (added ++ trees).any (·.isElement) = trees.any (·.isElement) := by
  rw [List.any_append, List.any_eq_false.2 fun t ht => Bool.eq_false_iff.1 (hadded t ht),
    Bool.false_or]

theorem isElement_of_isDoctype {t : Tree} (h : t.isDoctype = true) : t.isElement = false := by
  cases t with
  | element => cases h
  | leaf => rfl

/-- A tree that follows an element is neither another one nor a document type declaration. -/
theorem Tree.MayPrecede.behind_element {t u : Tree} (h : t.MayPrecede u)
    (ht : t.isElement = true) : u.isElement = false ∧ u.isDoctype = false := by
  have hne : ¬ t.isElement = false := Bool.eq_false_iff.not.2 (not_not_intro ht)
  exact ⟨Bool.eq_false_iff.2 fun hu => hne (h.1 hu), Bool.eq_false_iff.2 fun hu => hne (h.2 hu).1⟩

theorem Tree.MayPrecede.behind_doctype {t u : Tree} (h : t.MayPrecede u)
    (ht : t.isDoctype = true) : u.isDoctype = false :=
  Bool.eq_false_iff.2 fun hu => Bool.eq_false_iff.not.2 (not_not_intro ht) (h.2 hu).2

namespace TopParts

/-- Without an element and a document type declaration there are only items. -/
theorem items (h : TopParts false text trees)
    (hnone : ∀ t ∈ trees, t.isElement = false ∧ t.isDoctype = false) :
    Items AcceptedMisc text := by
  generalize hstart : false = atStart at h
  induction h with
  | nil => exact .nil
  | cons hpart _ ih =>
    subst hstart
    obtain ⟨hadded, hnone⟩ := List.forall_mem_append.1 hnone
    -- The other parts add an element or a document type declaration to the trees.
    cases hpart with
    | misc hitems => exact hitems.append (ih hnone rfl)
    | doctype _ ht =>
      rw [(hadded _ List.mem_cons_self).2] at ht
      cases ht
    | element _ ht =>
      rw [(hadded _ List.mem_cons_self).1] at ht
      cases ht

/-- One element has items in front of it and behind it, if no document type declaration is there. -/
theorem exists_root (h : TopParts false text trees) (hprecede : trees.Pairwise Tree.MayPrecede)
    (hnone : ∀ t ∈ trees, t.isDoctype = false) (hroot : trees.any (·.isElement) = true) :
    ∃ before element behind, text = before ++ (element ++ behind) ∧ Items AcceptedMisc before ∧
      SpellsElement element ∧ Items AcceptedMisc behind := by
  generalize hstart : false = atStart at h
  induction h with
  | nil => cases hroot
  | @cons _ written rest _ _ hpart hparts ih =>
    subst hstart
    obtain ⟨-, hothers, hacross⟩ := List.pairwise_append.1 hprecede
    obtain ⟨hadded, hnone⟩ := List.forall_mem_append.1 hnone
    cases hpart with
    | misc hitems hmisc =>
      rw [any_isElement_append hmisc] at hroot
      obtain ⟨before, element, behind, rfl, hbefore, helement, hbehind⟩ :=
        ih hothers hnone hroot rfl
      exact ⟨written ++ before, element, behind, (List.append_assoc ..).symm,
        hitems.append hbefore, helement, hbehind⟩
    | doctype _ ht =>
      rw [hadded _ List.mem_cons_self] at ht
      cases ht
    | element helement ht =>
      exact ⟨[], written, rest, rfl, .nil, helement, hparts.items fun u hu =>
        (hacross _ List.mem_cons_self u hu).behind_element ht⟩

/-- In front of the element and of the items around it there may be a document type declaration,
with items in front of that. -/
theorem exists_doctype (h : TopParts false text trees)
    (hprecede : trees.Pairwise Tree.MayPrecede) (hroot : trees.any (·.isElement) = true) :
    ∃ first doctype second root last, text = first ++ (doctype ++ (second ++ (root ++ last))) ∧
      Items AcceptedMisc first ∧ Optionally (fun written => ∃ e, SpellsDoctype written e) doctype ∧
      Items AcceptedMisc second ∧ SpellsElement root ∧ Items AcceptedMisc last := by
  generalize hstart : false = atStart at h
  induction h with
  | nil => cases hroot
  | @cons _ written rest _ _ hpart hparts ih =>
    subst hstart
    obtain ⟨-, hothers, hacross⟩ := List.pairwise_append.1 hprecede
    cases hpart with
    | misc hitems hmisc =>
      rw [any_isElement_append hmisc] at hroot
      obtain ⟨first, doctype, second, root, last, rfl, hfirst, hparts⟩ := ih hothers hroot rfl
      exact ⟨written ++ first, doctype, second, root, last, (List.append_assoc ..).symm,
        hitems.append hfirst, hparts⟩
    | doctype hspells ht =>
      rw [any_isElement_append (List.forall_mem_singleton.2 (isElement_of_isDoctype ht))] at hroot
      obtain ⟨before, element, behind, rfl, hbefore, helement, hbehind⟩ :=
        hparts.exists_root hothers (fun u hu =>
          (hacross _ List.mem_cons_self u hu).behind_doctype ht) hroot
      exact ⟨[], written, before, element, behind, rfl, .nil, .inr ⟨_, hspells⟩, hbefore, helement,
        hbehind⟩
    | element helement ht =>
      exact ⟨[], [], [], written, rest, rfl, .nil, .inl rfl, .nil, helement,
        hparts.items fun u hu => (hacross _ List.mem_cons_self u hu).behind_element ht⟩

end TopParts

/-! ## Documents -/

/-- Parts with one element are a document, of which the declaration can be at the start only. -/
theorem TopParts.spellsDocument (h : TopParts true text trees)
    (hprecede : trees.Pairwise Tree.MayPrecede) (hroot : trees.any (·.isElement) = true) :
    SpellsDocument AcceptedMisc text := by
  -- Only the first part may be the XML declaration; what follows it is the same in all cases.
  have hplain : ∀ {text trees}, TopParts false text trees → trees.Pairwise Tree.MayPrecede →
      trees.any (·.isElement) = true → ∀ {declaration},
      Optionally (fun written => ∃ e, SpellsXmlDeclaration written e) declaration →
      SpellsDocument AcceptedMisc (declaration ++ text) := by
    intro text trees hparts hprecede hroot declaration hdeclaration
    obtain ⟨first, doctype, second, root, last, rfl, hfirst, hdoctype, hsecond, helement, hlast⟩ :=
      hparts.exists_doctype hprecede hroot
    exact .mk hdeclaration hfirst hdoctype hsecond helement hlast
  cases h with
  | nil => cases hroot
  | cons hpart hparts =>
    cases hpart with
    | declaration hspells ht =>
      rw [any_isElement_append (List.forall_mem_singleton.2 ht)] at hroot
      exact hplain hparts (List.pairwise_append.1 hprecede).2.1 hroot (.inr ⟨_, hspells⟩)
    | misc hitems hmisc =>
      exact hplain (.cons (.misc hitems hmisc) hparts) hprecede hroot (.inl rfl)
    | doctype hspells ht =>
      exact hplain (.cons (.doctype hspells ht) hparts) hprecede hroot (.inl rfl)
    | element helement ht =>
      exact hplain (.cons (.element helement ht) hparts) hprecede hroot (.inl rfl)

/-- A reading of which the trees are built comes to its end. -/
theorem exists_outcome_of_buildTrees {reading : Reading} (h : buildTrees reading = .ok trees) :
    ∃ stop, reading.outcome = .ok stop := by
  rw [buildTrees] at h
  split at h
  · cases h
  · split at h
    · cases h
    · next stop hstop => exact ⟨stop, hstop⟩

namespace Document

/-- **What is accepted beside the root element.** A text that is a document consists of one root
element, an XML declaration at the start, a document type declaration in front of the element, and
between them and behind them of white space, comments, processing instructions and references by
number to white space, and of nothing else. -/
theorem spellsDocument_of_parseText {d : Document} (h : parseText text = .ok d) :
    SpellsDocument AcceptedMisc text := by
  obtain ⟨trees, htrees, -⟩ := exists_trees_of_parseText h
  obtain ⟨hspells, hprecede, hroot⟩ := spells_of_buildTrees htrees
  obtain ⟨stop, hstop⟩ := exists_outcome_of_buildTrees htrees
  have hevents : SpellsEvents 0 text ((readAll text).events.map (·.event)) :=
    spellsEvents_of_readFrom hstop
  exact TopParts.spellsDocument (hspells.topParts rfl hevents) hprecede hroot

/-- A reference to a space, a comment and the declaration of the document type in front of an
element. -/
theorem spellsDocument_of_parseText_spaceReference :
    parseText "&#x20;<!----><!DOCTYPE r>\n<r/>".toList =
        .ok (ofTrees [.leaf .comment "", .leaf .doctype "DOCTYPE r", .element ⟨"", "r", ""⟩ [] []]) ∧
      SpellsDocument AcceptedMisc "&#x20;<!----><!DOCTYPE r>\n<r/>".toList := by
  have hparse : parseText "&#x20;<!----><!DOCTYPE r>\n<r/>".toList =
      .ok (ofTrees [.leaf .comment "", .leaf .doctype "DOCTYPE r",
        .element ⟨"", "r", ""⟩ [] []]) := by
    rw [parseText, ofText_eq]
    with_unfolding_all rfl
  exact ⟨hparse, spellsDocument_of_parseText hparse⟩

end Document

/-! ## References beside the root element -/

theorem head?_append_ne {front behind : List Char} {x : Char} (h : front.head? ≠ some x)
    (h' : behind.head? ≠ some x) : (front ++ behind).head? ≠ some x := by
  rw [List.head?_append]
  cases hfront : front.head? with
  | none => exact h'
  | some y => rwa [hfront] at h

theorem Optionally.head?_ne {x : Char} (h : Optionally Item written)
    (hitem : Item written → written.head? ≠ some x) : written.head? ≠ some x := by
  rcases h with rfl | h
  · nofun
  · exact hitem h

theorem SpellsMisc.head?_ne (h : SpellsMisc written) : written.head? ≠ some '&' := by
  cases h with
  | blank hx =>
    rintro ⟨⟩
    cases hx
  | comment h | instruction h => cases h <;> nofun

theorem Items.head?_ne (h : Items SpellsMisc written) : written.head? ≠ some '&' := by
  obtain ⟨items, rfl, hitems⟩ := h
  induction items with
  | nil => nofun
  | cons item items ih =>
    obtain ⟨hitem, hitems⟩ := List.forall_mem_cons.1 hitems
    exact head?_append_ne hitem.head?_ne (ih hitems)

theorem SpellsElement.head?_ne (h : SpellsElement written) : written.head? ≠ some '&' := by
  cases h with
  | empty h | mk h => cases h; nofun

/-- By the productions of XML no document starts with a reference. -/
theorem SpellsDocument.head?_ne (h : SpellsDocument SpellsMisc text) : text.head? ≠ some '&' := by
  cases h with
  | mk hdeclaration hfirst hdoctype hsecond hroot hlast =>
    -- Every part that may come first starts with white space or with an opening sign.
    refine head?_append_ne (hdeclaration.head?_ne ?_) <| head?_append_ne hfirst.head?_ne <|
      head?_append_ne (hdoctype.head?_ne ?_) <| head?_append_ne hsecond.head?_ne <|
      head?_append_ne hroot.head?_ne hlast.head?_ne
    · rintro ⟨e, h⟩
      cases h
      nofun
    · rintro ⟨e, h⟩
      cases h
      nofun

/-- A reference by number to a space is accepted in front of the root element, where the
productions of XML have none. -/
theorem Document.parseText_spaceReference :
    parseText "&#32;<r/>".toList = .ok (ofTrees [.element ⟨"", "r", ""⟩ [] []]) ∧
      ¬ SpellsDocument SpellsMisc "&#32;<r/>".toList := by
  refine ⟨?_, fun h => h.head?_ne rfl⟩
  rw [parseText, ofText_eq]
  with_unfolding_all rfl

end XmlQuery
