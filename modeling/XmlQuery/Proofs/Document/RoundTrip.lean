import XmlQuery.Proofs.Document.Building
import XmlQuery.Proofs.Document.Isomorphism
import XmlQuery.Proofs.Markup.Constructs
import XmlQuery.Proofs.Namespace.Writing

/-!
# Writing and reading a document

A document is written from its trees: names with their prefixes, character data with references for
what markup gives a meaning to, other contents as they are. There are many ways to do so, as any
character may be written as a reference, and parsing undoes all of them: the document that a text is
has the nodes of the trees that were written, in the same order and with the same names and values.

## Main definitions

* `LegalDocument`: trees that are a document and can be written
* `Writes`: trees are written as a text

## Main results

* `LegalTrees.exists_writes`: there is a way to write trees
* `Writes.exists_reading`: what is written is read as events that spell the trees
* `Document.parseText_of_writes`: **parsing undoes writing**
-/

namespace XmlQuery

open Markup (Encodes Event ReadAs WritesAttributes isChar isNCName readEvent readFrom tagEnd
  textSpecials)
open Namespace (Scope xmlUri)

/-! ## Documents that can be written -/

/-- A leaf can be written, at the top of a document or inside an element: where it is written as it
is, nothing in it would end it or be replaced. -/
def LeafKind.Legal (atTop : Bool) (value : String) : LeafKind → Prop
  -- Any text can be written, as any of its characters can be a reference.
  | .text => atTop = false
  | .cdata => atTop = false ∧ '\r' ∉ value.toList ∧ ¬ "]]>".toList <:+: value.toList
  | .comment => '\r' ∉ value.toList ∧ ¬ "--".toList <:+: value.toList ∧
    value.toList.getLast? ≠ some '-'
  | .declaration target => isNCName target.toList = true ∧
    target.toList.map Char.toLower ≠ ['x', 'm', 'l'] ∧ '\r' ∉ value.toList ∧
    ¬ "?>".toList <:+: value.toList ∧ ∀ c ∈ value.toList.head?, Text.isBlank c = false
  | .doctype => False

/-- Trees can be written, at the top of a document or inside an element. -/
inductive LegalTrees : (atTop : Bool) → Environment → List Tree → Prop
  /-- No trees. -/
  | nil {atTop : Bool} {env : Environment} : LegalTrees atTop env []
  /-- A leaf. -/
  | leaf {atTop : Bool} {env : Environment} {kind : LeafKind} {value : String} {ts : List Tree} :
    kind.Legal atTop value → (∀ c ∈ value.toList, isChar c = true) → LegalTrees atTop env ts →
    LegalTrees atTop env (.leaf kind value :: ts)
  /-- An element. -/
  | element {atTop : Bool} {env : Environment} {name : Name} {attributes : List TreeAttribute}
    {contents ts : List Tree} : LegalTag (env.extend attributes) name attributes →
    LegalTrees false (env.extend attributes) contents → LegalTrees atTop env ts →
    LegalTrees atTop env (.element name attributes contents :: ts)

/-- Trees are a document that can be written: one root element, comments and processing instructions
around it. -/
structure LegalDocument (top : List Tree) : Prop where
  /-- The trees can be written. -/
  trees : LegalTrees true Scope.initial.resolve? top
  /-- Text is not empty and not next to other text. -/
  coalesced : Coalesced top
  /-- There is one root element. -/
  root : top.countP (·.isElement) = 1

/-- At the top of a document that can be written there is no document type declaration. -/
theorem LegalTrees.isDoctype_eq_false {atTop : Bool} {env : Environment} {ts : List Tree}
    (h : LegalTrees atTop env ts) : ∀ t ∈ ts, t.isDoctype = false := by
  induction h with
  | nil => nofun
  | @leaf _ _ kind _ _ hkind _ _ ih =>
    refine List.forall_mem_cons.2 ⟨?_, ih⟩
    cases kind with
    | doctype => exact hkind.elim
    | _ => rfl
  | element _ _ _ _ ih => exact List.forall_mem_cons.2 ⟨rfl, ih⟩

/-- Trees with at most one element may stand at the top, if none is a document type declaration. -/
theorem pairwise_mayPrecede {ts : List Tree} (helements : ts.countP (·.isElement) ≤ 1)
    (hdoctypes : ∀ t ∈ ts, t.isDoctype = false) : ts.Pairwise Tree.MayPrecede := by
  induction ts with
  | nil => exact .nil
  | cons t ts ih =>
    rw [List.forall_mem_cons] at hdoctypes
    rw [List.countP_cons] at helements
    refine .cons (fun u hu => ⟨fun helement => ?_, fun hdoctype => ?_⟩) (ih (by omega) hdoctypes.2)
    · -- The later tree is the one element.
      have hpos : 0 < ts.countP (·.isElement) := List.countP_pos_iff.2 ⟨u, hu, helement⟩
      by_contra ht
      rw [Bool.not_eq_false] at ht
      rw [if_pos ht] at helements
      omega
    · rw [hdoctypes.2 u hu] at hdoctype
      cases hdoctype

/-! ## Writing -/

/-- A leaf is written as a text. -/
inductive WritesLeaf : LeafKind → String → List Char → Prop
  /-- Text, with references. -/
  | text {value : String} {raw : List Char} :
    Encodes textSpecials raw value.toList → WritesLeaf .text value raw
  /-- A CDATA section. -/
  | cdata {value : String} :
    WritesLeaf .cdata value ("<![CDATA[".toList ++ value.toList ++ "]]>".toList)
  /-- A comment. -/
  | comment {value : String} :
    WritesLeaf .comment value ("<!--".toList ++ value.toList ++ "-->".toList)
  /-- A processing instruction. -/
  | instruction {target value : String} :
    WritesLeaf (.declaration target) value
      ("<?".toList ++ target.toList ++ ' ' :: value.toList ++ "?>".toList)
  /-- A processing instruction without content. -/
  | instruction_nil {target : String} :
    WritesLeaf (.declaration target) "" ("<?".toList ++ target.toList ++ "?>".toList)

/-- Trees are written as a text. -/
inductive Writes : List Tree → List Char → Prop
  /-- No trees. -/
  | nil : Writes [] []
  /-- A leaf. -/
  | leaf {kind : LeafKind} {value : String} {ts : List Tree} {raw written : List Char} :
    WritesLeaf kind value raw → Writes ts written → Writes (.leaf kind value :: ts) (raw ++ written)
  /-- An element between tags. -/
  | element {name : Name} {attributes : List TreeAttribute} {contents ts : List Tree}
    {tag inside written : List Char} :
    WritesAttributes (attributes.map fun a => (a.name.qualified, a.value)) tag →
    Writes contents inside → Writes ts written →
    Writes (.element name attributes contents :: ts)
      ('<' :: name.qualified.toList ++ tag ++ tagEnd false ++
        (inside ++ ("</".toList ++ name.qualified.toList ++ ">".toList ++ written)))
  /-- An empty element. -/
  | empty {name : Name} {attributes : List TreeAttribute} {ts : List Tree}
    {tag written : List Char} :
    WritesAttributes (attributes.map fun a => (a.name.qualified, a.value)) tag →
    Writes ts written →
    Writes (.element name attributes [] :: ts)
      ('<' :: name.qualified.toList ++ tag ++ tagEnd true ++ written)

/-- There is a way to write the attributes of a tag. -/
theorem exists_writesAttributes {attributes : List (String × String)}
    (h : ∀ p ∈ attributes, ∀ c ∈ p.2.toList, isChar c = true) :
    ∃ tag, WritesAttributes attributes tag := by
  induction attributes with
  | nil => exact ⟨[], .nil⟩
  | cons p attributes ih =>
    rw [List.forall_mem_cons] at h
    obtain ⟨tag, htag⟩ := ih h.2
    obtain ⟨raw, hraw⟩ := Markup.exists_encodes h.1 (Markup.exists_refers .attribute (.inl rfl))
    exact ⟨_, .cons (.inl rfl) hraw htag⟩

/-- There is a way to write a leaf. -/
theorem LeafKind.Legal.exists_writesLeaf {atTop : Bool} {kind : LeafKind} {value : String}
    (h : kind.Legal atTop value) (hchar : ∀ c ∈ value.toList, isChar c = true) :
    ∃ raw, WritesLeaf kind value raw := by
  cases kind with
  | text =>
    obtain ⟨raw, hraw⟩ := Markup.exists_encodes hchar
      (@Markup.exists_refers .text '"' (.inl rfl))
    exact ⟨raw, .text hraw⟩
  | cdata => exact ⟨_, .cdata⟩
  | comment => exact ⟨_, .comment⟩
  | declaration => exact ⟨_, .instruction⟩
  | doctype => exact h.elim

/-- There is a way to write trees. -/
theorem LegalTrees.exists_writes {atTop : Bool} {env : Environment} {ts : List Tree}
    (h : LegalTrees atTop env ts) : ∃ raw, Writes ts raw := by
  induction h with
  | nil => exact ⟨[], .nil⟩
  | leaf hkind hchar _ ih =>
    obtain ⟨raw, hraw⟩ := hkind.exists_writesLeaf hchar
    obtain ⟨written, hwritten⟩ := ih
    exact ⟨_, .leaf hraw hwritten⟩
  | @element _ _ _ attributes _ _ htag _ _ ihcontents ih =>
    obtain ⟨inside, hinside⟩ := ihcontents
    obtain ⟨written, hwritten⟩ := ih
    have hvalues : ∀ p ∈ attributes.map (fun a => (a.name.qualified, a.value)),
        ∀ c ∈ p.2.toList, isChar c = true :=
      List.forall_mem_map.2 fun a ha => (htag.attribute a ha).value
    obtain ⟨tag, htag⟩ := exists_writesAttributes hvalues
    exact ⟨_, .element htag hinside hwritten⟩

/-! ## Reading -/

/-- The event that a leaf is read as. -/
def LeafKind.event (value : String) : LeafKind → Event
  | .declaration target => .instruction target value
  | .text => .text value
  | .cdata => .cdata value
  | .comment => .comment value
  | .doctype => .doctype value

theorem LeafKind.Legal.leafOf?_eq {atTop : Bool} {kind : LeafKind} {value : String}
    (h : kind.Legal atTop value) : leafOf? atTop (kind.event value) = some (kind, value) := by
  cases kind with
  | text =>
    obtain rfl : atTop = false := h
    rfl
  | cdata =>
    obtain rfl : atTop = false := h.1
    rfl
  | comment | declaration => rfl
  | doctype => exact h.elim

/-- A leaf is read back, text in front of markup and at the end. -/
theorem WritesLeaf.readAs {kind : LeafKind} {value : String} {raw rest : List Char} {atTop : Bool}
    (h : WritesLeaf kind value raw) (hlegal : kind.Legal atTop value)
    (hchar : ∀ c ∈ value.toList, isChar c = true)
    (htext : kind = .text → value ≠ "" ∧ ∀ c ∈ rest.head?, c = '<') :
    raw ≠ [] ∧ ReadAs raw rest (kind.event value) := by
  have hvalue : String.ofList value.toList = value := String.ofList_toList
  cases h with
  | text hencodes =>
    obtain ⟨hne, hrest⟩ := htext rfl
    have hraw : raw ≠ [] := by
      rintro rfl
      -- Only the empty text is written as nothing.
      generalize hlist : value.toList = list at hencodes
      cases hencodes
      exact hne (String.toList_eq_nil_iff.1 hlist)
    have hread := Markup.readAs_text hencodes hraw hrest
    rw [hvalue] at hread
    exact ⟨hraw, hread⟩
  | cdata =>
    have hread := Markup.readAs_cdata hchar hlegal.2.1 hlegal.2.2 rest
    rw [hvalue] at hread
    exact ⟨by simp, hread⟩
  | comment =>
    have hread := Markup.readAs_comment hchar hlegal.1 hlegal.2.1 hlegal.2.2 rest
    rw [hvalue] at hread
    exact ⟨by simp, hread⟩
  | @instruction target =>
    obtain ⟨htarget, hxml, hreturn, hclose, hblank⟩ := hlegal
    have hread := Markup.readAs_instruction htarget hxml hchar hreturn hclose hblank rest
    rw [hvalue, String.ofList_toList] at hread
    exact ⟨by simp, hread⟩
  | @instruction_nil target =>
    have hread := Markup.readAs_instruction_nil hlegal.1 hlegal.2.1 rest
    rw [String.ofList_toList] at hread
    exact ⟨by simp, hread⟩

/-- What is written starts with an opening sign, if it does not start with text. -/
theorem Writes.head_eq {ts : List Tree} {raw rest : List Char} (h : Writes ts raw)
    (htext : ∀ u ∈ ts.head?, ¬ u.isText) (hrest : ∀ c ∈ rest.head?, c = '<') :
    ∀ c ∈ (raw ++ rest).head?, c = '<' := by
  cases h with
  | nil => exact hrest
  | leaf hleaf =>
    cases hleaf with
    | text => exact absurd rfl (htext _ rfl)
    | cdata | comment | instruction | instruction_nil => simp
  | element | empty => simp

/-- The names in a tag that can be written are names. -/
theorem Markup.QName.isName {written part : String} {p? : Option String}
    (h : Markup.QName written p? part) : Markup.isName written.toList = true := by
  cases h with
  | unprefixed hpart => exact Markup.isName_of_isNCName hpart
  | prefixed hp hpart =>
    have hname := Markup.isName_append hp hpart
    simpa using hname

/-- A tag that can be written is read back and accepted. -/
theorem LegalTag.exists_readEvent {scope : Scope} {name : Name} {attributes : List TreeAttribute}
    {tag : List Char} (h : LegalTag (Environment.extend scope.resolve? attributes) name attributes)
    (hxml : scope.resolve? "xml" = some xmlUri)
    (htag : WritesAttributes (attributes.map fun a => (a.name.qualified, a.value)) tag)
    (isEmpty : Bool) (rest : List Char) (offset : Nat) :
    ∃ read next inner, readEvent ⟨offset, '<' :: name.qualified.toList ++ tag ++ tagEnd isEmpty ++
        rest⟩ = .ok (.startTag name.qualified read isEmpty, ⟨next, rest⟩) ∧
      Opens scope name.qualified read inner name attributes ∧
      inner.resolve? = Environment.extend scope.resolve? attributes := by
  have hnames : ∀ p ∈ attributes.map (fun a => (a.name.qualified, a.value)),
      Markup.isName p.1.toList = true :=
    List.forall_mem_map.2 fun a ha => (h.attribute a ha).writable.qName.isName
  obtain ⟨read, next, hread, hevent⟩ := Markup.exists_readEvent_startTag h.writable.qName.isName
    htag hnames isEmpty rest offset
  -- The places at which the attributes start are not known, and do not matter to the builder.
  obtain ⟨inner, hopens, hinner⟩ := h.exists_opens hxml hread
  exact ⟨read, next, inner, hevent, hopens, hinner⟩

/-- **What is written is read as events that spell the trees**, whatever markup follows it. The
induction is on the writing: the contents of an element are read in front of its end tag, in the
scope of its start tag. -/
theorem Writes.exists_reading {ts : List Tree} {raw : List Char} (h : Writes ts raw)
    {atTop : Bool} {scope : Scope} (hlegal : LegalTrees atTop scope.resolve? ts)
    (hcoalesced : Coalesced ts) (hxml : scope.resolve? "xml" = some xmlUri) {rest : List Char}
    (hrest : ∀ c ∈ rest.head?, c = '<') (offset : Nat) :
    ∃ placed next, Spells atTop scope (placed.map (·.event)) ts ∧
      readFrom ⟨offset, raw ++ rest⟩ = (readFrom ⟨next, rest⟩).behind placed := by
  induction h generalizing atTop scope rest offset with
  | nil =>
    -- Nothing is read, and what follows is still in front of the reader.
    exact ⟨[], offset, .nil, rfl⟩
  | @leaf kind value ts raw written hleaf hwrites ih =>
    cases hlegal with | leaf hkind hchar hts =>
    cases hcoalesced with | cons hvalue hnext _ hcoalesced =>
    -- Behind text there is no other text.
    have htext : kind = .text → value ≠ "" ∧ ∀ c ∈ (written ++ rest).head?, c = '<' := by
      rintro rfl
      exact ⟨hvalue rfl, hwrites.head_eq (fun u hu hutext => hnext u hu ⟨rfl, hutext⟩) hrest⟩
    obtain ⟨hne, hread⟩ := hleaf.readAs hkind hchar htext
    obtain ⟨middle, hevent⟩ := hread offset
    obtain ⟨placed, next, hspells, hreading⟩ := ih hts hcoalesced hxml hrest middle
    refine ⟨⟨offset, kind.event value, middle⟩ :: placed, next, .leaf hkind.leafOf?_eq hspells, ?_⟩
    rw [List.append_assoc, Markup.readFrom_append hne hevent, hreading,
      Markup.Reading.behind_behind]
    rfl
  | @element name attributes contents ts tag inside written htag hinside hwrites ihinside ih =>
    cases hlegal with | element hlegal hcontents hts =>
    cases hcoalesced with | cons _ _ hwithin hcoalesced =>
    -- The start tag, the contents in its scope, the end tag, and what follows the element.
    obtain ⟨read, first, inner, hstart, hopens, hinner⟩ := hlegal.exists_readEvent hxml htag false
      (inside ++ ("</".toList ++ name.qualified.toList ++ ">".toList ++ (written ++ rest))) offset
    have hclose : ∀ c ∈ ("</".toList ++ name.qualified.toList ++ ">".toList ++
        (written ++ rest)).head?, c = '<' := by simp
    obtain ⟨within, second, hspells, hreading⟩ := ihinside (hinner ▸ hcontents) hwithin
      (hinner ▸ Environment.extend_xml _ _) hclose first
    obtain ⟨third, hend⟩ := Markup.readAs_endTag hlegal.writable.qName.isName
      (written ++ rest) second
    obtain ⟨behind, next, hspells', hreading'⟩ := ih hts hcoalesced hxml hrest third
    refine ⟨⟨offset, .startTag name.qualified read false, first⟩ :: within ++
      ⟨second, .endTag name.qualified, third⟩ :: behind, next, ?_, ?_⟩
    · rw [List.map_append, List.map_cons, List.map_cons]
      exact .element hopens hspells hspells'
    · have hrearrange : '<' :: name.qualified.toList ++ tag ++ tagEnd false ++
          (inside ++ ("</".toList ++ name.qualified.toList ++ ">".toList ++ written)) ++ rest =
          ('<' :: name.qualified.toList ++ tag ++ tagEnd false) ++
            (inside ++ ("</".toList ++ name.qualified.toList ++ ">".toList ++
              (written ++ rest))) := by
        simp only [List.append_assoc]
      rw [hrearrange, Markup.readFrom_append (by simp) hstart, hreading,
        Markup.readFrom_append (by simp) hend, hreading']
      rw [Markup.Reading.behind_behind, Markup.Reading.behind_behind, Markup.Reading.behind_behind]
      simp
  | @empty name attributes ts tag written htag hwrites ih =>
    cases hlegal with | element hlegal _ hts =>
    cases hcoalesced with | cons _ _ _ hcoalesced =>
    obtain ⟨read, first, inner, hstart, hopens, -⟩ := hlegal.exists_readEvent hxml htag true
      (written ++ rest) offset
    obtain ⟨behind, next, hspells, hreading⟩ := ih hts hcoalesced hxml hrest first
    refine ⟨⟨offset, .startTag name.qualified read true, first⟩ :: behind, next,
      .empty hopens hspells, ?_⟩
    rw [List.append_assoc, Markup.readFrom_append (by simp) hstart, hreading,
      Markup.Reading.behind_behind]
    rfl

namespace Document

/-- A document that is written is parsed to the table of its trees. -/
theorem parseText_eq_of_writes {top : List Tree} {text : List Char} (h : LegalDocument top)
    (hwrites : Writes top text) : parseText text = .ok (ofTrees top) := by
  have hrest : ∀ c ∈ ([] : List Char).head?, c = '<' := nofun
  obtain ⟨placed, next, hspells, hreading⟩ :=
    hwrites.exists_reading h.trees h.coalesced rfl hrest 0
  have hend : readFrom ⟨next, []⟩ = ⟨[], .ok next⟩ := by
    rw [readFrom]
    rfl
  rw [List.append_nil, hend, Markup.Reading.behind, List.append_nil] at hreading
  have hread : Markup.readAll text = ⟨placed, .ok next⟩ := hreading
  have hroot : top.any (·.isElement) = true := by
    rw [List.any_eq_true, ← List.countP_pos_iff, h.root]
    exact Nat.zero_lt_one
  have hbuild : buildTrees (Markup.readAll text) = .ok top := by
    rw [hread]
    exact (buildTrees_eq_ok_iff rfl).2
      ⟨hspells, pairwise_mayPrecede h.root.le h.trees.isDoctype_eq_false, hroot⟩
  rw [parseText, ofText_eq, hbuild]
  rfl

/-- **Parsing undoes writing**: a document that can be written can be written, and however it is,
the text is parsed to a document with the same nodes. -/
theorem parseText_of_writes {top : List Tree} (h : LegalDocument top) :
    (∃ text, Writes top text) ∧
      ∀ text, Writes top text → ∃ d, parseText text = .ok d ∧ d.Isomorphic top :=
  ⟨h.trees.exists_writes, fun _ hwrites =>
    ⟨_, parseText_eq_of_writes h hwrites, isomorphic_ofTrees top⟩⟩

/-- An element with a prefix, whose attribute is a tab and whose text is an opening sign. -/
def escapedTree : Tree :=
  .element ⟨"p", "a", "u"⟩
    [⟨⟨"xmlns", "p", Namespace.xmlnsUri⟩, "u", true⟩, ⟨⟨"", "b", ""⟩, "\t", false⟩]
    [.leaf .text "<"]

/-- The text `<p:a xmlns:p="u" b="&#9;">&lt;</p:a>`. -/
def escapedText : List Char :=
  ['<', 'p', ':', 'a', ' ', 'x', 'm', 'l', 'n', 's', ':', 'p', '=', '"', 'u', '"', ' ', 'b', '=',
    '"', '&', '#', '9', ';', '"', '>', '&', 'l', 't', ';', '<', '/', 'p', ':', 'a', '>']

theorem legalDocument_escapedTree : LegalDocument [escapedTree] where
  trees := by
    have hnone := @Name.not_declares ⟨"", "b", ""⟩ (by decide) (by decide)
    refine .element ⟨⟨.inr (by decide), by decide⟩, ⟨nofun, fun _ => rfl⟩, ?_, ?_⟩
      (.leaf rfl (List.forall_mem_singleton.2 rfl) .nil) .nil
    · refine List.forall_mem_cons.2 ⟨?_, List.forall_mem_singleton.2 ?_⟩
      · refine ⟨⟨.inr (by decide), by decide⟩,
          ⟨⟨fun _ => ⟨"p", by decide⟩, fun _ => rfl⟩, fun _ => rfl, nofun, nofun⟩, ?_,
          List.forall_mem_singleton.2 rfl⟩
        intro p hp
        rw [hp.eq_localPart (by decide)]
        exact ⟨by decide, by decide, fun _ => by decide, fun _ => by decide⟩
      · exact ⟨⟨.inl rfl, by decide⟩,
          ⟨⟨nofun, fun h => absurd h.choose_spec (hnone _)⟩, nofun, fun _ _ => rfl, by decide⟩,
          fun p hp => absurd hp (hnone p), List.forall_mem_singleton.2 rfl⟩
    · exact List.pairwise_pair.2 (by decide)
  coalesced := .cons nofun nofun (.cons (fun _ => by decide) nofun .nil .nil) .nil
  root := rfl

theorem writes_escapedTree : Writes [escapedTree] escapedText := by
  have hnine : Markup.Numeral 10 ['9'] '\t'.toNat := .digit (by decide) (.inl rfl)
  have htab : Encodes (Markup.valueSpecials '"') ['&', '#', '9', ';'] ['\t'] :=
    .reference (.decimal hnine (by decide)) .nil
  have hless : Encodes textSpecials ['&', 'l', 't', ';'] ['<'] :=
    .reference (@Markup.Refers.named "lt" _ (by decide)) .nil
  have hu : Encodes (Markup.valueSpecials '"') ['u'] ['u'] :=
    .plain (by decide) (by decide) .nil
  have htag : WritesAttributes [("xmlns:p", "u"), ("b", "\t")] _ :=
    .cons (.inl rfl) hu (.cons (.inl rfl) htab .nil)
  have hcontents : Writes [.leaf .text "<"] _ := .leaf (.text hless) .nil
  exact @Writes.element ⟨"p", "a", "u"⟩ escapedTree.attributes _ [] _ _ _ htag hcontents .nil

/-- An element whose attribute and text are written with references. -/
theorem parseText_of_writes_element :
    LegalDocument [escapedTree] ∧ Writes [escapedTree] escapedText ∧
      ∃ d, parseText escapedText = .ok d ∧ d.Isomorphic [escapedTree] :=
  ⟨legalDocument_escapedTree, writes_escapedTree,
    (parseText_of_writes legalDocument_escapedTree).2 _ writes_escapedTree⟩

end Document

end XmlQuery
