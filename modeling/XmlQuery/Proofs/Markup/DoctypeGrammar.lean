import XmlQuery.Proofs.Markup.Characters
import XmlQuery.Proofs.Markup.DoctypeScan

/-!
# The grammar of document type declarations

Document type declarations by the productions of XML, with the items of their internal subsets:
declarations, comments, processing instructions, parameter references and white space. The search
for the closing sign goes over literals and comments as a whole, so whatever stands in them does not
matter. It does not know processing instructions: those are read like the text around them, and a
declaration is read to its end if each of them leaves quotes and brackets as it finds them.

## Main definitions

* `Literal`, `SpellsExternal`, `SubsetItem`, `DoctypeDeclaration`: the productions
* `PassedOver`: text that makes no difference to the search

## Main results

* `Skips.append`: text that ends in a closing sign, in front of other text
* `DoctypeDeclaration.spellsDoctype`: the search goes over a declaration
* `readEvent_doctypeDeclaration`: **a declaration is read exactly to its end**
* `readEvent_instruction_with_apostrophe`: one that is not, as a quote is left open
-/

namespace XmlQuery.Markup

open Text (Cursor utf8Length)

variable {depth : Nat} {t u : List Char}

/-! ## Productions -/

/-- A quoted literal: legal characters between quotes of one kind that do not occur inside. -/
inductive Literal : List Char → Prop
  /-- Text in single or double quotes. -/
  | mk {quote : Char} {text : List Char} : quote = '"' ∨ quote = '\'' → quote ∉ text →
    (∀ x ∈ text, isChar x = true) → Literal (quote :: (text ++ [quote]))

/-- The identifier of an external subset with white space in front, or nothing. -/
inductive SpellsExternal : List Char → Prop
  /-- No identifier. -/
  | none : SpellsExternal []
  /-- A system identifier. -/
  | systemId {before space system : List Char} : before ≠ [] → Blanks before → space ≠ [] →
    Blanks space → Literal system →
    SpellsExternal (before ++ ("SYSTEM".toList ++ (space ++ system)))
  /-- A public identifier and a system identifier. -/
  | publicId {before space identifier between system : List Char} : before ≠ [] → Blanks before →
    space ≠ [] → Blanks space → Literal identifier → between ≠ [] → Blanks between →
    Literal system → SpellsExternal
      (before ++ ("PUBLIC".toList ++ (space ++ (identifier ++ (between ++ system)))))

/-- The keywords of declarations in an internal subset. -/
def declarationKeywords : List String := ["ELEMENT", "ATTLIST", "ENTITY", "NOTATION"]

/-- What stands in a declaration behind its keyword: names, signs and white space without brackets,
and literals. -/
inductive DeclarationText : List Char → Prop
  /-- No character. -/
  | nil : DeclarationText []
  /-- A legal character that is no quote and no bracket. -/
  | plain {x : Char} {text : List Char} : isChar x = true → x ∉ steering → x ≠ '<' → x ≠ '>' →
    DeclarationText text → DeclarationText (x :: text)
  /-- A literal. -/
  | literal {quoted text : List Char} : Literal quoted → DeclarationText text →
    DeclarationText (quoted ++ text)

/-- An item of an internal subset. -/
inductive SubsetItem : List Char → Prop
  /-- White space. -/
  | space {x : Char} : Text.isBlank x = true → SubsetItem [x]
  /-- A reference to a parameter entity. -/
  | reference {name : List Char} : isName name = true → SubsetItem ('%' :: (name ++ [';']))
  /-- A declaration of an element type, of attributes, of an entity or of a notation. -/
  | declaration {keyword : String} {x : Char} {text : List Char} : keyword ∈ declarationKeywords →
    Text.isBlank x = true → DeclarationText text →
    SubsetItem ("<!".toList ++ (keyword.toList ++ (x :: (text ++ ['>']))))
  /-- A comment. -/
  | comment {item : List Char} {e : Event} : SpellsComment item e → SubsetItem item
  /-- A processing instruction. -/
  | instruction {item : List Char} {e : Event} : SpellsInstruction item e → SubsetItem item

/-- An internal subset with its items, or nothing. -/
inductive SpellsSubset : (items : List (List Char)) → List Char → Prop
  /-- No internal subset. -/
  | none : SpellsSubset [] []
  /-- Items in brackets, with white space behind. -/
  | mk {items : List (List Char)} {space : List Char} : (∀ item ∈ items, SubsetItem item) →
    Blanks space → SpellsSubset items ('[' :: (items.flatten ++ (']' :: space)))

/-- A document type declaration without the signs around it, with the items of its internal
subset. -/
inductive DoctypeDeclaration : (items : List (List Char)) → List Char → Prop
  /-- The keyword, the name of the root element, an external identifier and an internal subset. -/
  | mk {items : List (List Char)} {space name external behind subset : List Char} : space ≠ [] →
    Blanks space → isName name = true → SpellsExternal external → Blanks behind →
    SpellsSubset items subset → DoctypeDeclaration items
      ("DOCTYPE".toList ++ (space ++ (name ++ (external ++ (behind ++ subset)))))

/-! ## Text that makes no difference -/

/-- Legal characters that make no difference to a search at some depth of brackets. -/
structure PassedOver (depth : Nat) (t : List Char) : Prop where
  /-- All characters are legal. -/
  legal : ∀ x ∈ t, isChar x = true
  /-- What can be gone over behind them can be gone over in front of them. -/
  skips : ∀ s depth', Skips depth s depth' → Skips depth (t ++ s) depth'

theorem isChar_of_isBlank {x : Char} (h : Text.isBlank x = true) : isChar x = true := by
  simp only [Text.isBlank, Bool.or_eq_true, beq_iff_eq] at h
  rcases h with ((rfl | rfl) | rfl) | rfl <;> decide

theorem isNameChar_of_isName (h : isName t = true) : ∀ x ∈ t, isNameChar x = true := by
  cases t with
  | nil => nofun
  | cons first others =>
    rw [isName, Bool.and_eq_true, List.all_eq_true] at h
    refine List.forall_mem_cons.2 ⟨?_, h.2⟩
    simp only [isNameChar, h.1, Bool.true_or]

namespace PassedOver

theorem nil : PassedOver depth [] := ⟨nofun, fun _ _ h => h⟩

theorem append (ht : PassedOver depth t) (hu : PassedOver depth u) : PassedOver depth (t ++ u) := by
  refine ⟨List.forall_mem_append.2 ⟨ht.legal, hu.legal⟩, fun s depth' h => ?_⟩
  rw [List.append_assoc]
  exact ht.skips _ _ (hu.skips _ _ h)

theorem flatten {items : List (List Char)} (h : ∀ item ∈ items, PassedOver depth item) :
    PassedOver depth items.flatten := by
  induction items with
  | nil => exact nil
  | cons item items ih =>
    obtain ⟨hitem, hitems⟩ := List.forall_mem_cons.1 h
    exact hitem.append (ih hitems)

/-- Characters that steer nothing are passed over, one by one. -/
theorem of_plain (h : ∀ x ∈ t, isChar x = true ∧ x ∉ steering ∧ x ≠ '<' ∧ x ≠ '>') :
    PassedOver depth t := by
  refine ⟨fun x hx => (h x hx).1, fun s depth' hs => ?_⟩
  induction t with
  | nil => exact hs
  | cons x t ih =>
    obtain ⟨⟨-, hsteering, hless, hgreater⟩, ht⟩ := List.forall_mem_cons.1 h
    exact .plain hsteering (fun heq => absurd heq hgreater) (fun heq => absurd heq hless) (ih ht)

/-- So are characters of a class in which no character is that steers. -/
theorem of_class {p : Char → Bool} (hp : ('<' :: '>' :: steering).any p = false)
    (hchar : ∀ x, p x = true → isChar x = true) (h : ∀ x ∈ t, p x = true) : PassedOver depth t :=
  .of_plain fun x hx => ⟨hchar x (h x hx), not_mem_steering hp (h x hx)⟩

theorem blanks (h : Blanks t) : PassedOver depth t :=
  .of_class rfl (fun _ => isChar_of_isBlank) h

theorem name (h : isName t = true) : PassedOver depth t :=
  .of_class rfl (fun _ => isChar_of_isNameChar) (isNameChar_of_isName h)

theorem literal (h : Literal t) : PassedOver depth t := by
  cases h with
  | @mk quote text hquote hnot hchars =>
    have hchar : isChar quote = true := by rcases hquote with rfl | rfl <;> rfl
    refine ⟨List.forall_mem_cons.2 ⟨hchar, List.forall_mem_append.2
      ⟨hchars, List.forall_mem_singleton.2 hchar⟩⟩, fun s depth' h => ?_⟩
    rw [List.cons_append, List.append_assoc]
    exact .literal hquote hnot h

theorem comment {e : Event} (h : SpellsComment t e) : PassedOver depth t := by
  cases h with
  | mk hcontent =>
    obtain ⟨hchars, hhyphens, -⟩ := commentText_iff.1 hcontent
    refine ⟨List.forall_mem_append.2 ⟨List.all_eq_true.1 rfl, List.forall_mem_append.2
      ⟨hchars, List.all_eq_true.1 rfl⟩⟩, fun s depth' h => ?_⟩
    rw [List.append_assoc, List.append_assoc]
    exact .comment (fun hoccurs => hhyphens (.trans ⟨[], ['>'], rfl⟩ hoccurs)) h

theorem external (h : SpellsExternal t) : PassedOver depth t := by
  cases h with
  | none => exact nil
  | systemId _ hbefore _ hspace hsystem =>
    exact (blanks hbefore).append ((name (by decide)).append
      ((blanks hspace).append (literal hsystem)))
  | publicId _ hbefore _ hspace hidentifier _ hbetween hsystem =>
    exact (blanks hbefore).append ((name (by decide)).append ((blanks hspace).append
      ((literal hidentifier).append ((blanks hbetween).append (literal hsystem)))))

theorem declarationText (h : DeclarationText t) : PassedOver depth t := by
  induction h with
  | nil => exact nil
  | plain hchar hsteering hless hgreater _ ih =>
    exact append (of_plain (List.forall_mem_singleton.2 ⟨hchar, hsteering, hless, hgreater⟩)) ih
  | literal hquoted _ ih => exact (literal hquoted).append ih

/-- In brackets the signs of a declaration make no difference, if no hyphen follows the opening
one. -/
theorem signs {x : Char} (hdepth : depth ≠ 0) (hx : x ≠ '-') (ht : PassedOver depth (x :: t)) :
    PassedOver depth ("<!".toList ++ (x :: t ++ ['>'])) := by
  refine ⟨List.forall_mem_append.2 ⟨List.all_eq_true.1 rfl, List.forall_mem_append.2
    ⟨ht.legal, List.forall_mem_singleton.2 rfl⟩⟩, fun s depth' h => ?_⟩
  have hcomment : ¬ "!--".toList <+: '!' :: (x :: t ++ ['>'] ++ s) := fun hprefix =>
    hx (List.cons_prefix_cons.1 (List.cons_prefix_cons.1 hprefix).2).1.symm
  have hclose : Skips depth ('>' :: s) depth' :=
    .plain (by decide) (fun _ => hdepth) nofun h
  have hinner := ht.skips _ _ hclose
  rw [List.append_assoc, List.append_assoc]
  refine .plain (by decide) nofun (fun _ => ?_) (.plain (by decide) nofun nofun hinner)
  rwa [List.append_assoc] at hcomment

theorem declaration {keyword : String} {x : Char} (hdepth : depth ≠ 0)
    (hkeyword : keyword ∈ declarationKeywords) (hx : Text.isBlank x = true)
    (ht : DeclarationText t) :
    PassedOver depth ("<!".toList ++ (keyword.toList ++ (x :: (t ++ ['>'])))) := by
  obtain ⟨y, others, hkeyword, hname, hy⟩ : ∃ y others, keyword.toList = y :: others ∧
      isName (y :: others) = true ∧ y ≠ '-' := by
    simp only [declarationKeywords, List.mem_cons, List.not_mem_nil, or_false] at hkeyword
    rcases hkeyword with rfl | rfl | rfl | rfl <;> exact ⟨_, _, rfl, by decide, by decide⟩
  have hspace : PassedOver depth [x] := blanks (List.forall_mem_singleton.2 hx)
  have hinner : PassedOver depth (y :: (others ++ x :: t)) :=
    (name hname).append (hspace.append (declarationText ht))
  have hsigns := signs hdepth hy hinner
  rw [List.cons_append, List.append_assoc, List.cons_append] at hsigns
  rw [hkeyword]
  exact hsigns

end PassedOver

/-! ## Processing instructions -/

/-- Text that ends in a closing sign, if it ends at all, can be followed by any other: no comment
starts inside of it and ends behind it. By induction on what is gone over. -/
theorem Skips.append {depth' depth'' : Nat} (h : Skips depth t depth')
    (hlast : ∀ x ∈ t.getLast?, x = '>') (hu : Skips depth' u depth'') :
    Skips depth (t ++ u) depth'' := by
  have hbehind : ∀ {whole t : List Char} (front : List Char), whole = front ++ t →
      (∀ x ∈ whole.getLast?, x = '>') → ∀ x ∈ t.getLast?, x = '>' := by
    rintro _ t front rfl hlast x hx
    exact hlast x (List.mem_getLast?_append_of_mem_getLast? hx)
  induction h with
  | nil => exact hu
  | @literal _ _ quote text s hquote hnot _ ih =>
    rw [List.cons_append, List.append_assoc, List.cons_append]
    exact .literal hquote hnot (ih (hbehind (quote :: (text ++ [quote])) (by simp) hlast) hu)
  | @comment _ _ text s hnot _ ih =>
    rw [List.append_assoc, List.append_assoc, List.append_assoc]
    have hs : ∀ x ∈ s.getLast?, x = '>' := hbehind ("<!--".toList ++ text ++ "-->".toList)
      (by simp only [List.append_assoc]) hlast
    exact .comment hnot (ih hs hu)
  | opening _ ih => exact .opening (ih (hbehind ['['] rfl hlast) hu)
  | closing _ ih => exact .closing (ih (hbehind [']'] rfl hlast) hu)
  | @plain _ _ x s hx hsign hcomment _ ih =>
    have hs := hbehind [x] rfl hlast
    refine .plain hx hsign (fun heq hstarts => ?_) (ih hs hu)
    rcases List.eq_nil_or_concat s with rfl | ⟨others, y, hconcat⟩
    · -- Nothing follows an opening sign, which then is the last character.
      rw [heq] at hlast
      exact absurd (hlast '<' rfl) (by decide)
    · rw [List.concat_eq_append] at hconcat
      have hy : y = '>' := hs y (by simp [hconcat])
      change "!--".toList <+: s ++ u at hstarts
      rw [hconcat, hy, List.append_assoc, List.singleton_append,
        isPrefix_append_cons_iff (by decide)] at hstarts
      rw [hconcat] at hcomment
      exact hcomment heq (hstarts.trans (List.prefix_append _ _))

/-- An instruction consists of legal characters and ends in a closing sign. -/
theorem SpellsInstruction.legal {e : Event} (h : SpellsInstruction t e) :
    (∀ x ∈ t, isChar x = true) ∧ ∀ x ∈ t.getLast?, x = '>' := by
  obtain ⟨target, data, between, content, htarget, hbetween, hchars, -, rfl, -⟩ :=
    spellsInstruction_iff.1 h
  have hbetween : ∀ x ∈ between, isChar x = true := by
    cases hbetween with
    | bare => nofun
    | mk _ hspace =>
      exact List.forall_mem_append.2 ⟨fun x hx => isChar_of_isBlank (hspace x hx), hchars⟩
  have hname : ∀ x ∈ target.toList, isChar x = true := fun x hx =>
    isChar_of_isNameChar (isNameChar_of_isName htarget.1 x hx)
  constructor
  · exact List.forall_mem_append.2 ⟨List.all_eq_true.1 rfl, List.forall_mem_append.2
      ⟨hname, List.forall_mem_append.2 ⟨hbetween, List.all_eq_true.1 rfl⟩⟩⟩
  · rintro x hx
    rw [← List.append_assoc, ← List.append_assoc,
      List.getLast?_append_of_ne_nil _ (by decide)] at hx
    exact (Option.mem_some_iff.1 hx).symm

theorem SpellsInstruction.opening {e : Event} (h : SpellsInstruction t e) : "<?".toList <+: t := by
  cases h <;> exact List.prefix_append _ _

theorem PassedOver.instruction {e : Event} (h : SpellsInstruction t e)
    (hskips : Skips depth t depth) : PassedOver depth t :=
  ⟨h.legal.1, fun _ _ hs => hskips.append h.legal.2 hs⟩

/-- An instruction without quotes, brackets and openings of comments leaves all as it is. -/
theorem skips_of_plain (hdepth : depth ≠ 0) (hsteering : ∀ x ∈ t, x ∉ steering)
    (hcomment : ¬ "<!--".toList <:+: t) : Skips depth t depth := by
  induction t with
  | nil => exact .nil
  | cons x t ih =>
    obtain ⟨hx, ht⟩ := List.forall_mem_cons.1 hsteering
    refine .plain hx (fun _ => hdepth) (fun heq hprefix => hcomment ?_)
      (ih ht fun hoccurs => hcomment (hoccurs.trans (List.suffix_cons x t).isInfix))
    rw [heq]
    exact (List.cons_prefix_cons.2 ⟨rfl, hprefix⟩).isInfix

/-! ## Declarations -/

theorem SubsetItem.passedOver {item : List Char} (h : SubsetItem item) (hdepth : depth ≠ 0)
    (hinstruction : (∃ e, SpellsInstruction item e) → Skips depth item depth) :
    PassedOver depth item := by
  cases h with
  | space hx => exact .blanks (List.forall_mem_singleton.2 hx)
  | reference hname =>
    have hsigns : ∀ x, x = '%' ∨ x = ';' → PassedOver depth [x] := by
      rintro x (rfl | rfl) <;> exact .of_plain (List.forall_mem_singleton.2 (by decide))
    exact (hsigns '%' (.inl rfl)).append ((PassedOver.name hname).append (hsigns ';' (.inr rfl)))
  | declaration hkeyword hx ht => exact .declaration hdepth hkeyword hx ht
  | comment hcomment => exact .comment hcomment
  | instruction h => exact .instruction h (hinstruction ⟨_, h⟩)

/-- Brackets with items that make no difference in them lead back to where they open. -/
theorem SpellsSubset.skips {items : List (List Char)} {subset : List Char}
    (h : SpellsSubset items subset) (hitems : ∀ item ∈ items, SubsetItem item →
      PassedOver 1 item) : (∀ x ∈ subset, isChar x = true) ∧ Skips 0 subset 0 := by
  cases h with
  | none => exact ⟨nofun, .nil⟩
  | mk hsubset hspace =>
    have hwithin := PassedOver.flatten fun item hitem => hitems item hitem (hsubset item hitem)
    have hbehind : PassedOver 0 _ := .blanks hspace
    have hend : Skips 0 _ 0 := hbehind.skips [] 0 .nil
    rw [List.append_nil] at hend
    exact ⟨List.forall_mem_cons.2 ⟨rfl, List.forall_mem_append.2 ⟨hwithin.legal,
      List.forall_mem_cons.2 ⟨rfl, hbehind.legal⟩⟩⟩, .opening (hwithin.skips _ _ (.closing hend))⟩

/-- **The search goes over a declaration** whose instructions leave quotes and brackets as they find
them. -/
theorem DoctypeDeclaration.spellsDoctype {items : List (List Char)} {body : List Char}
    (h : DoctypeDeclaration items body)
    (hinstructions : ∀ item ∈ items, (∃ e, SpellsInstruction item e) → Skips 1 item 1) :
    SpellsDoctype ("<!".toList ++ (body ++ ['>'])) (.doctype (String.ofList body)) := by
  cases h with
  | @mk space name external behind subset hne hspace hname hexternal hbehind hsubset =>
    obtain ⟨hlegal, hskips⟩ := hsubset.skips fun item hitem hspells =>
      hspells.passedOver Nat.one_ne_zero (hinstructions item hitem)
    have hfront : PassedOver 0 (space ++ (name ++ (external ++ behind))) :=
      (PassedOver.blanks hspace).append ((PassedOver.name hname).append
        ((PassedOver.external hexternal).append (.blanks hbehind)))
    have hwhole := hfront.skips _ _ hskips
    simp only [List.append_assoc] at hwhole
    have hchars : ∀ x ∈ "DOCTYPE".toList ++ (space ++ (name ++ (external ++ (behind ++ subset)))),
        isChar x = true := by
      refine List.forall_mem_append.2 ⟨List.all_eq_true.1 rfl, ?_⟩
      have hall := List.forall_mem_append.2 ⟨hfront.legal, hlegal⟩
      simpa only [List.append_assoc] using hall
    have hhead : (space ++ (name ++ (external ++ (behind ++ subset)))).head?.any Text.isBlank =
        true := by
      obtain ⟨x, space, rfl⟩ := List.exists_cons_of_ne_nil hne
      exact hspace x List.mem_cons_self
    obtain ⟨body, htoList⟩ : ∃ body : String, body.toList =
        "DOCTYPE".toList ++ (space ++ (name ++ (external ++ (behind ++ subset)))) :=
      ⟨.ofList _, String.toList_ofList⟩
    rw [← htoList] at hchars ⊢
    rw [String.ofList_toList]
    exact .mk htoList hhead hwhole hchars

/-- **A document type declaration is read exactly to its end.** Whatever stands behind a
declaration, the reader finds the text between the opening signs and the closing sign, and goes to
the place behind the latter. Literals, comments and declarations in it may hold any signs; each
processing instruction has to leave quotes and brackets as it finds them. -/
theorem readEvent_doctypeDeclaration {items : List (List Char)} {body : List Char}
    (h : DoctypeDeclaration items body)
    (hinstructions : ∀ item ∈ items, (∃ e, SpellsInstruction item e) → Skips 1 item 1)
    (offset : Nat) (rest : List Char) :
    readEvent ⟨offset, "<!".toList ++ (body ++ '>' :: rest)⟩ =
      .ok (.doctype (String.ofList body),
        ⟨offset + utf8Length ("<!".toList ++ (body ++ ['>'])), rest⟩) := by
  have hspells := h.spellsDoctype hinstructions
  have htext : "<!".toList ++ (body ++ '>' :: rest) = "<!".toList ++ (body ++ ['>']) ++ rest := by
    simp only [List.append_assoc, List.singleton_append]
  have hkeyword : "<!DOCTYPE".toList <+: "<!".toList ++ (body ++ '>' :: rest) := by
    cases h with
    | mk => exact ⟨_, by simp only [List.append_assoc]; rfl⟩
  refine ((recognises_doctype (c := ⟨offset, _⟩) hkeyword).read_iff _ _).2 ⟨_, ?_, hspells⟩
  rw [htext]
  exact Cursor.takes_mk _ _ _

/-- A declaration with closing signs, brackets and quotes in a literal, in a comment and between the
quotes of an instruction. -/
theorem readEvent_doctypeDeclaration_signs :
    readEvent ⟨3, "<!DOCTYPE r [<!ENTITY e ']>'><!--it's]--><?p \"]>\"?>%q; ]><r/>".toList⟩ =
      .ok (.doctype "DOCTYPE r [<!ENTITY e ']>'><!--it's]--><?p \"]>\"?>%q; ]",
        ⟨60, "<r/>".toList⟩) := by
  have hliteral : Literal "']>'".toList := @Literal.mk '\'' "]>".toList (.inr rfl) (by decide)
    (List.all_eq_true.1 rfl)
  have hentity : SubsetItem "<!ENTITY e ']>'>".toList :=
    @SubsetItem.declaration "ENTITY" ' ' "e ']>'".toList (by decide) rfl
      (.plain rfl (by decide) (by decide) (by decide)
        (.plain rfl (by decide) (by decide) (by decide)
          (@DeclarationText.literal _ [] hliteral .nil)))
  have hcomment : SpellsComment "<!--it's]-->".toList (.comment "it's]") :=
    @SpellsComment.mk "it's]".toList _ (commentText_of (List.all_eq_true.1 rfl) (by decide)
      (by decide)) (ofList_normalizeNewlines_eq_iff.1 (by decide))
  have hinstruction : SpellsInstruction "<?p \"]>\"?>".toList (.instruction "p" "\"]>\"") :=
    @SpellsInstruction.mk "p" _ [' '] "\"]>\"".toList ⟨by decide, by decide⟩ (by decide) (by decide)
      ⟨List.all_eq_true.1 rfl, by decide⟩ (ofList_normalizeNewlines_eq_iff.1 (by decide))
  have hquoted : Literal "\"]>\"".toList := @Literal.mk '"' "]>".toList (.inl rfl) (by decide)
    (List.all_eq_true.1 rfl)
  have htarget : PassedOver 1 "?p ".toList := .of_plain (List.forall_mem_cons.2 ⟨by decide,
    List.forall_mem_cons.2 ⟨by decide, List.forall_mem_singleton.2 (by decide)⟩⟩)
  have hclose : Skips 1 "?>".toList 1 := skips_of_plain (by decide) (List.forall_mem_cons.2
    ⟨by decide, List.forall_mem_singleton.2 (by decide)⟩) (by decide)
  have hskips : Skips 1 "<?p \"]>\"?>".toList 1 :=
    .plain (by decide) nofun (fun _ => by decide)
      (htarget.skips _ _ ((PassedOver.literal hquoted).skips _ _ hclose))
  have hitems : ∀ item ∈ ["<!ENTITY e ']>'>".toList, "<!--it's]-->".toList,
      "<?p \"]>\"?>".toList, "%q;".toList, [' ']], SubsetItem item :=
    List.forall_mem_cons.2 ⟨hentity, List.forall_mem_cons.2 ⟨.comment hcomment,
      List.forall_mem_cons.2 ⟨.instruction hinstruction, List.forall_mem_cons.2
        ⟨@SubsetItem.reference ['q'] (by decide), List.forall_mem_singleton.2 (.space rfl)⟩⟩⟩⟩
  have hdeclaration : DoctypeDeclaration
      ["<!ENTITY e ']>'>".toList, "<!--it's]-->".toList, "<?p \"]>\"?>".toList, "%q;".toList, [' ']]
      "DOCTYPE r [<!ENTITY e ']>'><!--it's]--><?p \"]>\"?>%q; ]".toList :=
    @DoctypeDeclaration.mk _ [' '] ['r'] [] [' '] _ (by decide) (by decide) (by decide) .none
      (by decide) (@SpellsSubset.mk _ [] hitems blanks_nil)
  have hinstructions : ∀ item ∈ ["<!ENTITY e ']>'>".toList, "<!--it's]-->".toList,
      "<?p \"]>\"?>".toList, "%q;".toList, [' ']], (∃ e, SpellsInstruction item e) →
        Skips 1 item 1 := by
    rintro item hitem ⟨e, hspells⟩
    have hopening := hspells.opening
    simp only [List.mem_cons, List.not_mem_nil, or_false] at hitem
    rcases hitem with rfl | rfl | rfl | rfl | rfl
    case inr.inr.inl => exact hskips
    all_goals exact absurd hopening (by decide)
  exact readEvent_doctypeDeclaration hdeclaration hinstructions 3 "<r/>".toList

/-- A quote in an instruction is taken for that of a literal: the declaration is one by the grammar,
and its end is not found. -/
theorem readEvent_instruction_with_apostrophe :
    DoctypeDeclaration ["<?p it's?>".toList] "DOCTYPE r [<?p it's?>]".toList ∧
      readEvent ⟨0, "<!".toList ++ ("DOCTYPE r [<?p it's?>]".toList ++ '>' :: "<r/>".toList)⟩ =
        .error ⟨⟨0, .unexpectedEof⟩, 10⟩ := by
  have hinstruction : SpellsInstruction "<?p it's?>".toList (.instruction "p" "it's") :=
    @SpellsInstruction.mk "p" _ [' '] "it's".toList ⟨by decide, by decide⟩ (by decide) (by decide)
      ⟨List.all_eq_true.1 rfl, by decide⟩ (ofList_normalizeNewlines_eq_iff.1 (by decide))
  refine ⟨?_, by with_unfolding_all rfl⟩
  exact @DoctypeDeclaration.mk _ [' '] ['r'] [] [' '] _ (by decide) (by decide) (by decide) .none
    (by decide) (@SpellsSubset.mk ["<?p it's?>".toList] []
      (List.forall_mem_singleton.2 (.instruction hinstruction)) blanks_nil)

end XmlQuery.Markup
