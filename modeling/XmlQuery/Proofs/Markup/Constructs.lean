import XmlQuery.Proofs.Markup.LeafGrammar

/-!
# Reading what was written

Each construct is read back as it was written, whatever follows it: its closing delimiter is the
first that is found, its names end where other characters begin, and its character data is decoded
to what was encoded. Text is the only construct that does not say where it ends, so an opening sign
or the end of the document has to follow it.

## Main definitions

* `ReadAs`: what is written is read as an event
* `WritesAttributes`: the attributes of a tag, as they are written
* `Reading.behind`: a reading behind events

## Main results

* `readAs_text`, `readAs_cdata`, `readAs_comment`, `readAs_instruction`: leaves are read back
* `exists_readEvent_startTag`, `readAs_endTag`: tags are read back
* `readFrom_append`: the reading of a text goes on behind what was read
-/

namespace XmlQuery.Markup

open Text (Cursor utf8Length)

variable {content rest : List Char} {offset : Nat}

/-! ## Names -/

theorem isNameChar_of_isNameStart {c : Char} (h : isNameStart c = true) : isNameChar c = true := by
  simp [isNameChar, h]

theorem isName_of_isNCName {name : List Char} (h : isNCName name = true) : isName name = true := by
  cases name with
  | nil => cases h
  | cons c rest =>
    rw [isNCName, Bool.and_eq_true, List.all_eq_true] at h
    rw [isName, Bool.and_eq_true, List.all_eq_true]
    exact ⟨(Bool.and_eq_true _ _ ▸ h.1).2, fun x hx => (Bool.and_eq_true _ _ ▸ h.2 x hx).2⟩

theorem isName_append {before after : List Char} (hbefore : isNCName before = true)
    (hafter : isNCName after = true) : isName (before ++ ':' :: after) = true := by
  have hname := isName_of_isNCName hbefore
  have hname' := isName_of_isNCName hafter
  cases before with
  | nil => cases hbefore
  | cons c before =>
    cases after with
    | nil => cases hafter
    | cons x after =>
      simp only [isName, List.cons_append, List.all_append, List.all_cons, Bool.and_eq_true] at *
      exact ⟨hname.1, hname.2, by decide, isNameChar_of_isNameStart hname'.1, hname'.2⟩

/-! ## Leaves -/

/-- Wherever it stands in front of a text, what is written is read as an event, and the text is what
is left. -/
def ReadAs (written rest : List Char) (e : Event) : Prop :=
  ∀ offset, ∃ next, readEvent ⟨offset, written ++ rest⟩ = .ok (e, ⟨next, rest⟩)

/-- What is spelled at the front of a text is read, where the reader recognises it. -/
theorem readAs_of_spells {Spells : List Char → Event → Prop} {written : List Char} {e : Event}
    (h : Spells written e) (hrecognises : ∀ offset, Recognises ⟨offset, written ++ rest⟩ Spells) :
    ReadAs written rest e :=
  fun offset => ⟨_, ((hrecognises offset).read_iff _ _).2
    ⟨written, Cursor.takes_mk offset written rest, h⟩⟩

theorem normalizes_self (h : '\r' ∉ content) :
    Normalizes content (String.ofList content).toList := by
  rw [String.toList_ofList]
  exact normalizeNewlines_eq_iff.1 (replaceReturns_of_not_mem h)

/-- A comment is read back. -/
theorem readAs_comment (hchar : ∀ c ∈ content, isChar c = true) (hreturn : '\r' ∉ content)
    (hhyphens : ¬ "--".toList <:+: content) (hlast : content.getLast? ≠ some '-')
    (rest : List Char) :
    ReadAs ("<!--".toList ++ content ++ "-->".toList) rest (.comment (String.ofList content)) := by
  rw [List.append_assoc]
  exact readAs_of_spells
    (.mk (commentText_iff.2 ⟨hchar, hhyphens, hlast⟩) (normalizes_self hreturn))
    fun _ => recognises_comment ⟨_, (List.append_assoc _ _ _).symm⟩

/-- A CDATA section is read back. -/
theorem readAs_cdata (hchar : ∀ c ∈ content, isChar c = true) (hreturn : '\r' ∉ content)
    (hclose : ¬ "]]>".toList <:+: content) (rest : List Char) :
    ReadAs ("<![CDATA[".toList ++ content ++ "]]>".toList) rest
      (.cdata (String.ofList content)) := by
  rw [List.append_assoc]
  exact readAs_of_spells (.mk ⟨hchar, hclose⟩ (normalizes_self hreturn))
    fun _ => recognises_cdata ⟨_, (List.append_assoc _ _ _).symm⟩

/-- Text is read back in front of a tag and at the end. -/
theorem readAs_text {raw text : List Char} (h : Encodes textSpecials raw text) (hne : raw ≠ [])
    (hrest : ∀ c ∈ rest.head?, c = '<') : ReadAs raw rest (.text (String.ofList text)) := by
  have hopening : '<' ∉ raw := h.not_mem_raw (by decide) (by decide)
  have hclosing : '>' ∉ raw := h.not_mem_raw (by decide) (by decide)
  obtain ⟨htake, -⟩ := @Text.takeWhile_dropWhile_append rest (· != '<') raw
    (fun c hc => bne_iff_ne.2 fun heq => hopening (heq ▸ hc))
    (fun c hc => by rw [hrest c hc]; rfl)
  have hdecodes : Decodes .text raw (String.ofList text).toList := by
    rw [String.toList_ofList]
    exact @Encodes.decodes .text _ _ '"' h
  have hspells : SpellsText raw (.text (String.ofList text)) :=
    .mk hopening (fun hoccurs => hclosing (hoccurs.mem (by decide))) hdecodes
  obtain ⟨x, raw', rfl⟩ := List.exists_cons_of_ne_nil hne
  have hx : x ≠ '<' := fun heq => hopening (heq ▸ List.mem_cons_self)
  intro offset
  have hrecognises := @recognises_text ⟨offset, x :: raw' ++ rest⟩ x (raw' ++ rest) rfl hx
  exact ⟨_, (hrecognises.read_iff _ _).2 ⟨_, Cursor.takes_mk offset _ rest, htake.symm, hspells⟩⟩

theorem readAs_instruction_of_spells {target between : List Char}
    (htarget : isNCName target = true) (hxml : target.map Char.toLower ≠ ['x', 'm', 'l'])
    (hbetween : SpellsContent between content) (hchar : ∀ c ∈ content, isChar c = true)
    (hreturn : '\r' ∉ content) (rest : List Char) :
    ReadAs ("<?".toList ++ (target ++ (between ++ "?>".toList))) rest
      (.instruction (String.ofList target) (String.ofList content)) := by
  have hname := isName_of_isNCName htarget
  have hne : target ≠ ['x', 'm', 'l'] := by
    rintro rfl
    exact hxml rfl
  have hspells := spellsInstruction_iff.2 ⟨String.ofList target, String.ofList content, between,
    content, by rw [String.toList_ofList]; exact ⟨hname, hxml⟩, hbetween, hchar,
    normalizes_self hreturn, rfl, rfl⟩
  rw [@String.toList_ofList target] at hspells
  have hassoc : "<?".toList ++ (target ++ (between ++ "?>".toList)) ++ rest =
      "<?".toList ++ (target ++ (between ++ "?>".toList ++ rest)) := by
    rw [List.append_assoc, List.append_assoc target]
  exact readAs_of_spells hspells fun _ => recognises_instruction hassoc hname
    hbetween.not_isNameChar_head? hne

/-- A processing instruction is read back. -/
theorem readAs_instruction {target : List Char} (htarget : isNCName target = true)
    (hxml : target.map Char.toLower ≠ ['x', 'm', 'l']) (hchar : ∀ c ∈ content, isChar c = true)
    (hreturn : '\r' ∉ content) (hclose : ¬ "?>".toList <:+: content)
    (hblank : ∀ c ∈ content.head?, Text.isBlank c = false) (rest : List Char) :
    ReadAs ("<?".toList ++ target ++ ' ' :: content ++ "?>".toList) rest
      (.instruction (String.ofList target) (String.ofList content)) := by
  have hbetween : SpellsContent ([' '] ++ content) content :=
    .mk (List.cons_ne_nil _ _) (by decide) hblank hclose
  rw [List.append_assoc, List.append_assoc]
  exact readAs_instruction_of_spells htarget hxml hbetween hchar hreturn rest

/-- A processing instruction without content is read back. -/
theorem readAs_instruction_nil {target : List Char} (htarget : isNCName target = true)
    (hxml : target.map Char.toLower ≠ ['x', 'm', 'l']) (rest : List Char) :
    ReadAs ("<?".toList ++ target ++ "?>".toList) rest
      (.instruction (String.ofList target) "") := by
  rw [List.append_assoc]
  exact readAs_instruction_of_spells htarget hxml .bare nofun List.not_mem_nil rest

/-! ## Tags -/

/-- The attributes of a tag, with their names as written and their values, behind a blank each. -/
inductive WritesAttributes : List (String × String) → List Char → Prop
  /-- No attribute. -/
  | nil : WritesAttributes [] []
  /-- An attribute, whose value is between quotes. -/
  | cons {name value : String} {quote : Char} {raw written : List Char}
    {attributes : List (String × String)} :
    quote = '"' ∨ quote = '\'' → Encodes (valueSpecials quote) raw value.toList →
    WritesAttributes attributes written →
    WritesAttributes ((name, value) :: attributes)
      (' ' :: name.toList ++ '=' :: quote :: raw ++ quote :: written)

/-- The attributes of a tag are spelled by what is written for them, wherever they start. -/
theorem WritesAttributes.exists_spells {attributes : List (String × String)} {written : List Char}
    (h : WritesAttributes attributes written)
    (hnames : ∀ p ∈ attributes, isName p.1.toList = true) (offset : Nat) :
    ∃ read, read.map (fun a => (a.name, a.value)) = attributes ∧
      SpellsAttributes offset written read := by
  induction h generalizing offset with
  | nil => exact ⟨[], rfl, .nil⟩
  | @cons name value quote raw written attributes hquote hraw _ ih =>
    rw [List.forall_mem_cons] at hnames
    have hmem : quote ∉ raw := by
      refine hraw.not_mem_raw List.mem_cons_self ?_
      rcases hquote with rfl | rfl <;> decide
    have hless : '<' ∉ raw := hraw.not_mem_raw (by simp [valueSpecials, textSpecials]) (by decide)
    have hvalue := SpellsValue.quoted hquote hmem hless (@Encodes.decodes .attribute _ _ _ hraw)
    have hattribute := @SpellsAttribute.mk (offset + utf8Length [' ']) name [] [] _ value hnames.1
      blanks_nil blanks_nil hvalue
    obtain ⟨read, hread, hothers⟩ := ih hnames.2
      (offset + utf8Length ([' '] ++ (name.toList ++ '=' :: quote :: raw ++ [quote])))
    refine ⟨⟨name, value, offset + utf8Length [' ']⟩ :: read, by rw [List.map_cons, hread], ?_⟩
    have hspells := @SpellsAttributes.cons offset [' '] _ written _ read (List.cons_ne_nil _ _)
      (by decide) hattribute
    simp only [List.append_assoc, List.cons_append, List.nil_append] at hspells hothers ⊢
    exact hspells hothers

/-- A start tag is read back, up to the places of its attributes. -/
theorem exists_readEvent_startTag {name : String} {attributes : List (String × String)}
    {written : List Char} (hname : isName name.toList = true)
    (h : WritesAttributes attributes written)
    (hnames : ∀ p ∈ attributes, isName p.1.toList = true) (isEmpty : Bool) (rest : List Char)
    (offset : Nat) :
    ∃ read next, read.map (fun a => (a.name, a.value)) = attributes ∧
      readEvent ⟨offset, '<' :: name.toList ++ written ++ tagEnd isEmpty ++ rest⟩ =
        .ok (.startTag name read isEmpty, ⟨next, rest⟩) := by
  obtain ⟨read, hread, hspells⟩ := h.exists_spells hnames (offset + utf8Length ('<' :: name.toList))
  have htag : SpellsTag offset ('<' :: name.toList ++ (written ++ ([] ++ tagEnd isEmpty))) _ :=
    .inl (.mk hname hspells blanks_nil)
  rw [List.nil_append, ← List.append_assoc] at htag
  exact ⟨read, _, hread, htag.readEvent_eq rest⟩

/-- An end tag is read back. -/
theorem readAs_endTag {name : String} (hname : isName name.toList = true) (rest : List Char) :
    ReadAs ("</".toList ++ name.toList ++ ">".toList) rest (.endTag name) := by
  intro offset
  have htag : SpellsTag offset ('<' :: '/' :: name.toList ++ ([] ++ ['>'])) (.endTag name) :=
    .inr (.mk hname blanks_nil)
  exact ⟨_, htag.readEvent_eq rest⟩

/-! ## Readings -/

/-- A reading, behind events that have been read before. -/
def Reading.behind (placed : List Placed) (reading : Reading) : Reading :=
  ⟨placed ++ reading.events, reading.outcome⟩

theorem Reading.behind_behind (before placed : List Placed) (reading : Reading) :
    (reading.behind placed).behind before = reading.behind (before ++ placed) := by
  rw [behind, behind, behind, List.append_assoc]

/-- The reading of a text goes on behind an event. -/
theorem readFrom_append {written : List Char} {e : Event} {next : Nat} (hne : written ≠ [])
    (h : readEvent ⟨offset, written ++ rest⟩ = .ok (e, ⟨next, rest⟩)) :
    readFrom ⟨offset, written ++ rest⟩ =
      (readFrom ⟨next, rest⟩).behind [⟨offset, e, next⟩] := by
  rw [readFrom, dif_neg (List.append_ne_nil_of_left_ne_nil hne rest)]
  split
  · next herror =>
    rw [h] at herror
    cases herror
  · next hok =>
    rw [h] at hok
    cases hok
    rfl

end XmlQuery.Markup
