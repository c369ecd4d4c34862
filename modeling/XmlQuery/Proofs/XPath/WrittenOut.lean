import XmlQuery.Proofs.XPath.Abbreviations
import XmlQuery.Proofs.XPath.Spacing

/-!
# Expressions without abbreviations

The tokens of an expression some of whose abbreviations are written out are again those of a text:
the words of the other tokens are those they had, since nothing that a word depends on is changed.
What stands for an abbreviation leaves an operand behind it just if the abbreviation does, and
neither of them starts with a sign that tells what kind of name is in front of it. So there are
texts for all such tokens, and they are parsed to the same expression.

## Main results

* `exists_spelledFrom_of_expanded`: the words of what is written out
* `parse_expanded`: **abbreviations are pure syntax**
-/

namespace XmlQuery.XPath

open Grammar

variable {afterOperand : Bool} {place : Place} {t : Token} {ts ts' us : List Token}
  {next next' : Option Token} {rest words : List Spelling}

/-! ## Words -/

/-- Two next tokens are alike for the names in front of them. -/
structure SameNext (next next' : Option Token) : Prop where
  /-- Both or none of them is an opening parenthesis. -/
  paren : next = some .leftParen ↔ next' = some .leftParen
  /-- Both or none of them is two colons. -/
  colons : next = some .doubleColon ↔ next' = some .doubleColon

theorem SameNext.refl (next : Option Token) : SameNext next next := ⟨Iff.rfl, Iff.rfl⟩

/-- An operand has ended at a place just if nothing is missing there. -/
theorem after_beq_nothing (place : Place) (t : Token) :
    (place.after t == .nothing) = t.endsOperand (place == .nothing) := by
  unfold Place.after
  split
  · rfl
  · rfl
  · rfl
  · cases t.endsOperand (place == .nothing) <;> rfl

theorem spells_axis (axis : Axis) :
    Spells afterOperand (some .doubleColon) (.axis axis.name) axis.name.toList := by
  have htoken : nameToken (some .doubleColon) (String.ofList axis.name.toList) = .axis axis.name :=
    congrArg Token.axis String.ofList_toList
  have hnames : Names afterOperand axis.name.toList := by
    cases axis
    all_goals exact ⟨by decide, fun _ => rfl⟩
  rw [← htoken]
  exact .name hnames

theorem spells_node :
    Spells afterOperand (some .leftParen) (.nodeType "node") "node".toList := by
  have htoken : nameToken (some .leftParen) (String.ofList "node".toList) = .nodeType "node" := rfl
  have hnames : Names afterOperand "node".toList := ⟨by decide, fun _ => rfl⟩
  rw [← htoken]
  exact .name hnames

/-- The words of a step to any node. -/
def anyNodeWords (axis : Axis) : List Spelling :=
  [⟨.axis axis.name, axis.name.toList⟩, ⟨.doubleColon, [':', ':']⟩,
    ⟨.nodeType "node", "node".toList⟩, ⟨.leftParen, ['(']⟩, ⟨.rightParen, [')']⟩]

/-- A step to any node can be written anywhere. -/
theorem spelledFrom_anyNode (axis : Axis) (h : SpelledFrom true rest) :
    SpelledFrom afterOperand (anyNodeWords axis ++ rest) :=
  ⟨spells_axis axis, spells_sign rfl, spells_node, spells_sign rfl, spells_sign rfl, h⟩

/-- The words of what an abbreviation stands for, in front of the words behind it. -/
theorem exists_spelledFrom_of_expansion {w : Spelling} (h : w.token.expansion? place = some us)
    (hword : Spells (place == .nothing) next w.token w.word)
    (hrest : SpelledFrom ((place.after w.token) == .nothing) rest)
    (hnext : SameNext next (nextToken rest)) :
    ∃ words, words.map (·.token) = us ++ rest.map (·.token) ∧
      SpelledFrom (place == .nothing) words ∧ SameNext (some w.token) (nextToken words) := by
  obtain ⟨t, word⟩ := w
  dsimp only at h hword hrest ⊢
  obtain ⟨rfl, rfl⟩ | ⟨rfl, rfl⟩ | ⟨rfl, rfl⟩ | ⟨rfl, rfl⟩ | ⟨htest, rfl, rfl⟩ := expansion?_cases h
  · exact ⟨anyNodeWords .self ++ rest, rfl, spelledFrom_anyNode .self hrest,
      ⟨iff_of_false nofun nofun, iff_of_false nofun nofun⟩⟩
  · exact ⟨anyNodeWords .parent ++ rest, rfl, spelledFrom_anyNode .parent hrest,
      ⟨iff_of_false nofun nofun, iff_of_false nofun nofun⟩⟩
  · exact ⟨⟨.axis Axis.attribute.name, Axis.attribute.name.toList⟩ ::
        ⟨.doubleColon, [':', ':']⟩ :: rest, rfl, ⟨spells_axis .attribute, spells_sign rfl, hrest⟩,
      ⟨iff_of_false nofun nofun, iff_of_false nofun nofun⟩⟩
  · exact ⟨⟨.slash, ['/']⟩ :: (anyNodeWords .descendantOrSelf ++ ⟨.slash, ['/']⟩ :: rest), rfl,
      ⟨spells_sign rfl, spelledFrom_anyNode .descendantOrSelf ⟨spells_sign rfl, hrest⟩⟩,
      ⟨iff_of_false nofun nofun, iff_of_false nofun nofun⟩⟩
  · rw [after_beq_nothing] at hrest
    have ht : t ≠ .leftParen ∧ t ≠ .doubleColon := by
      constructor
      · rintro rfl
        cases htest
      · rintro rfl
        cases htest
    exact ⟨⟨.axis Axis.child.name, Axis.child.name.toList⟩ :: ⟨.doubleColon, [':', ':']⟩ ::
        ⟨t, word⟩ :: rest, rfl,
      ⟨spells_axis .child, spells_sign rfl, hword.congr_next hnext.paren hnext.colons, hrest⟩,
      ⟨iff_of_false (fun h => ht.1 (Option.some.inj h)) nofun,
        iff_of_false (fun h => ht.2 (Option.some.inj h)) nofun⟩⟩

/-- **The words of what is written out**, by induction on the tokens: the words behind a token are
found first. -/
theorem exists_spelledFrom_of_expanded (h : Expanded place ts ts')
    (hwords : words.map (·.token) = ts) (hspelled : SpelledFrom (place == .nothing) words) :
    ∃ words', words'.map (·.token) = ts' ∧ SpelledFrom (place == .nothing) words' ∧
      SameNext (nextToken words) (nextToken words') := by
  induction h generalizing words with
  | nil =>
    obtain rfl := List.map_eq_nil_iff.1 hwords
    exact ⟨[], rfl, trivial, .refl none⟩
  | @keep place t ts ts' _ ih =>
    obtain ⟨w, rest, rfl, rfl, hrest⟩ := List.map_eq_cons_iff.1 hwords
    obtain ⟨hword, hspelled⟩ := hspelled
    rw [← after_beq_nothing] at hspelled
    obtain ⟨rest', hrest', hspelled', hnext⟩ := ih hrest hspelled
    rw [after_beq_nothing] at hspelled'
    exact ⟨w :: rest', congrArg (w.token :: ·) hrest',
      ⟨hword.congr_next hnext.paren hnext.colons, hspelled'⟩, .refl _⟩
  | @expand place t us ts ts' hus _ ih =>
    obtain ⟨w, rest, rfl, rfl, hrest⟩ := List.map_eq_cons_iff.1 hwords
    obtain ⟨hword, hspelled⟩ := hspelled
    rw [← after_beq_nothing] at hspelled
    obtain ⟨rest', hrest', hspelled', hnext⟩ := ih hrest hspelled
    rw [← hrest']
    exact exists_spelledFrom_of_expansion hus hword hspelled' hnext

/-! ## Texts -/

theorem separated_of_forall {pieces : List Piece} (h : ∀ p ∈ pieces, p.gap ≠ []) :
    Separated pieces := by
  induction pieces with
  | nil => trivial
  | cons p rest ih =>
    rw [List.forall_mem_cons] at h
    exact ⟨fun _ => h.1, ih h.2⟩

/-- There is a text for tokens with words. -/
theorem exists_text_of_spelledFrom (h : SpelledFrom false words) :
    ∃ text : String, (tokenize text.toList).fault = none ∧
      (tokenize text.toList).tokens = words.map (·.token) := by
  -- A blank behind each word keeps it apart from the next one.
  let pieces : List Piece := words.map fun w => ⟨w, [' ']⟩
  have hwords : pieces.map (·.toSpelling) = words := by
    rw [List.map_map]
    exact List.map_id words
  have hgap : ∀ p ∈ pieces, p.gap = [' '] := by
    intro p hp
    obtain ⟨w, -, rfl⟩ := List.mem_map.1 hp
    rfl
  rw [← hwords] at h ⊢
  obtain ⟨hfault, hlays⟩ := laysOut_of_spelledFrom Markup.blanks_nil
    (fun p hp => hgap p hp ▸ by decide) (separated_of_forall fun p hp => hgap p hp ▸ nofun) h
  refine ⟨String.ofList ([] ++ spread pieces), ?_, ?_⟩
  · rw [String.toList_ofList]
    exact hfault
  · rw [String.toList_ofList, Lexed.tokens, hlays.starts, map_token_startsOf]

/-- **Abbreviations are pure syntax.** If some of the abbreviations in the tokens of an expression
are written out, there are texts for these tokens, and they are parsed to the same expression,
which has as many levels and items. -/
theorem parse_expanded {text : String} {e : Expr} {ts : List Token} (h : parse text = .ok e)
    (hexpanded : Expanded .operand (tokenize text.toList).tokens ts) :
    (∃ text' : String, (tokenize text'.toList).fault = none ∧ (tokenize text'.toList).tokens = ts) ∧
      (∀ text' : String, (tokenize text'.toList).fault = none →
        (tokenize text'.toList).tokens = ts → parse text' = .ok e) ∧
      ∀ levels items, Expression (tokenize text.toList).tokens e levels items →
        Expression ts e levels items := by
  obtain ⟨hfault, levels, items, he, hlevels, hitems⟩ :=
    (parseTokens_eq_ok_iff (nodeTypesKnown_tokenize _)).1 h
  have hexpression : ∀ levels items, Expression (tokenize text.toList).tokens e levels items →
      Expression ts e levels items :=
    fun levels items he => (expandable_expression levels he le_rfl).2 ts hexpanded
  refine ⟨?_, fun text' hfault' hts => ?_, hexpression⟩
  · obtain ⟨lead, pieces, hlays, hspelled⟩ := exists_spelledFrom_of_tokenize hfault
    have hwords : (pieces.map (·.toSpelling)).map (·.token) = (tokenize text.toList).tokens := by
      rw [Lexed.tokens, hlays.starts, map_token_startsOf]
    obtain ⟨words, hwords', hspelled', -⟩ :=
      exists_spelledFrom_of_expanded hexpanded hwords hspelled
    obtain ⟨text', hfault', htokens⟩ := exists_text_of_spelledFrom hspelled'
    exact ⟨text', hfault', htokens.trans hwords'⟩
  · refine (parseTokens_eq_ok_iff (nodeTypesKnown_tokenize _)).2
      ⟨hfault', levels, items, ?_, hlevels, hitems⟩
    rw [hts]
    exact hexpression levels items he

/-- Two stars, of which the first one is a step and the second one multiplies: the abbreviations of
the product `//* * @a` written out. -/
theorem parse_expanded_product :
    let e : Expr := .binary .mul (.path (.path .root .descendantOrSelf .node []) .child .any [])
      (.step .attribute (.name "a") [])
    let ts : List Token := .slash :: (anyNodeTokens .descendantOrSelf ++ [.slash]) ++
      ([.axis "child", .doubleColon, .star] ++ .star ::
        ([.axis "attribute", .doubleColon] ++ [.name "a"]))
    parse "//* * @a" = .ok e ∧ Expanded .operand (tokenize "//* * @a".toList).tokens ts ∧
      (tokenize "/descendant-or-self::node()/child::* * attribute::a".toList).tokens = ts ∧
      parse "/descendant-or-self::node()/child::* * attribute::a" = .ok e := by
  intro e ts
  have hfault : (tokenize "//* * @a".toList).fault = none := by with_unfolding_all rfl
  have htokens : (tokenize "//* * @a".toList).tokens =
      [.doubleSlash, .star, .star, .at, .name "a"] := by
    with_unfolding_all rfl
  have hunary : ∀ {ts e d n}, PathExpr Expression ts e d n → UnaryExpr ts e d n :=
    fun h => .union (.intro (.first h))
  have hleft : UnaryExpr [.doubleSlash, .star] _ 0 2 :=
    hunary (.steps (.first (.absolute (.intro .doubleSlash (.full .omitted .any .nil)))))
  have hright : UnaryExpr [.at, .name "a"] _ 0 0 :=
    hunary (.steps (.first (.relative (.full .at .name .nil))))
  -- The second star is an operator, since the first one has a slash in front of it.
  have hjoining : Joining 6 UnaryExpr [.star, .at, .name "a"] _ 0 1 := .intro .star hright
  have hproduct := Tier.intro (.more (.first hleft) hjoining fun _ => nofun)
  have hwhole : Expression [.doubleSlash, .star, .star, .at, .name "a"] e 1 3 :=
    .intro (.intro (.first (.intro (.first (.intro (.first (.intro (.first (.intro
      (.first hproduct))))))))))
  have hexpression : Expression (tokenize "//* * @a".toList).tokens e 1 3 := htokens ▸ hwhole
  have hparse : parse "//* * @a" = .ok e := (parseTokens_eq_ok_iff (nodeTypesKnown_tokenize _)).2
    ⟨hfault, 1, 3, hexpression, by decide, by decide⟩
  have hat : Expanded .operand [.at, .name "a"]
      ([.axis "attribute", .doubleColon] ++ [.name "a"]) := .expand rfl (.keep .nil)
  have hexpanded : Expanded .operand (tokenize "//* * @a".toList).tokens ts := by
    rw [htokens]
    exact .expand rfl (.expand rfl (.keep hat))
  have hfault' : (tokenize "/descendant-or-self::node()/child::* * attribute::a".toList).fault =
      none := by
    with_unfolding_all rfl
  have htokens' : (tokenize "/descendant-or-self::node()/child::* * attribute::a".toList).tokens =
      [.slash, .axis "descendant-or-self", .doubleColon, .nodeType "node", .leftParen, .rightParen,
        .slash, .axis "child", .doubleColon, .star, .star, .axis "attribute", .doubleColon,
        .name "a"] := by
    with_unfolding_all rfl
  exact ⟨hparse, hexpanded, htokens', (parse_expanded hparse hexpanded).2.1 _ hfault' htokens'⟩

end XmlQuery.XPath
