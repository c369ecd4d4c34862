import XmlQuery.Proofs.XPath.Nesting
import XmlQuery.Proofs.XPath.Paths

/-!
# Parsing accepts the grammar

Operators of each tier join phrases of the next one, up to unary expressions. These recur through
negations and nested expressions, so that unary expressions are recognized by induction on the
nesting budget. An expression that is read to the end of its text makes up all the tokens there are,
and since the parser reads in one way, no other expression does.

## Main definitions

* `joining`: what continues a chain of operands

## Main results

* `recognizes_chain`, `recognizes_operators`: operands with operators between them
* `recognizes_unaryWithin`: unary expressions are recognized with every nesting budget
* `Grammar.Expression.unique`: tokens are at most one expression
* `parse_eq_ok_iff`: the texts that are parsed, and what they are
-/

namespace XmlQuery.XPath

open Grammar ParserState XmlQuery.XPath.Parser

variable {s s' : ParserState} {levels : Nat} {nested : Parser Expr} {Nested : Phrases Expr}

/-! ## Operators -/

theorem binding_of_operator {tier : Nat} {t : Token} {join : Expr → Expr → Expr}
    (h : Operator tier t join) : t.binding = tier + 1 := by
  cases h <;> rfl

theorem ne_slash_of_operator {tier : Nat} {t : Token} {join : Expr → Expr → Expr}
    (h : Operator tier t join) : t ≠ .slash := by
  cases h <;> exact nofun

/-- An operator and the operand behind it, if an operator comes next. -/
def joining (operator? : Token → Option (Expr → Expr → Expr)) (operand : Parser Expr)
    (left : Expr) : Parser (Option Expr) := do
  match (← peek).bind operator? with
  | none => pure none
  | some join =>
    count 1
    advance
    return some (join left (← operand))

/-- An operator and an operand are counted. -/
theorem continues_joining {tier : Nat} {operator? : Token → Option (Expr → Expr → Expr)}
    {operand : Parser Expr} {Operand : Phrases Expr}
    (hoperator : ∀ t join, operator? t = some join ↔ Operator tier t join)
    (h : Recognizes levels (tier + 2) operand Operand) :
    Continues levels (tier + 1) (joining operator? operand) (Joining tier Operand) where
  begins := by
    rintro _ _ d _ ⟨ht, -⟩
    exact ⟨_, _, rfl, binding_of_operator ht⟩
  sound {s left r s'} hs hbody := by
    rw [joining, peek_bind] at hbody
    cases hjoin : s.next?.bind operator? with
    | none =>
      rw [hjoin] at hbody
      cases hbody
      exact .inl ⟨rfl, rfl⟩
    | some join =>
      rw [hjoin] at hbody
      obtain ⟨t, hnext, ht⟩ := Option.bind_eq_some_iff.1 hjoin
      have ht := (hoperator t join).1 ht
      obtain ⟨s₁, hreads₁, hrest⟩ := (count_advance_seq_eq_ok_iff hnext).1 hbody
      obtain ⟨right, s₂, hright, hpure⟩ := seq_eq_ok_iff.1 hrest
      cases hpure
      obtain ⟨ts, d, n, hts, hd, hreads, hseparate⟩ := h.sound (hreads₁.regular hs) hright
      exact .inr ⟨_, _, d, n + 1, rfl, .intro ht hts, hd,
        reads_cons_add_iff.2 ⟨s₁, hreads₁, hreads⟩, hseparate.cons (ne_slash_of_operator ht)⟩
  complete {s left s' us f d n} hs hus hd hreads hseparate hbelow := by
    obtain ⟨ht, hright⟩ := hus
    obtain ⟨s₁, hreads₁, hrest⟩ := reads_cons_add_iff.1 hreads
    have hoperand := h.complete (hreads₁.regular hs) hright hd hrest hseparate.of_cons hbelow
    rw [joining, peek_bind, hreads.next?, Option.bind_some, (hoperator _ _).2 ht]
    exact (count_advance_seq_eq_ok_iff hreads.next?).2
      ⟨s₁, hreads₁, seq_eq_ok_iff.2 ⟨_, s', hoperand, rfl⟩⟩
  stops {s left} hbelow := by
    have hnone : s.next?.bind operator? = none := by
      rw [Option.bind_eq_none_iff]
      intro t hnext
      cases hjoin : operator? t with
      | none => rfl
      | some join =>
        exact absurd hnext (next?_ne_of_below hbelow
          (Nat.le_of_eq (binding_of_operator ((hoperator t join).1 hjoin)).symm))
    rw [joining, peek_bind, hnone]
    rfl

/-- Operands with operators between them are recognized. -/
theorem recognizes_chain {tier : Nat} {operator? : Token → Option (Expr → Expr → Expr)}
    {operand : Parser Expr} {Operand : Phrases Expr}
    (hoperator : ∀ t join, operator? t = some join ↔ Operator tier t join)
    (h : Recognizes levels (tier + 2) operand Operand) :
    Recognizes levels (tier + 1) (chain operator? operand) (Tier tier Operand) := by
  have hrepeated := h.repeating (continues_joining hoperator h)
  constructor
  · intro s e s' hs he
    obtain ⟨ts, d, n, hts, hrest⟩ := hrepeated.sound hs he
    exact ⟨ts, d, n, .intro hts, hrest⟩
  · rintro s e s' ts d n hs ⟨hts⟩ hd hreads hseparate hbelow
    exact hrepeated.complete hs hts hd hreads hseparate hbelow

/-- The operators of a precedence are those of a tier. -/
theorem operator_iff {k : Nat} {operator? : Token → Option BinaryOp}
    (h : precedence[k]? = some operator?) (t : Token) (join : Expr → Expr → Expr) :
    (operator? t).map .binary = some join ↔ Operator (k + 1) t join := by
  constructor
  · intro hjoin
    obtain ⟨op, hop, rfl⟩ := Option.map_eq_some_iff.1 hjoin
    match k, h with
    | 0, rfl | 1, rfl | 2, rfl | 3, rfl | 4, rfl | 5, rfl =>
      cases t with
      | or | and | eq | notEq | lt | ltEq | gt | gtEq | plus | minus | star | div | mod =>
        cases hop <;> constructor
      | _ => cases hop
  · intro hjoin
    cases hjoin <;> cases h <;> rfl

theorem unionOperator_iff (t : Token) (join : Expr → Expr → Expr) :
    unionOperator t = some join ↔ Operator 7 t join := by
  constructor
  · intro h
    cases t with
    | pipe =>
      cases h
      exact .pipe
    | _ => cases h
  · rintro ⟨⟩
    rfl

/-- An expression of operators between operands is recognized. -/
theorem recognizes_operators {operand : Parser Expr} {Operand : Phrases Expr}
    (h : Recognizes levels 8 operand Operand) :
    Recognizes levels 2 (operators operand)
      (Tier 1 (Tier 2 (Tier 3 (Tier 4 (Tier 5 (Tier 6 Operand)))))) := by
  have h₆ := recognizes_chain (operator_iff (k := 5) rfl) h
  have h₅ := recognizes_chain (operator_iff (k := 4) rfl) h₆
  have h₄ := recognizes_chain (operator_iff (k := 3) rfl) h₅
  have h₃ := recognizes_chain (operator_iff (k := 2) rfl) h₄
  have h₂ := recognizes_chain (operator_iff (k := 1) rfl) h₃
  exact recognizes_chain (operator_iff (k := 0) rfl) h₂

/-! ## Unary expressions -/

theorem starts_tier {tier : Nat} {P : Token → Prop} {Operand : Phrases Expr}
    (h : Starts P Operand) : Starts P (Tier tier Operand) := by
  rintro ts e d n ⟨hts⟩
  exact h.repeated hts

theorem starts_unaryExpr : Starts (· ≠ .rightParen) UnaryExpr := by
  intro ts e d n h
  cases h with
  | negate _ => exact ⟨_, _, rfl, nofun⟩
  | union hts =>
    obtain ⟨t, rest, rfl, -, ht⟩ := starts_tier starts_pathExpr hts
    exact ⟨t, rest, rfl, ht⟩

theorem starts_expression : Starts (· ≠ .rightParen) Expression := by
  rintro ts e d n ⟨hts⟩
  exact starts_tier (starts_tier (starts_tier (starts_tier (starts_tier
    (starts_tier starts_unaryExpr))))) hts

variable {negation : Parser Expr}

theorem unaryWith_of_minus (h : s.next? = some .minus) :
    unaryWith negation nested s = negation s := by
  rw [unaryWith, peek_bind, h]

theorem unaryWith_of_ne (h : s.next? ≠ some .minus) :
    unaryWith negation nested s = chain unionOperator (pathExpr nested) s := by
  rw [unaryWith, peek_bind]
  cases hnext : s.next? with
  | none => rfl
  | some t =>
    cases t with
    | minus => exact absurd hnext h
    | _ => rfl

/-- A unary expression is recognized where negations and nested expressions are. -/
theorem recognizes_unaryWith (hnested : Recognizes levels 2 nested Expression)
    (hsound : ∀ {s e s'}, s.Regular → s.next? = some .minus → negation s = .ok (e, s') →
      ∃ ts d n, UnaryExpr ts e d n ∧ d ≤ levels ∧ s.Reads ts n s' ∧ Separate ts s'.next?)
    (hcomplete : ∀ {s s' ts e d n}, s.Regular → UnaryExpr ts e d n → d + 1 ≤ levels →
      s.Reads (.minus :: ts) n s' → Separate ts s'.next? → s'.Below 8 →
      negation s = .ok (.negate e, s')) :
    Recognizes levels 8 (unaryWith negation nested) UnaryExpr := by
  have hunion : Recognizes levels 8 (chain unionOperator (pathExpr nested))
      (Tier 7 (PathExpr Expression)) :=
    recognizes_chain unionOperator_iff (recognizes_pathExpr hnested starts_expression)
  constructor
  · intro s e s' hs he
    by_cases hminus : s.next? = some .minus
    · rw [unaryWith_of_minus hminus] at he
      exact hsound hs hminus he
    · rw [unaryWith_of_ne hminus] at he
      obtain ⟨ts, d, n, hts, hrest⟩ := hunion.sound hs he
      exact ⟨ts, d, n, .union hts, hrest⟩
  · intro s e s' ts d n hs he hd hreads hseparate hbelow
    cases he with
    | negate he =>
      rw [unaryWith_of_minus hreads.next?]
      exact hcomplete hs he hd hreads hseparate.of_cons hbelow
    | union hts =>
      obtain ⟨t, rest, rfl, ht, -⟩ := starts_tier starts_pathExpr hts
      rw [unaryWith_of_ne fun hnext => ht (Option.some.inj (hreads.next?.symm.trans hnext))]
      exact hunion.complete hs hts hd hreads hseparate hbelow

/-- An expression opens a level around operators. -/
theorem recognizes_expression (h : Recognizes levels 8 (unaryWithin levels) UnaryExpr) :
    Recognizes (levels + 1) 2 (operators (unaryWithin levels)) Expression := by
  have hoperators := recognizes_operators h
  constructor
  · intro s e s' hs he
    obtain ⟨ts, d, n, hts, hd, hrest⟩ := hoperators.sound hs he
    exact ⟨ts, d + 1, n, .intro hts, Nat.succ_le_succ hd, hrest⟩
  · rintro s e s' ts _ n hs ⟨hts⟩ hd hreads hseparate hbelow
    exact hoperators.complete hs hts (Nat.le_of_succ_le_succ hd) hreads hseparate hbelow

theorem recognizes_refuse {fault : SyntaxFault} : Recognizes 0 2 (refuse fault) Expression where
  sound _ h := nomatch h
  complete _ h hd := by
    cases h
    exact absurd hd (Nat.not_succ_le_zero _)

/-- **Unary expressions are recognized with every nesting budget.** -/
theorem recognizes_unaryWithin (levels : Nat) :
    Recognizes levels 8 (unaryWithin levels) UnaryExpr := by
  induction levels with
  | zero =>
    -- Neither a negation nor a nested expression may open, and without levels there is none.
    refine recognizes_unaryWith recognizes_refuse (fun _ _ h => nomatch h) ?_
    intro s s' ts e d n _ _ hd
    exact absurd hd (Nat.not_succ_le_zero d)
  | succ levels ih =>
    refine recognizes_unaryWith (recognizes_expression ih) ?_ ?_
    · intro s e s' hs hnext he
      obtain ⟨s₁, hminus, hrest⟩ := (advance_seq_eq_ok_iff hnext).1 he
      obtain ⟨u, s₂, hu, hpure⟩ := seq_eq_ok_iff.1 hrest
      cases hpure
      obtain ⟨ts, d, n, hts, hd, hreads, hseparate⟩ := ih.sound (hminus.regular hs) hu
      exact ⟨_, d + 1, n, .negate hts, Nat.succ_le_succ hd,
        reads_cons_iff.2 ⟨s₁, hminus, hreads⟩, hseparate.cons nofun⟩
    · intro s s' ts e d n hs he hd hreads hseparate hbelow
      obtain ⟨s₁, hminus, hrest⟩ := reads_cons_iff.1 hreads
      have hu := ih.complete (hminus.regular hs) he (Nat.le_of_succ_le_succ hd) hrest hseparate
        hbelow
      exact (advance_seq_eq_ok_iff hreads.next?).2
        ⟨s₁, hminus, seq_eq_ok_iff.2 ⟨e, s', hu, rfl⟩⟩

/-! ## Whole expressions -/

theorem recognizes_nestedWithin (levels : Nat) :
    Recognizes levels 2 (nestedWithin levels) Expression := by
  cases levels with
  | zero => exact recognizes_refuse
  | succ levels => exact recognizes_expression (recognizes_unaryWithin levels)

theorem wholeWithin_eq_ok_iff {e : Expr} :
    wholeWithin s = .ok (e, s') ↔ nestedWithin maxNesting s = .ok (e, s') ∧ s'.next? = none := by
  rw [wholeWithin, seq_eq_ok_iff]
  constructor
  · rintro ⟨_, s₁, he, hnone⟩
    rw [peek_bind] at hnone
    cases hnext : s₁.next? with
    | none =>
      rw [hnext] at hnone
      cases hnone
      exact ⟨he, hnext⟩
    | some t =>
      rw [hnext] at hnone
      cases hnone
  · rintro ⟨he, hnone⟩
    refine ⟨e, s', he, ?_⟩
    rw [peek_bind, hnone]
    rfl

theorem next?_eq_none_iff : s.next? = none ↔ s.lexemes = [] := by
  rw [ParserState.next?, Option.map_eq_none_iff, List.head?_eq_none_iff]

/-- All tokens can be read if the text ends without a fault and enough items may come. -/
theorem reads_all_iff {ts : List Token} {n : Nat} :
    (∃ s', s.Reads ts n s' ∧ s'.next? = none) ↔
      s.lexemes.map (·.token) = ts ∧ s.stopFault = none ∧ n ≤ s.items := by
  constructor
  · rintro ⟨s', hreads, hnone⟩
    rw [next?_eq_none_iff] at hnone
    obtain ⟨read, hread, hmap⟩ := hreads.lexemes
    rw [hnone, List.append_nil] at hread
    refine ⟨hread ▸ hmap, ?_, ?_⟩
    · rw [← hreads.stopFault]
      exact hreads.ended hnone
    · rw [hreads.items]
      exact Nat.le_add_left n _
  · rintro ⟨hmap, hfault, hitems⟩
    exact ⟨⟨[], s.stop, none, s.items - n, s.nesting⟩, ⟨⟨s.lexemes, (List.append_nil _).symm, hmap⟩,
      rfl, hfault.symm, (Nat.sub_add_cancel hitems).symm, rfl, fun _ => rfl⟩, rfl⟩

/-- An expression is read to the end. -/
theorem Grammar.Expression.nestedWithin_eq_ok {ts : List Token} {e : Expr} {d n : Nat}
    (he : Expression ts e d n) (hd : d ≤ levels) (hs : s.Regular) (hreads : s.Reads ts n s')
    (hnone : s'.next? = none) : nestedWithin levels s = .ok (e, s') := by
  refine (recognizes_nestedWithin levels).complete hs he hd hreads (fun hstar => ?_) fun t ht => ?_
  · cases hnone.symm.trans hstar
  · cases hnone.symm.trans ht

/-- The tokens of a text. -/
def Lexed.tokens (lexed : Lexed) : List Token := lexed.lexemes.map (·.token)

theorem parseTokens_eq_ok_iff {lexed : Lexed} (h : NodeTypesKnown lexed.lexemes) {e : Expr} :
    parseTokens lexed = .ok e ↔ lexed.fault = none ∧ ∃ d n, Expression lexed.tokens e d n ∧
      d ≤ maxNesting ∧ n ≤ maxItems := by
  rw [parseTokens_eq, parseWithin, bind_eq_ok_iff]
  simp only [check_eq_ok_iff, map_eq_ok_iff]
  constructor
  · rintro ⟨_, ⟨hended, rfl⟩, ⟨_, s'⟩, hwhole, rfl⟩
    obtain ⟨he, hnone⟩ := wholeWithin_eq_ok_iff.1 hwhole
    obtain ⟨ts, d, n, hts, hd, hreads, -⟩ :=
      (recognizes_nestedWithin maxNesting).sound ⟨hended, h⟩ he
    obtain ⟨rfl, hfault, hitems⟩ := reads_all_iff.1 ⟨s', hreads, hnone⟩
    exact ⟨hfault, d, n, hts, hd, hitems⟩
  · rintro ⟨hfault, d, n, he, hd, hn⟩
    let s : ParserState := ⟨lexed.lexemes, lexed.stop, lexed.fault, maxItems, 0⟩
    have hended : s.Ended := fun _ => hfault
    obtain ⟨s', hreads, hnone⟩ := (reads_all_iff (s := s)).2 ⟨rfl, hfault, hn⟩
    exact ⟨_, ⟨hended, rfl⟩, (e, s'),
      wholeWithin_eq_ok_iff.2 ⟨he.nestedWithin_eq_ok hd ⟨hended, h⟩ hreads hnone, hnone⟩, rfl⟩

/-- Tokens are at most one expression. -/
theorem Grammar.Expression.unique {lexed : Lexed} (h : NodeTypesKnown lexed.lexemes) {e e' : Expr}
    {d d' n n' : Nat} (he : Expression lexed.tokens e d n)
    (he' : Expression lexed.tokens e' d' n') : e = e' := by
  -- The parser reads both, within budgets that suffice for both.
  let s : ParserState := ⟨lexed.lexemes, lexed.stop, none, max n n', 0⟩
  have hs : s.Regular := ⟨fun _ => rfl, h⟩
  obtain ⟨s₁, hreads, hnone⟩ := (reads_all_iff (s := s)).2 ⟨rfl, rfl, Nat.le_max_left n n'⟩
  obtain ⟨s₂, hreads', hnone'⟩ := (reads_all_iff (s := s)).2 ⟨rfl, rfl, Nat.le_max_right n n'⟩
  have hparse := he.nestedWithin_eq_ok (Nat.le_max_left d d') hs hreads hnone
  have hparse' := he'.nestedWithin_eq_ok (Nat.le_max_right d d') hs hreads' hnone'
  rw [hparse, Except.ok.injEq, Prod.mk.injEq] at hparse'
  exact hparse'.1

/-! ## The tokens of a text -/

theorem sign?_ne_nodeType {text : List Char} {name : String} {n : Nat} :
    sign? text ≠ some (.nodeType name, n) := by
  unfold sign?
  split <;> exact nofun

theorem scanString_ne_nodeType {c d : Text.Cursor} {quote : Char} {name : String} :
    scanString c quote ≠ .ok (.nodeType name, d) := by
  unfold scanString
  split <;> exact nofun

theorem isNodeType_of_simpleName {text name : String} {c : Text.Cursor}
    (h : (simpleName text c).1 = .nodeType name) : isNodeType name = true := by
  unfold simpleName at h
  dsimp only at h
  split at h
  · cases h
  · split at h
    · next htype =>
      cases h
      exact htype
    · cases h
  · cases h

theorem prefixedName_ne_nodeType {p l name : String} {c : Text.Cursor} :
    (prefixedName p l c).1 ≠ .nodeType name := by
  unfold prefixedName
  dsimp only
  split <;> exact nofun

theorem operatorName?_ne_nodeType {text : List Char} {name : String} :
    operatorName? text ≠ some (.nodeType name) := by
  unfold operatorName?
  split <;> exact nofun

theorem isNodeType_of_scanName {afterOperand : Bool} {c : Text.Cursor} {name : String}
    (h : (scanName afterOperand c).1 = .nodeType name) : isNodeType name = true := by
  unfold scanName at h
  dsimp only at h
  split at h
  · next token hoperator =>
    obtain rfl : token = .nodeType name := h
    split at hoperator
    · exact absurd hoperator operatorName?_ne_nodeType
    · cases hoperator
  · split at h
    · cases h
    · split at h
      · exact absurd h prefixedName_ne_nodeType
      · exact isNodeType_of_simpleName h
    · exact isNodeType_of_simpleName h

/-- Only the name of a node type becomes its token. -/
theorem isNodeType_of_scan {afterOperand : Bool} {c d : Text.Cursor} {name : String}
    (h : scan afterOperand c = .ok (.nodeType name, d)) : isNodeType name = true := by
  unfold scan at h
  split at h
  · cases h
  · split at h
    · next hsign =>
      cases h
      exact absurd hsign sign?_ne_nodeType
    · split at h
      · cases h
      · split at h
        · cases h
        · split at h
          · exact absurd h scanString_ne_nodeType
          · split at h
            · exact isNodeType_of_scanName (congrArg Prod.fst (Except.ok.inj h))
            · cases h

theorem nodeTypesKnown_tokenizeFrom {found : List Lexeme} {afterOperand : Bool} {c : Text.Cursor}
    (h : NodeTypesKnown found) :
    NodeTypesKnown (tokenizeFrom found afterOperand c).lexemes := by
  induction found, afterOperand, c using tokenizeFrom.induct with
  | case1 found afterOperand c start hempty =>
    rw [tokenizeFrom, if_pos hempty]
    exact fun l hl => h l (List.mem_reverse.1 hl)
  | case2 found afterOperand c start hrest fault hscan =>
    rw [tokenizeFrom, if_neg hrest]
    split
    · exact fun l hl => h l (List.mem_reverse.1 hl)
    · next hscan' => cases hscan.symm.trans hscan'
  | case3 found afterOperand c start hrest token next hscan ih =>
    rw [tokenizeFrom, if_neg hrest]
    split
    · next hscan' => cases hscan.symm.trans hscan'
    · next hscan' =>
      cases hscan.symm.trans hscan'
      refine ih fun l hl name htoken => ?_
      rcases List.mem_cons.1 hl with rfl | hl
      · obtain rfl : token = .nodeType name := htoken
        exact isNodeType_of_scan hscan
      · exact h l hl name htoken

theorem nodeTypesKnown_tokenize (text : List Char) : NodeTypesKnown (tokenize text).lexemes :=
  nodeTypesKnown_tokenizeFrom nofun

/-- **The texts that are parsed are those of the grammar**: a text is an expression exactly if it is
cut into tokens that make the expression up within the limits, and whatever the limits, its tokens
make up no other. -/
theorem parse_eq_ok_iff (text : String) :
    (∀ e, parse text = .ok e ↔ (tokenize text.toList).fault = none ∧ ∃ levels items,
      Expression (tokenize text.toList).tokens e levels items ∧ levels ≤ 64 ∧ items ≤ 256) ∧
    ∀ e e' levels levels' items items', Expression (tokenize text.toList).tokens e levels items →
      Expression (tokenize text.toList).tokens e' levels' items' → e = e' :=
  ⟨fun _ => parseTokens_eq_ok_iff (nodeTypesKnown_tokenize _),
    fun _ _ _ _ _ _ he he' => he.unique (nodeTypesKnown_tokenize _) he'⟩

/-- A negation binds less tightly than two slashes, and opens a second level. -/
theorem parse_eq_ok_iff_negated_path :
    let e := .negate (.path (.path (.step .child (.name "a") []) .descendantOrSelf .node [])
      .child (.name "b") [])
    parse "-a//b" = .ok e ∧ ∃ levels items,
      Expression [.minus, .name "a", .doubleSlash, .name "b"] e levels items ∧
        levels ≤ 64 ∧ items ≤ 256 := by
  intro e
  have htokens : (tokenize "-a//b".toList).tokens =
      [.minus, .name "a", .doubleSlash, .name "b"] := by with_unfolding_all rfl
  have hparse : parse "-a//b" = .ok e := by with_unfolding_all rfl
  rw [← htokens]
  exact ⟨hparse, (((parse_eq_ok_iff "-a//b").1 e).1 hparse).2⟩

end XmlQuery.XPath
