import XmlQuery.Proofs.XPath.Parsing

/-!
# How deep expressions are

What stands inside an expression stands inside a phrase of the grammar. Going down from an
expression to what is inside it leaves an item of the phrase behind, or a level: the operators of a
chain, the separators of a path and the predicates of a filter are items, and what is in parentheses
or brackets, an argument or the operand of a negation is on a level of its own. An expression is
therefore no deeper than it has levels and items.

## Main definitions

* `Expr.children`: what is directly inside an expression
* `Expr.Descent`: expressions each of which is directly inside the one before
* `Expr.Within`: every descent from an expression is this short

## Main results

* `flat_unaryExpr`, `Grammar.Expression.within`: **an expression is no deeper than it has levels and
  items**
-/

namespace XmlQuery.XPath

open Grammar

/-! ## Descents -/

namespace Expr

/-- What is directly inside an expression: operands, bases, predicates and arguments. -/
def children : Expr → List Expr
  | .union left right => [left, right]
  | .path base _ _ predicates => base :: predicates
  | .step _ _ predicates => predicates
  | .filter base predicate => [base, predicate]
  | .call _ arguments => arguments
  | .binary _ left right => [left, right]
  | .negate operand => [operand]
  | .root | .number _ | .string _ | .variable _ => []

/-- Expressions from one downwards, each directly inside the one before. -/
inductive Descent : Expr → List Expr → Prop
  /-- The expression alone. -/
  | here (e : Expr) : Descent e [e]
  /-- The expression, and a descent from one that is directly inside it. -/
  | down {e child : Expr} {below : List Expr} : child ∈ e.children → Descent child below →
    Descent e (e :: below)

/-- Every descent from the expression has at most so many expressions. -/
def Within (height : Nat) (e : Expr) : Prop := ∀ chain, e.Descent chain → chain.length ≤ height

variable {e : Expr} {height height' : Nat}

theorem Within.mono (h : e.Within height) (hle : height ≤ height') : e.Within height' :=
  fun chain hchain => Nat.le_trans (h chain hchain) hle

theorem within_succ (h : ∀ child ∈ e.children, child.Within height) : e.Within (height + 1) := by
  intro chain hchain
  cases hchain with
  | here => exact Nat.succ_le_succ (Nat.zero_le _)
  | down hchild hbelow => exact Nat.succ_le_succ (h _ hchild _ hbelow)

/-- An expression with nothing inside it is one alone. -/
theorem within_leaf (h : e.children = []) : e.Within 1 :=
  within_succ fun child hchild => by
    rw [h] at hchild
    cases hchild

theorem within_join {left right parent : Expr} (hparent : parent.children = [left, right])
    (hleft : left.Within height) (hright : right.Within height) : parent.Within (height + 1) := by
  refine within_succ fun child hchild => ?_
  rw [hparent, List.mem_cons, List.mem_singleton] at hchild
  rcases hchild with rfl | rfl
  · exact hleft
  · exact hright

theorem within_andStep {s : Step} (h : e.Within height)
    (hpredicates : ∀ p ∈ s.predicates, p.Within height) : (e.andStep s).Within (height + 1) :=
  within_succ (List.forall_mem_cons.2 ⟨h, hpredicates⟩)

end Expr

open XmlQuery.XPath.Expr

/-! ## Phrases -/

/-- An expression of a phrase with few enough levels is no deeper than the phrase has levels and
items, and so much deeper. -/
def Flat (levels more : Nat) (L : Phrases Expr) : Prop :=
  ∀ ⦃ts e d n⦄, L ts e d n → d ≤ levels → e.Within (d + n + more)

/-- All expressions of a phrase with few enough levels are no deeper than it has levels and
items. -/
def AllFlat (levels : Nat) (L : Phrases (List Expr)) : Prop :=
  ∀ ⦃ts es d n⦄, L ts es d n → d ≤ levels → ∀ e ∈ es, e.Within (d + n)

/-- What a further phrase makes of an expression is deeper by no more than the items it has. -/
def Raises (levels : Nat) (More : Phrases (Expr → Expr)) : Prop :=
  ∀ ⦃us f d n⦄, More us f d n → d ≤ levels → ∀ base d₀ n₀, Expr.Within (d₀ + n₀ + 1) base →
    (f base).Within (max d₀ d + (n₀ + n) + 1)

variable {levels : Nat} {Nested : Phrases Expr}

theorem Flat.repeated {First : Phrases Expr} {More : Phrases (Expr → Expr)}
    (hfirst : Flat levels 1 First) (hmore : Raises levels More) :
    Flat levels 1 (Repeated First More) := by
  intro ts e d n h hd
  induction h with
  | first hts => exact hfirst hts hd
  | more _ hus _ ih =>
    obtain ⟨hd₁, hd₂⟩ := Nat.max_le.1 hd
    exact hmore hus hd₂ _ _ _ (ih hd₁)

theorem AllFlat.listOf {Item : Phrases Expr} (h : Flat levels 0 Item) :
    AllFlat levels (ListOf Item) := by
  intro ts es d n hes hd
  induction hes with
  | nil => exact nofun
  | cons he _ ih =>
    obtain ⟨hd₁, hd₂⟩ := Nat.max_le.1 hd
    exact List.forall_mem_cons.2 ⟨(h he hd₁).mono (by omega),
      fun e' he' => (ih hd₂ e' he').mono (by omega)⟩

theorem flat_predicateExpr (h : Flat levels 0 Nested) : Flat levels 0 (PredicateExpr Nested) := by
  rintro _ e d n ⟨hts⟩ hd
  exact h hts hd

theorem flat_furtherArgument (h : Flat levels 0 Nested) :
    Flat levels 0 (FurtherArgument Nested) := by
  rintro _ e d n ⟨hts⟩ hd
  exact h hts hd

theorem within_predicates (h : Flat levels 0 Nested) {ts : List Token} {s : Step} {d n : Nat}
    (hs : StepExpr Nested ts s d n) (hd : d ≤ levels) : ∀ p ∈ s.predicates, p.Within (d + n) := by
  cases hs with
  | self | parent => exact nofun
  | full _ _ hpredicates => exact AllFlat.listOf (flat_predicateExpr h) hpredicates hd

theorem allFlat_arguments (h : Flat levels 0 Nested) : AllFlat levels (Arguments Nested) := by
  intro ts es d n hes hd
  cases hes with
  | none => exact nofun
  | some hfirst hmore =>
    obtain ⟨hd₁, hd₂⟩ := Nat.max_le.1 hd
    refine List.forall_mem_cons.2 ⟨(h hfirst hd₁).mono (by omega), fun e he => ?_⟩
    exact (AllFlat.listOf (flat_furtherArgument h) hmore hd₂ e he).mono (by omega)

theorem flat_primaryExpr (h : Flat levels 0 Nested) : Flat levels 1 (PrimaryExpr Nested) := by
  intro ts e d n he hd
  cases he with
  | number | string | «variable» | prefixedVariable => exact within_leaf rfl
  | group hts => exact (h hts hd).mono (Nat.le_succ _)
  | call hes => exact within_succ (allFlat_arguments h hes hd)

theorem raises_filtering (h : Flat levels 0 Nested) : Raises levels (Filtering Nested) := by
  rintro us _ d _ ⟨hp⟩ hd base d₀ n₀ hbase
  exact within_join rfl (hbase.mono (by omega))
    ((flat_predicateExpr h hp hd).mono (by omega))

/-- Two slashes are two steps. -/
theorem raises_stepping (h : Flat levels 0 Nested) : Raises levels (Stepping Nested) := by
  rintro us _ d _ ⟨hseparator, hs⟩ hd base d₀ n₀ hbase
  have hpredicates := within_predicates h hs hd
  cases hseparator with
  | slash =>
    exact within_andStep (hbase.mono (by omega))
      fun p hp => (hpredicates p hp).mono (by omega)
  | doubleSlash =>
    have hdescendants : base.withDescendants.Within (d₀ + n₀ + 1 + 1) :=
      within_andStep hbase nofun
    exact within_andStep (hdescendants.mono (by omega))
      fun p hp => (hpredicates p hp).mono (by omega)

theorem flat_pathStart (h : Flat levels 0 Nested) : Flat levels 1 (PathStart Nested) := by
  intro ts e d n hts hd
  cases hts with
  | absolute hus =>
    have hroot : Expr.Within (0 + 0 + 1) .root := within_leaf rfl
    exact (raises_stepping h hus hd .root 0 0 hroot).mono (by omega)
  | relative hs => exact within_succ (within_predicates h hs hd)
  | filter he => exact (flat_primaryExpr h).repeated (raises_filtering h) he hd

theorem flat_pathExpr (h : Flat levels 0 Nested) : Flat levels 1 (PathExpr Nested) := by
  intro ts e d n hts hd
  cases hts with
  | root => exact within_leaf rfl
  | steps hts => exact (flat_pathStart h).repeated (raises_stepping h) hts hd

theorem children_of_operator {tier : Nat} {t : Token} {join : Expr → Expr → Expr}
    (h : Operator tier t join) (left right : Expr) :
    (join left right).children = [left, right] := by
  cases h <;> rfl

theorem flat_tier {tier : Nat} {Operand : Phrases Expr} (h : Flat levels 1 Operand) :
    Flat levels 1 (Tier tier Operand) := by
  have hjoining : Raises levels (Joining tier Operand) := by
    rintro us _ d _ ⟨hoperator, hright⟩ hd base d₀ n₀ hbase
    exact within_join (children_of_operator hoperator base _) (hbase.mono (by omega))
      ((h hright hd).mono (by omega))
  rintro ts e d n ⟨hts⟩ hd
  exact h.repeated hjoining hts hd

theorem flat_expression (h : Flat levels 1 UnaryExpr) : Flat (levels + 1) 0 Expression := by
  rintro ts e _ n ⟨hts⟩ hd
  have hflat := flat_tier (flat_tier (flat_tier (flat_tier (flat_tier (flat_tier h))))) hts
    (Nat.le_of_succ_le_succ hd)
  exact hflat.mono (by omega)

/-- **A unary expression is no deeper than it has levels and items, and one more**, by induction on
the levels: a negation and an expression around it both open one. -/
theorem flat_unaryExpr (levels : Nat) : Flat levels 1 UnaryExpr := by
  induction levels with
  | zero =>
    intro ts e d n h hd
    cases h with
    | negate _ => exact absurd hd (Nat.not_succ_le_zero _)
    | union hts =>
      have hnone : Flat 0 0 Expression := by
        rintro _ _ _ _ ⟨_⟩ hd
        exact absurd hd (Nat.not_succ_le_zero _)
      exact flat_tier (flat_pathExpr hnone) hts hd
  | succ levels ih =>
    intro ts e d n h hd
    cases h with
    | negate he =>
      refine within_succ fun child hchild => ?_
      obtain rfl := List.mem_singleton.1 hchild
      exact (ih he (Nat.le_of_succ_le_succ hd)).mono (by omega)
    | union hts => exact flat_tier (flat_pathExpr (flat_expression ih)) hts hd

/-- **An expression is no deeper than it has levels and items.** -/
theorem Grammar.Expression.within {ts : List Token} {e : Expr} {d n : Nat}
    (h : Expression ts e d n) : e.Within (d + n) :=
  flat_expression (flat_unaryExpr d) h (Nat.le_succ d)

end XmlQuery.XPath
