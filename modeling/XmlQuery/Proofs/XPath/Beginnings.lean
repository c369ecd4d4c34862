import XmlQuery.Proofs.XPath.Parsing

/-!
# How expressions begin

A text that is read from front to back has been read up to some token when reading stops. What is in
front of that token is the beginning of an expression, and some expressions are open there: the
whole one, those in parentheses and brackets that have not been closed, arguments of functions whose
list has not been closed, and operands of negations that have not ended. With the items in front of
the token this gives the two numbers that are bounded, for any text, whether it is an expression or
not.

The token that comes next belongs to what it is about to do: an operator, a separator or the bracket
of a filter is an item before it is taken, and a minus sign in front of an operand opens a level.
Behind a slash that starts a path it tells if the slash separates: only the token of a step makes it
do so.

## Main definitions

* `Beginnings`: the tokens of which something is known up to the next one
* `InRepeated`, `InListOf`: inside the phrases that repeat others
* `InStep`, `InPrimary`, `InPath`: inside the phrases around nested expressions
* `InTier`, `InExpression`, `InUnary`: inside of expressions
* `Completes`, `CompletesMore`: what has begun can be completed

## Main results

* `completes_unary`, `InExpression.exists_expression`: **what has begun is the front of an
  expression** with as many levels and items
-/

namespace XmlQuery.XPath.Grammar

/-- Tokens that have been read and the token that comes next, with the number of expressions that
are open behind them and the number of items in them. -/
abbrev Beginnings := List Token → (next : Option Token) → (levels : Nat) → (items : Nat) → Prop

/-- Inside a phrase with others behind it: inside the first one, or inside a further one. -/
inductive InRepeated {α : Type} (First : Phrases α) (More : Phrases (α → α))
    (InFirst InMore : Beginnings) : Beginnings
  /-- The first phrase has begun. -/
  | first {ts : List Token} {next : Option Token} {d n : Nat} : InFirst ts next d n →
    InRepeated First More InFirst InMore ts next d n
  /-- A further phrase has begun; a star directly behind a slash does not begin one. -/
  | more {ts us : List Token} {next : Option Token} {a : α} {d d' n m : Nat} :
    Repeated First More ts a d n → InMore us next d' m →
    ((us ++ next.toList).head? = some .star → ts.getLast? ≠ some .slash) →
    InRepeated First More InFirst InMore (ts ++ us) next d' (m + n)

/-- Inside of phrases one behind the other. -/
inductive InListOf {α : Type} (Item : Phrases α) (InItem : Beginnings) : Beginnings
  /-- A phrase has begun behind others. -/
  | intro {ts us : List Token} {next : Option Token} {as : List α} {d d' n m : Nat} :
    ListOf Item ts as d n → InItem us next d' m →
    InListOf Item InItem (ts ++ us) next d' (m + n)

/-! ## Steps -/

/-- Inside an expression in brackets. -/
inductive InPredicate (InNested : Beginnings) : Beginnings
  | intro {ts : List Token} {next : Option Token} {d n : Nat} :
    InNested ts next d n → InPredicate InNested (.leftBracket :: ts) next d n

/-- Inside a predicate of a location step. -/
inductive InStep (Nested : Phrases Expr) (InNested : Beginnings) : Beginnings
  | intro {ts us vs : List Token} {a : Axis} {t : NodeTest} {next : Option Token} {d n : Nat} :
    AxisSpecifier ts a → NodeTestExpr us t →
    InListOf (PredicateExpr Nested) (InPredicate InNested) vs next d n →
    InStep Nested InNested (ts ++ (us ++ vs)) next d n

/-! ## Paths -/

/-- Inside an argument behind a comma. -/
inductive InFurtherArgument (InNested : Beginnings) : Beginnings
  | intro {ts : List Token} {next : Option Token} {d n : Nat} :
    InNested ts next d n → InFurtherArgument InNested (.comma :: ts) next d n

/-- Inside the arguments of a function. -/
inductive InArguments (Nested : Phrases Expr) (InNested : Beginnings) : Beginnings
  /-- The first argument has begun, unless the list is closed at once. -/
  | first {ts : List Token} {next : Option Token} {d n : Nat} : InNested ts next d n →
    (ts = [] → next ≠ some .rightParen) → InArguments Nested InNested ts next d n
  /-- An argument behind a comma has begun. -/
  | further {ts us : List Token} {e : Expr} {next : Option Token} {d d' n m : Nat} :
    Nested ts e d n → InListOf (FurtherArgument Nested) (InFurtherArgument InNested) us next d' m →
    InArguments Nested InNested (ts ++ us) next d' (m + n)

/-- Inside a primary expression. -/
inductive InPrimary (Nested : Phrases Expr) (InNested : Beginnings) : Beginnings
  /-- An expression in parentheses has begun. -/
  | group {ts : List Token} {next : Option Token} {d n : Nat} :
    InNested ts next d n → InPrimary Nested InNested (.leftParen :: ts) next d n
  /-- The arguments of a function have begun. -/
  | call {f : String} {ts : List Token} {next : Option Token} {d n : Nat} :
    InArguments Nested InNested ts next d n →
    InPrimary Nested InNested (.functionName f :: .leftParen :: ts) next d n

/-- In front of or inside a predicate of what is in front of it. -/
inductive InFiltering (InNested : Beginnings) : Beginnings
  /-- The bracket comes next. -/
  | counted : InFiltering InNested [] (some .leftBracket) 0 1
  /-- The predicate has begun. -/
  | inside {ts : List Token} {next : Option Token} {d n : Nat} :
    InPredicate InNested ts next d n → InFiltering InNested ts next d (n + 1)

/-- In front of a separator, or inside the step behind it. -/
inductive InStepping (Nested : Phrases Expr) (InNested : Beginnings) : Beginnings
  /-- The separator comes next. -/
  | counted {t : Token} {g : Expr → Expr} {k : Nat} : Separator t g k →
    InStepping Nested InNested [] (some t) 0 k
  /-- The step has begun. -/
  | inside {t : Token} {g : Expr → Expr} {k : Nat} {ts : List Token} {next : Option Token}
    {d n : Nat} : Separator t g k → InStep Nested InNested ts next d n →
    InStepping Nested InNested (t :: ts) next d (n + k)

/-- Inside the start of a path. -/
inductive InPathStart (Nested : Phrases Expr) (InNested : Beginnings) : Beginnings
  /-- Behind a slash, when a step comes next. -/
  | slash {t : Token} : startsStep t = true → InPathStart Nested InNested [.slash] (some t) 0 1
  /-- In front of two slashes. -/
  | doubleSlash : InPathStart Nested InNested [] (some .doubleSlash) 0 2
  /-- A step from the document has begun. -/
  | absolute {t : Token} {g : Expr → Expr} {k : Nat} {ts : List Token} {next : Option Token}
    {d n : Nat} : Separator t g k → InStep Nested InNested ts next d n →
    InPathStart Nested InNested (t :: ts) next d (n + k)
  /-- A step from the context node has begun. -/
  | relative {ts : List Token} {next : Option Token} {d n : Nat} :
    InStep Nested InNested ts next d n → InPathStart Nested InNested ts next d n
  /-- A primary expression or one of its predicates has begun. -/
  | filter {ts : List Token} {next : Option Token} {d n : Nat} :
    InRepeated (PrimaryExpr Nested) (Filtering Nested) (InPrimary Nested InNested)
      (InFiltering InNested) ts next d n →
    InPathStart Nested InNested ts next d n

/-- Inside a path. -/
inductive InPath (Nested : Phrases Expr) (InNested : Beginnings) : Beginnings
  | intro {ts : List Token} {next : Option Token} {d n : Nat} :
    InRepeated (PathStart Nested) (Stepping Nested) (InPathStart Nested InNested)
      (InStepping Nested InNested) ts next d n →
    InPath Nested InNested ts next d n

/-! ## Operators -/

/-- In front of an operator, or inside the operand behind it. -/
inductive InJoining (tier : Nat) (InOperand : Beginnings) : Beginnings
  /-- The operator comes next. -/
  | counted {t : Token} {join : Expr → Expr → Expr} : Operator tier t join →
    InJoining tier InOperand [] (some t) 0 1
  /-- The operand has begun. -/
  | inside {t : Token} {join : Expr → Expr → Expr} {ts : List Token} {next : Option Token}
    {d n : Nat} : Operator tier t join → InOperand ts next d n →
    InJoining tier InOperand (t :: ts) next d (n + 1)

/-- Inside of operands with the operators of a tier between them. -/
inductive InTier (tier : Nat) (Operand : Phrases Expr) (InOperand : Beginnings) : Beginnings
  | intro {ts : List Token} {next : Option Token} {d n : Nat} :
    InRepeated Operand (Joining tier Operand) InOperand (InJoining tier InOperand) ts next d n →
    InTier tier Operand InOperand ts next d n

mutual

/-- Inside an expression, which is open itself. -/
inductive InExpression : Beginnings
  /-- It has just been opened. -/
  | opened {next : Option Token} : InExpression [] next 1 0
  /-- Its operators and operands have begun. -/
  | inside {ts : List Token} {next : Option Token} {d n : Nat} :
    InTier 1 (Tier 2 (Tier 3 (Tier 4 (Tier 5 (Tier 6 UnaryExpr)))))
      (InTier 2 (Tier 3 (Tier 4 (Tier 5 (Tier 6 UnaryExpr))))
        (InTier 3 (Tier 4 (Tier 5 (Tier 6 UnaryExpr)))
          (InTier 4 (Tier 5 (Tier 6 UnaryExpr))
            (InTier 5 (Tier 6 UnaryExpr) (InTier 6 UnaryExpr InUnary))))) ts next d n →
    InExpression ts next (d + 1) n

/-- Inside a unary expression. -/
inductive InUnary : Beginnings
  /-- A minus sign comes next. -/
  | minus : InUnary [] (some .minus) 1 0
  /-- The operand of a negation has begun. -/
  | negated {ts : List Token} {next : Option Token} {d n : Nat} :
    InUnary ts next d n → InUnary (.minus :: ts) next (d + 1) n
  /-- A union of paths has begun. -/
  | union {ts : List Token} {next : Option Token} {d n : Nat} :
    InTier 7 (PathExpr Expression) (InPath Expression InExpression) ts next d n →
    InUnary ts next d n

end

/-! ## Completion -/

/-- What has begun, with few enough levels open, is the front of a phrase with as many levels and
items. -/
def Completes {α : Type} (levels : Nat) (Begun : Beginnings) (L : Phrases α) : Prop :=
  ∀ ⦃ts next d n⦄, Begun ts next d n → d ≤ levels →
    ∃ us a d' n', L (ts ++ us) a d' n' ∧ d ≤ d' ∧ n ≤ n'

/-- What has begun is the front of a further phrase, which starts with the token that comes next if
none has been read. -/
def CompletesMore {α : Type} (levels : Nat) (Begun : Beginnings) (More : Phrases (α → α)) : Prop :=
  ∀ ⦃ts next d n⦄, Begun ts next d n → d ≤ levels →
    ∃ us f d' n', More (ts ++ us) f d' n' ∧ d ≤ d' ∧ n ≤ n' ∧
      (ts ++ us).head? = (ts ++ next.toList).head?

/-- There is a phrase. -/
def HasPhrase {α : Type} (L : Phrases α) : Prop := ∃ ts a d n, L ts a d n

variable {α : Type} {levels : Nat} {Nested : Phrases Expr} {InNested : Beginnings}

theorem Completes.repeated {First : Phrases α} {More : Phrases (α → α)}
    {InFirst InMore : Beginnings} (hfirst : Completes levels InFirst First)
    (hmore : CompletesMore levels InMore More) :
    Completes levels (InRepeated First More InFirst InMore) (Repeated First More) := by
  intro ts next d n h hd
  cases h with
  | first h =>
    obtain ⟨us, a, d', n', hus, hrest⟩ := hfirst h hd
    exact ⟨us, a, d', n', .first hus, hrest⟩
  | more hts h hstar =>
    obtain ⟨us, f, d', n', hus, hd', hn', hhead⟩ := hmore h hd
    rw [← hhead] at hstar
    have hboth := Repeated.more hts hus hstar
    rw [← List.append_assoc] at hboth
    exact ⟨us, _, _, _, hboth, Nat.le_trans hd' (Nat.le_max_right _ _), by omega⟩

theorem Completes.listOf {Item : Phrases α} {InItem : Beginnings}
    (h : Completes levels InItem Item) : Completes levels (InListOf Item InItem) (ListOf Item) := by
  rintro _ next d _ ⟨hts, hitem⟩ hd
  obtain ⟨us, a, d', n', hus, hd', hn'⟩ := h hitem hd
  have hboth := hts.concat hus
  rw [← List.append_assoc] at hboth
  exact ⟨us, _, _, _, hboth, Nat.le_trans hd' (Nat.le_max_right _ _), by omega⟩

theorem completes_predicate (h : Completes levels InNested Nested) :
    Completes levels (InPredicate InNested) (PredicateExpr Nested) := by
  rintro _ next d n ⟨hts⟩ hd
  obtain ⟨us, e, d', n', hus, hrest⟩ := h hts hd
  refine ⟨us ++ [.rightBracket], e, d', n', ?_, hrest⟩
  rw [List.cons_append, ← List.append_assoc]
  exact .intro hus

theorem completes_step (h : Completes levels InNested Nested) :
    Completes levels (InStep Nested InNested) (StepExpr Nested) := by
  intro ts next d n hts hd
  cases hts with
  | @intro ts us vs a t _ _ _ haxis htest hpredicates =>
    obtain ⟨ws, ps, d', n', hws, hrest⟩ := (completes_predicate h).listOf hpredicates hd
    refine ⟨ws, ⟨a, t, ps⟩, d', n', ?_, hrest⟩
    rw [List.append_assoc, List.append_assoc]
    exact .full haxis htest hws

theorem completes_furtherArgument (h : Completes levels InNested Nested) :
    Completes levels (InFurtherArgument InNested) (FurtherArgument Nested) := by
  rintro _ next d n ⟨hts⟩ hd
  obtain ⟨us, e, d', n', hus, hrest⟩ := h hts hd
  exact ⟨us, e, d', n', .intro hus, hrest⟩

theorem completes_arguments (h : Completes levels InNested Nested) :
    Completes levels (InArguments Nested InNested) (Arguments Nested) := by
  intro ts next d n hts hd
  cases hts with
  | first hts _ =>
    obtain ⟨us, e, d', n', hus, hrest⟩ := h hts hd
    have hone := Arguments.some hus .nil
    rw [List.append_nil, Nat.max_zero, Nat.add_zero] at hone
    exact ⟨us, _, d', n', hone, hrest⟩
  | further he hus =>
    obtain ⟨us, es, d', n', hus, hd', hn'⟩ := (completes_furtherArgument h).listOf hus hd
    have hboth := Arguments.some he hus
    rw [← List.append_assoc] at hboth
    exact ⟨us, _, _, _, hboth, Nat.le_trans hd' (Nat.le_max_right _ _), by omega⟩

theorem completes_primary (h : Completes levels InNested Nested) :
    Completes levels (InPrimary Nested InNested) (PrimaryExpr Nested) := by
  intro ts next d n hts hd
  cases hts with
  | group hts =>
    obtain ⟨us, e, d', n', hus, hrest⟩ := h hts hd
    refine ⟨us ++ [.rightParen], e, d', n', ?_, hrest⟩
    rw [List.cons_append, ← List.append_assoc]
    exact .group hus
  | @call f _ _ _ _ hts =>
    obtain ⟨us, es, d', n', hus, hrest⟩ := completes_arguments h hts hd
    refine ⟨us ++ [.rightParen], .call f es, d', n', ?_, hrest⟩
    rw [List.cons_append, List.cons_append, ← List.append_assoc]
    exact .call hus

theorem completesMore_filtering (h : Completes levels InNested Nested) (hsome : HasPhrase Nested) :
    CompletesMore levels (InFiltering InNested) (Filtering Nested) := by
  intro ts next d n hts hd
  cases hts with
  | counted =>
    obtain ⟨us, e, d', n', hus⟩ := hsome
    exact ⟨_, _, d', n' + 1, .intro (.intro hus), Nat.zero_le _, Nat.le_add_left _ _, rfl⟩
  | inside hts =>
    obtain ⟨us, e, d', n', hus, hd', hn'⟩ := completes_predicate h hts hd
    cases hts
    exact ⟨us, _, d', n' + 1, .intro hus, hd', Nat.add_le_add_right hn' 1, rfl⟩

theorem completesMore_stepping (h : Completes levels InNested Nested) :
    CompletesMore levels (InStepping Nested InNested) (Stepping Nested) := by
  intro ts next d n hts hd
  cases hts with
  | counted ht => exact ⟨_, _, 0, 0 + _, .intro ht .self, Nat.le_refl _, Nat.le_add_left _ _, rfl⟩
  | inside ht hts =>
    obtain ⟨us, s, d', n', hus, hd', hn'⟩ := completes_step h hts hd
    exact ⟨us, _, d', n' + _, .intro ht hus, hd', Nat.add_le_add_right hn' _, rfl⟩

theorem completes_pathStart (h : Completes levels InNested Nested) (hsome : HasPhrase Nested) :
    Completes levels (InPathStart Nested InNested) (PathStart Nested) := by
  intro ts next d n hts hd
  cases hts with
  | slash _ =>
    exact ⟨[.dot], _, 0, 1, .absolute (.intro .slash .self), Nat.le_refl _, Nat.le_refl _⟩
  | doubleSlash =>
    exact ⟨[.doubleSlash, .dot], _, 0, 2, .absolute (.intro .doubleSlash .self), Nat.le_refl _,
      Nat.le_refl _⟩
  | absolute ht hts =>
    obtain ⟨us, s, d', n', hus, hd', hn'⟩ := completes_step h hts hd
    exact ⟨us, _, d', n' + _, .absolute (.intro ht hus), hd', Nat.add_le_add_right hn' _⟩
  | relative hts =>
    obtain ⟨us, s, d', n', hus, hrest⟩ := completes_step h hts hd
    exact ⟨us, _, d', n', .relative hus, hrest⟩
  | filter hts =>
    obtain ⟨us, e, d', n', hus, hrest⟩ :=
      (completes_primary h).repeated (completesMore_filtering h hsome) hts hd
    exact ⟨us, e, d', n', .filter hus, hrest⟩

theorem completes_path (h : Completes levels InNested Nested) (hsome : HasPhrase Nested) :
    Completes levels (InPath Nested InNested) (PathExpr Nested) := by
  rintro ts next d n ⟨hts⟩ hd
  obtain ⟨us, e, d', n', hus, hrest⟩ :=
    (completes_pathStart h hsome).repeated (completesMore_stepping h) hts hd
  exact ⟨us, e, d', n', .steps hus, hrest⟩

theorem completes_tier {tier : Nat} {Operand : Phrases Expr} {InOperand : Beginnings}
    (h : Completes levels InOperand Operand) (hsome : HasPhrase Operand) :
    Completes levels (InTier tier Operand InOperand) (Tier tier Operand) := by
  have hmore : CompletesMore levels (InJoining tier InOperand) (Joining tier Operand) := by
    intro ts next d n hts hd
    cases hts with
    | counted ht =>
      obtain ⟨us, e, d', n', hus⟩ := hsome
      exact ⟨_, _, d', n' + 1, .intro ht hus, Nat.zero_le _, Nat.le_add_left _ _, rfl⟩
    | inside ht hts =>
      obtain ⟨us, e, d', n', hus, hd', hn'⟩ := h hts hd
      exact ⟨us, _, d', n' + 1, .intro ht hus, hd', Nat.add_le_add_right hn' 1, rfl⟩
  rintro ts next d n ⟨hts⟩ hd
  obtain ⟨us, e, d', n', hus, hrest⟩ := h.repeated hmore hts hd
  exact ⟨us, e, d', n', .intro hus, hrest⟩

theorem HasPhrase.tier {tier : Nat} {Operand : Phrases Expr} (h : HasPhrase Operand) :
    HasPhrase (Tier tier Operand) := by
  obtain ⟨ts, e, d, n, hts⟩ := h
  exact ⟨ts, e, d, n, .intro (.first hts)⟩

theorem hasPhrase_pathExpr : HasPhrase (PathExpr Nested) := ⟨_, _, _, _, .root⟩

theorem hasPhrase_unaryExpr : HasPhrase UnaryExpr := by
  obtain ⟨ts, e, d, n, hts⟩ := @HasPhrase.tier 7 _ (@hasPhrase_pathExpr Expression)
  exact ⟨ts, e, d, n, .union hts⟩

theorem hasPhrase_expression : HasPhrase Expression := by
  obtain ⟨ts, e, d, n, hts⟩ := hasPhrase_unaryExpr.tier.tier.tier.tier.tier.tier
  exact ⟨ts, e, d + 1, n, .intro hts⟩

theorem completes_expression (h : Completes levels InUnary UnaryExpr) :
    Completes (levels + 1) InExpression Expression := by
  intro ts next d n hts hd
  cases hts with
  | opened =>
    obtain ⟨us, e, d', n', ⟨hus⟩⟩ := hasPhrase_expression
    exact ⟨us, e, _, n', .intro hus, Nat.le_add_left _ _, Nat.zero_le _⟩
  | inside hts =>
    have h₆ := hasPhrase_unaryExpr
    have hinside₆ := @completes_tier levels 6 _ _ h h₆
    have hinside₅ := @completes_tier levels 5 _ _ hinside₆ h₆.tier
    have hinside₄ := @completes_tier levels 4 _ _ hinside₅ h₆.tier.tier
    have hinside₃ := @completes_tier levels 3 _ _ hinside₄ h₆.tier.tier.tier
    have hinside₂ := @completes_tier levels 2 _ _ hinside₃ h₆.tier.tier.tier.tier
    obtain ⟨us, e, d', n', hus, hd', hn'⟩ :=
      completes_tier hinside₂ h₆.tier.tier.tier.tier.tier hts (Nat.le_of_succ_le_succ hd)
    exact ⟨us, e, d' + 1, n', .intro hus, Nat.succ_le_succ hd', hn'⟩

/-- What has begun can be completed, by induction on the levels that are open. -/
theorem completes_unary (levels : Nat) : Completes levels InUnary UnaryExpr := by
  induction levels with
  | zero =>
    intro ts next d n hts hd
    have hnone : Completes 0 InExpression Expression := by
      intro ts next d n hts hd
      cases hts <;> cases hd
    cases hts with
    | minus => cases hd
    | negated hts => cases hd
    | union hts =>
      obtain ⟨us, e, d', n', hus, hrest⟩ :=
        completes_tier (completes_path hnone hasPhrase_expression) hasPhrase_pathExpr hts hd
      exact ⟨us, e, d', n', .union hus, hrest⟩
  | succ levels ih =>
    intro ts next d n hts hd
    cases hts with
    | minus =>
      obtain ⟨us, e, d', n', hus⟩ := hasPhrase_unaryExpr
      exact ⟨_, _, d' + 1, n', .negate hus, Nat.le_add_left _ _, Nat.zero_le _⟩
    | negated hts =>
      obtain ⟨us, e, d', n', hus, hd', hn'⟩ := ih hts (Nat.le_of_succ_le_succ hd)
      exact ⟨us, _, d' + 1, n', .negate hus, Nat.succ_le_succ hd', hn'⟩
    | union hts =>
      obtain ⟨us, e, d', n', hus, hrest⟩ := completes_tier
        (completes_path (completes_expression ih) hasPhrase_expression) hasPhrase_pathExpr hts hd
      exact ⟨us, e, d', n', .union hus, hrest⟩

/-- **What has begun is the front of an expression** with as many levels and items. -/
theorem InExpression.exists_expression {ts : List Token} {next : Option Token} {d n : Nat}
    (h : InExpression ts next d n) :
    ∃ us e d' n', Expression (ts ++ us) e d' n' ∧ d ≤ d' ∧ n ≤ n' :=
  completes_expression (completes_unary d) h (Nat.le_succ d)

end XmlQuery.XPath.Grammar
