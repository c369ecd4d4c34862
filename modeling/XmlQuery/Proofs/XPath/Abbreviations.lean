import XmlQuery.Proofs.XPath.Grammar

/-!
# Abbreviations

Abbreviations are a matter of tokens: `.` and `..` are steps to the node itself and to its parent,
`@` is the axis of attributes, two slashes are a step to the descendants between two slashes, and
where a step starts with its node test its axis is that of children. Writing some of them out, and
not others, gives another sequence of tokens for the same expression, with as many levels and items.

Whether a node test starts a step is seen from the tokens in front of it: an operand has to be
missing there, and the node test must not be what an axis, the sign `@` or the sign of a variable
waits for. A phrase that is an operand leaves this open behind it only where it ends with a slash,
and the grammar keeps stars away from there.

## Main definitions

* `Place`, `Place.after`: what may come behind tokens
* `Token.expansion?`, `Expanded`: tokens of which some abbreviations are written out
* `Expandable`: phrases that stay phrases for the same

## Main results

* `expanded_append_iff`: abbreviations are written out token by token
* `Expandable.repeated`: repeated phrases, two for one in the case of two slashes
* `expandable_expression`: **abbreviations in expressions are pure syntax**
-/

namespace XmlQuery.XPath

open Grammar

/-! ## Writing out -/

/-- What is missing at a place between tokens. -/
inductive Place
  /-- An operand, which may be a step. -/
  | operand
  /-- The node test of an axis, or the name of a variable. -/
  | name
  /-- Nothing: an operand has ended. -/
  | nothing
  deriving DecidableEq

/-- The place behind a token. -/
def Place.after (place : Place) (t : Token) : Place :=
  match t with
  | .at | .doubleColon | .dollar => .name
  | t => if t.endsOperand (place == .nothing) then .nothing else .operand

/-- The place behind some tokens. -/
def Place.behind (place : Place) (ts : List Token) : Place := ts.foldl Place.after place

/-- A step to any node in a direction. -/
def anyNodeTokens (axis : Axis) : List Token :=
  [.axis axis.name, .doubleColon, .nodeType "node", .leftParen, .rightParen]

/-- A node test starts with the token. -/
def Token.startsTest : Token → Bool
  | .star | .name _ | .qname _ _ | .prefixWildcard _ | .nodeType _ => true
  | _ => false

/-- What a token stands for, if it is an abbreviation or starts a step without an axis. -/
def Token.expansion? (place : Place) (t : Token) : Option (List Token) :=
  match t with
  | .dot => some (anyNodeTokens .self)
  | .doubleDot => some (anyNodeTokens .parent)
  | .at => some [.axis Axis.attribute.name, .doubleColon]
  | .doubleSlash => some (.slash :: (anyNodeTokens .descendantOrSelf ++ [.slash]))
  | t =>
    if t.startsTest && place == .operand then some [.axis Axis.child.name, .doubleColon, t]
    else none

/-- Of the abbreviations in a sequence of tokens some are written out. -/
inductive Expanded : Place → List Token → List Token → Prop
  /-- The end. -/
  | nil {place : Place} : Expanded place [] []
  /-- A token that is kept. -/
  | keep {place : Place} {t : Token} {ts ts' : List Token} : Expanded (place.after t) ts ts' →
    Expanded place (t :: ts) (t :: ts')
  /-- An abbreviation that is written out. -/
  | expand {place : Place} {t : Token} {us ts ts' : List Token} : t.expansion? place = some us →
    Expanded (place.after t) ts ts' → Expanded place (t :: ts) (us ++ ts')

variable {place : Place} {t : Token} {ts ts' us zs : List Token}

theorem Place.behind_append (place : Place) (ts us : List Token) :
    place.behind (ts ++ us) = (place.behind ts).behind us :=
  List.foldl_append

theorem expanded_nil_iff : Expanded place [] zs ↔ zs = [] := by
  constructor
  · rintro ⟨⟩
    rfl
  · rintro rfl
    exact .nil

theorem expanded_cons_iff : Expanded place (t :: ts) zs ↔ ∃ ts', Expanded (place.after t) ts ts' ∧
    (zs = t :: ts' ∨ ∃ us, t.expansion? place = some us ∧ zs = us ++ ts') := by
  constructor
  · rintro (_ | h | ⟨hus, h⟩)
    · exact ⟨_, h, .inl rfl⟩
    · exact ⟨_, h, .inr ⟨_, hus, rfl⟩⟩
  · rintro ⟨ts', h, rfl | ⟨us, hus, rfl⟩⟩
    · exact .keep h
    · exact .expand hus h

/-- A token that is no abbreviation is kept. -/
theorem expanded_cons_of_none (ht : t.expansion? place = none) :
    Expanded place (t :: ts) zs ↔ ∃ ts', Expanded (place.after t) ts ts' ∧ zs = t :: ts' := by
  rw [expanded_cons_iff]
  refine exists_congr fun ts' => and_congr_right fun _ => or_iff_left ?_
  rintro ⟨us, hus, -⟩
  cases ht.symm.trans hus

/-- **Abbreviations are written out token by token.** -/
theorem expanded_append_iff : Expanded place (ts ++ us) zs ↔
    ∃ ts' us', Expanded place ts ts' ∧ Expanded (place.behind ts) us us' ∧ zs = ts' ++ us' := by
  induction ts generalizing place zs with
  | nil =>
    constructor
    · exact fun h => ⟨[], zs, .nil, h, rfl⟩
    · rintro ⟨_, us', ⟨⟩, h, rfl⟩
      exact h
  | cons t ts ih =>
    rw [List.cons_append, expanded_cons_iff]
    constructor
    · rintro ⟨rest, hrest, hzs⟩
      obtain ⟨ts', us', hts, hus, rfl⟩ := ih.1 hrest
      rcases hzs with rfl | ⟨vs, hvs, rfl⟩
      · exact ⟨t :: ts', us', .keep hts, hus, rfl⟩
      · exact ⟨vs ++ ts', us', .expand hvs hts, hus, (List.append_assoc ..).symm⟩
    · rintro ⟨rest, us', hrest, hus, rfl⟩
      obtain ⟨ts', hts, rfl | ⟨vs, hvs, rfl⟩⟩ := expanded_cons_iff.1 hrest
      · exact ⟨ts' ++ us', ih.2 ⟨ts', us', hts, hus, rfl⟩, .inl rfl⟩
      · exact ⟨ts' ++ us', ih.2 ⟨ts', us', hts, hus, rfl⟩, .inr ⟨vs, hvs, List.append_assoc ..⟩⟩

/-! ## Ends of operands -/

/-- Tokens leave nothing open behind them, or they end with a slash, where no star may follow. -/
def Settles (place : Place) (ts : List Token) : Prop :=
  place.behind ts = .nothing ∨ ts.getLast? = some .slash

theorem Settles.append (h : Settles (place.behind ts) us) : Settles place (ts ++ us) := by
  rcases h with h | h
  · exact .inl ((place.behind_append ts us).trans h)
  · right
    rw [List.getLast?_append, h]
    rfl

theorem Settles.cons (h : Settles (place.after t) ts) : Settles place (t :: ts) := by
  have hbehind : Settles (place.behind [t]) ts := h
  exact hbehind.append

/-- What an abbreviation stands for. -/
theorem expansion?_cases (h : t.expansion? place = some us) :
    t = .dot ∧ us = anyNodeTokens .self ∨ t = .doubleDot ∧ us = anyNodeTokens .parent ∨
      t = .at ∧ us = [.axis Axis.attribute.name, .doubleColon] ∨
      t = .doubleSlash ∧ us = .slash :: (anyNodeTokens .descendantOrSelf ++ [.slash]) ∨
      t.startsTest = true ∧ place = .operand ∧
        us = [.axis Axis.child.name, .doubleColon, t] := by
  unfold Token.expansion? at h
  split at h
  · exact .inl ⟨rfl, (Option.some.inj h).symm⟩
  · exact .inr (.inl ⟨rfl, (Option.some.inj h).symm⟩)
  · exact .inr (.inr (.inl ⟨rfl, (Option.some.inj h).symm⟩))
  · exact .inr (.inr (.inr (.inl ⟨rfl, (Option.some.inj h).symm⟩)))
  · split at h
    · next htest =>
      rw [Bool.and_eq_true, beq_iff_eq] at htest
      exact .inr (.inr (.inr (.inr ⟨htest.1, htest.2, (Option.some.inj h).symm⟩)))
    · cases h

/-- What is written out starts with no star. -/
theorem head?_of_expanded (h : Expanded place ts ts') (hstar : ts'.head? = some .star) :
    ts.head? = some .star := by
  cases h with
  | nil => exact hstar
  | keep _ => exact hstar
  | expand hus _ =>
    obtain ⟨rfl, rfl⟩ | ⟨rfl, rfl⟩ | ⟨rfl, rfl⟩ | ⟨rfl, rfl⟩ | ⟨-, -, rfl⟩ := expansion?_cases hus
    all_goals cases hstar

theorem eq_nil_of_expanded (h : Expanded place ts []) : ts = [] := by
  cases ts with
  | nil => rfl
  | cons t ts =>
    obtain ⟨ts', -, hkept | ⟨us, hus, hnil⟩⟩ := expanded_cons_iff.1 h
    · cases hkept
    · obtain ⟨rfl, -⟩ := List.append_eq_nil_iff.1 hnil.symm
      obtain ⟨-, h⟩ | ⟨-, h⟩ | ⟨-, h⟩ | ⟨-, h⟩ | ⟨-, -, h⟩ := expansion?_cases hus
      all_goals cases h

/-- Tokens end with a slash only where they did so before, or ended with two. -/
theorem getLast?_of_expanded (h : Expanded place ts ts') (hslash : ts'.getLast? = some .slash) :
    ts.getLast? = some .slash ∨ ts.getLast? = some .doubleSlash := by
  have hcons : ∀ {t x : Token} {ts : List Token}, ts.getLast? = some x →
      (t :: ts).getLast? = some x :=
    fun h => by rw [List.getLast?_cons, h]; rfl
  induction h with
  | nil => cases hslash
  | @keep _ t ts ts' hts ih =>
    cases hend : ts'.getLast? with
    | none =>
      obtain rfl := List.getLast?_eq_none_iff.1 hend
      obtain rfl := eq_nil_of_expanded hts
      exact .inl hslash
    | some x =>
      rw [hcons hend] at hslash
      rcases ih (hend.trans hslash) with h | h
      · exact .inl (hcons h)
      · exact .inr (hcons h)
  | @expand _ t us ts ts' hus hts ih =>
    rw [List.getLast?_append] at hslash
    cases hend : ts'.getLast? with
    | none =>
      obtain rfl := List.getLast?_eq_none_iff.1 hend
      obtain rfl := eq_nil_of_expanded hts
      obtain ⟨rfl, rfl⟩ | ⟨rfl, rfl⟩ | ⟨rfl, rfl⟩ | ⟨rfl, rfl⟩ | ⟨htest, -, rfl⟩ :=
        expansion?_cases hus
      case inr.inr.inr.inl => exact .inr rfl
      case inr.inr.inr.inr =>
        cases hslash
        cases htest
      all_goals cases hslash
    | some x =>
      rw [hend] at hslash
      rcases ih (hend.trans hslash) with h | h
      · exact .inl (hcons h)
      · exact .inr (hcons h)

/-- A star still does not follow a slash. -/
theorem Settles.getLast?_ne (h : Settles place ts) (hts : Expanded place ts ts')
    (hne : ts.getLast? ≠ some .slash) : ts'.getLast? ≠ some .slash := by
  intro hslash
  rcases getLast?_of_expanded hts hslash with hlast | hlast
  · exact hne hlast
  · -- Behind two slashes an operand is missing.
    obtain ⟨front, rfl⟩ := List.getLast?_eq_some_iff.1 hlast
    rcases h with h | h
    · rw [Place.behind_append] at h
      cases h
    · exact hne h

/-! ## Phrases -/

/-- Phrases with few enough levels, where an operand is missing, are operands, and stay phrases for
the same when abbreviations are written out. -/
def Expandable {α : Type} (levels : Nat) (L : Phrases α) : Prop :=
  ∀ ⦃ts a d n⦄, L ts a d n → d ≤ levels →
    Settles .operand ts ∧ ∀ ts', Expanded .operand ts ts' → L ts' a d n

/-- Further phrases with few enough levels are the ends of operands, and the same follows what is in
front of them when abbreviations are written out. No phrase starts with a star unless an operand has
ended. -/
def ExpandableBehind {α : Type} (levels : Nat) (First : Phrases α) (More : Phrases (α → α)) :
    Prop :=
  ∀ ⦃us f d n⦄, More us f d n → d ≤ levels → ∀ place, (us.head? = some .star → place = .nothing) →
    Settles place us ∧ ∀ us', Expanded place us us' → ∀ {ts a d₀ n₀},
      Repeated First More ts a d₀ n₀ → (us'.head? = some .star → ts.getLast? ≠ some .slash) →
      Repeated First More (ts ++ us') (f a) (max d₀ d) (n₀ + n)

variable {levels : Nat} {Nested : Phrases Expr}

/-- Repeated phrases, where a first phrase may become several. -/
theorem Expandable.repeated {α : Type} {First : Phrases α} {More : Phrases (α → α)}
    (hfirst : ∀ ⦃ts a d n⦄, First ts a d n → d ≤ levels →
      Settles .operand ts ∧ ∀ ts', Expanded .operand ts ts' → Repeated First More ts' a d n)
    (hmore : ExpandableBehind levels First More) : Expandable levels (Repeated First More) := by
  intro ts a d n h hd
  induction h with
  | first hts => exact hfirst hts hd
  | @more ts us a f d d' n m _ hus hstar ih =>
    obtain ⟨hd₁, hd₂⟩ := Nat.max_le.1 hd
    obtain ⟨hsettles, hexpanded⟩ := ih hd₁
    -- A star does not follow a slash, so what it follows has ended.
    have hplace : us.head? = some .star → Place.behind .operand ts = .nothing :=
      fun h => hsettles.resolve_right (hstar h)
    obtain ⟨hsettles', hexpanded'⟩ := hmore hus hd₂ _ hplace
    refine ⟨hsettles'.append, fun zs hzs => ?_⟩
    obtain ⟨ts', us', hts, hus', rfl⟩ := expanded_append_iff.1 hzs
    exact hexpanded' us' hus' (hexpanded ts' hts)
      fun h => hsettles.getLast?_ne hts (hstar (head?_of_expanded hus' h))

/-- Further phrases that stay single ones. -/
theorem expandableBehind_of_single {α : Type} {First : Phrases α} {More : Phrases (α → α)}
    (h : ∀ ⦃us f d n⦄, More us f d n → d ≤ levels → ∀ place,
      (us.head? = some .star → place = .nothing) →
      Settles place us ∧ ∀ us', Expanded place us us' → More us' f d n) :
    ExpandableBehind levels First More := by
  intro us f d n hus hd place hplace
  obtain ⟨hsettles, hexpanded⟩ := h hus hd place hplace
  exact ⟨hsettles, fun us' hus' _ _ _ _ hts hstar => .more hts (hexpanded us' hus') hstar⟩

/-- Phrases stay phrases for the same at any place when abbreviations are written out. -/
def ExpandableAnywhere {α : Type} (levels : Nat) (L : Phrases α) : Prop :=
  ∀ ⦃ts a d n⦄, L ts a d n → d ≤ levels → ∀ place ts', Expanded place ts ts' → L ts' a d n

theorem ExpandableAnywhere.listOf {α : Type} {Item : Phrases α}
    (h : ExpandableAnywhere levels Item) : ExpandableAnywhere levels (ListOf Item) := by
  intro ts as d n has hd
  induction has with
  | nil =>
    intro place ts' hts
    cases hts
    exact .nil
  | cons ha _ ih =>
    intro place zs hzs
    obtain ⟨hd₁, hd₂⟩ := Nat.max_le.1 hd
    obtain ⟨ts', us', hts, hus, rfl⟩ := expanded_append_iff.1 hzs
    exact .cons (h ha hd₁ _ _ hts) (ih hd₂ _ _ hus)

/-- An operand between tokens that nothing is missing in front of, or that it is missing behind. -/
theorem expanded_between {first last : Token} (hfirst : first.expansion? place = none)
    (hafter : place.after first = .operand) (hlast : ∀ place, last.expansion? place = none)
    (h : Expanded place (first :: (ts ++ [last])) zs) :
    ∃ ts', Expanded .operand ts ts' ∧ zs = first :: (ts' ++ [last]) := by
  obtain ⟨rest, hrest, rfl⟩ := (expanded_cons_of_none hfirst).1 h
  rw [hafter] at hrest
  obtain ⟨ts', us', hts, hus, rfl⟩ := expanded_append_iff.1 hrest
  obtain ⟨_, ⟨⟩, rfl⟩ := (expanded_cons_of_none (hlast _)).1 hus
  exact ⟨ts', hts, rfl⟩

/-! ## Steps -/

theorem expandable_predicateExpr (h : Expandable levels Nested) :
    ExpandableAnywhere levels (PredicateExpr Nested) := by
  rintro _ e d n ⟨hts⟩ hd place ts' hts'
  obtain ⟨us, hus, rfl⟩ := expanded_between rfl rfl (fun _ => rfl) hts'
  exact .intro ((h hts hd).2 us hus)

/-- Predicates leave nothing open behind them. -/
theorem behind_predicates {es : List Expr} {d n : Nat}
    (h : ListOf (PredicateExpr Nested) ts es d n) :
    Place.behind .nothing ts = .nothing := by
  induction h with
  | nil => rfl
  | cons hts _ ih =>
    obtain ⟨_⟩ := hts
    rw [Place.behind_append, ← List.cons_append, Place.behind_append]
    exact ih

/-- Tokens none of which is an abbreviation anywhere stay as they are. -/
theorem eq_of_expanded (hts : ∀ t ∈ ts, ∀ place, t.expansion? place = none)
    (h : Expanded place ts zs) : zs = ts := by
  induction ts generalizing place zs with
  | nil => exact expanded_nil_iff.1 h
  | cons t ts ih =>
    rw [List.forall_mem_cons] at hts
    obtain ⟨ts', hts', rfl⟩ := (expanded_cons_of_none (hts.1 _)).1 h
    rw [ih hts.2 hts']

theorem expansion?_of_startsTest (h : t.startsTest = true) :
    t.expansion? place =
      if place = .operand then some [.axis Axis.child.name, .doubleColon, t] else none := by
  cases t
  case star | name | qname | prefixWildcard | nodeType => cases place <;> rfl
  all_goals cases h

/-- Only the first token of a node test can be taken for a step, and nothing is missing behind the
last one. -/
theorem nodeTestExpr_tokens {t : NodeTest} (h : NodeTestExpr ts t) :
    ∃ first rest, ts = first :: rest ∧ first.startsTest = true ∧
      (∀ t ∈ rest, ∀ place, t.expansion? place = none) ∧
      ∀ place : Place, place ≠ .nothing → place.behind ts = .nothing := by
  have hstar : ∀ place : Place, place ≠ .nothing → place.behind [.star] = .nothing := by
    intro place hplace
    cases place
    case nothing => exact absurd rfl hplace
    all_goals rfl
  have hparens : ∀ t ∈ [Token.leftParen, .rightParen], ∀ place, t.expansion? place = none :=
    List.forall_mem_cons.2 ⟨fun _ => rfl, List.forall_mem_cons.2 ⟨fun _ => rfl, nofun⟩⟩
  cases h with
  | any => exact ⟨_, _, rfl, rfl, nofun, hstar⟩
  | name | qname | wildcard => exact ⟨_, _, rfl, rfl, nofun, fun _ _ => rfl⟩
  | node | text | comment | instruction => exact ⟨_, _, rfl, rfl, hparens, fun _ _ => rfl⟩
  | target =>
    exact ⟨_, _, rfl, rfl, List.forall_mem_cons.2 ⟨fun _ => rfl, List.forall_mem_cons.2
      ⟨fun _ => rfl, List.forall_mem_cons.2 ⟨fun _ => rfl, nofun⟩⟩⟩, fun _ _ => rfl⟩

/-- Behind an axis a node test is no abbreviation. -/
theorem eq_of_expanded_nodeTest {t : NodeTest} (h : NodeTestExpr ts t)
    (hts : Expanded .name ts zs) : zs = ts := by
  obtain ⟨first, rest, rfl, hfirst, hrest, -⟩ := nodeTestExpr_tokens h
  obtain ⟨rest', hrest', rfl⟩ :=
    (expanded_cons_of_none ((expansion?_of_startsTest hfirst).trans rfl)).1 hts
  rw [eq_of_expanded hrest hrest']

/-- A node test that starts a step gets the axis of children, or none. -/
theorem cases_of_expanded_nodeTest {t : NodeTest} (h : NodeTestExpr ts t)
    (hts : Expanded .operand ts zs) :
    zs = ts ∨ zs = [.axis Axis.child.name, .doubleColon] ++ ts := by
  obtain ⟨first, rest, rfl, hfirst, hrest, -⟩ := nodeTestExpr_tokens h
  obtain ⟨rest', hrest', rfl | ⟨us, hus, rfl⟩⟩ := expanded_cons_iff.1 hts
  · exact .inl (by rw [eq_of_expanded hrest hrest'])
  · cases hus.symm.trans (expansion?_of_startsTest hfirst)
    exact .inr (by rw [eq_of_expanded hrest hrest']; rfl)

/-- Behind an axis a node test stays as it is, and the predicates behind it stay the same ones. -/
theorem exists_predicates_of_expanded (h : Expandable levels Nested) {vs : List Token}
    {t : NodeTest} {ps : List Expr} {d n : Nat} (htest : NodeTestExpr us t)
    (hpredicates : ListOf (PredicateExpr Nested) vs ps d n) (hd : d ≤ levels)
    (hzs : Expanded .name (us ++ vs) zs) :
    ∃ vs', zs = us ++ vs' ∧ ListOf (PredicateExpr Nested) vs' ps d n := by
  obtain ⟨us', vs', hus, hvs, rfl⟩ := expanded_append_iff.1 hzs
  obtain rfl := eq_of_expanded_nodeTest htest hus
  exact ⟨vs', rfl, (expandable_predicateExpr h).listOf hpredicates hd _ _ hvs⟩

/-- A step whose node test starts it can have its axis written out. -/
theorem expandable_stepExpr (h : Expandable levels Nested) :
    Expandable levels (StepExpr Nested) := by
  intro ts s d n hs hd
  have hanyNode : ∀ axis : Axis,
      StepExpr Nested (anyNodeTokens axis) (.anyNode axis) 0 0 :=
    fun axis => .full (.named axis) .node .nil
  cases hs with
  | self =>
    refine ⟨.inl rfl, fun ts' hts' => ?_⟩
    obtain ⟨_, ⟨⟩, rfl | ⟨us, ⟨⟩, rfl⟩⟩ := expanded_cons_iff.1 hts'
    · exact .self
    · exact hanyNode .self
  | parent =>
    refine ⟨.inl rfl, fun ts' hts' => ?_⟩
    obtain ⟨_, ⟨⟩, rfl | ⟨us, ⟨⟩, rfl⟩⟩ := expanded_cons_iff.1 hts'
    · exact .parent
    · exact hanyNode .parent
  | @full ts us vs a t ps _ _ haxis htest hpredicates =>
    obtain ⟨-, -, -, -, -, hbehind⟩ := nodeTestExpr_tokens htest
    -- What is in front of the predicates of a step.
    have hsettles : ∀ place : Place, place ≠ .nothing → place.behind (us ++ vs) = .nothing :=
      fun place hplace => by
        rw [Place.behind_append, hbehind place hplace, behind_predicates hpredicates]
    cases haxis with
    | omitted =>
      refine ⟨.inl (hsettles _ nofun), fun zs hzs => ?_⟩
      rw [List.nil_append] at hzs
      obtain ⟨us', vs', hus, hvs, rfl⟩ := expanded_append_iff.1 hzs
      have hvs' := (expandable_predicateExpr h).listOf hpredicates hd _ _ hvs
      rcases cases_of_expanded_nodeTest htest hus with rfl | rfl
      · exact .full .omitted htest hvs'
      · rw [List.append_assoc]
        exact .full (.named .child) htest hvs'
    | «at» =>
      refine ⟨.inl (hsettles .name nofun), fun zs hzs => ?_⟩
      obtain ⟨rest, hrest, hat⟩ := expanded_cons_iff.1 hzs
      obtain ⟨vs', rfl, hvs'⟩ := exists_predicates_of_expanded h htest hpredicates hd hrest
      rcases hat with rfl | ⟨_, ⟨⟩, rfl⟩
      · exact .full .at htest hvs'
      · exact .full (.named .attribute) htest hvs'
    | named a =>
      refine ⟨.inl (hsettles .name nofun), fun zs hzs => ?_⟩
      obtain ⟨rest, hrest, rfl⟩ := (expanded_cons_of_none rfl).1 hzs
      obtain ⟨rest, hrest', rfl⟩ := (expanded_cons_of_none rfl).1 hrest
      obtain ⟨vs', rfl, hvs'⟩ := exists_predicates_of_expanded h htest hpredicates hd hrest'
      exact .full (.named a) htest hvs'

/-! ## Paths -/

theorem expandable_furtherArgument (h : Expandable levels Nested) :
    ExpandableAnywhere levels (FurtherArgument Nested) := by
  rintro _ e d n ⟨hts⟩ hd place zs hzs
  obtain ⟨ts', hts', rfl⟩ := (expanded_cons_of_none rfl).1 hzs
  exact .intro ((h hts hd).2 ts' hts')

/-- Arguments stand where an operand is missing. -/
theorem expanded_arguments (h : Expandable levels Nested) {es : List Expr} {d n : Nat}
    (hes : Arguments Nested ts es d n) (hd : d ≤ levels) (hts : Expanded .operand ts ts') :
    Arguments Nested ts' es d n := by
  cases hes with
  | none =>
    cases hts
    exact .none
  | some hfirst hmore =>
    obtain ⟨hd₁, hd₂⟩ := Nat.max_le.1 hd
    obtain ⟨us, vs, hus, hvs, rfl⟩ := expanded_append_iff.1 hts
    exact .some ((h hfirst hd₁).2 us hus)
      ((expandable_furtherArgument h).listOf hmore hd₂ _ vs hvs)

/-- An operand in parentheses has ended. -/
theorem settles_parens (place : Place) (ts : List Token) : Settles place (ts ++ [.rightParen]) := by
  left
  rw [Place.behind_append]
  rfl

theorem expandable_primaryExpr (h : Expandable levels Nested) :
    Expandable levels (PrimaryExpr Nested) := by
  intro ts e d n he hd
  cases he with
  | number =>
    refine ⟨.inl rfl, fun zs hzs => ?_⟩
    obtain ⟨_, ⟨⟩, rfl⟩ := (expanded_cons_of_none rfl).1 hzs
    exact .number
  | string =>
    refine ⟨.inl rfl, fun zs hzs => ?_⟩
    obtain ⟨_, ⟨⟩, rfl⟩ := (expanded_cons_of_none rfl).1 hzs
    exact .string
  | «variable» =>
    refine ⟨.inl rfl, fun zs hzs => ?_⟩
    obtain ⟨rest, hrest, rfl⟩ := (expanded_cons_of_none rfl).1 hzs
    obtain ⟨_, ⟨⟩, rfl⟩ := (expanded_cons_of_none rfl).1 hrest
    exact .variable
  | prefixedVariable =>
    refine ⟨.inl rfl, fun zs hzs => ?_⟩
    obtain ⟨rest, hrest, rfl⟩ := (expanded_cons_of_none rfl).1 hzs
    obtain ⟨_, ⟨⟩, rfl⟩ := (expanded_cons_of_none rfl).1 hrest
    exact .prefixedVariable
  | @group ts _ _ _ hts =>
    refine ⟨settles_parens .operand (.leftParen :: ts), fun zs hzs => ?_⟩
    obtain ⟨ts', hts', rfl⟩ := expanded_between rfl rfl (fun _ => rfl) hzs
    exact .group ((h hts hd).2 ts' hts')
  | @call f ts _ _ _ hes =>
    refine ⟨settles_parens .operand (.functionName f :: .leftParen :: ts), fun zs hzs => ?_⟩
    obtain ⟨rest, hrest, rfl⟩ := (expanded_cons_of_none rfl).1 hzs
    obtain ⟨ts', hts', rfl⟩ := expanded_between rfl rfl (fun _ => rfl) hrest
    exact .call (expanded_arguments h hes hd hts')

theorem expandableBehind_filtering (h : Expandable levels Nested) {First : Phrases Expr} :
    ExpandableBehind levels First (Filtering Nested) := by
  refine expandableBehind_of_single ?_
  rintro us _ d _ ⟨hp⟩ hd place -
  constructor
  · obtain ⟨hts⟩ := hp
    left
    rw [← List.cons_append, Place.behind_append]
    rfl
  · exact fun us' hus' => .intro (expandable_predicateExpr h hp hd place us' hus')

theorem stepping_head?_ne {us : List Token} {f : Expr → Expr} {d n : Nat}
    (h : Stepping Nested us f d n) : us.head? ≠ some .star := by
  obtain ⟨hseparator, -⟩ := h
  cases hseparator <;> exact nofun

/-- **Two slashes are two steps**, or one with what they stand for. Both steps count for one item
each, the two slashes for two. -/
theorem expanded_stepping (h : Expandable levels Nested) {f : Expr → Expr} {d n : Nat}
    (hus : Stepping Nested us f d n) (hd : d ≤ levels) (place : Place) :
    Settles place us ∧ ∀ us', Expanded place us us' → Stepping Nested us' f d n ∨
      ∃ us₁ us₂ f₁ f₂ n₁ n₂, us' = us₁ ++ us₂ ∧ f = f₂ ∘ f₁ ∧ n = n₁ + n₂ ∧
        Stepping Nested us₁ f₁ 0 n₁ ∧ Stepping Nested us₂ f₂ d n₂ := by
  obtain ⟨hseparator, hs⟩ := hus
  obtain ⟨hsettles, hexpanded⟩ := expandable_stepExpr h hs hd
  cases hseparator with
  | slash =>
    refine ⟨.cons hsettles, fun us' hus' => ?_⟩
    obtain ⟨rest, hrest, rfl⟩ := (expanded_cons_of_none rfl).1 hus'
    exact .inl (.intro .slash (hexpanded rest hrest))
  | @doubleSlash =>
    refine ⟨.cons hsettles, fun us' hus' => ?_⟩
    obtain ⟨rest, hrest, rfl | ⟨us, hus, rfl⟩⟩ := expanded_cons_iff.1 hus'
    · exact .inl (.intro .doubleSlash (hexpanded rest hrest))
    · cases hus
      -- One slash is in front of a step to any node, the other one of the step that is there.
      have hdown : Stepping Nested (.slash :: anyNodeTokens .descendantOrSelf)
          (fun base => (id base).andStep (.anyNode .descendantOrSelf)) 0 (0 + 1) :=
        .intro .slash (.full (.named .descendantOrSelf) .node .nil)
      have hfurther := Stepping.intro .slash (hexpanded rest hrest)
      refine .inr ⟨.slash :: anyNodeTokens .descendantOrSelf, .slash :: rest, _, _, _, _, rfl, rfl,
        ?_, hdown, hfurther⟩
      omega

theorem expandableBehind_stepping (h : Expandable levels Nested) {First : Phrases Expr} :
    ExpandableBehind levels First (Stepping Nested) := by
  intro us f d n hus hd place _
  obtain ⟨hsettles, hexpanded⟩ := expanded_stepping h hus hd place
  refine ⟨hsettles, fun us' hus' ts a d₀ n₀ hts _ => ?_⟩
  rcases hexpanded us' hus' with hone | ⟨us₁, us₂, f₁, f₂, n₁, n₂, rfl, rfl, rfl, hfirst, hsecond⟩
  · exact .more hts hone fun hstar => absurd hstar (stepping_head?_ne hone)
  · have hboth := Repeated.more
      (.more hts hfirst fun hstar => absurd hstar (stepping_head?_ne hfirst)) hsecond
      fun hstar => absurd hstar (stepping_head?_ne hsecond)
    rwa [Nat.max_zero, Nat.add_assoc, List.append_assoc] at hboth

theorem expandable_filterExpr (h : Expandable levels Nested) :
    Expandable levels (Repeated (PrimaryExpr Nested) (Filtering Nested)) := by
  refine .repeated (fun ts e d n he hd => ?_) (expandableBehind_filtering h)
  obtain ⟨hsettles, hexpanded⟩ := expandable_primaryExpr h he hd
  exact ⟨hsettles, fun ts' hts' => .first (hexpanded ts' hts')⟩

/-- Two slashes at the start of a path are a slash there, and another one behind a step. -/
theorem expandable_pathStart (h : Expandable levels Nested) {e : Expr} {d n : Nat}
    (hts : PathStart Nested ts e d n) (hd : d ≤ levels) :
    Settles .operand ts ∧ ∀ ts', Expanded .operand ts ts' →
      Repeated (PathStart Nested) (Stepping Nested) ts' e d n := by
  cases hts with
  | absolute hus =>
    obtain ⟨hsettles, hexpanded⟩ := expanded_stepping h hus hd .operand
    refine ⟨hsettles, fun us' hus' => ?_⟩
    rcases hexpanded us' hus' with hone | ⟨us₁, us₂, f₁, f₂, n₁, n₂, rfl, rfl, rfl, hfirst, hsecond⟩
    · exact .first (.absolute hone)
    · have hboth := Repeated.more (.first (PathStart.absolute hfirst)) hsecond
        fun hstar => absurd hstar (stepping_head?_ne hsecond)
      rwa [Nat.zero_max] at hboth
  | relative hs =>
    obtain ⟨hsettles, hexpanded⟩ := expandable_stepExpr h hs hd
    exact ⟨hsettles, fun ts' hts' => .first (.relative (hexpanded ts' hts'))⟩
  | filter he =>
    obtain ⟨hsettles, hexpanded⟩ := expandable_filterExpr h he hd
    exact ⟨hsettles, fun ts' hts' => .first (.filter (hexpanded ts' hts'))⟩

theorem expandable_pathExpr (h : Expandable levels Nested) :
    Expandable levels (PathExpr Nested) := by
  have hpath : Expandable levels (Repeated (PathStart Nested) (Stepping Nested)) :=
    .repeated (fun _ _ _ _ => expandable_pathStart h) (expandableBehind_stepping h)
  intro ts e d n hts hd
  cases hts with
  | root =>
    refine ⟨.inr rfl, fun zs hzs => ?_⟩
    obtain ⟨_, ⟨⟩, rfl⟩ := (expanded_cons_of_none rfl).1 hzs
    exact .root
  | steps hts =>
    obtain ⟨hsettles, hexpanded⟩ := hpath hts hd
    exact ⟨hsettles, fun ts' hts' => .steps (hexpanded ts' hts')⟩

/-! ## Operators -/

/-- An operator is no abbreviation where an operand has ended, and an operand is missing behind
it. -/
theorem expansion?_of_operator {tier : Nat} {join : Expr → Expr → Expr} (h : Operator tier t join)
    (hstar : t = .star → place = .nothing) :
    t.expansion? place = none ∧ place.after t = .operand := by
  cases h with
  | star =>
    obtain rfl := hstar rfl
    exact ⟨rfl, rfl⟩
  | _ => exact ⟨rfl, rfl⟩

theorem expandable_tier {tier : Nat} {Operand : Phrases Expr} (h : Expandable levels Operand) :
    Expandable levels (Tier tier Operand) := by
  have hjoining : ExpandableBehind levels Operand (Joining tier Operand) := by
    refine expandableBehind_of_single ?_
    rintro _ _ d _ ⟨hoperator, hright⟩ hd place hplace
    -- Where an operand has ended a star multiplies, and is not written out as a step.
    obtain ⟨hnone, hafter⟩ :=
      expansion?_of_operator hoperator fun hstar => hplace (congrArg some hstar)
    obtain ⟨hsettles, hexpanded⟩ := h hright hd
    refine ⟨.cons (hafter ▸ hsettles), fun us' hus' => ?_⟩
    obtain ⟨rest, hrest, rfl⟩ := (expanded_cons_of_none hnone).1 hus'
    exact .intro hoperator (hexpanded rest (hafter ▸ hrest))
  have hrepeated : Expandable levels (Repeated Operand (Joining tier Operand)) :=
    .repeated (fun _ _ _ _ hts hd =>
      ⟨(h hts hd).1, fun ts' hts' => .first ((h hts hd).2 ts' hts')⟩) hjoining
  rintro ts e d n ⟨hts⟩ hd
  obtain ⟨hsettles, hexpanded⟩ := hrepeated hts hd
  exact ⟨hsettles, fun ts' hts' => .intro (hexpanded ts' hts')⟩

theorem expandable_expression_of_unaryExpr (h : Expandable levels UnaryExpr) :
    Expandable (levels + 1) Expression := by
  rintro ts e _ n ⟨hts⟩ hd
  obtain ⟨hsettles, hexpanded⟩ :=
    expandable_tier (expandable_tier (expandable_tier (expandable_tier (expandable_tier
      (expandable_tier h))))) hts (Nat.le_of_succ_le_succ hd)
  exact ⟨hsettles, fun ts' hts' => .intro (hexpanded ts' hts')⟩

/-- Abbreviations in unary expressions, by induction on the levels: a negation and an expression
around it both open one. -/
theorem expandable_unaryExpr (levels : Nat) : Expandable levels UnaryExpr := by
  have hunion : ∀ {levels : Nat}, Expandable levels Expression →
      ∀ {ts : List Token} {e : Expr} {d n : Nat}, Tier 7 (PathExpr Expression) ts e d n →
        d ≤ levels →
          Settles .operand ts ∧ ∀ ts', Expanded .operand ts ts' → UnaryExpr ts' e d n := by
    intro levels h ts e d n hts hd
    obtain ⟨hsettles, hexpanded⟩ := expandable_tier (expandable_pathExpr h) hts hd
    exact ⟨hsettles, fun ts' hts' => .union (hexpanded ts' hts')⟩
  induction levels with
  | zero =>
    intro ts e d n h hd
    cases h with
    | negate _ => exact absurd hd (Nat.not_succ_le_zero _)
    | union hts =>
      have hnone : Expandable 0 Expression := by
        rintro _ _ _ _ ⟨_⟩ hd
        exact absurd hd (Nat.not_succ_le_zero _)
      exact hunion hnone hts hd
  | succ levels ih =>
    intro ts e d n h hd
    cases h with
    | negate he =>
      obtain ⟨hsettles, hexpanded⟩ := ih he (Nat.le_of_succ_le_succ hd)
      refine ⟨.cons hsettles, fun zs hzs => ?_⟩
      obtain ⟨rest, hrest, rfl⟩ := (expanded_cons_of_none rfl).1 hzs
      exact .negate (hexpanded rest hrest)
    | union hts => exact hunion (expandable_expression_of_unaryExpr ih) hts hd

/-- **Abbreviations in expressions are pure syntax**: what is written out makes up the same
expression with as many levels and items. -/
theorem expandable_expression (levels : Nat) : Expandable levels Expression := fun _ _ _ _ h hd =>
  expandable_expression_of_unaryExpr (expandable_unaryExpr levels) h (Nat.le_succ_of_le hd)

end XmlQuery.XPath
