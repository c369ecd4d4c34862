import XmlQuery.Proofs.XPath.Steps

/-!
# Counting what is open

The parser counts the expressions that are open, up where one opens and down where one has been
read. A parser that is given instead how many may still open has nothing to count: it does the same,
refusals included. This takes two facts about every reader, that it leaves as many expressions open
as it finds, and that it puts no tokens back; the second one is why the fuel lasts.

Both come from one relation between a reader that counts and one that does not, which every
combinator keeps. The readers of nested expressions are related in states with fewer tokens only,
since a token is taken in front of each of them.

## Main definitions

* `unaryWithin`, `nestedWithin`, `wholeWithin`, `parseWithin`: the parsers that are told how many
  expressions may still open
* `ParserState.Within`: so many expressions are open, and fewer tokens are left than a bound says
* `Follows`: a reader does what another one does that does not count

## Main results

* `follows_unary`: unary expressions are read within what may still open
* `parseWith_unary_eq`: as many nested parsers as may be open are enough
* `nesting_of_unary`, `nesting_of_nestedExpr`: what has been opened is closed again
-/

namespace XmlQuery.XPath

open XmlQuery.XPath.Parser ParserState

/-! ## Parsers without a counter -/

/-- A unary expression in which so many expressions may be open at a time. -/
def unaryWithin : (levels : Nat) → Parser Expr
  | 0 => unaryWith (refuse .tooDeep) (refuse .tooDeep)
  | levels + 1 =>
    unaryWith (do
      advance
      return .negate (← unaryWithin levels)) (operators (unaryWithin levels))

/-- An expression inside another one, where so many may be open at a time. -/
def nestedWithin : (levels : Nat) → Parser Expr
  | 0 => refuse .tooDeep
  | levels + 1 => operators (unaryWithin levels)

/-- A whole expression: no token is left. -/
def wholeWithin : Parser Expr := do
  let e ← nestedWithin maxNesting
  match ← peek with
  | none => return e
  | found => refuse (.unexpected found)

/-- The expression that tokens make up. -/
def parseWithin (lexed : Lexed) : Except SyntaxError Expr := do
  let s ← ParserState.check ⟨lexed.lexemes, lexed.stop, lexed.fault, maxItems, 0⟩
  (wholeWithin.run s).map (·.1)

/-! ## Following a parser without a counter -/

namespace ParserState

/-- The state with nothing counted as open. -/
def flat (s : ParserState) : ParserState := { s with nesting := 0 }

/-- So many expressions are open, and fewer tokens are left than a bound says. -/
structure Within (k m : Nat) (s : ParserState) : Prop where
  /-- So many expressions are open. -/
  nesting : s.nesting = k
  /-- Fewer tokens are left. -/
  length : s.lexemes.length < m

variable {s : ParserState} {k m m' : Nat} {t : Token}

theorem Within.mono (h : s.Within k m) (hle : m ≤ m') : s.Within k m' :=
  ⟨h.nesting, Nat.lt_of_lt_of_le h.length hle⟩

/-- A token is left that can be taken. -/
theorem Within.tail (h : s.Within k (m + 1)) (hnext : s.next? = some t) :
    ({ s with lexemes := s.lexemes.tail } : ParserState).Within k m := by
  obtain ⟨l, hl, -⟩ := Option.map_eq_some_iff.1 hnext
  obtain ⟨rest, hrest⟩ := List.head?_eq_some_iff.1 hl
  refine ⟨h.nesting, ?_⟩
  have hlength := h.length
  rw [hrest] at hlength ⊢
  exact Nat.lt_of_succ_lt_succ hlength

end ParserState

/-- From a state on, a reader does what another one does from the state with nothing counted as
open: it fails as that one does, or it comes to the same result, with as many expressions open as
given, and with fewer tokens than a bound says. -/
def Follows {α : Type} (k m : Nat) (p q : Parser α) (s : ParserState) : Prop :=
  Agree Eq (fun r r' => r' = (r.1, r.2.flat) ∧ r.2.Within k m) (p s) (q s.flat)

namespace Follows

variable {α β : Type} {k m m' : Nat} {s : ParserState} {p q : Parser α} {f g : α → Parser β}
  {a : α}

theorem pure (hs : s.Within k m) : Follows k m (Pure.pure a) (Pure.pure a) s := .ok ⟨rfl, hs⟩

theorem refuse {fault : SyntaxFault} : Follows k m (Parser.refuse fault : Parser α)
    (Parser.refuse fault) s := .error rfl

theorem mono (h : Follows k m p q s) (hle : m ≤ m') : Follows k m' p q s :=
  Agree.mono h fun _ _ ⟨hresult, hwithin⟩ => ⟨hresult, hwithin.mono hle⟩

theorem bind (h : Follows k m p q s)
    (hnext : ∀ a s', s'.Within k m → Follows k m' (f a) (g a) s') :
    Follows k m' (p >>= f) (q >>= g) s := by
  refine Agree.bind h ?_
  rintro ⟨a, s'⟩ _ ⟨rfl, hwithin⟩
  exact hnext a s' hwithin

/-- What comes next is the same with nothing counted as open. -/
theorem peek {f g : Option Token → Parser α} (h : Follows k m (f s.next?) (g s.next?) s) :
    Follows k m (Parser.peek >>= f) (Parser.peek >>= g) s := h

theorem advance {t : Token} (hs : s.Within k (m + 1)) (hnext : s.next? = some t) :
    Follows k m Parser.advance Parser.advance s := by
  have htail := hs.tail hnext
  unfold Follows Parser.advance
  obtain ⟨lexemes, stop, fault, items, nesting⟩ := s
  dsimp only [flat]
  cases htokens : lexemes.tail with
  | nil =>
    cases fault with
    | none => exact .ok ⟨rfl, htokens ▸ htail⟩
    | some fault => exact .error rfl
  | cons l rest => exact .ok ⟨rfl, htokens ▸ htail⟩

/-- Counting items takes no token. -/
theorem count {n : Nat} (hs : s.Within k m')
    (h : ∀ s', s'.Within k m' → s'.next? = s.next? → Follows k m p q s') :
    Follows k m (do Parser.count n; p) (do Parser.count n; q) s := by
  change Agree _ _ ((if s.items < n then Parser.refuse .tooDeep
      else set { s with items := s.items - n } : Parser Unit) s >>= fun r => p r.2)
    ((if s.items < n then Parser.refuse .tooDeep
      else set { s.flat with items := s.items - n } : Parser Unit) s.flat >>= fun r => q r.2)
  split
  · exact .error rfl
  · exact h { s with items := s.items - n } ⟨hs.nesting, hs.length⟩ rfl

theorem expect {is : Token → Bool} {what : Wanted} (hs : s.Within k (m + 1)) :
    Follows k m (Parser.expect is what) (Parser.expect is what) s := by
  refine .peek ?_
  cases hnext : s.next? with
  | none => exact .refuse
  | some t =>
    rw [Option.any_some]
    split
    · exact .advance hs hnext
    · exact .refuse

theorem iterate {body body' : α → Parser (Option α)}
    (h : ∀ a s, s.Within k m → Follows k m (body a) (body' a) s) (fuel : Nat) (a : α)
    (s : ParserState) (hs : s.Within k m) :
    Follows k m (Parser.iterate body fuel a) (Parser.iterate body' fuel a) s := by
  induction fuel generalizing a s with
  | zero => exact .pure hs
  | succ fuel ih =>
    refine (h a s hs).bind fun r s' hs' => ?_
    cases r with
    | none => exact .pure hs'
    | some b => exact ih b s' hs'

/-- A repetition follows another one if the rounds do. -/
theorem repeating {body body' : α → Parser (Option α)}
    (h : ∀ a s, s.Within k m → Follows k m (body a) (body' a) s) (hs : s.Within k m) :
    Follows k m (Parser.repeating body a) (Parser.repeating body' a) s :=
  iterate h s.lexemes.length a s hs

/-- An expression that is opened is closed again, where one more may be open. -/
theorem opened (hk : k < maxNesting) (hs : s.Within k m)
    (h : ∀ s', s'.Within (k + 1) m → s'.next? = s.next? → Follows (k + 1) m' p q s') :
    Follows k m' (Parser.opened p) q s := by
  obtain ⟨rfl, hlength⟩ := hs
  have hopen := h { s with nesting := s.nesting + 1 } ⟨rfl, hlength⟩ rfl
  change Agree _ _ ((if maxNesting < s.nesting + 1 then Parser.refuse .tooDeep else Pure.pure ()
      : Parser Unit) { s with nesting := s.nesting + 1 } >>= fun r =>
    (do let a ← p; unnest; return a : Parser α) r.2) _
  rw [if_neg (Nat.not_lt.2 hk)]
  change Agree _ _ (p { s with nesting := s.nesting + 1 } >>= fun r =>
    Except.ok (r.1, { r.2 with nesting := r.2.nesting - 1 })) (q s.flat)
  rw [← bind_pure (q s.flat)]
  refine Agree.bind hopen ?_
  rintro ⟨a, s'⟩ _ ⟨rfl, hwithin⟩
  refine .ok ⟨rfl, ?_, hwithin.length⟩
  change s'.nesting - 1 = s.nesting
  rw [hwithin.nesting, Nat.add_sub_cancel]

/-- An expression is refused where no more may be open. -/
theorem opened_refuse (hk : maxNesting ≤ s.nesting) :
    Follows k m (Parser.opened p) (Parser.refuse .tooDeep) s := by
  change Agree _ _ ((if maxNesting < s.nesting + 1 then Parser.refuse .tooDeep else Pure.pure ()
      : Parser Unit) { s with nesting := s.nesting + 1 } >>= fun r =>
    (do let a ← p; unnest; return a : Parser α) r.2) _
  rw [if_pos (Nat.lt_succ_of_le hk)]
  exact .error rfl

end Follows

/-! ## Steps -/

section Readers

variable {k m : Nat} {s : ParserState} {nested nested' : Parser Expr}

theorem follows_instructionTarget (hs : s.Within k (m + 1)) :
    Follows k (m + 1) instructionTarget instructionTarget s := by
  refine .peek ?_
  cases hnext : s.next? with
  | none => exact .pure hs
  | some t =>
    cases t with
    | string target =>
      exact (Follows.advance hs hnext).bind fun _ _ hs' => .pure (hs'.mono (Nat.le_succ m))
    | _ => exact .pure hs

theorem follows_nodeType {name : String} (hs : s.Within k (m + 1)) :
    Follows k m (nodeType name) (nodeType name) s := by
  refine (Follows.expect hs).bind fun _ s' hs' => ?_
  have hs' := hs'.mono (Nat.le_succ m)
  have hclose : ∀ (test : NodeTest) s, s.Within k (m + 1) →
      Follows k m (do expect isRightParen .rightParen; return test)
        (do expect isRightParen .rightParen; return test) s :=
    fun test s hs => (Follows.expect hs).bind fun _ _ => .pure
  dsimp only
  split_ifs
  · exact hclose _ s' hs'
  · exact hclose _ s' hs'
  · exact hclose _ s' hs'
  · simp only [← bind_pure_comp, bind_assoc, pure_bind]
    exact (follows_instructionTarget hs').bind fun target _ => hclose (.instruction target) _

theorem follows_nodeTest (hs : s.Within k (m + 1)) :
    Follows k (m + 1) nodeTest nodeTest s := by
  refine .peek ?_
  cases hnext : s.next? with
  | none => exact .refuse
  | some t =>
    have hadvance := Follows.advance hs hnext
    cases t with
    | star | name | qname | prefixWildcard =>
      exact hadvance.bind fun _ _ hs' => .pure (hs'.mono (Nat.le_succ m))
    | nodeType name =>
      exact hadvance.bind fun _ _ hs' => (follows_nodeType (hs'.mono (Nat.le_succ m))).mono
        (Nat.le_succ m)
    | _ => exact .refuse

theorem follows_axis (hs : s.Within k (m + 1)) : Follows k (m + 1) axis axis s := by
  refine .peek ?_
  cases hnext : s.next? with
  | none => exact .pure hs
  | some t =>
    have hadvance := Follows.advance hs hnext
    cases t with
    | «at» => exact hadvance.bind fun _ _ hs' => .pure (hs'.mono (Nat.le_succ m))
    | axis name =>
      dsimp only
      cases Axis.ofName? name with
      | none => exact .refuse
      | some a =>
        exact hadvance.bind fun _ _ hs' => (Follows.expect (hs'.mono (Nat.le_succ m))).bind
          fun _ _ hs' => .pure (hs'.mono (Nat.le_succ m))
    | _ => exact .pure hs

/-- A predicate follows another one if the expressions in it do, where a token has been taken. -/
theorem follows_predicate (hnested : ∀ s, s.Within k m → Follows k m nested nested' s)
    (hs : s.Within k (m + 1)) : Follows k m (predicate nested) (predicate nested') s :=
  (Follows.expect hs).bind fun _ _ hs' => (hnested _ hs').bind fun _ _ hs' =>
    (Follows.expect (hs'.mono (Nat.le_succ m))).bind fun _ _ => .pure

theorem follows_predicates (hnested : ∀ s, s.Within k m → Follows k m nested nested' s)
    (hs : s.Within k (m + 1)) : Follows k (m + 1) (predicates nested) (predicates nested') s := by
  refine Follows.bind (Follows.repeating (fun found s hs => ?_) hs) fun _ _ => .pure
  refine .peek ?_
  split
  · exact (follows_predicate hnested hs).bind fun _ _ hs' => .pure (hs'.mono (Nat.le_succ m))
  · exact .pure hs

theorem follows_step (hnested : ∀ s, s.Within k m → Follows k m nested nested' s)
    (hs : s.Within k (m + 1)) : Follows k (m + 1) (step nested) (step nested') s := by
  have hfull : Follows k (m + 1)
      (do let a ← axis; let test ← nodeTest; let ps ← predicates nested; return Step.mk a test ps)
      (do let a ← axis; let test ← nodeTest; let ps ← predicates nested'; return Step.mk a test ps)
      s :=
    (follows_axis hs).bind fun _ _ hs' => (follows_nodeTest hs').bind fun _ _ hs' =>
      (follows_predicates hnested hs').bind fun _ _ => .pure
  refine .peek ?_
  cases hnext : s.next? with
  | none => exact hfull
  | some t =>
    cases t with
    | dot | doubleDot =>
      exact (Follows.advance hs hnext).bind fun _ _ hs' => .pure (hs'.mono (Nat.le_succ m))
    | _ => exact hfull

/-! ## Paths -/

theorem follows_arguments (hnested : ∀ s, s.Within k m → Follows k m nested nested' s)
    (hs : s.Within k m) : Follows k m (arguments nested) (arguments nested') s := by
  have hclose : ∀ (found : List Expr) s, s.Within k m →
      Follows k m (do expect isRightParen .rightParen; return found.reverse)
        (do expect isRightParen .rightParen; return found.reverse) s :=
    fun found s hs => (Follows.expect (hs.mono (Nat.le_succ m))).bind fun _ _ => .pure
  refine .peek ?_
  dsimp only
  split
  · exact hclose _ s hs
  · refine (hnested s hs).bind fun first s' hs' => Follows.bind (.repeating ?_ hs') hclose
    intro found s hs
    refine .peek ?_
    cases hnext : s.next? with
    | none => exact .pure hs
    | some t =>
      cases t with
      | comma =>
        exact (Follows.advance (hs.mono (Nat.le_succ m)) hnext).bind fun _ _ hs' =>
          (hnested _ hs').bind fun _ _ => .pure
      | _ => exact .pure hs

theorem follows_primary (hnested : ∀ s, s.Within k m → Follows k m nested nested' s)
    (hs : s.Within k (m + 1)) : Follows k m (primary nested) (primary nested') s := by
  refine .peek ?_
  cases hnext : s.next? with
  | none => exact .refuse
  | some t =>
    have hadvance := Follows.advance hs hnext
    cases t with
    | number | string => exact hadvance.bind fun _ _ => .pure
    | dollar =>
      refine hadvance.bind fun _ s' hs' => .peek ?_
      cases hname : s'.next? with
      | none => exact .refuse
      | some t =>
        cases t with
        | name | qname =>
          exact (Follows.advance (hs'.mono (Nat.le_succ m)) hname).bind fun _ _ => .pure
        | _ => exact .refuse
    | leftParen =>
      exact hadvance.bind fun _ _ hs' => (hnested _ hs').bind fun _ _ hs' =>
        (Follows.expect (hs'.mono (Nat.le_succ m))).bind fun _ _ => .pure
    | functionName name =>
      exact hadvance.bind fun _ _ hs' => (Follows.expect (hs'.mono (Nat.le_succ m))).bind
        fun _ _ hs' => (follows_arguments hnested hs').bind fun _ _ => .pure
    | _ => exact .refuse

theorem follows_filterExpr (hnested : ∀ s, s.Within k m → Follows k m nested nested' s)
    (hs : s.Within k (m + 1)) : Follows k m (filterExpr nested) (filterExpr nested') s := by
  refine (follows_primary hnested hs).bind fun first s' hs' => Follows.repeating ?_ hs'
  intro base s hs
  refine .peek ?_
  split
  · exact Follows.count hs fun _ hs' _ =>
      (follows_predicate hnested (hs'.mono (Nat.le_succ m))).bind fun _ _ => .pure
  · exact .pure hs

theorem follows_moreSteps (hnested : ∀ s, s.Within k m → Follows k m nested nested' s)
    {base : Expr} (hs : s.Within k (m + 1)) :
    Follows k (m + 1) (moreSteps nested base) (moreSteps nested' base) s := by
  refine Follows.repeating (fun base s hs => ?_) hs
  have hstep : ∀ {n : Nat} {t : Token} (base : Expr), s.next? = some t → Follows k (m + 1)
      (do count n; advance; let more ← step nested; return some (base.andStep more))
      (do count n; advance; let more ← step nested'; return some (base.andStep more)) s :=
    fun base hnext => .count hs fun _ hs' hsame => (Follows.advance hs' (hsame.trans hnext)).bind
      fun _ _ hs' => (follows_step hnested (hs'.mono (Nat.le_succ m))).bind fun _ _ => .pure
  refine .peek ?_
  cases hnext : s.next? with
  | none => exact .pure hs
  | some t =>
    cases t with
    | slash => exact hstep base hnext
    | doubleSlash => exact hstep base.withDescendants hnext
    | _ => exact .pure hs

theorem follows_pathExpr (hnested : ∀ s, s.Within k m → Follows k m nested nested' s)
    (hs : s.Within k (m + 1)) : Follows k (m + 1) (pathExpr nested) (pathExpr nested') s := by
  have hsteps : ∀ {s : ParserState} (first : Step → Expr), s.Within k (m + 1) → Follows k (m + 1)
      (do let a ← step nested; moreSteps nested (first a))
      (do let a ← step nested'; moreSteps nested' (first a)) s :=
    fun first hs => (follows_step hnested hs).bind fun _ _ => follows_moreSteps hnested
  have hother : Follows k (m + 1)
      (if s.next?.any startsStep then do let a ← step nested; moreSteps nested a.toExpr
        else do let base ← filterExpr nested; moreSteps nested base)
      (if s.next?.any startsStep then do let a ← step nested'; moreSteps nested' a.toExpr
        else do let base ← filterExpr nested'; moreSteps nested' base) s := by
    split
    · exact hsteps Step.toExpr hs
    · exact (follows_filterExpr hnested hs).bind fun _ _ hs' =>
        follows_moreSteps hnested (hs'.mono (Nat.le_succ m))
  refine .peek ?_
  cases hnext : s.next? with
  | none =>
    rw [hnext] at hother
    exact hother
  | some t =>
    rw [hnext] at hother
    cases t with
    | slash =>
      refine (Follows.advance hs hnext).bind fun _ s' hs' => .peek ?_
      have hs' := hs'.mono (Nat.le_succ m)
      split
      · exact .count hs' fun _ hs' _ => hsteps Expr.root.andStep hs'
      · exact .pure hs'
    | doubleSlash =>
      exact .count hs fun _ hs' hsame => (Follows.advance hs' (hsame.trans hnext)).bind
        fun _ _ hs' => hsteps Expr.root.withDescendants.andStep (hs'.mono (Nat.le_succ m))
    | _ => exact hother

end Readers

/-! ## Operators -/

/-- Operands with operators between them follow others if the operands do. -/
theorem follows_chain {k m : Nat} {operator? : Token → Option (Expr → Expr → Expr)}
    {operand operand' : Parser Expr} (h : ∀ s, s.Within k m → Follows k m operand operand' s)
    (s : ParserState) (hs : s.Within k m) :
    Follows k m (chain operator? operand) (chain operator? operand') s := by
  refine (h s hs).bind fun first s' hs' => Follows.repeating ?_ hs'
  intro left s hs
  refine .peek ?_
  cases hjoin : s.next?.bind operator? with
  | none => exact .pure hs
  | some join =>
    obtain ⟨t, hnext, -⟩ := Option.bind_eq_some_iff.1 hjoin
    exact .count (hs.mono (Nat.le_succ m)) fun _ hs' hsame =>
      (Follows.advance hs' (hsame.trans hnext)).bind fun _ _ hs' =>
        (h _ hs').bind fun _ _ => .pure

theorem follows_operators {k m : Nat} {operand operand' : Parser Expr}
    (h : ∀ s, s.Within k m → Follows k m operand operand' s) :
    ∀ s, s.Within k m → Follows k m (operators operand) (operators operand') s :=
  follows_chain (follows_chain (follows_chain (follows_chain (follows_chain (follows_chain h)))))

/-! ## Unary expressions -/

/-- A unary expression follows another one if negations and the expressions in it do. -/
theorem follows_unaryWith {k m : Nat} {negation negation' nested nested' : Parser Expr}
    (hnegation : ∀ s, s.Within k (m + 1) → s.next? = some .minus →
      Follows k (m + 1) negation negation' s)
    (hnested : ∀ s, s.Within k m → Follows k m nested nested' s) (s : ParserState)
    (hs : s.Within k (m + 1)) :
    Follows k (m + 1) (unaryWith negation nested) (unaryWith negation' nested') s := by
  have hunion := @follows_chain k (m + 1) unionOperator _ _
    (fun s hs => follows_pathExpr hnested hs) s hs
  refine .peek ?_
  cases hnext : s.next? with
  | none => exact hunion
  | some t =>
    cases t with
    | minus => exact hnegation s hs hnext
    | _ => exact hunion

/-- **Unary expressions are read within what may still open.** The fuel lasts if there is one for
every token, or one for every expression that may still open and one more. By induction on the fuel:
a negation and an expression in a path open one, if one more may be open, and take a token. -/
theorem follows_unary {bottom : Parser Expr} {fuel k m : Nat}
    (hfuel : m ≤ fuel ∨ maxNesting - k < fuel) (s : ParserState) (hs : s.Within k m) :
    Follows k m (unary bottom fuel) (unaryWithin (maxNesting - k)) s := by
  induction fuel generalizing k m s with
  | zero =>
    -- There is fuel left in either case.
    rcases hfuel with hm | hlevels
    · exact absurd hs.length (Nat.not_lt.2 (Nat.le_trans hm (Nat.zero_le _)))
    · exact absurd hlevels (Nat.not_lt_zero _)
  | succ fuel ih =>
    obtain ⟨m, rfl⟩ := Nat.exists_eq_succ_of_ne_zero (Nat.ne_zero_of_lt hs.length)
    rcases Nat.lt_or_ge k maxNesting with hk | hk
    · -- One more may be open.
      obtain ⟨levels, hlevels⟩ := Nat.exists_eq_succ_of_ne_zero (Nat.sub_ne_zero_of_lt hk)
      have hunary : ∀ s, s.Within (k + 1) m →
          Follows (k + 1) m (unary bottom fuel) (unaryWithin levels) s := by
        have hrest : maxNesting - (k + 1) = levels := by omega
        intro s hs
        rw [← hrest]
        exact ih (by omega) s hs
      rw [hlevels]
      refine follows_unaryWith (fun s hs hnext => ?_)
        (fun s hs => .opened hk hs fun s hs _ => follows_operators hunary s hs) s hs
      have hoperand : Follows k m (opened do advance; unary bottom fuel)
          (do advance; unaryWithin levels) s :=
        .opened hk hs fun s hs hsame =>
          (Follows.advance hs (hsame.trans hnext)).bind fun _ => hunary
      have hnegation := hoperand.bind (f := fun e => pure (Expr.negate e))
        (g := fun e => pure (Expr.negate e)) fun _ _ hs' => .pure (hs'.mono (Nat.le_succ m))
      rwa [bind_assoc] at hnegation
    · -- Neither a negation nor another expression may open.
      rw [Nat.sub_eq_zero_of_le hk]
      refine follows_unaryWith (fun s hs _ => ?_) (fun s hs => ?_) s hs
      · exact (Follows.opened_refuse (hs.nesting.symm ▸ hk)).bind
          (g := fun e => pure (Expr.negate e)) fun _ _ => .pure
      · exact .opened_refuse (hs.nesting.symm ▸ hk)

theorem follows_nestedExpr {bottom : Parser Expr} {fuel k m : Nat}
    (hfuel : m ≤ fuel ∨ maxNesting - k ≤ fuel) (s : ParserState) (hs : s.Within k m) :
    Follows k m (nestedExpr (unary bottom fuel)) (nestedWithin (maxNesting - k)) s := by
  rcases Nat.lt_or_ge k maxNesting with hk | hk
  · obtain ⟨levels, hlevels⟩ := Nat.exists_eq_succ_of_ne_zero (Nat.sub_ne_zero_of_lt hk)
    have hrest : maxNesting - (k + 1) = levels := by omega
    rw [hlevels, ← hrest]
    exact .opened hk hs fun s hs _ => follows_operators (follows_unary (by omega)) s hs
  · rw [Nat.sub_eq_zero_of_le hk]
    exact .opened_refuse (hs.nesting.symm ▸ hk)

/-- What a reader opens it closes, if it follows another one. -/
theorem Follows.nesting_eq {α : Type} {k m : Nat} {p q : Parser α} {s s' : ParserState} {a : α}
    (h : Follows k m p q s) (hp : p s = .ok (a, s')) : s'.nesting = k := by
  unfold Follows at h
  rw [hp] at h
  obtain ⟨_, _, ⟨⟩, -, -, hwithin⟩ | ⟨_, _, ⟨⟩, -⟩ := h.exists_eq
  exact hwithin.nesting

section Restored

variable {bottom : Parser Expr} {fuel : Nat} {s s' : ParserState} {e : Expr}

/-- As many expressions are open behind a unary expression as in front of it. -/
theorem nesting_of_unary (hfuel : s.lexemes.length < fuel ∨ maxNesting < fuel)
    (h : unary bottom fuel s = .ok (e, s')) : s'.nesting = s.nesting :=
  (follows_unary (by omega) s ⟨rfl, Nat.lt_succ_self _⟩).nesting_eq h

/-- As many expressions are open behind an expression as in front of it. -/
theorem nesting_of_nestedExpr (hfuel : s.lexemes.length < fuel ∨ maxNesting ≤ fuel)
    (h : nestedExpr (unary bottom fuel) s = .ok (e, s')) : s'.nesting = s.nesting :=
  (follows_nestedExpr (by omega) s ⟨rfl, Nat.lt_succ_self _⟩).nesting_eq h

end Restored

/-! ## Whole expressions -/

/-- **Tokens are parsed within what may be open.** As many nested parsers as expressions may be open
are enough, so that what lies beneath is never reached. -/
theorem parseWith_unary_eq {bottom : Parser Expr} {fuel : Nat} {lexed : Lexed}
    (hfuel : lexed.lexemes.length < fuel ∨ maxNesting ≤ fuel) :
    parseWith (unary bottom fuel) lexed = parseWithin lexed := by
  refine bind_congr_of_ok fun s hs => ?_
  obtain ⟨-, rfl⟩ := check_eq_ok_iff.1 hs
  let start : ParserState := ⟨lexed.lexemes, lexed.stop, lexed.fault, maxItems, 0⟩
  have hnested := @follows_nestedExpr bottom fuel 0 (lexed.lexemes.length + 1) (by omega) start
    ⟨rfl, Nat.lt_succ_self _⟩
  have hwhole : Follows 0 (lexed.lexemes.length + 1) (wholeExpr (unary bottom fuel)) wholeWithin
      start := by
    refine hnested.bind fun e s hs => .peek ?_
    cases s.next? with
    | none => exact .pure hs
    | some t => exact .refuse
  have hagree : Agree Eq Eq ((wholeExpr (unary bottom fuel) start).map (·.1))
      ((wholeWithin start).map (·.1)) := hwhole.map fun _ _ ⟨hresult, _⟩ => hresult ▸ rfl
  exact hagree.eq

theorem parseTokens_eq (lexed : Lexed) : parseTokens lexed = parseWithin lexed :=
  parseWith_unary_eq (.inl (Nat.lt_succ_self _))

end XmlQuery.XPath
