import XmlQuery.Proofs.XPath.Steps

/-!
# Recognizing paths

The next token tells how a path starts: with a separator, with a step or with a primary expression.
Only a slash leaves a choice. It starts an absolute path if a step can start behind it, and is the
document alone if not, so that a star there is never an operator.

## Main definitions

* `furtherArgument`, `stepping`, `pathStart`: the parts of the parser between which paths are cut

## Main results

* `arguments_eq_ok_iff`, `recognizes_primary`, `recognizes_filterExpr`: primary expressions, and
  those with predicates
* `recognizes_pathExpr`: paths are recognized
-/

namespace XmlQuery.XPath

open Grammar ParserState XmlQuery.XPath.Parser

variable {s s' : ParserState} {levels : Nat} {nested : Parser Expr} {Nested : Phrases Expr}

/-! ## Primary expressions -/

/-- An argument behind a comma, in front of those that were found before. -/
def furtherArgument (nested : Parser Expr) (found : List Expr) : Parser (Option (List Expr)) := do
  match ← peek with
  | some .comma =>
    advance
    return some ((← nested) :: found)
  | _ => return none

/-- Further arguments are pushed one by one. -/
theorem continues_furtherArgument (h : Recognizes levels 2 nested Nested) :
    Continues levels 1 (furtherArgument nested) (Pushing (FurtherArgument Nested)) where
  begins := by
    rintro us f d n ⟨⟨⟩⟩
    exact ⟨_, _, rfl, rfl⟩
  sound {s found r s'} hs hbody := by
    rw [furtherArgument, peek_bind] at hbody
    generalize hnext : s.next? = next at hbody
    split at hbody
    · obtain ⟨s₁, hcomma, hrest⟩ := (advance_seq_eq_ok_iff hnext).1 hbody
      obtain ⟨e, s₂, he, hpure⟩ := seq_eq_ok_iff.1 hrest
      cases hpure
      obtain ⟨ts, d, n, hts, hd, hreads, hseparate⟩ := h.sound (hcomma.regular hs) he
      exact .inr ⟨_, _, d, n, rfl, .intro (.intro hts), hd,
        reads_cons_iff.2 ⟨s₁, hcomma, hreads⟩, hseparate.cons nofun⟩
    · cases hbody
      exact .inl ⟨rfl, rfl⟩
  complete {s found s' us f d n} hs hus hd hreads hseparate hbelow := by
    obtain ⟨⟨hts⟩⟩ := hus
    rw [furtherArgument, peek_bind, hreads.next?]
    obtain ⟨s₁, hcomma, hrest⟩ := reads_cons_iff.1 hreads
    have he := h.complete (hcomma.regular hs) hts hd hrest hseparate.of_cons hbelow
    exact (advance_seq_eq_ok_iff hreads.next?).2 ⟨s₁, hcomma, seq_eq_ok_iff.2 ⟨_, s', he, rfl⟩⟩
  stops {s found} hbelow := by
    rw [furtherArgument, peek_bind]
    have hne := next?_ne_of_below hbelow (c := .comma) (Nat.le_refl 1)
    cases hnext : s.next? with
    | none => rfl
    | some t =>
      cases t with
      | comma => exact absurd hnext hne
      | _ => rfl

/-- A phrase alone. -/
inductive Single {α : Type} (Item : Phrases α) : Phrases (List α)
  | intro {ts : List Token} {a : α} {d n : Nat} : Item ts a d n → Single Item ts [a] d n

theorem single_iff {α : Type} {Item : Phrases α} {ts : List Token} {as : List α} {d n : Nat} :
    Single Item ts as d n ↔ ∃ a, Item ts a d n ∧ [a] = as := by
  constructor
  · rintro ⟨ha⟩
    exact ⟨_, ha, rfl⟩
  · rintro ⟨a, ha, rfl⟩
    exact .intro ha

/-- Arguments, of which there is one at least. -/
inductive SomeArguments (Nested : Phrases Expr) : Phrases (List Expr)
  | intro {ts : List Token} {e : Expr} {es : List Expr} {d n : Nat} :
    Arguments Nested ts (e :: es) d n → SomeArguments Nested ts (e :: es) d n

theorem someArguments_iff {ts : List Token} {es : List Expr} {d n : Nat} :
    SomeArguments Nested ts es d n ↔ ∃ found,
      Repeated (Single Nested) (Pushing (FurtherArgument Nested)) ts found d n ∧
        found.reverse = es := by
  constructor
  · rintro ⟨_ | ⟨hfirst, hmore⟩⟩
    have hpushed := repeated_of_listOf (fun ⟨_⟩ => by simp) (.first (Single.intro hfirst)) hmore
    refine ⟨_, hpushed, ?_⟩
    rw [List.reverse_append, List.reverse_reverse, List.reverse_singleton, List.singleton_append]
  · rintro ⟨found, hfound, rfl⟩
    obtain ⟨ts, _, d, n, us, es, d', m, ⟨hfirst⟩, hmore, rfl, rfl, rfl, rfl⟩ :=
      listOf_of_repeated hfound
    rw [List.reverse_append, List.reverse_reverse, List.reverse_singleton, List.singleton_append]
    exact .intro (.some hfirst hmore)

theorem arguments_of_rightParen (h : s.next? = some .rightParen) :
    arguments nested s = (expect isRightParen .rightParen >>= fun _ => pure []) s := by
  rw [arguments, peek_bind, h]
  rfl

/-- Where the list does not close at once there is a first argument, and others may follow. -/
theorem arguments_of_ne (h : s.next? ≠ some .rightParen) :
    arguments nested s = (((nested >>= fun e => pure [e]) >>= repeating (furtherArgument nested)) >>=
      fun found => pure found.reverse >>= fun es =>
        expect isRightParen .rightParen >>= fun _ => pure es) s := by
  have hlist : arguments nested s = (nested >>= fun first =>
      repeating (furtherArgument nested) [first] >>= fun found =>
        expect isRightParen .rightParen >>= fun _ => pure found.reverse) s := by
    rw [arguments, peek_bind, if_neg (mt (any_next?_iff isRightParen_iff).1 h)]
    rfl
  rw [hlist]
  simp only [bind_assoc, pure_bind]

/-- The arguments of a function are read up to the closing parenthesis. -/
theorem arguments_eq_ok_iff (h : Recognizes levels 2 nested Nested)
    (hstarts : Starts (· ≠ .rightParen) Nested) {es : List Expr} (hs : s.Regular) :
    arguments nested s = .ok (es, s') ↔ ∃ ts d n, Arguments Nested ts es d n ∧ d ≤ levels ∧
      s.Reads (ts ++ [.rightParen]) n s' := by
  by_cases hnext : s.next? = some .rightParen
  · rw [arguments_of_rightParen hnext, expect_seq_eq_ok_iff isRightParen_iff]
    constructor
    · rintro ⟨s₁, hclose, hpure⟩
      cases hpure
      exact ⟨[], 0, 0, .none, Nat.zero_le _, hclose⟩
    · rintro ⟨ts, d, n, hes, -, hreads⟩
      cases hes with
      | none => exact ⟨s', hreads, rfl⟩
      | some hfirst _ =>
        -- The first argument does not start with a parenthesis that closes.
        obtain ⟨t, rest, rfl, ht⟩ := hstarts hfirst
        exact absurd (Option.some.inj (hreads.next?.symm.trans hnext)) ht
  · -- The first argument and those behind commas end in front of the parenthesis.
    have hfirst : Recognizes levels 2 (nested >>= fun e => pure [e]) (Single Nested) :=
      h.map single_iff
    have hlist := (hfirst.repeating (continues_furtherArgument h)).map (g := List.reverse)
      someArguments_iff
    rw [arguments_of_ne hnext, ← bind_assoc, closing_eq_ok_iff isRightParen_iff,
      hlist.closed_iff rfl Nat.one_pos hs]
    constructor
    · rintro ⟨_, d, n, ⟨hes⟩, hd, hreads⟩
      exact ⟨_, d, n, hes, hd, hreads⟩
    · rintro ⟨ts, d, n, hes, hd, hreads⟩
      cases hes with
      | none => exact absurd hreads.next? hnext
      | some hfirst hmore => exact ⟨_, _, _, .intro (.some hfirst hmore), hd, hreads⟩

/-- What is read as a primary expression is one. -/
theorem primary_sound (h : Recognizes levels 2 nested Nested)
    (hstarts : Starts (· ≠ .rightParen) Nested) {e : Expr} (hs : s.Regular)
    (hp : primary nested s = .ok (e, s')) :
    ∃ ts d n, PrimaryExpr Nested ts e d n ∧ d ≤ levels ∧ s.Reads ts n s' := by
  rw [primary, peek_bind] at hp
  generalize hnext : s.next? = next at hp
  split at hp
  · next x =>
    obtain ⟨rfl, hreads⟩ := (advance_pure_eq_ok_iff hnext).1 hp
    exact ⟨_, 0, 0, .number, Nat.zero_le _, hreads⟩
  · next x =>
    obtain ⟨rfl, hreads⟩ := (advance_pure_eq_ok_iff hnext).1 hp
    exact ⟨_, 0, 0, .string, Nat.zero_le _, hreads⟩
  · next =>
    -- A dollar sign says nothing without the name behind it.
    obtain ⟨s₁, hdollar, hname⟩ := (advance_seq_eq_ok_iff hnext).1 hp
    rw [peek_bind] at hname
    generalize hnext' : s₁.next? = next' at hname
    split at hname
    · obtain ⟨rfl, hreads⟩ := (advance_pure_eq_ok_iff hnext').1 hname
      exact ⟨_, 0, 0, .variable, Nat.zero_le _, hdollar.trans hreads⟩
    · obtain ⟨rfl, hreads⟩ := (advance_pure_eq_ok_iff hnext').1 hname
      exact ⟨_, 0, 0, .prefixedVariable, Nat.zero_le _, hdollar.trans hreads⟩
    · cases hname
  · next =>
    obtain ⟨s₁, hopen, hgroup⟩ := (advance_seq_eq_ok_iff hnext).1 hp
    rw [closing_eq_ok_iff isRightParen_iff, h.closed_iff rfl Nat.two_pos (hopen.regular hs)]
      at hgroup
    obtain ⟨ts, d, n, hts, hd, hreads⟩ := hgroup
    exact ⟨_, d, n, .group hts, hd, reads_cons_iff.2 ⟨s₁, hopen, hreads⟩⟩
  · next f =>
    obtain ⟨s₁, hname, hrest⟩ := (advance_seq_eq_ok_iff hnext).1 hp
    obtain ⟨s₂, hopen, hrest⟩ := (expect_seq_eq_ok_iff isLeftParen_iff).1 hrest
    obtain ⟨es, s₃, hes, hpure⟩ := seq_eq_ok_iff.1 hrest
    cases hpure
    have hs₂ := hopen.regular (hname.regular hs)
    obtain ⟨ts, d, n, hts, hd, hreads⟩ := (arguments_eq_ok_iff h hstarts hs₂).1 hes
    exact ⟨_, d, n, .call hts, hd, reads_cons_iff.2
      ⟨s₁, hname, reads_cons_iff.2 ⟨s₂, hopen, hreads⟩⟩⟩
  · cases hp

/-- A primary expression is read, whatever comes behind it. -/
theorem primary_complete (h : Recognizes levels 2 nested Nested)
    (hstarts : Starts (· ≠ .rightParen) Nested) {ts : List Token} {e : Expr} {d n : Nat}
    (hs : s.Regular) (he : PrimaryExpr Nested ts e d n) (hd : d ≤ levels)
    (hreads : s.Reads ts n s') : primary nested s = .ok (e, s') := by
  rw [primary, peek_bind]
  cases he with
  | number | string =>
    rw [hreads.next?]
    exact (advance_pure_eq_ok_iff hreads.next?).2 ⟨rfl, hreads⟩
  | «variable» | prefixedVariable =>
    obtain ⟨s₁, hdollar, hname⟩ := reads_cons_iff.1 hreads
    rw [hreads.next?]
    refine (advance_seq_eq_ok_iff hreads.next?).2 ⟨s₁, hdollar, ?_⟩
    rw [peek_bind, hname.next?]
    exact (advance_pure_eq_ok_iff hname.next?).2 ⟨rfl, hname⟩
  | group hts =>
    obtain ⟨s₁, hopen, hgroup⟩ := reads_cons_iff.1 hreads
    rw [hreads.next?]
    refine (advance_seq_eq_ok_iff hreads.next?).2 ⟨s₁, hopen, ?_⟩
    rw [closing_eq_ok_iff isRightParen_iff, h.closed_iff rfl Nat.two_pos (hopen.regular hs)]
    exact ⟨_, d, n, hts, hd, hgroup⟩
  | call hes =>
    obtain ⟨s₁, hname, hrest⟩ := reads_cons_iff.1 hreads
    obtain ⟨s₂, hopen, hrest⟩ := reads_cons_iff.1 hrest
    have hs₂ := hopen.regular (hname.regular hs)
    have harguments := (arguments_eq_ok_iff h hstarts hs₂).2 ⟨_, d, n, hes, hd, hrest⟩
    rw [hreads.next?]
    refine (advance_seq_eq_ok_iff hreads.next?).2 ⟨s₁, hname, ?_⟩
    refine (expect_seq_eq_ok_iff isLeftParen_iff).2 ⟨s₂, hopen, ?_⟩
    exact seq_eq_ok_iff.2 ⟨_, s', harguments, rfl⟩

theorem finished_primaryExpr : Finished (PrimaryExpr Nested) := by
  intro ts e d n h
  cases h with
  | number | string | «variable» | prefixedVariable => exact nofun
  | group | call =>
    simp only [← List.cons_append, List.getLast?_concat]
    exact nofun

theorem recognizes_primary (h : Recognizes levels 2 nested Nested)
    (hstarts : Starts (· ≠ .rightParen) Nested) (bound : Nat) :
    Recognizes levels bound (primary nested) (PrimaryExpr Nested) :=
  recognizes_of_iff (fun hs => ⟨primary_sound h hstarts hs, fun ⟨_, _, _, he, hd, hreads⟩ =>
    primary_complete h hstarts hs he hd hreads⟩) finished_primaryExpr

/-! ## Filters -/

/-- A predicate of what is in front of it is counted. -/
theorem continues_filtering (h : Recognizes levels 2 nested Nested) :
    Continues levels 10 (fun base => do
      if (← peek).any isLeftBracket then
        count 1
        return some (.filter base (← predicate nested))
      else return none) (Filtering Nested) where
  begins := by
    rintro us f d n ⟨⟨⟩⟩
    exact ⟨_, _, rfl, rfl⟩
  sound {s base r s'} hs hbody := by
    rw [peek_bind] at hbody
    split at hbody
    · obtain ⟨s₁, hcount, hrest⟩ := (count_seq_eq_ok_iff hs.ended).1 hbody
      obtain ⟨e, s₂, he, hpure⟩ := seq_eq_ok_iff.1 hrest
      cases hpure
      obtain ⟨ts, d, n, hts, hd, hreads⟩ := (predicate_eq_ok_iff h (hcount.regular hs)).1 he
      exact .inr ⟨ts, _, d, n + 1, rfl, .intro hts, hd, reads_add_iff.2 ⟨s₁, hcount, hreads⟩,
        fun _ => finished_predicateExpr hts⟩
    · cases hbody
      exact .inl ⟨rfl, rfl⟩
  complete {s base s' us f d n} hs hus hd hreads _ _ := by
    cases hus with
    | @intro _ e d n hts =>
      obtain ⟨s₁, hcount, hrest⟩ := reads_add_iff.1 hreads
      have he := (predicate_eq_ok_iff h (hcount.regular hs)).2 ⟨us, d, n, hts, hd, hrest⟩
      cases hts
      rw [peek_bind, hreads.next?]
      exact (count_seq_eq_ok_iff hs.ended).2 ⟨s₁, hcount, seq_eq_ok_iff.2 ⟨e, s', he, rfl⟩⟩
  stops {s base} hbelow := by
    rw [peek_bind, if_neg]
    · rfl
    · rw [any_next?_iff isLeftBracket_iff]
      exact next?_ne_of_below hbelow (Nat.le_refl 10)

/-- A primary expression with predicates is recognized. -/
theorem recognizes_filterExpr (h : Recognizes levels 2 nested Nested)
    (hstarts : Starts (· ≠ .rightParen) Nested) :
    Recognizes levels 10 (filterExpr nested)
      (Repeated (PrimaryExpr Nested) (Filtering Nested)) :=
  (recognizes_primary h hstarts 11).repeating (continues_filtering h)

/-! ## Steps behind separators -/

/-- A separator, and a step from what is in front of it. -/
def stepping (nested : Parser Expr) (base : Expr) : Parser (Option Expr) := do
  match ← peek with
  | some .slash =>
    count 1
    advance
    return some (base.andStep (← step nested))
  | some .doubleSlash =>
    count 2
    advance
    return some (base.withDescendants.andStep (← step nested))
  | _ => return none

variable {base : Expr}

/-- A separator is counted and taken, and a step follows. -/
theorem stepping_of_separator {t : Token} {g : Expr → Expr} {k : Nat} (ht : Separator t g k)
    (hnext : s.next? = some t) :
    stepping nested base s = (count k >>= fun _ => advance >>= fun _ =>
      step nested >>= fun st => pure (some ((g base).andStep st))) s := by
  rw [stepping, peek_bind, hnext]
  cases ht <;> rfl

/-- A step behind a separator. -/
theorem stepping_eq_ok_iff {t : Token} {g : Expr → Expr} {k : Nat} (ht : Separator t g k)
    (hnext : s.next? = some t) {r : Option Expr} :
    stepping nested base s = .ok (r, s') ↔ ∃ st s₁, s.Reads [t] k s₁ ∧
      step nested s₁ = .ok (st, s') ∧ r = some ((g base).andStep st) := by
  rw [stepping_of_separator ht hnext, count_advance_seq_eq_ok_iff hnext]
  simp only [seq_eq_ok_iff]
  constructor
  · rintro ⟨s₁, hseparator, st, s₂, hst, hpure⟩
    cases hpure
    exact ⟨st, s₁, hseparator, hst, rfl⟩
  · rintro ⟨st, s₁, hseparator, hst, rfl⟩
    exact ⟨s₁, hseparator, st, s', hst, rfl⟩

theorem stepping_of_ne (h : ∀ t g k, Separator t g k → s.next? ≠ some t) :
    stepping nested base s = .ok (none, s) := by
  rw [stepping, peek_bind]
  cases hnext : s.next? with
  | none => rfl
  | some t =>
    cases t with
    | slash => exact absurd hnext (h _ _ _ .slash)
    | doubleSlash => exact absurd hnext (h _ _ _ .doubleSlash)
    | _ => rfl

theorem Finished.cons {α : Type} {P : Token → Prop} {L : Phrases α} (h : Finished L)
    (hstarts : Starts P L) {t : Token} {ts : List Token} {a : α} {d n : Nat} (hts : L ts a d n) :
    (t :: ts).getLast? ≠ some .slash := by
  obtain ⟨u, rest, rfl, -⟩ := hstarts hts
  rw [List.getLast?_cons_cons]
  exact h hts

theorem finished_stepping : Finished (Stepping Nested) := by
  rintro _ _ d _ ⟨-, hst⟩
  exact finished_stepExpr.cons starts_stepExpr hst

theorem binding_of_separator {t : Token} {g : Expr → Expr} {k : Nat} (h : Separator t g k) :
    t.binding = 9 := by
  cases h <;> rfl

/-- A step behind a separator is recognized. -/
theorem continues_stepping (h : Recognizes levels 2 nested Nested) :
    Continues levels 9 (stepping nested) (Stepping Nested) where
  begins := by
    rintro _ _ d _ ⟨ht, -⟩
    exact ⟨_, _, rfl, binding_of_separator ht⟩
  sound {s base r s'} hs hbody := by
    by_cases hnext : ∃ t g k, Separator t g k ∧ s.next? = some t
    · obtain ⟨t, g, k, ht, hnext⟩ := hnext
      obtain ⟨st, s₁, hseparator, hst, rfl⟩ := (stepping_eq_ok_iff ht hnext).1 hbody
      obtain ⟨ts, d, n, hts, hd, hreads, -⟩ :=
        (recognizes_step h).sound (hseparator.regular hs) hst
      have hus := Stepping.intro ht hts
      exact .inr ⟨_, _, d, n + k, rfl, hus, hd, reads_cons_add_iff.2 ⟨s₁, hseparator, hreads⟩,
        fun _ => finished_stepping hus⟩
    · rw [stepping_of_ne fun t g k ht heq => hnext ⟨t, g, k, ht, heq⟩] at hbody
      cases hbody
      exact .inl ⟨rfl, rfl⟩
  complete {s base s' us f d n} hs hus hd hreads _ hbelow := by
    obtain ⟨ht, hst⟩ := hus
    obtain ⟨s₁, hseparator, hrest⟩ := reads_cons_add_iff.1 hreads
    have hstep := (recognizes_step h).complete (hseparator.regular hs) hst hd hrest
      (fun _ => finished_stepExpr hst) hbelow
    exact (stepping_eq_ok_iff ht hreads.next?).2 ⟨_, s₁, hseparator, hstep, rfl⟩
  stops {s base} hbelow := stepping_of_ne fun _ _ _ ht =>
    next?_ne_of_below hbelow (Nat.le_of_eq (binding_of_separator ht).symm)

/-! ## Paths -/

theorem starts_primaryExpr : Starts (fun t => startsStep t = false ∧ 9 < t.binding)
    (PrimaryExpr Nested) := by
  intro ts e d n h
  cases h <;> exact ⟨_, _, rfl, rfl, by simp [Token.binding]⟩

/-- The start of a path. A lone slash is not one. -/
def pathStart (nested : Parser Expr) : Parser Expr := do
  match ← stepping nested .root with
  | some e => return e
  | none =>
    if (← peek).any startsStep then return (← step nested).toExpr
    else filterExpr nested

/-- The start of a path is recognized. -/
theorem recognizes_pathStart (h : Recognizes levels 2 nested Nested)
    (hstarts : Starts (· ≠ .rightParen) Nested) :
    Recognizes levels 10 (pathStart nested) (PathStart Nested) where
  sound {s e s'} hs hp := by
    obtain ⟨r, s₁, hr, hrest⟩ := seq_eq_ok_iff.1 hp
    rcases (continues_stepping h).sound hs hr with
      ⟨rfl, rfl⟩ | ⟨us, f, d, n, rfl, hus, hd, hreads, hseparate⟩
    · dsimp only at hrest
      rw [peek_bind] at hrest
      split at hrest
      · obtain ⟨st, s₂, hst, hpure⟩ := seq_eq_ok_iff.1 hrest
        cases hpure
        obtain ⟨ts, d, n, hts, hd, hreads, hseparate⟩ := (recognizes_step h).sound hs hst
        exact ⟨ts, d, n, .relative hts, hd, hreads, hseparate⟩
      · obtain ⟨ts, d, n, hts, hrest⟩ := (recognizes_filterExpr h hstarts).sound hs hrest
        exact ⟨ts, d, n, .filter hts, hrest⟩
    · cases hrest
      exact ⟨us, d, n, .absolute hus, hd, hreads, hseparate⟩
  complete {s e s' ts d n} hs hts hd hreads hseparate hbelow := by
    rw [pathStart, seq_eq_ok_iff]
    cases hts with
    | absolute hus =>
      exact ⟨_, s', (continues_stepping h).complete hs hus hd hreads hseparate hbelow, rfl⟩
    | relative hst =>
      -- A separator cannot start a step, so none is taken.
      obtain ⟨t, rest, rfl, ht⟩ := starts_stepExpr hst
      refine ⟨none, s, stepping_of_ne fun u g k hu hnext => ?_, ?_⟩
      · rw [hreads.next?, Option.some.injEq] at hnext
        subst hnext
        cases hu <;> cases ht
      · dsimp only
        rw [peek_bind, hreads.next?, Option.any_some, if_pos ht]
        exact seq_eq_ok_iff.2
          ⟨_, s', (recognizes_step h).complete hs hst hd hreads hseparate hbelow, rfl⟩
    | filter he =>
      -- A primary expression starts with neither a separator nor the token of a step.
      obtain ⟨t, rest, rfl, ht, hbinding⟩ := starts_primaryExpr.repeated he
      refine ⟨none, s, stepping_of_ne fun u g k hu hnext => ?_, ?_⟩
      · rw [hreads.next?, Option.some.injEq] at hnext
        subst hnext
        exact Nat.lt_irrefl _ (binding_of_separator hu ▸ hbinding)
      · dsimp only
        rw [peek_bind, hreads.next?, Option.any_some, ht]
        exact (recognizes_filterExpr h hstarts).complete hs he hd hreads hseparate hbelow

/-- A path that starts with a separator. -/
theorem pathStart_moreSteps_eq_ok_iff {t : Token} {g : Expr → Expr} {k : Nat}
    (ht : Separator t g k) (hnext : s.next? = some t) {r : Expr × ParserState} :
    (pathStart nested >>= moreSteps nested) s = .ok r ↔ ∃ s₁, s.Reads [t] k s₁ ∧
      ∃ st s₂, step nested s₁ = .ok (st, s₂) ∧
        moreSteps nested ((g .root).andStep st) s₂ = .ok r := by
  simp only [seq_eq_ok_iff, pathStart, stepping_eq_ok_iff ht hnext]
  constructor
  · rintro ⟨_, s₂, ⟨_, _, ⟨st, s₁, hreads, hst, rfl⟩, hpure⟩, hmore⟩
    cases hpure
    exact ⟨s₁, hreads, st, s₂, hst, hmore⟩
  · rintro ⟨s₁, hreads, st, s₂, hst, hmore⟩
    exact ⟨_, s₂, ⟨_, s₂, ⟨st, s₁, hreads, hst, rfl⟩, rfl⟩, hmore⟩

theorem pathExpr_of_doubleSlash (hnext : s.next? = some .doubleSlash) {r : Expr × ParserState} :
    pathExpr nested s = .ok r ↔ (pathStart nested >>= moreSteps nested) s = .ok r := by
  rw [pathStart_moreSteps_eq_ok_iff .doubleSlash hnext, pathExpr, peek_bind, hnext]
  simp only [count_advance_seq_eq_ok_iff hnext, seq_eq_ok_iff]

theorem pathExpr_of_ne (h : ∀ t g k, Separator t g k → s.next? ≠ some t) :
    pathExpr nested s = (pathStart nested >>= moreSteps nested) s := by
  have hpath : pathExpr nested s = (if s.next?.any startsStep then
      step nested >>= fun st => moreSteps nested st.toExpr
      else filterExpr nested >>= moreSteps nested) s := by
    rw [pathExpr, peek_bind]
    cases hnext : s.next? with
    | none => rfl
    | some t =>
      cases t with
      | slash => exact absurd hnext (h _ _ _ .slash)
      | doubleSlash => exact absurd hnext (h _ _ _ .doubleSlash)
      | _ => rfl
  rw [hpath, pathStart, bind_assoc, seq_of_ok (stepping_of_ne h)]
  dsimp only
  rw [bind_assoc, peek_bind]
  split
  · rw [bind_assoc]
    simp only [pure_bind]
  · rfl

/-- A path that starts with a slash may be the document alone. -/
theorem pathExpr_of_slash (h : Recognizes levels 2 nested Nested) (hs : s.Regular)
    (hnext : s.next? = some .slash) {e : Expr} :
    pathExpr nested s = .ok (e, s') ↔
      (e = .root ∧ s.Reads [.slash] 0 s' ∧ ¬ s'.next?.any startsStep) ∨
        (pathStart nested >>= moreSteps nested) s = .ok (e, s') := by
  rw [pathStart_moreSteps_eq_ok_iff .slash hnext, pathExpr, peek_bind, hnext]
  simp only [advance_seq_eq_ok_iff hnext, peek_bind]
  constructor
  · rintro ⟨s₁, hslash, hrest⟩
    split at hrest
    · obtain ⟨s₂, hcount, hrest⟩ := (count_seq_eq_ok_iff hslash.ended).1 hrest
      obtain ⟨st, s₃, hst, hmore⟩ := seq_eq_ok_iff.1 hrest
      exact .inr ⟨s₂, hslash.trans hcount, st, s₃, hst, hmore⟩
    · next hnot =>
      cases hrest
      exact .inl ⟨rfl, hslash, hnot⟩
  · rintro (⟨rfl, hslash, hnot⟩ | ⟨s₂, hreads, st, s₃, hst, hmore⟩)
    · exact ⟨s', hslash, by rw [if_neg hnot]; rfl⟩
    · obtain ⟨s₁, hslash, hcount⟩ := reads_cons_iff.1 hreads
      obtain ⟨ts, d, n, hts, -, hreads', -⟩ := (recognizes_step h).sound (hreads.regular hs) hst
      -- A step has been read, so one could start.
      obtain ⟨t, rest, rfl, ht⟩ := starts_stepExpr hts
      refine ⟨s₁, hslash, ?_⟩
      rw [← hcount.next?_eq, hreads'.next?, Option.any_some, if_pos ht]
      exact (count_seq_eq_ok_iff hslash.ended).2 ⟨s₂, hcount, seq_eq_ok_iff.2 ⟨st, s₃, hst, hmore⟩⟩

/-- A path is the document alone, or a start and steps behind it. -/
theorem pathExpr_eq_ok_iff (h : Recognizes levels 2 nested Nested) (hs : s.Regular) {e : Expr} :
    pathExpr nested s = .ok (e, s') ↔
      (e = .root ∧ s.Reads [.slash] 0 s' ∧ ¬ s'.next?.any startsStep) ∨
        (pathStart nested >>= moreSteps nested) s = .ok (e, s') := by
  by_cases hslash : s.next? = some .slash
  · exact pathExpr_of_slash h hs hslash
  · have hpath : pathExpr nested s = .ok (e, s') ↔
        (pathStart nested >>= moreSteps nested) s = .ok (e, s') := by
      by_cases hslashes : s.next? = some .doubleSlash
      · exact pathExpr_of_doubleSlash hslashes
      · rw [pathExpr_of_ne]
        rintro _ _ _ ⟨⟩
        · exact hslash
        · exact hslashes
    rw [hpath, or_iff_right]
    exact fun hroot => hslash hroot.2.1.next?

theorem eq_star_of_startsStep {t : Token} (h : startsStep t = true) :
    t = .star ∨ 9 < t.binding := by
  cases t with
  | star => exact .inl rfl
  | name | qname | prefixWildcard | nodeType | axis | «at» | dot | doubleDot =>
    exact .inr (by simp [Token.binding])
  | _ => cases h

/-- **A path is recognized.** -/
theorem recognizes_pathExpr (h : Recognizes levels 2 nested Nested)
    (hstarts : Starts (· ≠ .rightParen) Nested) :
    Recognizes levels 9 (pathExpr nested) (PathExpr Nested) := by
  have hsteps : Recognizes levels 9 (pathStart nested >>= moreSteps nested)
      (Repeated (PathStart Nested) (Stepping Nested)) :=
    (recognizes_pathStart h hstarts).repeating (continues_stepping h)
  constructor
  · intro s e s' hs hp
    rcases (pathExpr_eq_ok_iff h hs).1 hp with ⟨rfl, hreads, hnot⟩ | hp
    · -- A star behind the slash would have been the start of a step.
      refine ⟨_, 0, 0, .root, Nat.zero_le _, hreads, fun hstar => ?_⟩
      rw [hstar] at hnot
      exact absurd rfl hnot
    · obtain ⟨ts, d, n, hts, hrest⟩ := hsteps.sound hs hp
      exact ⟨ts, d, n, .steps hts, hrest⟩
  · intro s e s' ts d n hs hts hd hreads hseparate hbelow
    refine (pathExpr_eq_ok_iff h hs).2 ?_
    cases hts with
    | root =>
      refine .inl ⟨rfl, hreads, ?_⟩
      cases hnext : s'.next? with
      | none => exact nofun
      | some t =>
        intro ht
        -- Of the tokens that start a step only the star may come next, but not behind a slash.
        rcases eq_star_of_startsStep ht with rfl | hbinding
        · exact hseparate hnext rfl
        · exact Nat.lt_asymm hbinding (hbelow t hnext)
    | steps hts => exact .inr (hsteps.complete hs hts hd hreads hseparate hbelow)

theorem starts_pathExpr : Starts (fun t => t ≠ .minus ∧ t ≠ .rightParen) (PathExpr Nested) := by
  have hstep : ∀ t, startsStep t = true → t ≠ .minus ∧ t ≠ .rightParen := by
    rintro t ht
    exact ⟨fun heq => (by cases heq; cases ht), fun heq => (by cases heq; cases ht)⟩
  have hstart : Starts (fun t => t ≠ .minus ∧ t ≠ .rightParen) (PathStart Nested) := by
    intro ts e d n h
    cases h with
    | absolute hus =>
      obtain ⟨⟨⟩, -⟩ := hus
      · exact ⟨_, _, rfl, nofun, nofun⟩
      · exact ⟨_, _, rfl, nofun, nofun⟩
    | relative hst =>
      obtain ⟨t, rest, rfl, ht⟩ := starts_stepExpr hst
      exact ⟨t, rest, rfl, hstep t ht⟩
    | filter he =>
      obtain ⟨t, rest, rfl, -, ht⟩ := starts_primaryExpr.repeated he
      refine ⟨t, rest, rfl, ?_, ?_⟩
      · rintro rfl
        exact absurd ht (by decide)
      · rintro rfl
        exact absurd ht (by decide)
  intro ts e d n h
  cases h with
  | root => exact ⟨_, _, rfl, nofun, nofun⟩
  | steps hts => exact hstart.repeated hts

end XmlQuery.XPath
