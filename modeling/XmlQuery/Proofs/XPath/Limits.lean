import XmlQuery.Proofs.XPath.Beginnings
import XmlQuery.Proofs.XPath.Height

/-!
# The limits of expressions

The parser gives up for its limits at one of three places: where an expression opens, where a
negation opens, and where items are counted. What it has read up to there is the beginning of an
expression, and at that token the beginning has more levels or more items than are allowed. Levels
that have been closed do not count any more, so phrases next to each other never add up to too many.

## Main definitions

* `Exceeds`: what has been read is a beginning that goes beyond the limits
* `Exhausts`: a parser gives up for the limits only there
* `Unlimited`: a parser never gives up for the limits

## Main results

* `Exhausts.repeating`: a repetition gives up inside its first phrase or inside a further one
* `exhausts_unaryWithin`: unary expressions, with every nesting budget
-/

namespace XmlQuery.XPath

open Grammar ParserState XmlQuery.XPath.Parser

variable {α β : Type} {s s' s₁ : ParserState} {offset levels : Nat}

/-! ## Giving up -/

/-- What has been read up to a byte is a beginning in which more than so many expressions are open,
or which has more items than might come. -/
def Exceeds (levels : Nat) (Begun : Beginnings) (s : ParserState) (offset : Nat) : Prop :=
  ∃ ts m d n s', s.Reads ts m s' ∧ s'.offset = offset ∧ Begun ts s'.next? d n ∧
    (levels < d ∨ s.items < n)

/-- A parser that gives up for the limits has read a beginning that goes beyond them. -/
def Exhausts (levels : Nat) (p : Parser α) (Begun : Beginnings) : Prop :=
  ∀ ⦃s offset⦄, s.Regular → p s = .error ⟨offset, .tooDeep⟩ → Exceeds levels Begun s offset

/-- A parser never gives up for the limits. -/
def Unlimited (p : Parser α) : Prop := ∀ s offset, p s ≠ .error ⟨offset, .tooDeep⟩

namespace Parser

variable {p : Parser α} {f : α → Parser β} {e : SyntaxError}

theorem seq_eq_error_iff :
    (p >>= f) s = .error e ↔ p s = .error e ∨ ∃ a s', p s = .ok (a, s') ∧ f a s' = .error e := by
  change (p s >>= fun x => f x.1 x.2) = .error e ↔ _
  cases hp : p s with
  | error e' =>
    constructor
    · rintro ⟨⟩
      exact .inl rfl
    · rintro (⟨⟨⟩⟩ | ⟨a, s', ⟨⟩, -⟩)
      rfl
  | ok r =>
    constructor
    · exact fun h => .inr ⟨r.1, r.2, rfl, h⟩
    · rintro (⟨⟨⟩⟩ | ⟨a, s', ⟨⟩, h⟩)
      exact h

theorem count_eq_error_iff {n : Nat} :
    count n s = .error e ↔ s.items < n ∧ e = ⟨s.offset, .tooDeep⟩ := by
  change (if s.items < n then refuse .tooDeep else set { s with items := s.items - n }) s = _ ↔ _
  split
  · next hlt =>
    change Except.error _ = _ ↔ _
    rw [Except.error.injEq, eq_comm]
    exact (and_iff_right hlt).symm
  · next hlt => exact ⟨nofun, fun h => absurd h.1 hlt⟩

/-- A repetition gives up in one of its rounds. -/
theorem repeating_error {body : α → Parser (Option α)} {I : α → ParserState → Prop}
    (hround : ∀ {a s r s'}, I a s → body a s = .ok (r, s') → I (r.getD a) s') {a : α} (hI : I a s)
    (h : repeating body a s = .error e) : ∃ a' s', I a' s' ∧ body a' s' = .error e := by
  change iterate body s.lexemes.length a s = _ at h
  generalize s.lexemes.length = fuel at h
  induction fuel generalizing a s with
  | zero => cases h
  | succ fuel ih =>
    rw [iterate, seq_eq_error_iff] at h
    rcases h with hbody | ⟨r, middle, hbody, h⟩
    · exact ⟨a, s, hI, hbody⟩
    · have hmiddle := hround hI hbody
      cases r with
      | none => cases h
      | some b => exact ih hmiddle h

end Parser

variable {p : Parser α} {f : α → Parser β}

theorem unlimited_pure (a : α) : Unlimited (pure a : Parser α) := nofun

theorem unlimited_refuse {fault : SyntaxFault} (h : fault ≠ .tooDeep) :
    Unlimited (refuse fault : Parser α) := by
  intro s offset herror
  cases herror
  exact h rfl

theorem unlimited_advance : Unlimited advance := by
  intro s offset h
  rw [advance] at h
  generalize { s with lexemes := s.lexemes.tail } = next at h
  obtain ⟨lexemes, stop, stopFault, items⟩ := next
  cases lexemes with
  | nil => cases stopFault <;> cases h
  | cons l rest => cases h

theorem Unlimited.bind (h : Unlimited p) (hf : ∀ a, Unlimited (f a)) : Unlimited (p >>= f) := by
  intro s offset herror
  rcases seq_eq_error_iff.1 herror with hp | ⟨a, s', -, hf'⟩
  · exact h s offset hp
  · exact hf a s' offset hf'

theorem unlimited_peek_bind {f : Option Token → Parser α} (h : ∀ next, Unlimited (f next)) :
    Unlimited (peek >>= f) :=
  fun s => h s.next? s

theorem Unlimited.ite {c : Prop} [Decidable c] {p q : Parser α} (hp : Unlimited p)
    (hq : Unlimited q) : Unlimited (if c then p else q) := by
  split
  · exact hp
  · exact hq

theorem unlimited_expect {is : Token → Bool} {what : Wanted} : Unlimited (expect is what) :=
  unlimited_peek_bind fun _ => unlimited_advance.ite (unlimited_refuse nofun)

/-- The computation gives up behind a step that never does. -/
theorem Unlimited.of_seq (h : Unlimited p)
    (herror : (p >>= f) s = .error ⟨offset, .tooDeep⟩) :
    ∃ a s', p s = .ok (a, s') ∧ f a s' = .error ⟨offset, .tooDeep⟩ :=
  (seq_eq_error_iff.1 herror).resolve_left (h s offset)

/-! ## Composition -/

variable {Begun Begun' : Beginnings}

theorem ParserState.Reads.head?_eq {us : List Token} {m : Nat} (h : s.Reads us m s') :
    (us ++ s'.next?.toList).head? = s.next? := by
  cases us with
  | nil =>
    rw [← h.next?_eq, List.nil_append]
    cases s'.next? <;> rfl
  | cons t us =>
    rw [h.next?]
    rfl

/-- A beginning goes beyond the limits behind tokens that were read before it, which may have opened
levels. -/
theorem Exceeds.behind {us : List Token} {j k : Nat} (hreads : s.Reads us k s₁)
    (h : Exceeds levels Begun s₁ offset)
    (hbegun : ∀ {ts next d n}, (ts ++ next.toList).head? = s₁.next? → Begun ts next d n →
      Begun' (us ++ ts) next (d + j) (n + k)) : Exceeds (levels + j) Begun' s offset := by
  obtain ⟨ts, m, d, n, s', hreads', hoffset, hts, hlimit⟩ := h
  refine ⟨us ++ ts, _, _, _, s', hreads.trans hreads', hoffset, hbegun hreads'.head?_eq hts, ?_⟩
  rw [hreads.items]
  exact hlimit.imp (Nat.add_lt_add_right · j) (Nat.add_lt_add_right · k)

/-- A beginning of one kind is one of another. -/
theorem Exceeds.imp (hs : s.Ended) (h : Exceeds levels Begun s offset)
    (hbegun : ∀ {ts next d n}, (ts ++ next.toList).head? = s.next? → Begun ts next d n →
      Begun' ts next d n) : Exceeds levels Begun' s offset :=
  Exceeds.behind (j := 0) (Reads.refl hs) h hbegun

/-- Nothing has been read, and a level opens or items are counted. -/
theorem exceeds_of_next {d n : Nat} (hs : s.Ended) (hbegun : Begun [] s.next? d n)
    (hlimit : levels < d ∨ s.items < n) : Exceeds levels Begun s s.offset :=
  ⟨[], 0, d, n, s, .refl hs, rfl, hbegun, hlimit⟩

theorem exceeds_of_count {k : Nat} (hs : s.Ended)
    (h : count k s = .error ⟨offset, .tooDeep⟩) (hbegun : Begun [] s.next? 0 k) :
    Exceeds levels Begun s offset := by
  obtain ⟨hlt, heq⟩ := count_eq_error_iff.1 h
  cases heq
  exact exceeds_of_next hs hbegun (.inr hlt)

/-- Items are counted in front of a token, or the parser gives up behind it. -/
theorem count_advance_error {t : Token} {k : Nat} {f : Unit → Parser α} (hnext : s.next? = some t)
    (h : (count k >>= fun _ => advance >>= f) s = .error ⟨offset, .tooDeep⟩) :
    count k s = .error ⟨offset, .tooDeep⟩ ∨
      ∃ s₁, s.Reads [t] k s₁ ∧ f () s₁ = .error ⟨offset, .tooDeep⟩ := by
  rcases seq_eq_error_iff.1 h with hcount | ⟨⟨⟩, s₁, hcount, h⟩
  · exact .inl hcount
  · rw [count_eq_ok_iff (ended_of_next? hnext)] at hcount
    obtain ⟨⟨⟩, s₂, hadvance, h⟩ := unlimited_advance.of_seq h
    rw [advance_eq_ok_iff (hcount.next?_eq.trans hnext)] at hadvance
    have hreads := hcount.trans hadvance
    rw [List.nil_append, Nat.add_zero] at hreads
    exact .inr ⟨s₂, hreads, h⟩

/-- Items are counted in front of a token, and others are inside of what follows it. -/
theorem exceeds_of_counted {t : Token} {k : Nat} {f : Unit → Parser α} (hnext : s.next? = some t)
    (hcounted : Begun' [] (some t) 0 k)
    (hinside : ∀ {ts next d n}, Begun ts next d n → Begun' (t :: ts) next d (n + k))
    (hf : ∀ s₁, s.Reads [t] k s₁ → f () s₁ = .error ⟨offset, .tooDeep⟩ →
      Exceeds levels Begun s₁ offset)
    (h : (count k >>= fun _ => advance >>= f) s = .error ⟨offset, .tooDeep⟩) :
    Exceeds levels Begun' s offset := by
  rcases count_advance_error hnext h with hcount | ⟨s₁, hreads, h⟩
  · exact exceeds_of_count (ended_of_next? hnext) hcount (hnext ▸ hcounted)
  · exact Exceeds.behind (j := 0) hreads (hf s₁ hreads h) fun _ => hinside

/-- A parser gives up where its first part does, if the others never do. -/
theorem Exhausts.bind_unlimited {p : Parser α} {f : α → Parser β} (h : Exhausts levels p Begun)
    (hf : ∀ a, Unlimited (f a)) : Exhausts levels (p >>= f) Begun := by
  intro s offset hs herror
  rcases seq_eq_error_iff.1 herror with hp | ⟨a, s', -, hf'⟩
  · exact h hs hp
  · exact absurd hf' (hf a s' offset)

/-- **A repetition gives up inside its first phrase or inside a further one.** -/
theorem exceeds_of_rounds {bound : Nat} {First : Phrases α} {More : Phrases (α → α)}
    {InFirst InMore : Beginnings} {body : α → Parser (Option α)}
    (hmore : Continues levels bound body More) (hinside : ∀ a, Exhausts levels (body a) InMore)
    (hs : s.Regular) {a : α} (hread : HasRead levels (Repeated First More) s a s₁)
    (h : repeating body a s₁ = .error ⟨offset, .tooDeep⟩) :
    Exceeds levels (InRepeated First More InFirst InMore) s offset := by
  obtain ⟨a', s', ⟨ts, d, n, hts, -, hreads, hseparate⟩, hbody⟩ :=
    repeating_error (I := HasRead levels (Repeated First More) s)
      (fun hread hbody => hmore.round hs hread hbody) hread h
  refine Exceeds.behind (j := 0) hreads (hinside a' (hreads.regular hs) hbody) fun hhead hus => ?_
  exact .more hts hus fun hstar => hseparate (hhead.symm.trans hstar)

theorem Exhausts.repeating {bound : Nat} {first : Parser α} {First : Phrases α}
    {More : Phrases (α → α)} {InFirst InMore : Beginnings} {body : α → Parser (Option α)}
    (hfirst : Recognizes levels (bound + 1) first First) (hinfirst : Exhausts levels first InFirst)
    (hmore : Continues levels bound body More) (hinside : ∀ a, Exhausts levels (body a) InMore) :
    Exhausts levels (first >>= Parser.repeating body) (InRepeated First More InFirst InMore) := by
  intro s offset hs h
  rcases seq_eq_error_iff.1 h with hp | ⟨a, s₁, hp, hrounds⟩
  · exact (hinfirst hs hp).imp hs.ended fun _ => .first
  · obtain ⟨ts, d, n, hts, hrest⟩ := hfirst.sound hs hp
    exact exceeds_of_rounds hmore hinside hs ⟨ts, d, n, .first hts, hrest⟩ hrounds

/-! ## Steps -/

variable {nested : Parser Expr} {Nested : Phrases Expr} {InNested : Beginnings}

/-- What is closed gives up inside. -/
theorem Exhausts.closed {is : Token → Bool} {what : Wanted} (h : Exhausts levels p Begun) :
    Exhausts levels (p >>= fun a => expect is what >>= fun _ => pure a) Begun :=
  h.bind_unlimited fun _ => unlimited_expect.bind fun _ => unlimited_pure _

theorem exhausts_predicate (h : Exhausts levels nested InNested) :
    Exhausts levels (predicate nested) (InPredicate InNested) := by
  intro s offset hs herror
  obtain ⟨⟨⟩, s₁, hopen, herror⟩ := unlimited_expect.of_seq herror
  obtain ⟨t, ht, hopen⟩ := expect_eq_ok_iff.1 hopen
  obtain rfl := (isLeftBracket_iff t).1 ht
  exact Exceeds.behind (j := 0) hopen (h.closed (hopen.regular hs) herror) fun _ => .intro

/-- Nothing has begun. -/
inductive Never : Beginnings

theorem exhausts_nothing : Exhausts levels (pure ([] : List α)) Never :=
  fun s offset _ h => absurd h (unlimited_pure _ s offset)

/-- Items that are pushed one by one are those of a list. -/
theorem inListOf_of_inRepeated {Item : Phrases α} {InItem : Beginnings} {ts : List Token}
    {next : Option Token} {d n : Nat}
    (h : InRepeated Nothing (Pushing Item) Never InItem ts next d n) :
    InListOf Item InItem ts next d n := by
  cases h with
  | first h => cases h
  | more hts hus _ =>
    obtain ⟨_, _, _, _, us, as, d', m, ⟨⟩, has, rfl, rfl, rfl, rfl⟩ := listOf_of_repeated hts
    rw [Nat.zero_add]
    exact .intro has hus

theorem exhausts_predicates (h : Recognizes levels 2 nested Nested)
    (hinside : Exhausts levels nested InNested) :
    Exhausts levels (predicates nested)
      (InListOf (PredicateExpr Nested) (InPredicate InNested)) := by
  have hround : ∀ found : List Expr, Exhausts levels (do
      if (← peek).any isLeftBracket then return some ((← predicate nested) :: found)
      else return none) (InPredicate InNested) := by
    intro found s offset hs herror
    rw [peek_bind] at herror
    split at herror
    · exact (exhausts_predicate hinside).bind_unlimited (fun _ => unlimited_pure _) hs herror
    · cases herror
  have hrepeated := Exhausts.repeating recognizes_nothing exhausts_nothing
    (continues_predicates h) hround
  intro s offset hs herror
  refine (hrepeated.bind_unlimited (fun found => unlimited_pure found.reverse) hs herror).imp
    hs.ended fun _ => inListOf_of_inRepeated

theorem unlimited_axis : Unlimited axis := by
  refine unlimited_peek_bind fun next => ?_
  split
  · exact unlimited_advance.bind fun _ => unlimited_pure _
  · split
    · exact unlimited_refuse nofun
    · exact unlimited_advance.bind fun _ => unlimited_expect.bind fun _ => unlimited_pure _
  · exact unlimited_pure _

theorem unlimited_instructionTarget : Unlimited instructionTarget := by
  refine unlimited_peek_bind fun next => ?_
  split
  · exact unlimited_advance.bind fun _ => unlimited_pure _
  · exact unlimited_pure _

theorem unlimited_nodeType (name : String) : Unlimited (nodeType name) := by
  rw [nodeType_eq]
  have htest : Unlimited (NodeTest.instruction <$> instructionTarget) :=
    unlimited_instructionTarget.bind fun _ => unlimited_pure _
  refine unlimited_expect.bind fun _ => Unlimited.bind ?_ fun _ =>
    unlimited_expect.bind fun _ => unlimited_pure _
  exact (unlimited_pure _).ite ((unlimited_pure _).ite ((unlimited_pure _).ite htest))

theorem unlimited_nodeTest : Unlimited nodeTest := by
  refine unlimited_peek_bind fun next => ?_
  split
  · exact unlimited_advance.bind fun _ => unlimited_pure _
  · exact unlimited_advance.bind fun _ => unlimited_pure _
  · exact unlimited_advance.bind fun _ => unlimited_pure _
  · exact unlimited_advance.bind fun _ => unlimited_pure _
  · exact unlimited_advance.bind fun _ => unlimited_nodeType _
  · exact unlimited_refuse nofun

theorem exhausts_step (h : Recognizes levels 2 nested Nested)
    (hinside : Exhausts levels nested InNested) :
    Exhausts levels (step nested) (InStep Nested InNested) := by
  intro s offset hs herror
  by_cases hdot : s.next? = some .dot
  · rw [step, peek_bind, hdot] at herror
    exact absurd herror (unlimited_advance.bind (fun _ => unlimited_pure _) s offset)
  by_cases hdots : s.next? = some .doubleDot
  · rw [step, peek_bind, hdots] at herror
    exact absurd herror (unlimited_advance.bind (fun _ => unlimited_pure _) s offset)
  rw [step_eq_of_ne hdot hdots] at herror
  obtain ⟨a, s₁, ha, herror⟩ := unlimited_axis.of_seq herror
  obtain ⟨test, s₂, htest, herror⟩ := unlimited_nodeTest.of_seq herror
  obtain ⟨ts, hts, hreads₁⟩ := axis_sound hs.ended ha
  have hs₁ := hreads₁.regular hs
  obtain ⟨us, hus, hreads₂⟩ := (nodeTest_eq_ok_iff hs₁).1 htest
  have hpredicates := (exhausts_predicates h hinside).bind_unlimited
    (fun ps => unlimited_pure (⟨a, test, ps⟩ : Step)) (hreads₂.regular hs₁) herror
  refine Exceeds.behind (j := 0) (hreads₁.trans hreads₂) hpredicates fun _ hvs => ?_
  rw [List.append_assoc]
  exact .intro hts hus hvs

/-! ## Primary expressions -/

theorem exhausts_furtherArgument (hinside : Exhausts levels nested InNested) (found : List Expr) :
    Exhausts levels (furtherArgument nested found) (InFurtherArgument InNested) := by
  intro s offset hs herror
  rw [furtherArgument, peek_bind] at herror
  generalize hnext : s.next? = next at herror
  split at herror
  · obtain ⟨⟨⟩, s₁, hcomma, herror⟩ := unlimited_advance.of_seq herror
    rw [advance_eq_ok_iff hnext] at hcomma
    have hargument := hinside.bind_unlimited (fun e => unlimited_pure (some (e :: found)))
      (hcomma.regular hs) herror
    exact Exceeds.behind (j := 0) hcomma hargument fun _ => .intro
  · cases herror

theorem exhausts_arguments (h : Recognizes levels 2 nested Nested)
    (hinside : Exhausts levels nested InNested) :
    Exhausts levels (arguments nested) (InArguments Nested InNested) := by
  intro s offset hs herror
  by_cases hnext : s.next? = some .rightParen
  · rw [arguments_of_rightParen hnext] at herror
    exact absurd herror (unlimited_expect.bind (fun _ => unlimited_pure _) s offset)
  · rw [arguments_of_ne hnext, ← bind_assoc] at herror
    have hfirst : Recognizes levels 2 (nested >>= fun e => pure [e]) (Single Nested) :=
      h.map single_iff
    have hlist := Exhausts.repeating hfirst (hinside.bind_unlimited fun e => unlimited_pure [e])
      (continues_furtherArgument h) (exhausts_furtherArgument hinside)
    refine ((hlist.bind_unlimited fun found => unlimited_pure found.reverse).closed hs herror).imp
      hs.ended fun {ts next d n} hhead hbegun => ?_
    cases hbegun with
    | first hts =>
      refine .first hts fun hnil hclose => hnext ?_
      rw [← hhead, hnil, hclose]
      rfl
    | more hts hus _ =>
      obtain ⟨ts₀, _, d₀, n₀, us, es, d', m, ⟨he⟩, hes, rfl, rfl, rfl, rfl⟩ :=
        listOf_of_repeated hts
      have hfurther : InArguments _ InNested _ _ _ _ :=
        InArguments.further he (InListOf.intro hes hus)
      rwa [← List.append_assoc, Nat.add_assoc, Nat.add_comm m] at hfurther

theorem unlimited_variable : Unlimited (do
    match ← peek with
    | some (.name n) =>
      advance
      return Expr.variable n
    | some (.qname p l) =>
      advance
      return .variable (p ++ ":" ++ l)
    | _ => refuse .noVariableName) := by
  refine unlimited_peek_bind fun next => ?_
  split
  · exact unlimited_advance.bind fun _ => unlimited_pure _
  · exact unlimited_advance.bind fun _ => unlimited_pure _
  · exact unlimited_refuse nofun

theorem exhausts_primary (h : Recognizes levels 2 nested Nested)
    (hinside : Exhausts levels nested InNested) :
    Exhausts levels (primary nested) (InPrimary Nested InNested) := by
  intro s offset hs herror
  rw [primary, peek_bind] at herror
  generalize hnext : s.next? = next at herror
  split at herror
  · exact absurd herror (unlimited_advance.bind (fun _ => unlimited_pure _) s offset)
  · exact absurd herror (unlimited_advance.bind (fun _ => unlimited_pure _) s offset)
  · exact absurd herror (unlimited_advance.bind (fun _ => unlimited_variable) s offset)
  · obtain ⟨⟨⟩, s₁, hopen, herror⟩ := unlimited_advance.of_seq herror
    rw [advance_eq_ok_iff hnext] at hopen
    exact Exceeds.behind (j := 0) hopen (hinside.closed (hopen.regular hs) herror) fun _ => .group
  · next f =>
    obtain ⟨⟨⟩, s₁, hname, herror⟩ := unlimited_advance.of_seq herror
    rw [advance_eq_ok_iff hnext] at hname
    obtain ⟨⟨⟩, s₂, hopen, herror⟩ := unlimited_expect.of_seq herror
    obtain ⟨t, ht, hopen⟩ := expect_eq_ok_iff.1 hopen
    obtain rfl := (isLeftParen_iff t).1 ht
    have hreads := hname.trans hopen
    have harguments := (exhausts_arguments h hinside).bind_unlimited
      (fun es => unlimited_pure (Expr.call f es)) (hreads.regular hs) herror
    exact Exceeds.behind (j := 0) hreads harguments fun _ => .call
  · cases herror

theorem exhausts_filterExpr (h : Recognizes levels 2 nested Nested)
    (hstarts : Starts (· ≠ .rightParen) Nested) (hinside : Exhausts levels nested InNested) :
    Exhausts levels (filterExpr nested) (InRepeated (PrimaryExpr Nested) (Filtering Nested)
      (InPrimary Nested InNested) (InFiltering InNested)) := by
  refine Exhausts.repeating (recognizes_primary h hstarts 11) (exhausts_primary h hinside)
    (continues_filtering h) fun base s offset hs herror => ?_
  rw [peek_bind] at herror
  split at herror
  · next hbracket =>
    rw [any_next?_iff isLeftBracket_iff] at hbracket
    rcases seq_eq_error_iff.1 herror with hcount | ⟨⟨⟩, s₁, hcount, herror⟩
    · refine exceeds_of_count hs.ended hcount ?_
      rw [hbracket]
      exact .counted
    · rw [count_eq_ok_iff hs.ended] at hcount
      have hpredicate := (exhausts_predicate hinside).bind_unlimited
        (fun e => unlimited_pure (some (base.filter e))) (hcount.regular hs) herror
      exact Exceeds.behind (j := 0) hcount hpredicate fun _ => .inside
  · cases herror

/-! ## Paths -/

theorem exhausts_stepping (h : Recognizes levels 2 nested Nested)
    (hinside : Exhausts levels nested InNested) (base : Expr) :
    Exhausts levels (stepping nested base) (InStepping Nested InNested) := by
  intro s offset hs herror
  by_cases hnext : ∃ t g k, Separator t g k ∧ s.next? = some t
  · obtain ⟨t, g, k, ht, hnext⟩ := hnext
    rw [stepping_of_separator ht hnext] at herror
    exact exceeds_of_counted hnext (.counted ht) (.inside ht) (fun s₁ hreads =>
      (exhausts_step h hinside).bind_unlimited (fun _ => unlimited_pure _) (hreads.regular hs))
      herror
  · rw [stepping_of_ne fun t g k ht heq => hnext ⟨t, g, k, ht, heq⟩] at herror
    cases herror

/-- Inside the steps of a path. -/
abbrev InSteps (Nested : Phrases Expr) (InNested : Beginnings) : Beginnings :=
  InRepeated (PathStart Nested) (Stepping Nested) (InPathStart Nested InNested)
    (InStepping Nested InNested)

/-- A path gives up in the step from the document or behind it. -/
theorem exceeds_of_absolute (h : Recognizes levels 2 nested Nested)
    (hinside : Exhausts levels nested InNested) (hs : s.Regular) {t : Token} {g : Expr → Expr}
    {k : Nat} (ht : Separator t g k) (hreads : s.Reads [t] k s₁)
    (herror : (step nested >>= fun st => moreSteps nested ((g .root).andStep st)) s₁ =
      .error ⟨offset, .tooDeep⟩) :
    Exceeds levels (InSteps Nested InNested) s offset := by
  have hs₁ := hreads.regular hs
  rcases seq_eq_error_iff.1 herror with hstep | ⟨st, s₂, hstep, hmore⟩
  · exact Exceeds.behind (j := 0) hreads (exhausts_step h hinside hs₁ hstep)
      fun _ hts => .first (.absolute ht hts)
  · obtain ⟨ts, d, n, hts, hd, hreads', -⟩ := (recognizes_step h).sound hs₁ hstep
    have hus := Stepping.intro ht hts
    exact exceeds_of_rounds (continues_stepping h) (exhausts_stepping h hinside) hs
      ⟨_, d, _, .first (.absolute hus), hd, reads_cons_add_iff.2 ⟨s₁, hreads, hreads'⟩,
        fun _ => finished_stepping hus⟩ hmore

/-- Without a separator in front a path starts with a step or with a primary expression. -/
theorem exhausts_pathStart (h : Recognizes levels 2 nested Nested)
    (hstarts : Starts (· ≠ .rightParen) Nested) (hinside : Exhausts levels nested InNested)
    (hs : s.Regular) (hne : ∀ t g k, Separator t g k → s.next? ≠ some t)
    (herror : pathStart nested s = .error ⟨offset, .tooDeep⟩) :
    Exceeds levels (InPathStart Nested InNested) s offset := by
  rw [pathStart, seq_of_ok (stepping_of_ne hne)] at herror
  dsimp only at herror
  rw [peek_bind] at herror
  split at herror
  · have hstep := (exhausts_step h hinside).bind_unlimited (fun st => unlimited_pure st.toExpr)
      hs herror
    exact hstep.imp hs.ended fun _ => .relative
  · exact (exhausts_filterExpr h hstarts hinside hs herror).imp hs.ended fun _ => .filter

theorem exhausts_pathExpr (h : Recognizes levels 2 nested Nested)
    (hstarts : Starts (· ≠ .rightParen) Nested) (hinside : Exhausts levels nested InNested) :
    Exhausts levels (pathExpr nested) (InPath Nested InNested) := by
  intro s offset hs herror
  suffices hsteps : Exceeds levels (InSteps Nested InNested) s offset from
    hsteps.imp hs.ended fun _ => .intro
  by_cases hslash : s.next? = some .slash
  · rw [pathExpr, peek_bind, hslash] at herror
    obtain ⟨⟨⟩, s₁, hadvance, herror⟩ := unlimited_advance.of_seq herror
    rw [advance_eq_ok_iff hslash] at hadvance
    rw [peek_bind] at herror
    split at herror
    · next hstarts' =>
      obtain ⟨t, hnext, ht⟩ := (Option.any_eq_true _ _).1 hstarts'
      rcases seq_eq_error_iff.1 herror with hcount | ⟨⟨⟩, s₂, hcount, herror⟩
      · have hbehind : Exceeds levels (fun ts => InSteps Nested InNested (.slash :: ts)) s₁
            offset := by
          refine exceeds_of_count hadvance.ended hcount ?_
          have hnext : s₁.next? = some t := hnext
          rw [hnext]
          exact .first (.slash ht)
        exact Exceeds.behind (j := 0) hadvance hbehind fun _ hts => hts
      · rw [count_eq_ok_iff hadvance.ended] at hcount
        exact exceeds_of_absolute h hinside hs .slash (hadvance.trans hcount) herror
    · cases herror
  by_cases hslashes : s.next? = some .doubleSlash
  · rw [pathExpr, peek_bind, hslashes] at herror
    rcases count_advance_error hslashes herror with hcount | ⟨s₁, hreads, herror⟩
    · refine exceeds_of_count hs.ended hcount ?_
      rw [hslashes]
      exact .first .doubleSlash
    · exact exceeds_of_absolute h hinside hs .doubleSlash hreads herror
  have hne : ∀ t g k, Separator t g k → s.next? ≠ some t := by
    rintro _ _ _ ⟨⟩
    · exact hslash
    · exact hslashes
  rw [pathExpr_of_ne hne] at herror
  rcases seq_eq_error_iff.1 herror with hstart | ⟨e, s₁, hstart, hmore⟩
  · exact (exhausts_pathStart h hstarts hinside hs hne hstart).imp hs.ended fun _ => .first
  · obtain ⟨ts, d, n, hts, hrest⟩ := (recognizes_pathStart h hstarts).sound hs hstart
    exact exceeds_of_rounds (continues_stepping h) (exhausts_stepping h hinside) hs
      ⟨ts, d, n, .first hts, hrest⟩ hmore

/-! ## Operators -/

theorem exhausts_chain {tier : Nat} {operator? : Token → Option (Expr → Expr → Expr)}
    {operand : Parser Expr} {Operand : Phrases Expr} {InOperand : Beginnings}
    (hoperator : ∀ t join, operator? t = some join ↔ Operator tier t join)
    (h : Recognizes levels (tier + 2) operand Operand)
    (hinside : Exhausts levels operand InOperand) :
    Exhausts levels (chain operator? operand) (InTier tier Operand InOperand) := by
  have hround : ∀ left, Exhausts levels (joining operator? operand left)
      (InJoining tier InOperand) := by
    intro left s offset hs herror
    rw [joining, peek_bind] at herror
    cases hjoin : s.next?.bind operator? with
    | none =>
      rw [hjoin] at herror
      cases herror
    | some join =>
      rw [hjoin] at herror
      obtain ⟨t, hnext, ht⟩ := Option.bind_eq_some_iff.1 hjoin
      have ht := (hoperator t join).1 ht
      exact exceeds_of_counted hnext (.counted ht) (.inside ht) (fun s₁ hreads =>
        hinside.bind_unlimited (fun _ => unlimited_pure _) (hreads.regular hs)) herror
  intro s offset hs herror
  exact (Exhausts.repeating h hinside (continues_joining hoperator h) hround hs herror).imp
    hs.ended fun _ => .intro

/-- Inside of operators between unary expressions. -/
theorem exhausts_operators {operand : Parser Expr} {Operand : Phrases Expr}
    {InOperand : Beginnings} (h : Recognizes levels 8 operand Operand)
    (hinside : Exhausts levels operand InOperand) :
    Exhausts levels (operators operand)
      (InTier 1 (Tier 2 (Tier 3 (Tier 4 (Tier 5 (Tier 6 Operand)))))
        (InTier 2 (Tier 3 (Tier 4 (Tier 5 (Tier 6 Operand))))
          (InTier 3 (Tier 4 (Tier 5 (Tier 6 Operand)))
            (InTier 4 (Tier 5 (Tier 6 Operand))
              (InTier 5 (Tier 6 Operand) (InTier 6 Operand InOperand)))))) := by
  have h₆ := recognizes_chain (operator_iff (k := 5) rfl) h
  have h₅ := recognizes_chain (operator_iff (k := 4) rfl) h₆
  have h₄ := recognizes_chain (operator_iff (k := 3) rfl) h₅
  have h₃ := recognizes_chain (operator_iff (k := 2) rfl) h₄
  have h₂ := recognizes_chain (operator_iff (k := 1) rfl) h₃
  have hinside₆ := exhausts_chain (operator_iff (k := 5) rfl) h hinside
  have hinside₅ := exhausts_chain (operator_iff (k := 4) rfl) h₆ hinside₆
  have hinside₄ := exhausts_chain (operator_iff (k := 3) rfl) h₅ hinside₅
  have hinside₃ := exhausts_chain (operator_iff (k := 2) rfl) h₄ hinside₄
  have hinside₂ := exhausts_chain (operator_iff (k := 1) rfl) h₃ hinside₃
  exact exhausts_chain (operator_iff (k := 0) rfl) h₂ hinside₂

/-! ## Expressions -/

/-- Where no expression may be open the parser gives up at once. -/
theorem exhausts_refuse : Exhausts 0 (refuse .tooDeep : Parser Expr) InExpression := by
  intro s offset hs herror
  cases herror
  exact exceeds_of_next hs.ended .opened (.inl Nat.zero_lt_one)

theorem exhausts_expression (hinside : Exhausts levels (unaryWithin levels) InUnary) :
    Exhausts (levels + 1) (operators (unaryWithin levels)) InExpression := by
  intro s offset hs herror
  exact Exceeds.behind (Reads.refl hs.ended)
    (exhausts_operators (recognizes_unaryWithin levels) hinside hs herror) fun _ => .inside

theorem exhausts_unaryWith {negation : Parser Expr}
    (h : Recognizes levels 2 nested Expression) (hinside : Exhausts levels nested InExpression)
    (hnegation : ∀ {s offset}, s.Regular → s.next? = some .minus →
      negation s = .error ⟨offset, .tooDeep⟩ → Exceeds levels InUnary s offset) :
    Exhausts levels (unaryWith negation nested) InUnary := by
  intro s offset hs herror
  by_cases hminus : s.next? = some .minus
  · rw [unaryWith_of_minus hminus] at herror
    exact hnegation hs hminus herror
  · rw [unaryWith_of_ne hminus] at herror
    have hunion := exhausts_chain unionOperator_iff (recognizes_pathExpr h starts_expression)
      (exhausts_pathExpr h starts_expression hinside)
    exact (hunion hs herror).imp hs.ended fun _ => .union

/-- **Unary expressions give up only beyond the limits, with every nesting budget**: where there is
none left a minus sign and an expression open one level too many, and otherwise they open one
around what may still open. -/
theorem exhausts_unaryWithin (levels : Nat) : Exhausts levels (unaryWithin levels) InUnary := by
  induction levels with
  | zero =>
    refine exhausts_unaryWith recognizes_refuse exhausts_refuse fun hs hminus herror => ?_
    cases herror
    have hbegun : ∀ {next}, next = some .minus → InUnary [] next 1 0 := by
      rintro _ rfl
      exact .minus
    exact exceeds_of_next hs.ended (hbegun hminus) (.inl Nat.zero_lt_one)
  | succ levels ih =>
    refine exhausts_unaryWith (recognizes_expression (recognizes_unaryWithin levels))
      (exhausts_expression ih) fun hs hminus herror => ?_
    obtain ⟨⟨⟩, s₁, hadvance, herror⟩ := unlimited_advance.of_seq herror
    rw [advance_eq_ok_iff hminus] at hadvance
    have hoperand := ih.bind_unlimited (fun e => unlimited_pure (Expr.negate e))
      (hadvance.regular hs) herror
    exact Exceeds.behind hadvance hoperand fun _ => .negated

theorem exhausts_nestedWithin (levels : Nat) :
    Exhausts levels (nestedWithin levels) InExpression := by
  cases levels with
  | zero => exact exhausts_refuse
  | succ levels => exact exhausts_expression (exhausts_unaryWithin levels)

/-! ## Texts -/

/-- A wording that starts in another way is not the one for the limits. -/
theorem message_ne {front rest : String} (hlength : 4 ≤ front.toList.length)
    (hfront : front.toList.take 4 ≠ "expr".toList) :
    front ++ rest ≠ SyntaxFault.message .tooDeep := by
  intro h
  have htake := congrArg (·.toList.take 4) h
  rw [String.toList_append, List.take_append_of_le_length hlength] at htake
  exact hfront htake

/-- The wording for the limits is that of no other fault. -/
theorem SyntaxFault.message_eq_iff {fault : SyntaxFault} :
    fault.message = message .tooDeep ↔ fault = .tooDeep := by
  constructor
  · intro h
    cases fault with
    | tooDeep => rfl
    | lexical fault =>
      cases fault with
      | loneExclamation | unterminatedString => exact absurd h (by decide)
      | unexpectedCharacter c =>
        have h : "unexpected character '" ++ String.singleton c ++ "'" = message .tooDeep := h
        rw [String.append_assoc] at h
        exact absurd h (message_ne (by decide) (by decide))
    | unexpected found => exact absurd h (message_ne (by decide) (by decide))
    | expected what found =>
      rw [message, String.append_assoc, String.append_assoc] at h
      exact absurd h (message_ne (by decide) (by decide))
    | noVariableName => exact absurd h (by decide)
    | unknownAxis name =>
      rw [message, String.append_assoc] at h
      exact absurd h (message_ne (by decide) (by decide))
  · rintro rfl
    rfl

theorem wholeWithin_tooDeep (herror : wholeWithin s = .error ⟨offset, .tooDeep⟩) :
    nestedWithin maxNesting s = .error ⟨offset, .tooDeep⟩ := by
  rcases seq_eq_error_iff.1 herror with hnested | ⟨e, s', -, herror⟩
  · exact hnested
  · rw [peek_bind] at herror
    cases hnext : s'.next? with
    | none =>
      rw [hnext] at herror
      cases herror
    | some t =>
      rw [hnext] at herror
      cases herror

/-- Tokens are given up for the limits where what has been read goes beyond them. -/
theorem parseTokens_tooDeep {lexed : Lexed} (h : NodeTypesKnown lexed.lexemes)
    (herror : parseTokens lexed = .error ⟨offset, .tooDeep⟩) :
    ∃ front rest levels items, lexed.lexemes = front ++ rest ∧
      offset = (rest.head?.map (·.offset)).getD lexed.stop ∧
      InExpression (front.map (·.token)) (rest.head?.map (·.token)) levels items ∧
      (maxNesting < levels ∨ maxItems < items) := by
  let s : ParserState := ⟨lexed.lexemes, lexed.stop, lexed.fault, maxItems, 0⟩
  have hended : s.Ended ∧ wholeWithin s = .error ⟨offset, .tooDeep⟩ := by
    rw [parseTokens_eq, parseWithin] at herror
    cases hcheck : s.check with
    | error e =>
      -- The text ends at once, with a fault of its own.
      obtain ⟨lexemes, stop, fault⟩ := lexed
      cases lexemes <;> cases fault <;> cases hcheck
      cases herror
    | ok s' =>
      obtain ⟨hended, rfl⟩ := check_eq_ok_iff.1 hcheck
      refine ⟨hended, ?_⟩
      change s.check >>= (fun s => (wholeWithin.run s).map (·.1)) = _ at herror
      rw [hcheck] at herror
      change (wholeWithin s).map (·.1) = _ at herror
      cases hwhole : wholeWithin s with
      | error e =>
        rw [hwhole] at herror
        cases herror
        rfl
      | ok r =>
        rw [hwhole] at herror
        cases herror
  obtain ⟨hended, hwhole⟩ := hended
  obtain ⟨ts, m, d, n, s', hreads, hoffset, hbegun, hlimit⟩ :=
    exhausts_nestedWithin maxNesting ⟨hended, h⟩ (wholeWithin_tooDeep hwhole)
  obtain ⟨front, hfront, rfl⟩ := hreads.lexemes
  refine ⟨front, s'.lexemes, d, n, hfront, ?_, hbegun, hlimit⟩
  rw [← hoffset, ParserState.offset, hreads.stop]

/-! ## Siblings -/

/-- **The limits bound every expression, and reject nothing else.** What is parsed has at most 64
levels and 256 items, and is no deeper than that. The parser goes no further down either: 64 parsers
within each other do as well as any number of them, whatever lies beneath. What it counts as open it
has closed again where it returns. A text is rejected for the limits only where what has been read
of it, up to the token at which it is rejected, has more levels open at a time or more items.
Phrases next to each other do not add up to levels: a step may have any number of predicates, and a
function any number of arguments. -/
theorem parse_limits (text : String) :
    (∀ e, parse text = .ok e → e.Within 320 ∧ ∃ levels items,
      Expression (tokenize text.toList).tokens e levels items ∧ levels ≤ 64 ∧ items ≤ 256) ∧
    (∀ bottom fuel, 64 ≤ fuel →
      parseWith (unary bottom fuel) (tokenize text.toList) = parse text) ∧
    (∀ bottom fuel s e s', s.lexemes.length < fuel ∨ 64 < fuel →
      unary bottom fuel s = .ok (e, s') ∨ nestedExpr (unary bottom fuel) s = .ok (e, s') →
      s'.nesting = s.nesting) ∧
    (∀ failure, parse text = .error failure →
      failure.fault.message = "expression nested too deeply" →
      ∃ front rest levels items, (tokenize text.toList).lexemes = front ++ rest ∧
        failure.offset = (rest.head?.map (·.offset)).getD (tokenize text.toList).stop ∧
        InExpression (front.map (·.token)) (rest.head?.map (·.token)) levels items ∧
        (64 < levels ∨ 256 < items)) ∧
    ((tokenize text.toList).fault = none →
      (∀ us vs test predicates levels items, (tokenize text.toList).tokens = us ++ vs →
        NodeTestExpr us test → ListOf (PredicateExpr Expression) vs predicates levels items →
        levels < 64 → items ≤ 256 → parse text = .ok (.step .child test predicates)) ∧
      ∀ name ts arguments levels items,
        (tokenize text.toList).tokens = .functionName name :: .leftParen :: (ts ++ [.rightParen]) →
        Arguments Expression ts arguments levels items →
        levels < 64 → items ≤ 256 → parse text = .ok (.call name arguments)) := by
  have hknown := nodeTypesKnown_tokenize text.toList
  refine ⟨fun e he => ?_, fun bottom fuel hfuel => ?_, fun bottom fuel s e s' hfuel h => ?_,
    fun failure herror hmessage => ?_, fun hfault =>
    ⟨fun us vs test predicates levels items htokens htest hpredicates hlevels hitems => ?_,
      fun name ts arguments levels items htokens harguments hlevels hitems => ?_⟩⟩
  · obtain ⟨-, levels, items, hexpression, hlevels, hitems⟩ := (parseTokens_eq_ok_iff hknown).1 he
    exact ⟨hexpression.within.mono (Nat.add_le_add hlevels hitems), levels, items, hexpression,
      hlevels, hitems⟩
  · exact (parseWith_unary_eq (.inr hfuel)).trans (parseTokens_eq _).symm
  · rcases h with h | h
    · exact nesting_of_unary hfuel h
    · exact nesting_of_nestedExpr (hfuel.imp_right Nat.le_of_lt) h
  · obtain ⟨offset, fault⟩ := failure
    obtain rfl : fault = .tooDeep := SyntaxFault.message_eq_iff.1 hmessage
    exact parseTokens_tooDeep hknown herror
  · have hstep : StepExpr Expression (us ++ vs) ⟨.child, test, predicates⟩ levels items :=
      .full .omitted htest hpredicates
    refine (parseTokens_eq_ok_iff hknown).2 ⟨hfault, levels + 1, items, ?_, hlevels, hitems⟩
    rw [htokens]
    exact (PathExpr.steps (.first (.relative hstep))).expression
  · refine (parseTokens_eq_ok_iff hknown).2 ⟨hfault, levels + 1, items, ?_, hlevels, hitems⟩
    rw [htokens]
    exact (PathExpr.steps (.first (.filter (.first (.call harguments))))).expression

/-! ## Minus signs -/

/-- Minus signs from a byte on. -/
def minusSigns (start count : Nat) : List Lexeme := (List.range' start count).map (⟨·, .minus⟩)

theorem tokenizeFrom_minus (found : List Lexeme) (afterOperand : Bool) (start count : Nat) :
    tokenizeFrom found afterOperand ⟨start, List.replicate count '-'⟩ =
      ⟨found.reverse ++ minusSigns start count, start + count, none⟩ := by
  induction count generalizing found afterOperand start with
  | zero =>
    rw [tokenizeFrom, minusSigns, List.range'_zero, List.map_nil, List.append_nil]
    rfl
  | succ count ih =>
    have hskip : skipBlanks ⟨start, List.replicate (count + 1) '-'⟩ =
      ⟨start, List.replicate (count + 1) '-'⟩ := rfl
    have hscan : ∀ afterOperand, scan afterOperand ⟨start, List.replicate (count + 1) '-'⟩ =
      .ok (.minus, ⟨start + 1, List.replicate count '-'⟩) := fun _ => rfl
    rw [tokenizeFrom, hskip, if_neg (by simp)]
    split
    · next h => cases (hscan afterOperand).symm.trans h
    · next h =>
      cases (hscan afterOperand).symm.trans h
      rw [ih, minusSigns, minusSigns, List.range'_succ, List.map_cons, List.reverse_cons,
        List.append_assoc, List.singleton_append, Nat.add_assoc, Nat.add_comm 1]

/-- Each minus sign takes a level, and the first one without a level left is rejected. -/
theorem unaryWithin_minusSigns {levels start count : Nat} (h : levels < count)
    (hs : s.lexemes = minusSigns start count) (hfault : s.stopFault = none) :
    unaryWithin levels s = .error ⟨start + levels, .tooDeep⟩ := by
  obtain ⟨lexemes, stop, stopFault, items, nesting⟩ := s
  dsimp only at hs hfault
  subst hs hfault
  obtain ⟨count, rfl⟩ := Nat.exists_eq_succ_of_ne_zero (Nat.ne_zero_of_lt h)
  induction levels generalizing start count with
  | zero => rfl
  | succ levels ih =>
    obtain ⟨count, rfl⟩ := Nat.exists_eq_succ_of_ne_zero
      (Nat.ne_zero_of_lt (Nat.lt_of_succ_lt_succ h))
    have hoperand := @ih (start + 1) count (Nat.lt_of_succ_lt_succ h)
    rw [Nat.add_assoc, Nat.add_comm 1] at hoperand
    change (unaryWithin levels >>= fun e => pure (Expr.negate e)) _ = _
    exact seq_eq_error_iff.2 (.inl hoperand)

theorem chain_error {operator? : Token → Option (Expr → Expr → Expr)} {operand : Parser Expr}
    {e : SyntaxError} (h : operand s = .error e) : chain operator? operand s = .error e :=
  seq_eq_error_iff.2 (.inl h)

/-- With 64 minus signs and more, the level of the 64th is one too many. -/
theorem parse_minusSigns {count : Nat} (h : 64 ≤ count) :
    parse (String.ofList (List.replicate count '-')) = .error ⟨63, .tooDeep⟩ := by
  let s : ParserState := ⟨minusSigns 0 count, count, none, maxItems, 0⟩
  have hunary : unaryWithin 63 s = .error ⟨63, .tooDeep⟩ := by
    have := @unaryWithin_minusSigns s 63 0 count h rfl rfl
    rwa [Nat.zero_add] at this
  have htokens : tokenize (List.replicate count '-') = ⟨minusSigns 0 count, count, none⟩ := by
    rw [tokenize, Text.Cursor.ofText, tokenizeFrom_minus, Nat.zero_add]
    rfl
  have hoperators : operators (unaryWithin 63) s = .error ⟨63, .tooDeep⟩ :=
    chain_error (chain_error (chain_error (chain_error (chain_error (chain_error hunary)))))
  have hwhole : wholeWithin s = .error ⟨63, .tooDeep⟩ := seq_eq_error_iff.2 (.inl hoperators)
  have hcheck : s.check = .ok s := check_eq_ok_iff.2 ⟨fun _ => rfl, rfl⟩
  rw [parse, String.toList_ofList, htokens, parseTokens_eq, parseWithin, hcheck]
  change (wholeWithin s).map (·.1) = _
  rw [hwhole]
  rfl

/-- Two predicates are no deeper than one, a name is read with as many expressions open behind it as
in front of it, and the 64th minus sign opens a level too many. -/
theorem parse_limits_samples :
    let e := .step .child (.name "a") [.step .child (.name "b") [], .step .child (.name "c") []]
    let s : ParserState := ⟨[⟨0, .name "a"⟩], 1, none, 256, 5⟩
    parse "a[b][c]" = .ok e ∧ e.Within 320 ∧
    parseWith (unary (refuse .noVariableName) 64) (tokenize "a[b][c]".toList) = .ok e ∧
    (∃ a s', nestedExpr (unary (refuse .tooDeep) 2) s = .ok (a, s') ∧ s'.nesting = 5) ∧
    ∃ front rest levels items,
      (tokenize (List.replicate 64 '-')).lexemes = front ++ rest ∧
        63 = (rest.head?.map (·.offset)).getD (tokenize (List.replicate 64 '-')).stop ∧
        InExpression (front.map (·.token)) (rest.head?.map (·.token)) levels items ∧
        (64 < levels ∨ 256 < items) := by
  intro e s
  have hexpression : ∀ l, Expression [.name l] (.step .child (.name l) []) 1 0 := fun l =>
    (PathExpr.steps (.first (.relative (.full .omitted .name .nil)))).expression
  have hpredicates : ListOf (PredicateExpr Expression) _ _ _ _ :=
    .cons (.intro (hexpression "b")) (.cons (.intro (hexpression "c")) .nil)
  obtain ⟨hbounds, hrecursion, hrestored, -, hsiblings⟩ := parse_limits "a[b][c]"
  have hparse : parse "a[b][c]" = .ok e :=
    (hsiblings (by with_unfolding_all rfl)).1 [.name "a"] _ _ _ 1 0
      (by with_unfolding_all rfl) .name hpredicates (by decide) (by decide)
  have hname : nestedExpr (unary (refuse .tooDeep) 2) s = .ok (.step .child (.name "a") [], _) :=
    rfl
  have hlimits := (parse_limits (String.ofList (List.replicate 64 '-'))).2.2.2.1 _
    (parse_minusSigns (Nat.le_refl 64)) rfl
  rw [String.toList_ofList] at hlimits
  exact ⟨hparse, (hbounds e hparse).1, (hrecursion _ 64 (Nat.le_refl 64)).trans hparse,
    ⟨_, _, hname, hrestored _ _ s _ _ (.inl (by decide)) (.inr hname)⟩, hlimits⟩

end XmlQuery.XPath
