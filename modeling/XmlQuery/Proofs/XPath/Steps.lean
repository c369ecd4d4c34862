import Mathlib.Tactic.SplitIfs
import XmlQuery.Proofs.XPath.Recognition

/-!
# Recognizing steps

What the parser reads as a node test, an axis, a predicate or a step is one by the grammar, and it
reads every one. All but the nested expressions can be seen from the tokens alone: where a node test
could start, the axis is omitted, and brackets tell how far predicates go.

## Main results

* `nodeTest_eq_ok_iff`: the node tests that are read
* `predicate_eq_ok_iff`, `recognizes_predicates`: the predicates that are read
* `recognizes_step`: steps are recognized
-/

namespace XmlQuery.XPath

open Grammar ParserState

/-! ## Tokens -/

namespace Parser

variable {α : Type} {s s' : ParserState} {t : Token} {r : α × ParserState}

theorem peek_bind {f : Option Token → Parser α} : (peek >>= f) s = f s.next? s := rfl

theorem seq_of_ok {β : Type} {p : Parser α} {f : α → Parser β} {a : α} (h : p s = .ok (a, s')) :
    (p >>= f) s = f a s' := by
  change (p s >>= fun x => f x.1 x.2) = _
  rw [h]
  rfl

theorem unit_seq_eq_ok_iff {p : Parser Unit} {f : Unit → Parser α} :
    (p >>= f) s = .ok r ↔ ∃ s', p s = .ok ((), s') ∧ f () s' = .ok r := by
  rw [seq_eq_ok_iff]
  exact ⟨fun ⟨(), h⟩ => h, fun h => ⟨(), h⟩⟩

theorem advance_seq_eq_ok_iff (h : s.next? = some t) {f : Unit → Parser α} :
    (advance >>= f) s = .ok r ↔ ∃ s', s.Reads [t] 0 s' ∧ f () s' = .ok r := by
  simp only [unit_seq_eq_ok_iff, advance_eq_ok_iff h]

theorem count_seq_eq_ok_iff (h : s.Ended) {n : Nat} {f : Unit → Parser α} :
    (count n >>= f) s = .ok r ↔ ∃ s', s.Reads [] n s' ∧ f () s' = .ok r := by
  simp only [unit_seq_eq_ok_iff, count_eq_ok_iff h]

/-- Items are counted in front of the token that is taken. -/
theorem count_advance_seq_eq_ok_iff (h : s.next? = some t) {n : Nat} {f : Unit → Parser α} :
    (count n >>= fun _ => advance >>= f) s = .ok r ↔
      ∃ s', s.Reads [t] n s' ∧ f () s' = .ok r := by
  rw [count_seq_eq_ok_iff (ended_of_next? h)]
  constructor
  · rintro ⟨s₁, hcount, hrest⟩
    obtain ⟨s₂, hreads, hf⟩ := (advance_seq_eq_ok_iff (hcount.next?_eq.trans h)).1 hrest
    exact ⟨s₂, hcount.trans hreads, hf⟩
  · rintro ⟨s₂, hreads, hf⟩
    rw [← Nat.zero_add n] at hreads
    obtain ⟨s₁, hcount, hreads⟩ := reads_add_iff.1 hreads
    exact ⟨s₁, hcount, (advance_seq_eq_ok_iff hreads.next?).2 ⟨s₂, hreads, hf⟩⟩

theorem expect_seq_eq_ok_iff {is : Token → Bool} (h : ∀ u, is u = true ↔ u = t) {what : Wanted}
    {f : Unit → Parser α} :
    (expect is what >>= f) s = .ok r ↔ ∃ s', s.Reads [t] 0 s' ∧ f () s' = .ok r := by
  simp only [unit_seq_eq_ok_iff, expect_eq_ok_iff, h, exists_eq_left]

/-- A token that is taken for a value. -/
theorem advance_pure_eq_ok_iff (h : s.next? = some t) {a b : α} :
    (advance >>= fun _ => pure a) s = .ok (b, s') ↔ b = a ∧ s.Reads [t] 0 s' := by
  rw [advance_seq_eq_ok_iff h]
  constructor
  · rintro ⟨s'', hreads, hpure⟩
    cases hpure
    exact ⟨rfl, hreads⟩
  · rintro ⟨rfl, hreads⟩
    exact ⟨s', hreads, rfl⟩

end Parser

open XmlQuery.XPath.Parser

theorem isLeftParen_iff (t : Token) : isLeftParen t = true ↔ t = .leftParen := by
  cases t <;> simp [isLeftParen]

theorem isRightParen_iff (t : Token) : isRightParen t = true ↔ t = .rightParen := by
  cases t <;> simp [isRightParen]

theorem isLeftBracket_iff (t : Token) : isLeftBracket t = true ↔ t = .leftBracket := by
  cases t <;> simp [isLeftBracket]

theorem isRightBracket_iff (t : Token) : isRightBracket t = true ↔ t = .rightBracket := by
  cases t <;> simp [isRightBracket]

theorem isDoubleColon_iff (t : Token) : isDoubleColon t = true ↔ t = .doubleColon := by
  cases t <;> simp [isDoubleColon]

variable {s s' : ParserState}

/-- A token is expected behind what is read. -/
theorem closing_eq_ok_iff {α : Type} {p : Parser α} {is : Token → Bool} {c : Token}
    (h : ∀ t, is t = true ↔ t = c) {what : Wanted} {a : α} :
    (p >>= fun a => expect is what >>= fun _ => pure a) s = .ok (a, s') ↔
      ∃ s₁, p s = .ok (a, s₁) ∧ s₁.Reads [c] 0 s' := by
  simp only [seq_eq_ok_iff (p := p), expect_seq_eq_ok_iff h]
  constructor
  · rintro ⟨_, s₁, hp, _, hclose, hpure⟩
    cases hpure
    exact ⟨s₁, hp, hclose⟩
  · rintro ⟨s₁, hp, hclose⟩
    exact ⟨a, s₁, hp, s', hclose, rfl⟩

theorem any_next?_iff {is : Token → Bool} {c : Token} (h : ∀ t, is t = true ↔ t = c) :
    s.next?.any is = true ↔ s.next? = some c := by
  cases s.next? with
  | none => simp
  | some t => simp [h]

/-- The next token is none that binds tightly. -/
theorem next?_ne_of_below {k : Nat} {c : Token} (h : s.Below k) (hc : k ≤ c.binding) :
    s.next? ≠ some c :=
  fun hnext => Nat.not_lt.2 hc (h c hnext)

/-! ## Node tests -/

theorem nodeType_eq (name : String) :
    nodeType name = expect isLeftParen .leftParen >>= fun _ =>
      (if name = "node" then pure .node else if name = "text" then pure .text
        else if name = "comment" then pure .comment
        else NodeTest.instruction <$> instructionTarget) >>= fun test =>
      expect isRightParen .rightParen >>= fun _ => pure test := by
  rw [nodeType]
  congr 1
  funext _
  split_ifs <;> rfl

theorem isNodeType_iff {name : String} : isNodeType name = true ↔
    name = "node" ∨ name = "text" ∨ name = "comment" ∨ name = "processing-instruction" := by
  simp only [isNodeType, Bool.or_eq_true, beq_iff_eq, or_assoc]

/-- The target of a processing instruction is a string, if one comes next. -/
theorem instructionTarget_eq_ok_iff {target : Option String} (hs : s.Ended) :
    instructionTarget s = .ok (target, s') ↔
      (∃ t, target = some t ∧ s.Reads [.string t] 0 s') ∨
        (target = none ∧ s.Reads [] 0 s' ∧ ∀ t, s.next? ≠ some (.string t)) := by
  rw [instructionTarget, peek_bind]
  generalize hnext : s.next? = next
  split
  · next _ t =>
    rw [advance_pure_eq_ok_iff hnext]
    constructor
    · rintro ⟨rfl, hreads⟩
      exact .inl ⟨t, rfl, hreads⟩
    · rintro (⟨u, rfl, hreads⟩ | ⟨-, -, hne⟩)
      · have heq := hreads.next?.symm.trans hnext
        cases heq
        exact ⟨rfl, hreads⟩
      · exact absurd rfl (hne t)
  · next hne =>
    constructor
    · intro h
      cases h
      exact .inr ⟨rfl, .refl hs, fun t ht => hne t ht⟩
    · rintro (⟨u, rfl, hreads⟩ | ⟨rfl, hreads, -⟩)
      · exact absurd (hnext.symm.trans hreads.next?) (hne u)
      · rw [hreads.eq]
        rfl

theorem instructionTest_eq_ok_iff {test : NodeTest} :
    (NodeTest.instruction <$> instructionTarget) s = .ok (test, s') ↔
      ∃ target, test = .instruction target ∧ instructionTarget s = .ok (target, s') := by
  change (instructionTarget >>= fun target => pure (NodeTest.instruction target)) s = _ ↔ _
  rw [seq_eq_ok_iff]
  constructor
  · rintro ⟨target, s₁, htarget, hpure⟩
    cases hpure
    exact ⟨target, rfl, htarget⟩
  · rintro ⟨target, rfl, htarget⟩
    exact ⟨target, s', htarget, rfl⟩

/-- The test with a node type is a node test, behind the name of the type. -/
theorem nodeType_eq_ok_iff {name : String} {test : NodeTest} (hname : isNodeType name = true) :
    nodeType name s = .ok (test, s') ↔
      ∃ ts, NodeTestExpr (.nodeType name :: ts) test ∧ s.Reads ts 0 s' := by
  rw [nodeType_eq, expect_seq_eq_ok_iff isLeftParen_iff]
  simp only [closing_eq_ok_iff isRightParen_iff]
  constructor
  · rintro ⟨s₁, hopen, s₂, htest, hclose⟩
    rcases isNodeType_iff.1 hname with rfl | rfl | rfl | rfl
    · cases htest
      exact ⟨_, .node, hopen.trans hclose⟩
    · cases htest
      exact ⟨_, .text, hopen.trans hclose⟩
    · cases htest
      exact ⟨_, .comment, hopen.trans hclose⟩
    · obtain ⟨target, rfl, htarget⟩ := instructionTest_eq_ok_iff.1 htest
      rcases (instructionTarget_eq_ok_iff hopen.ended).1 htarget with
        ⟨t, rfl, hreads⟩ | ⟨rfl, hreads, -⟩
      · exact ⟨_, .target, hopen.trans (hreads.trans hclose)⟩
      · exact ⟨_, .instruction, hopen.trans (hreads.trans hclose)⟩
  · rintro ⟨ts, htest, hreads⟩
    cases htest with
    | node | text | comment =>
      obtain ⟨s₁, hopen, hclose⟩ := reads_cons_iff.1 hreads
      exact ⟨s₁, hopen, s₁, rfl, hclose⟩
    | instruction =>
      obtain ⟨s₁, hopen, hclose⟩ := reads_cons_iff.1 hreads
      have htarget : instructionTarget s₁ = .ok (none, s₁) :=
        (instructionTarget_eq_ok_iff hopen.ended).2
          (.inr ⟨rfl, .refl hopen.ended, fun t ht => by cases hclose.next?.symm.trans ht⟩)
      exact ⟨s₁, hopen, s₁, instructionTest_eq_ok_iff.2 ⟨none, rfl, htarget⟩, hclose⟩
    | @target t =>
      obtain ⟨s₁, hopen, hrest⟩ := reads_cons_iff.1 hreads
      obtain ⟨s₂, hstring, hclose⟩ := reads_cons_iff.1 hrest
      have htarget : instructionTarget s₁ = .ok (some t, s₂) :=
        (instructionTarget_eq_ok_iff hopen.ended).2 (.inl ⟨t, rfl, hstring⟩)
      exact ⟨s₁, hopen, s₂, instructionTest_eq_ok_iff.2 ⟨some t, rfl, htarget⟩, hclose⟩

/-- A node test can start with the token. -/
def startsNodeTest : Token → Bool
  | .star | .name _ | .qname _ _ | .prefixWildcard _ | .nodeType _ => true
  | _ => false

theorem Grammar.NodeTestExpr.starts {ts : List Token} {test : NodeTest} (h : NodeTestExpr ts test) :
    ∃ t rest, ts = t :: rest ∧ startsNodeTest t = true := by
  cases h <;> exact ⟨_, _, rfl, rfl⟩

theorem nodeTest_eq_ok_iff {test : NodeTest} (hs : s.Regular) :
    nodeTest s = .ok (test, s') ↔ ∃ ts, NodeTestExpr ts test ∧ s.Reads ts 0 s' := by
  rw [nodeTest, peek_bind]
  constructor
  · intro h
    generalize hnext : s.next? = next at h
    split at h
    · next =>
      obtain ⟨rfl, hreads⟩ := (advance_pure_eq_ok_iff hnext).1 h
      exact ⟨_, .any, hreads⟩
    · next l =>
      obtain ⟨rfl, hreads⟩ := (advance_pure_eq_ok_iff hnext).1 h
      exact ⟨_, .name, hreads⟩
    · next p l =>
      obtain ⟨rfl, hreads⟩ := (advance_pure_eq_ok_iff hnext).1 h
      exact ⟨_, .qname, hreads⟩
    · next p =>
      obtain ⟨rfl, hreads⟩ := (advance_pure_eq_ok_iff hnext).1 h
      exact ⟨_, .wildcard, hreads⟩
    · next name =>
      obtain ⟨s₁, hreads, htype⟩ := (advance_seq_eq_ok_iff hnext).1 h
      have hname := hs.isNodeType_of_next? hnext
      obtain ⟨ts, htest, hrest⟩ := (nodeType_eq_ok_iff hname).1 htype
      exact ⟨_, htest, reads_cons_iff.2 ⟨s₁, hreads, hrest⟩⟩
    · cases h
  · rintro ⟨ts, htest, hreads⟩
    have hnext := hreads
    cases htest with
    | any | name | qname | wildcard =>
      rw [hreads.next?]
      exact (advance_pure_eq_ok_iff hreads.next?).2 ⟨rfl, hreads⟩
    | node | text | comment | instruction | target =>
      obtain ⟨s₁, hfirst, hrest⟩ := reads_cons_iff.1 hreads
      rw [hreads.next?]
      refine (advance_seq_eq_ok_iff hreads.next?).2 ⟨s₁, hfirst, ?_⟩
      exact (nodeType_eq_ok_iff (by decide)).2 ⟨_, by constructor, hrest⟩

/-! ## Steps -/

theorem getLast?_append_ne {ts us : List Token} {t : Token} (h : ts.getLast? ≠ some t)
    (h' : us.getLast? ≠ some t) : (ts ++ us).getLast? ≠ some t := by
  rw [List.getLast?_append]
  cases hlast : us.getLast? with
  | none => exact h
  | some u =>
    rw [hlast] at h'
    exact h'

theorem axis_sound {a : Axis} (hs : s.Ended) (h : axis s = .ok (a, s')) :
    ∃ ts, AxisSpecifier ts a ∧ s.Reads ts 0 s' := by
  rw [axis, peek_bind] at h
  cases hnext : s.next? with
  | none =>
    rw [hnext] at h
    cases h
    exact ⟨[], .omitted, .refl hs⟩
  | some t =>
    rw [hnext] at h
    cases t with
    | «at» =>
      obtain ⟨rfl, hreads⟩ := (advance_pure_eq_ok_iff hnext).1 h
      exact ⟨_, .at, hreads⟩
    | axis name =>
      cases hname : Axis.ofName? name with
      | none =>
        simp only [hname] at h
        cases h
      | some a' =>
        simp only [hname, advance_seq_eq_ok_iff hnext, expect_seq_eq_ok_iff isDoubleColon_iff] at h
        obtain ⟨s₁, haxis, s₂, hcolons, hpure⟩ := h
        cases hpure
        -- The axis that has been found is the one of the name.
        have hfound := List.find?_some hname
        rw [beq_iff_eq] at hfound
        subst hfound
        exact ⟨_, .named a, haxis.trans hcolons⟩
    | _ =>
      cases h
      exact ⟨[], .omitted, .refl hs⟩

theorem axis_complete {ts : List Token} {a : Axis} {t : Token} (h : AxisSpecifier ts a)
    (hreads : s.Reads ts 0 s') (hnext : s'.next? = some t) (ht : startsNodeTest t = true) :
    axis s = .ok (a, s') := by
  rw [axis, peek_bind]
  cases h with
  | omitted =>
    -- The node test comes next.
    rw [hreads.eq] at hnext ⊢
    rw [hnext]
    cases t with
    | star | name | qname | prefixWildcard | nodeType => rfl
    | _ => cases ht
  | «at» =>
    rw [hreads.next?]
    exact (advance_pure_eq_ok_iff hreads.next?).2 ⟨rfl, hreads⟩
  | named =>
    obtain ⟨s₁, haxis, hcolons⟩ := reads_cons_iff.1 hreads
    rw [hreads.next?]
    dsimp only
    rw [Axis.ofName?_name]
    simp only [advance_seq_eq_ok_iff hreads.next?, expect_seq_eq_ok_iff isDoubleColon_iff]
    exact ⟨s₁, haxis, s', hcolons, rfl⟩

variable {levels : Nat} {nested : Parser Expr} {Nested : Phrases Expr}

/-- A predicate is an expression in brackets. -/
theorem predicate_eq_ok_iff (h : Recognizes levels 2 nested Nested) {e : Expr} (hs : s.Regular) :
    predicate nested s = .ok (e, s') ↔
      ∃ ts d n, PredicateExpr Nested ts e d n ∧ d ≤ levels ∧ s.Reads ts n s' := by
  rw [predicate, expect_seq_eq_ok_iff isLeftBracket_iff]
  simp only [closing_eq_ok_iff isRightBracket_iff]
  constructor
  · rintro ⟨s₁, hopen, hclosed⟩
    rw [h.closed_iff rfl Nat.two_pos (hopen.regular hs)] at hclosed
    obtain ⟨ts, d, n, hts, hd, hreads⟩ := hclosed
    exact ⟨_, d, n, .intro hts, hd, reads_cons_iff.2 ⟨s₁, hopen, hreads⟩⟩
  · rintro ⟨_, d, n, ⟨hts⟩, hd, hreads⟩
    obtain ⟨s₁, hopen, hreads⟩ := reads_cons_iff.1 hreads
    refine ⟨s₁, hopen, ?_⟩
    rw [h.closed_iff rfl Nat.two_pos (hopen.regular hs)]
    exact ⟨_, d, n, hts, hd, hreads⟩

theorem finished_predicateExpr : Finished (PredicateExpr Nested) := by
  rintro ts e d n ⟨⟩
  rw [← List.cons_append, List.getLast?_append]
  simp

/-- Predicates are pushed one by one. -/
theorem continues_predicates (h : Recognizes levels 2 nested Nested) :
    Continues levels 10 (fun found => do
      if (← peek).any isLeftBracket then return some ((← predicate nested) :: found)
      else return none) (Pushing (PredicateExpr Nested)) where
  begins := by
    rintro us f d n ⟨⟨⟩⟩
    exact ⟨_, _, rfl, rfl⟩
  sound {s found r s'} hs hbody := by
    rw [peek_bind] at hbody
    split at hbody
    · obtain ⟨e, s₁, he, hpure⟩ := seq_eq_ok_iff.1 hbody
      cases hpure
      obtain ⟨ts, d, n, hts, hd, hreads⟩ := (predicate_eq_ok_iff h hs).1 he
      exact .inr ⟨ts, _, d, n, rfl, .intro hts, hd, hreads, fun _ => finished_predicateExpr hts⟩
    · cases hbody
      exact .inl ⟨rfl, rfl⟩
  complete {s found s' us f d n} hs hus hd hreads _ _ := by
    rw [peek_bind]
    cases hus with
    | @intro _ e _ _ hts =>
      have he := (predicate_eq_ok_iff h hs).2 ⟨us, d, n, hts, hd, hreads⟩
      cases hts
      rw [hreads.next?]
      exact seq_eq_ok_iff.2 ⟨e, s', he, rfl⟩
  stops {s found} hbelow := by
    rw [peek_bind, if_neg]
    · rfl
    · rw [any_next?_iff isLeftBracket_iff]
      exact next?_ne_of_below hbelow (Nat.le_refl 10)

/-- No phrases. -/
inductive Nothing {α : Type} : Phrases (List α)
  | intro : Nothing [] [] 0 0

theorem recognizes_nothing {α : Type} {bound : Nat} :
    Recognizes levels bound (pure ([] : List α)) Nothing where
  sound hs h := by
    cases h
    exact ⟨[], 0, 0, .intro, Nat.zero_le _, .refl hs.ended, nofun⟩
  complete _ h _ hreads _ _ := by
    cases h
    rw [hreads.eq]
    rfl

/-- Predicates in brackets. -/
theorem recognizes_predicates (h : Recognizes levels 2 nested Nested) :
    Recognizes levels 10 (predicates nested) (ListOf (PredicateExpr Nested)) := by
  have hrepeated := recognizes_nothing.repeating (continues_predicates h)
  refine hrepeated.map (g := List.reverse) fun {ts es d n} => ⟨fun hes => ?_, ?_⟩
  · have hpushed := repeated_of_listOf (fun ⟨_⟩ => by simp) (.first Nothing.intro) hes
    rw [List.nil_append, List.append_nil, Nat.zero_max, Nat.zero_add] at hpushed
    exact ⟨es.reverse, hpushed, List.reverse_reverse es⟩
  · rintro ⟨found, hfound, rfl⟩
    obtain ⟨_, _, _, _, us, es, d', m, ⟨⟩, hes, rfl, rfl, rfl, rfl⟩ := listOf_of_repeated hfound
    rw [List.append_nil, List.reverse_reverse, Nat.zero_add]
    simpa using hes

theorem finished_listOf {α : Type} {Item : Phrases α} (h : Finished Item) :
    Finished (ListOf Item) := by
  intro ts as d n hts
  induction hts with
  | nil => exact nofun
  | cons ha _ ih => exact getLast?_append_ne (h ha) ih

theorem finished_stepExpr : Finished (StepExpr Nested) := by
  intro ts st d n h
  cases h with
  | self | parent => exact nofun
  | full haxis htest hpredicates =>
    refine getLast?_append_ne ?_ (getLast?_append_ne ?_ ?_)
    · cases haxis <;> exact nofun
    · cases htest <;> exact nofun
    · exact finished_listOf finished_predicateExpr hpredicates

/-- A step in full starts with its axis or its node test. -/
theorem starts_full {ts us : List Token} {a : Axis} {test : NodeTest}
    (haxis : AxisSpecifier ts a) (htest : NodeTestExpr us test) (vs : List Token) :
    ∃ t rest, ts ++ (us ++ vs) = t :: rest ∧ startsStep t = true ∧ t ≠ .dot ∧ t ≠ .doubleDot := by
  cases haxis with
  | omitted =>
    obtain ⟨t, rest, rfl, ht⟩ := htest.starts
    refine ⟨t, rest ++ vs, rfl, ?_⟩
    cases t with
    | star | name | qname | prefixWildcard | nodeType => exact ⟨rfl, nofun, nofun⟩
    | _ => cases ht
  | «at» => exact ⟨_, _, rfl, rfl, nofun, nofun⟩
  | named => exact ⟨_, _, rfl, rfl, nofun, nofun⟩

theorem starts_stepExpr : Starts (startsStep · = true) (StepExpr Nested) := by
  intro ts st d n h
  cases h with
  | self | parent => exact ⟨_, _, rfl, rfl⟩
  | full haxis htest _ =>
    obtain ⟨t, rest, heq, ht, -, -⟩ := starts_full haxis htest _
    exact ⟨t, rest, heq, ht⟩

theorem step_eq_of_ne (h : s.next? ≠ some .dot) (h' : s.next? ≠ some .doubleDot) :
    step nested s = (axis >>= fun a => nodeTest >>= fun test => predicates nested >>= fun ps =>
      pure (⟨a, test, ps⟩ : Step)) s := by
  rw [step, peek_bind]
  cases hnext : s.next? with
  | none => rfl
  | some t =>
    cases t with
    | dot => exact absurd hnext h
    | doubleDot => exact absurd hnext h'
    | _ => rfl

/-- **A step is recognized.** -/
theorem recognizes_step (h : Recognizes levels 2 nested Nested) :
    Recognizes levels 10 (step nested) (StepExpr Nested) where
  sound {s st s'} hs hstep := by
    by_cases hdot : s.next? = some .dot
    · rw [step, peek_bind, hdot] at hstep
      obtain ⟨rfl, hreads⟩ := (advance_pure_eq_ok_iff hdot).1 hstep
      exact ⟨_, 0, 0, .self, Nat.zero_le _, hreads, nofun⟩
    · by_cases hdots : s.next? = some .doubleDot
      · rw [step, peek_bind, hdots] at hstep
        obtain ⟨rfl, hreads⟩ := (advance_pure_eq_ok_iff hdots).1 hstep
        exact ⟨_, 0, 0, .parent, Nat.zero_le _, hreads, nofun⟩
      · rw [step_eq_of_ne hdot hdots] at hstep
        simp only [seq_eq_ok_iff] at hstep
        obtain ⟨a, s₁, ha, test, s₂, htest, ps, s₃, hps, hpure⟩ := hstep
        cases hpure
        obtain ⟨ts, hts, hreads₁⟩ := axis_sound hs.ended ha
        have hs₁ := hreads₁.regular hs
        obtain ⟨us, hus, hreads₂⟩ := (nodeTest_eq_ok_iff hs₁).1 htest
        obtain ⟨vs, d, n, hvs, hd, hreads₃, -⟩ :=
          (recognizes_predicates h).sound (hreads₂.regular hs₁) hps
        have hreads := hreads₁.trans (hreads₂.trans hreads₃)
        rw [Nat.zero_add, Nat.zero_add] at hreads
        have hfull := StepExpr.full hts hus hvs
        exact ⟨_, d, n, hfull, hd, hreads, fun _ => finished_stepExpr hfull⟩
  complete {s st s' ts d n} hs hts hd hreads _ hbelow := by
    cases hts with
    | self =>
      rw [step, peek_bind, hreads.next?]
      exact (advance_pure_eq_ok_iff hreads.next?).2 ⟨rfl, hreads⟩
    | parent =>
      rw [step, peek_bind, hreads.next?]
      exact (advance_pure_eq_ok_iff hreads.next?).2 ⟨rfl, hreads⟩
    | @full ts us vs a test ps d n haxis htest hpredicates =>
      obtain ⟨t, rest, heq, -, hdot, hdots⟩ := starts_full haxis htest vs
      have hnext : s.next? = some t := by
        rw [heq] at hreads
        exact hreads.next?
      have hne : ∀ {c}, t ≠ c → s.next? ≠ some c := fun hc h =>
        hc (Option.some.inj (hnext.symm.trans h))
      rw [step_eq_of_ne (hne hdot) (hne hdots)]
      obtain ⟨s₁, hreads₁, hreads⟩ := hreads.split_tokens
      obtain ⟨s₂, hreads₂, hreads₃⟩ := hreads.split_tokens
      have hs₁ := hreads₁.regular hs
      obtain ⟨u, us, rfl, hu⟩ := htest.starts
      have ha := axis_complete haxis hreads₁ hreads₂.next? hu
      have htest' := (nodeTest_eq_ok_iff hs₁).2 ⟨_, htest, hreads₂⟩
      have hps := (recognizes_predicates h).complete (hreads₂.regular hs₁) hpredicates hd hreads₃
        (fun _ => finished_listOf finished_predicateExpr hpredicates) hbelow
      simp only [seq_eq_ok_iff]
      exact ⟨a, s₁, ha, test, s₂, htest', ps, s', hps, rfl⟩

end XmlQuery.XPath
