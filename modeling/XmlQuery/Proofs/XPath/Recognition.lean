import Mathlib.Logic.Relation
import XmlQuery.Proofs.Outcome
import XmlQuery.Proofs.XPath.Grammar
import XmlQuery.XPath.Parser

/-!
# Recognizing phrases

A parser that takes tokens from the front of what is left, one at a time, recognizes the phrases of
a grammar: what it reads is a phrase for what it returns, and it does read a phrase wherever there
is one, unless the phrase could go on with the token behind it. Which tokens let a phrase go on
depends on how tightly they bind: operands are recognized in front of the operators around them, and
a repetition ends in front of a token that binds less tightly than those it goes on with. So one
token is enough to look at, and no choice of the parser cuts a phrase off.

## Main definitions

* `ParserState.Reads`: tokens are read, and items are counted
* `Token.binding`: how tightly a token binds to what is in front of it
* `Recognizes`: a parser recognizes the phrases of a grammar
* `Separate`: what comes next is no star that would belong to a slash in front of it
* `Continues`: the body of a repetition recognizes further phrases
* `HasRead`: what has been read is a phrase

## Main results

* `Recognizes.repeating`: a repetition recognizes a phrase with others behind it
* `listOf_of_repeated`, `repeated_of_listOf`: phrases that are pushed one by one are those of a list
-/

namespace XmlQuery.XPath

open Grammar (Phrases Repeated ListOf)

/-! ## Reading -/

namespace ParserState

/-- Tokens are left, or the text has ended without a fault. -/
def Ended (s : ParserState) : Prop := s.lexemes = [] → s.stopFault = none

/-- Tokens are read, with items counted on the way, and behind them there are tokens or the end of
the text. -/
structure Reads (s : ParserState) (ts : List Token) (n : Nat) (s' : ParserState) : Prop where
  /-- The tokens are those in front of what is left. -/
  lexemes : ∃ read, s.lexemes = read ++ s'.lexemes ∧ read.map (·.token) = ts
  /-- The tokens end where they did. -/
  stop : s'.stop = s.stop
  /-- They end as they did. -/
  stopFault : s'.stopFault = s.stopFault
  /-- So many items fewer may still come. -/
  items : s.items = s'.items + n
  /-- As many expressions are open. -/
  nesting : s'.nesting = s.nesting
  /-- What comes next is known. -/
  ended : s'.Ended

variable {s s' s'' : ParserState} {ts us : List Token} {t : Token} {n m : Nat}

theorem Reads.refl (h : s.Ended) : s.Reads [] 0 s := ⟨⟨[], rfl, rfl⟩, rfl, rfl, rfl, rfl, h⟩

theorem Reads.trans (h : s.Reads ts n s') (h' : s'.Reads us m s'') :
    s.Reads (ts ++ us) (n + m) s'' := by
  obtain ⟨read, hread, rfl⟩ := h.lexemes
  obtain ⟨more, hmore, rfl⟩ := h'.lexemes
  refine ⟨⟨read ++ more, ?_, List.map_append⟩, h'.stop.trans h.stop,
    h'.stopFault.trans h.stopFault, ?_, h'.nesting.trans h.nesting, h'.ended⟩
  · rw [hread, hmore, List.append_assoc]
  · rw [h.items, h'.items]
    omega

/-- Between two tokens that are read there is a state. -/
theorem Reads.split (h : s.Reads (ts ++ us) (n + m) s'') :
    ∃ s', s.Reads ts n s' ∧ s'.Reads us m s'' := by
  obtain ⟨read, hread, hmap⟩ := h.lexemes
  obtain ⟨first, more, rfl, rfl, rfl⟩ := List.map_eq_append_iff.1 hmap
  rw [List.append_assoc] at hread
  refine ⟨⟨more ++ s''.lexemes, s.stop, s.stopFault, s''.items + m, s.nesting⟩,
    ⟨⟨first, hread, rfl⟩, rfl, rfl, ?_, rfl, fun hnil => ?_⟩,
    ⟨more, rfl, rfl⟩, h.stop, h.stopFault, rfl, h.nesting, h.ended⟩
  · rw [h.items, Nat.add_assoc, Nat.add_comm m n]
  · rw [← h.stopFault]
    exact h.ended (List.append_eq_nil_iff.1 hnil).2

theorem reads_append_iff :
    s.Reads (ts ++ us) (n + m) s'' ↔ ∃ s', s.Reads ts n s' ∧ s'.Reads us m s'' :=
  ⟨Reads.split, fun ⟨_, h, h'⟩ => h.trans h'⟩

/-- No items are counted with the tokens in front. -/
theorem Reads.split_tokens (h : s.Reads (ts ++ us) n s'') :
    ∃ s', s.Reads ts 0 s' ∧ s'.Reads us n s'' := by
  rw [← Nat.zero_add n] at h
  exact h.split

theorem reads_cons_iff :
    s.Reads (t :: ts) n s'' ↔ ∃ s', s.Reads [t] 0 s' ∧ s'.Reads ts n s'' := by
  have happend := @reads_append_iff s s'' [t] ts 0 n
  rwa [List.singleton_append, Nat.zero_add] at happend

/-- Items are counted before the tokens are read. -/
theorem reads_add_iff :
    s.Reads ts (n + m) s'' ↔ ∃ s', s.Reads [] m s' ∧ s'.Reads ts n s'' := by
  have happend := @reads_append_iff s s'' [] ts m n
  rwa [List.nil_append, Nat.add_comm] at happend

theorem reads_cons_add_iff :
    s.Reads (t :: ts) (n + m) s'' ↔ ∃ s', s.Reads [t] m s' ∧ s'.Reads ts n s'' := by
  have happend := @reads_append_iff s s'' [t] ts m n
  rwa [List.singleton_append, Nat.add_comm] at happend

theorem Reads.next? (h : s.Reads (t :: ts) n s') : s.next? = some t := by
  obtain ⟨read, hread, hmap⟩ := h.lexemes
  obtain ⟨l, rest, rfl, rfl, -⟩ := List.map_eq_cons_iff.1 hmap
  rw [ParserState.next?, hread]
  rfl

theorem Reads.next?_eq (h : s.Reads [] n s') : s'.next? = s.next? := by
  obtain ⟨read, hread, hmap⟩ := h.lexemes
  rw [List.map_eq_nil_iff.1 hmap, List.nil_append] at hread
  rw [ParserState.next?, ParserState.next?, hread]

theorem Reads.eq (h : s.Reads [] 0 s') : s' = s := by
  obtain ⟨read, hread, hmap⟩ := h.lexemes
  rw [List.map_eq_nil_iff.1 hmap, List.nil_append] at hread
  obtain ⟨lexemes, stop, stopFault, items, nesting⟩ := s
  obtain ⟨lexemes', stop', stopFault', items', nesting'⟩ := s'
  obtain rfl : stop' = stop := h.stop
  obtain rfl : stopFault' = stopFault := h.stopFault
  obtain rfl : items = items' := h.items
  obtain rfl : nesting' = nesting := h.nesting
  obtain rfl : lexemes = lexemes' := hread
  rfl

/-- Reading tokens leaves fewer of them. -/
theorem Reads.length_lt (h : s.Reads (t :: ts) n s') : s'.lexemes.length < s.lexemes.length := by
  obtain ⟨read, hread, hmap⟩ := h.lexemes
  have hlength := congrArg List.length hmap
  rw [List.length_map, List.length_cons] at hlength
  rw [hread, List.length_append]
  omega

theorem ended_of_next? (h : s.next? = some t) : s.Ended := by
  intro hnil
  rw [ParserState.next?, hnil] at h
  cases h

/-- The names of node types are those that there are. -/
def NodeTypesKnown (lexemes : List Lexeme) : Prop :=
  ∀ l ∈ lexemes, ∀ name, l.token = .nodeType name → isNodeType name = true

/-- What the tokens of a text are like. -/
structure Regular (s : ParserState) : Prop where
  /-- Tokens are left, or the text has ended without a fault. -/
  ended : s.Ended
  /-- The names of node types are those that there are. -/
  nodeTypes : NodeTypesKnown s.lexemes

theorem Regular.isNodeType_of_next? (hs : s.Regular) {name : String}
    (h : s.next? = some (.nodeType name)) : isNodeType name = true := by
  obtain ⟨l, hl, htoken⟩ := Option.map_eq_some_iff.1 h
  exact hs.nodeTypes l (List.mem_of_head? hl) name htoken

theorem Reads.regular (h : s.Reads ts n s') (hs : s.Regular) : s'.Regular := by
  obtain ⟨read, hread, -⟩ := h.lexemes
  refine ⟨h.ended, fun l hl => hs.nodeTypes l ?_⟩
  rw [hread]
  exact List.mem_append_right _ hl

end ParserState

open ParserState

namespace Parser

variable {α β : Type} {s s' : ParserState} {t : Token} {n : Nat}

theorem seq_eq_ok_iff {p : Parser α} {f : α → Parser β} {r : β × ParserState} :
    (p >>= f) s = .ok r ↔ ∃ a s', p s = .ok (a, s') ∧ f a s' = .ok r := by
  change (p s >>= fun x => f x.1 x.2) = .ok r ↔ _
  rw [bind_eq_ok_iff, Prod.exists]

theorem check_eq_ok_iff : s.check = .ok s' ↔ s.Ended ∧ s' = s := by
  obtain ⟨lexemes, stop, stopFault, items, nesting⟩ := s
  cases lexemes with
  | nil =>
    cases stopFault with
    | none => simp [check, Ended, eq_comm]
    | some fault => simp [check, Ended]
  | cons l rest => simp [check, Ended, eq_comm]

theorem advance_eq_ok_iff (h : s.next? = some t) :
    advance s = .ok ((), s') ↔ s.Reads [t] 0 s' := by
  rw [advance, map_eq_ok_iff]
  simp only [check_eq_ok_iff]
  obtain ⟨l, hl, rfl⟩ := Option.map_eq_some_iff.1 h
  obtain ⟨rest, hrest⟩ := List.head?_eq_some_iff.1 hl
  rw [hrest, List.tail_cons]
  constructor
  · rintro ⟨_, ⟨hended, rfl⟩, hs'⟩
    cases hs'
    exact ⟨⟨[l], hrest, rfl⟩, rfl, rfl, rfl, rfl, hended⟩
  · intro hreads
    obtain ⟨read, hread, hmap⟩ := hreads.lexemes
    -- One lexeme has been read, the first one.
    obtain ⟨l', rfl, -⟩ := List.map_eq_singleton_iff.1 hmap
    rw [hrest, List.singleton_append, List.cons.injEq] at hread
    obtain ⟨-, rfl⟩ := hread
    have heq : (⟨s'.lexemes, s.stop, s.stopFault, s.items, s.nesting⟩ : ParserState) = s' := by
      rw [hreads.items, ← hreads.stop, ← hreads.stopFault, ← hreads.nesting, Nat.add_zero]
    exact ⟨_, ⟨heq ▸ hreads.ended, rfl⟩, heq ▸ rfl⟩

theorem count_eq_ok_iff (h : s.Ended) : count n s = .ok ((), s') ↔ s.Reads [] n s' := by
  change (if s.items < n then refuse .tooDeep else set { s with items := s.items - n }) s = _ ↔ _
  constructor
  · intro hcount
    split at hcount
    · cases hcount
    · next hle =>
      cases hcount
      exact ⟨⟨[], rfl, rfl⟩, rfl, rfl, (Nat.sub_add_cancel (Nat.le_of_not_lt hle)).symm, rfl, h⟩
  · intro hreads
    have hle : ¬ s.items < n := by
      rw [hreads.items]
      exact Nat.not_lt.2 (Nat.le_add_left n _)
    obtain ⟨read, hread, hmap⟩ := hreads.lexemes
    rw [List.map_eq_nil_iff.1 hmap, List.nil_append] at hread
    rw [if_neg hle]
    change Except.ok ((), (⟨s.lexemes, s.stop, s.stopFault, s.items - n, s.nesting⟩ :
      ParserState)) = _
    rw [hread, hreads.items, ← hreads.stop, ← hreads.stopFault, ← hreads.nesting,
      Nat.add_sub_cancel]

theorem expect_eq_ok_iff {is : Token → Bool} {what : Wanted} :
    expect is what s = .ok ((), s') ↔ ∃ t, is t = true ∧ s.Reads [t] 0 s' := by
  change (if s.next?.any is then advance else refuse (.expected what s.next?)) s = _ ↔ _
  constructor
  · intro h
    split at h
    · next his =>
      cases ht : s.next? with
      | none =>
        rw [ht] at his
        cases his
      | some t =>
        rw [ht, Option.any_some] at his
        exact ⟨t, his, (advance_eq_ok_iff ht).1 h⟩
    · cases h
  · rintro ⟨t, ht, hreads⟩
    rw [hreads.next?, Option.any_some, if_pos ht]
    exact (advance_eq_ok_iff hreads.next?).2 hreads

/-! ## Repetition -/

variable {body : α → Parser (Option α)}

/-- What holds at the start of a repetition and is kept by each round holds at its end. -/
theorem repeating_invariant {I : α → ParserState → Prop}
    (hround : ∀ {a s r s'}, I a s → body a s = .ok (r, s') → I (r.getD a) s') {a a' : α}
    (hI : I a s) (h : repeating body a s = .ok (a', s')) : I a' s' := by
  change iterate body s.lexemes.length a s = _ at h
  generalize s.lexemes.length = fuel at h
  induction fuel generalizing a s with
  | zero =>
    cases h
    exact hI
  | succ fuel ih =>
    rw [iterate, seq_eq_ok_iff] at h
    obtain ⟨r, middle, hbody, h⟩ := h
    have hmiddle := hround hI hbody
    cases r with
    | none =>
      cases h
      exact hmiddle
    | some b => exact ih hmiddle h

/-- A round of a repetition goes on: it takes tokens. -/
def Goes (body : α → Parser (Option α)) (before after : α × ParserState) : Prop :=
  body before.1 before.2 = .ok (some after.1, after.2) ∧
    after.2.lexemes.length < before.2.lexemes.length

/-- A repetition goes through all rounds up to one that does not go on. -/
theorem repeating_eq_ok {before after : α × ParserState}
    (h : Relation.ReflTransGen (Goes body) before after)
    (hstop : body after.1 after.2 = .ok (none, after.2)) :
    repeating body before.1 before.2 = .ok after := by
  change iterate body before.2.lexemes.length before.1 before.2 = _
  -- There are at least as many rounds left as there are tokens.
  have hiterate : ∀ fuel, before.2.lexemes.length ≤ fuel →
      iterate body fuel before.1 before.2 = .ok after := by
    induction h using Relation.ReflTransGen.head_induction_on with
    | refl =>
      intro fuel _
      cases fuel with
      | zero => rfl
      | succ fuel =>
        rw [iterate, seq_eq_ok_iff]
        exact ⟨none, after.2, hstop, rfl⟩
    | head hgoes _ ih =>
      intro fuel hfuel
      obtain ⟨hbody, hlength⟩ := hgoes
      cases fuel with
      | zero => omega
      | succ fuel =>
        rw [iterate, seq_eq_ok_iff]
        exact ⟨_, _, hbody, ih fuel (by omega)⟩
  exact hiterate _ (Nat.le_refl _)

end Parser

/-! ## Phrases -/

/-- How tightly a token binds to what is in front of it, so that a phrase there would go on with
it. Tokens that no phrase goes on with bind most tightly, since they let none end. An expression
ends in front of what binds less tightly than 2, a unary expression less than 8, a path less than 9
and a step less than 10. -/
def Token.binding : Token → Nat
  | .rightParen | .rightBracket => 0
  | .comma => 1
  | .or => 2
  | .and => 3
  | .eq | .notEq => 4
  | .lt | .ltEq | .gt | .gtEq => 5
  | .plus | .minus => 6
  | .star | .div | .mod => 7
  | .pipe => 8
  | .slash | .doubleSlash => 9
  | .leftBracket => 10
  | _ => 11

/-- The next token binds less tightly than a bound says, or there is none. -/
def ParserState.Below (k : Nat) (s : ParserState) : Prop := ∀ t, s.next? = some t → t.binding < k

/-- The next token is no star directly behind a slash. -/
def Separate (ts : List Token) (next : Option Token) : Prop :=
  next = some .star → ts.getLast? ≠ some .slash

/-- Every phrase starts with a token of a kind. -/
def Starts {α : Type} (P : Token → Prop) (L : Phrases α) : Prop :=
  ∀ ⦃ts a d n⦄, L ts a d n → ∃ t rest, ts = t :: rest ∧ P t

/-- No phrase ends with a slash, behind which a star would belong to it. -/
def Finished {α : Type} (L : Phrases α) : Prop :=
  ∀ ⦃ts a d n⦄, L ts a d n → ts.getLast? ≠ some .slash

/-- A parser recognizes phrases in which at most so many expressions are open at a time, up to a
token that binds less tightly than a bound says. -/
structure Recognizes {α : Type} (levels bound : Nat) (p : Parser α) (L : Phrases α) : Prop where
  /-- What is read is a phrase. -/
  sound : ∀ {s a s'}, s.Regular → p s = .ok (a, s') →
    ∃ ts d n, L ts a d n ∧ d ≤ levels ∧ s.Reads ts n s' ∧ Separate ts s'.next?
  /-- A phrase is read. -/
  complete : ∀ {s a s' ts d n}, s.Regular → L ts a d n → d ≤ levels → s.Reads ts n s' →
    Separate ts s'.next? → s'.Below bound → p s = .ok (a, s')

/-- The body of a repetition recognizes further phrases, which start with tokens that bind as
tightly as a bound says. -/
structure Continues {α : Type} (levels bound : Nat) (body : α → Parser (Option α))
    (More : Phrases (α → α)) : Prop where
  /-- How a further phrase starts. -/
  begins : Starts (·.binding = bound) More
  /-- What is read is a further phrase, if anything is. -/
  sound : ∀ {s a r s'}, s.Regular → body a s = .ok (r, s') → (r = none ∧ s' = s) ∨
    ∃ us f d n, r = some (f a) ∧ More us f d n ∧ d ≤ levels ∧ s.Reads us n s' ∧
      Separate us s'.next?
  /-- A further phrase is read. -/
  complete : ∀ {s a s' us f d n}, s.Regular → More us f d n → d ≤ levels → s.Reads us n s' →
    Separate us s'.next? → s'.Below (bound + 1) → body a s = .ok (some (f a), s')
  /-- Nothing is read in front of other tokens. -/
  stops : ∀ {s a}, s.Below bound → body a s = .ok (none, s)

theorem separate_append_iff {ts us : List Token} {t : Token} {next : Option Token} :
    Separate (ts ++ t :: us) next ↔ Separate (t :: us) next := by
  rw [Separate, Separate, List.getLast?_append, List.getLast?_cons, Option.some_or]

variable {ts : List Token} {t : Token} {next : Option Token}

theorem Separate.of_cons (h : Separate (t :: ts) next) : Separate ts next := by
  intro hnext hlast
  refine h hnext ?_
  rw [List.getLast?_cons, hlast]
  rfl

theorem Separate.cons (h : Separate ts next) (ht : t ≠ .slash) : Separate (t :: ts) next := by
  intro hnext
  rw [List.getLast?_cons]
  cases hlast : ts.getLast? with
  | none => exact fun heq => ht (Option.some.inj heq)
  | some u => exact hlast ▸ h hnext

variable {α : Type} {levels bound : Nat}

theorem Starts.repeated {P : Token → Prop} {First : Phrases α} {More : Phrases (α → α)}
    (h : Starts P First) : Starts P (Repeated First More) := by
  intro ts a d n hts
  induction hts with
  | first hts => exact h hts
  | more _ _ _ ih =>
    obtain ⟨t, rest, rfl, ht⟩ := ih
    exact ⟨t, _, rfl, ht⟩

/-- What has been read is a phrase. -/
def HasRead (levels : Nat) (L : Phrases α) (s : ParserState) (a : α) (s' : ParserState) : Prop :=
  ∃ ts d n, L ts a d n ∧ d ≤ levels ∧ s.Reads ts n s' ∧ Separate ts s'.next?

/-- In each round of a repetition what has been read so far is a phrase with others behind it. -/
theorem Continues.round {First : Phrases α} {body : α → Parser (Option α)}
    {More : Phrases (α → α)} (h : Continues levels bound body More) {s s₁ s₂ : ParserState} {a : α}
    {r : Option α} (hs : s.Regular) (hread : HasRead levels (Repeated First More) s a s₁)
    (hbody : body a s₁ = .ok (r, s₂)) :
    HasRead levels (Repeated First More) s (r.getD a) s₂ := by
  obtain ⟨ts, d, n, hts, hd, hreads, hseparate⟩ := hread
  rcases h.sound (hreads.regular hs) hbody with
    ⟨rfl, rfl⟩ | ⟨us, f, d', m, rfl, hus, hd', hreads', hseparate'⟩
  · exact ⟨ts, d, n, hts, hd, hreads, hseparate⟩
  · obtain ⟨t, rest, rfl, -⟩ := h.begins hus
    rw [Option.getD_some]
    refine ⟨ts ++ t :: rest, _, _, .more hts hus fun hstar => hseparate ?_,
      Nat.max_le.2 ⟨hd, hd'⟩, hreads.trans hreads', separate_append_iff.2 hseparate'⟩
    rw [hreads'.next?]
    exact hstar

/-- **A repetition recognizes a phrase with others behind it.** The first phrase ends in front of
what a further one starts with, and so does each further one. -/
theorem Recognizes.repeating {first : Parser α} {First : Phrases α}
    {body : α → Parser (Option α)} {More : Phrases (α → α)}
    (hfirst : Recognizes levels (bound + 1) first First)
    (hmore : Continues levels bound body More) :
    Recognizes levels bound (first >>= Parser.repeating body) (Repeated First More) where
  sound {s a s'} hs h := by
    rw [Parser.seq_eq_ok_iff] at h
    obtain ⟨a₀, s₀, h₀, h⟩ := h
    obtain ⟨ts, d, n, hts, hd, hreads, hseparate⟩ := hfirst.sound hs h₀
    exact Parser.repeating_invariant (I := HasRead levels (Repeated First More) s)
      (fun hread hbody => hmore.round hs hread hbody)
      ⟨ts, d, n, .first hts, hd, hreads, hseparate⟩ h
  complete {s a s' ts d n} hs hts hd hreads hseparate hbelow := by
    -- The first phrase is read, and then the further ones, each in a round.
    have hrounds : ∃ a₀ s₀, first s = .ok (a₀, s₀) ∧
        Relation.ReflTransGen (Parser.Goes body) (a₀, s₀) (a, s') := by
      have hbelow' : s'.Below (bound + 1) := fun t ht => Nat.lt_succ_of_lt (hbelow t ht)
      clear hbelow
      induction hts generalizing s' with
      | first hts =>
        exact ⟨_, s', hfirst.complete hs hts hd hreads hseparate hbelow', .refl⟩
      | more hts hus hstar ih =>
        obtain ⟨hd₁, hd₂⟩ := Nat.max_le.1 hd
        obtain ⟨t, rest, rfl, hbinding⟩ := hmore.begins hus
        obtain ⟨middle, hreads₁, hreads₂⟩ := hreads.split
        have hnext := hreads₂.next?
        obtain ⟨a₀, s₀, h₀, hrounds⟩ := ih hd₁ hreads₁ (by rw [hnext]; exact hstar) (by
          intro u hu
          rw [hnext, Option.some.injEq] at hu
          rw [← hu, hbinding]
          exact Nat.lt_succ_self _)
        refine ⟨a₀, s₀, h₀, hrounds.tail ⟨?_, hreads₂.length_lt⟩⟩
        exact hmore.complete (hreads₁.regular hs) hus hd₂ hreads₂
          (separate_append_iff.1 hseparate) hbelow'
    obtain ⟨a₀, s₀, h₀, hrounds⟩ := hrounds
    rw [Parser.seq_eq_ok_iff]
    exact ⟨a₀, s₀, h₀, Parser.repeating_eq_ok hrounds (hmore.stops hbelow)⟩

theorem Recognizes.map {β : Type} {p : Parser α} {L : Phrases α} {L' : Phrases β}
    (h : Recognizes levels bound p L) {g : α → β}
    (hL : ∀ {ts b d n}, L' ts b d n ↔ ∃ a, L ts a d n ∧ g a = b) :
    Recognizes levels bound (p >>= fun a => pure (g a)) L' where
  sound hs hp := by
    rw [Parser.seq_eq_ok_iff] at hp
    obtain ⟨a, s', ha, hp⟩ := hp
    cases hp
    obtain ⟨ts, d, n, hts, hrest⟩ := h.sound hs ha
    exact ⟨ts, d, n, hL.2 ⟨a, hts, rfl⟩, hrest⟩
  complete hs hts hd hreads hseparate hbelow := by
    obtain ⟨a, ha, rfl⟩ := hL.1 hts
    rw [Parser.seq_eq_ok_iff]
    exact ⟨a, _, h.complete hs ha hd hreads hseparate hbelow, rfl⟩

/-- A parser that reads all there is of a phrase, whatever comes next. -/
theorem recognizes_of_iff {p : Parser α} {L : Phrases α}
    (h : ∀ {s a s'}, s.Regular →
      (p s = .ok (a, s') ↔ ∃ ts d n, L ts a d n ∧ d ≤ levels ∧ s.Reads ts n s'))
    (hlast : Finished L) :
    Recognizes levels bound p L where
  sound hs hp := by
    obtain ⟨ts, d, n, hts, hd, hreads⟩ := (h hs).1 hp
    exact ⟨ts, d, n, hts, hd, hreads, fun _ => hlast hts⟩
  complete hs hts hd hreads _ _ := (h hs).2 ⟨_, _, _, hts, hd, hreads⟩

/-- A phrase in front of a token that closes a group. -/
theorem Recognizes.closed_iff {p : Parser α} {L : Phrases α} (h : Recognizes levels bound p L)
    {s s' : ParserState} {a : α} {c : Token} (hc : c.binding = 0) (hbound : 0 < bound)
    (hs : s.Regular) :
    (∃ s₁, p s = .ok (a, s₁) ∧ s₁.Reads [c] 0 s') ↔
      ∃ ts d n, L ts a d n ∧ d ≤ levels ∧ s.Reads (ts ++ [c]) n s' := by
  constructor
  · rintro ⟨s₁, hp, hclose⟩
    obtain ⟨ts, d, n, hts, hd, hreads, -⟩ := h.sound hs hp
    exact ⟨ts, d, n, hts, hd, hreads.trans hclose⟩
  · rintro ⟨ts, d, n, hts, hd, hreads⟩
    obtain ⟨s₁, hreads, hclose⟩ := reads_append_iff (m := 0).1 hreads
    have hnext := hclose.next?
    refine ⟨s₁, h.complete hs hts hd hreads (fun hstar => ?_) fun t ht => ?_, hclose⟩
    · rw [hnext, Option.some.injEq] at hstar
      rw [hstar] at hc
      cases hc
    · rw [hnext, Option.some.injEq] at ht
      rwa [← ht, hc]

/-! ## Lists -/

/-- A further item of a list that is kept with its latest item first. -/
inductive Pushing (Item : Phrases α) : Phrases (List α → List α)
  | intro {ts : List Token} {a : α} {d n : Nat} : Item ts a d n → Pushing Item ts (a :: ·) d n

variable {First : Phrases (List α)} {Item : Phrases α}

theorem Grammar.ListOf.concat {ts us : List Token} {as : List α} {a : α} {d d' n m : Nat}
    (h : ListOf Item ts as d n) (ha : Item us a d' m) :
    ListOf Item (ts ++ us) (as ++ [a]) (max d d') (n + m) := by
  induction h with
  | nil =>
    have hone := ListOf.cons ha .nil
    rw [List.append_nil, Nat.max_zero] at hone
    rw [Nat.zero_max, Nat.zero_add]
    exact hone
  | cons hb _ ih =>
    rw [List.append_assoc, Nat.max_assoc, Nat.add_assoc]
    exact .cons hb ih

/-- Items that are pushed one by one make up a list, in the order of their phrases. -/
theorem listOf_of_repeated {ts : List Token} {found : List α} {d n : Nat}
    (h : Repeated First (Pushing Item) ts found d n) :
    ∃ ts₀ start d₀ n₀ us as d' m, First ts₀ start d₀ n₀ ∧ ListOf Item us as d' m ∧
      ts = ts₀ ++ us ∧ found = as.reverse ++ start ∧ d = max d₀ d' ∧ n = n₀ + m := by
  induction h with
  | @first ts a d n hts =>
    refine ⟨ts, a, d, n, [], [], 0, 0, hts, .nil, ?_, rfl, ?_, rfl⟩
    · rw [List.append_nil]
    · rw [Nat.max_zero]
  | @more _ vs _ _ _ _ _ _ _ hitem _ ih =>
    obtain ⟨ts₀, start, d₀, n₀, us, as, d', m, hstart, has, rfl, rfl, rfl, rfl⟩ := ih
    cases hitem with
    | @intro _ a _ _ hvs =>
      refine ⟨ts₀, start, d₀, n₀, us ++ vs, as ++ [a], _, _, hstart, has.concat hvs, ?_, ?_, ?_, ?_⟩
      · rw [List.append_assoc]
      · rw [List.reverse_append, List.reverse_singleton, List.singleton_append, List.cons_append]
      · rw [Nat.max_assoc]
      · rw [Nat.add_assoc]

/-- The items of a list are pushed one by one, where no item starts with a star. -/
theorem repeated_of_listOf
    (hstart : ∀ {us a d n}, Item us a d n → us.head? ≠ some .star) {ts us : List Token}
    {start as : List α} {d d' n m : Nat} (h : Repeated First (Pushing Item) ts start d n)
    (has : ListOf Item us as d' m) :
    Repeated First (Pushing Item) (ts ++ us) (as.reverse ++ start) (max d d') (n + m) := by
  induction has generalizing ts start d n with
  | nil =>
    rw [List.append_nil, Nat.max_zero]
    exact h
  | cons ha _ ih =>
    have hnext := ih (.more h (.intro ha) fun hstar => absurd hstar (hstart ha))
    rw [List.reverse_cons, List.append_assoc, List.singleton_append, ← List.append_assoc,
      ← Nat.max_assoc, ← Nat.add_assoc]
    exact hnext

end XmlQuery.XPath
