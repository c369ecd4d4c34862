import Mathlib.Data.List.Induction
import XmlQuery.Proofs.XPath.Bindings
import XmlQuery.Proofs.XPath.Lru
import XmlQuery.XPath.Cache

/-!
# Recency

A cache over a lawful map holds the expressions of the keys that were used last, in the order of
their last uses, and as many of them as it has room for. Which keys these are is said by the calls
alone, without a cache: the keys of the expressions that compiled, each at its last use. A step
keeps the cache and the calls together, so that what is in the cache is known after any calls, and
every answer with it.

## Main definitions

* `Cache.Call`: a call to a cache
* `Cache.recent`: the keys that were used last
* `Cache.held`: the expressions in a cache with their keys
* `Cache.Got`: what a call for an expression comes to
* `Cache.History`: a cache and what it has answered
* `Cache.Kept`: a cache holds what its calls used last
* `Cache.ExactlyRecent`: what a cache that has been called holds, and what it will answer

## Main results

* `recent_concat`: a use puts its key in front and the last one out
* `kept_run`: after any calls a cache holds what they used last
* `exactlyRecent_run`: **a cache answers as if it compiled anew, with what it holds**
-/

namespace XmlQuery.XPath.Cache

/-! ## Keys in the order of their uses -/

section Keys

variable {α : Type} [DecidableEq α] {a : α} {xs : List α}

theorem eraseDups_cons_eq (a : α) (xs : List α) :
    (a :: xs).eraseDups = a :: (xs.filter (· ≠ a)).eraseDups := by
  rw [List.eraseDups_cons]
  refine congrArg (a :: List.eraseDups ·) (List.filter_congr fun x _ => ?_)
  exact decide_not.symm

/-- First occurrences may be taken before or after a choice of elements. -/
theorem eraseDups_filter (p : α → Bool) (xs : List α) :
    (xs.filter p).eraseDups = xs.eraseDups.filter p := by
  match xs with
  | [] => rfl
  | a :: rest =>
    have ih := eraseDups_filter p (rest.filter (· ≠ a))
    rw [eraseDups_cons_eq, List.filter_cons, List.filter_cons, ← ih, List.filter_filter]
    cases hp : p a with
    | true => simp [eraseDups_cons_eq, List.filter_filter, Bool.and_comm]
    | false =>
      -- What is chosen is not the element.
      have hne : ∀ x, (p x && decide (x ≠ a)) = p x := by
        intro x
        rcases eq_or_ne x a with rfl | hx
        · simp [hp]
        · simp [hx]
      simp only [hne]
      rfl
termination_by xs.length
decreasing_by exact Nat.lt_succ_of_le (List.length_filter_le _ rest)

theorem nodup_eraseDups (xs : List α) : xs.eraseDups.Nodup := by
  match xs with
  | [] => exact List.nodup_nil
  | a :: rest =>
    rw [eraseDups_cons_eq, List.nodup_cons, List.mem_eraseDups]
    exact ⟨by simp, nodup_eraseDups _⟩
termination_by xs.length
decreasing_by exact Nat.lt_succ_of_le (List.length_filter_le _ rest)

/-- Where an element is left out of a part, one more element makes up for it. -/
theorem take_filter_take (h : xs.Nodup) (n : Nat) :
    ((xs.take (n + 1)).filter (· ≠ a)).take n = (xs.filter (· ≠ a)).take n := by
  induction xs generalizing n with
  | nil => rfl
  | cons x rest ih =>
    rw [List.nodup_cons] at h
    rw [List.take_succ_cons, List.filter_cons, List.filter_cons]
    rcases eq_or_ne x a with rfl | hx
    · -- The element is at the front, and nowhere behind it.
      have hall : ∀ ys : List α, ys.Sublist rest → ys.filter (· ≠ x) = ys := fun ys hys =>
        List.filter_eq_self.2 fun y hy => decide_eq_true fun hyx => h.1 (hyx ▸ hys.mem hy)
      rw [if_neg (by simp), if_neg (by simp), hall _ (List.take_sublist n rest),
        hall rest (List.Sublist.refl rest), List.take_take, Nat.min_self]
    · rw [if_pos (by simpa using hx), if_pos (by simpa using hx)]
      cases n with
      | zero => rfl
      | succ n => rw [List.take_succ_cons, List.take_succ_cons, ih h.2]

end Keys

/-- A call to a cache. -/
inductive Call
  /-- An expression is asked for. -/
  | get (source : String) (b : Bindings)
  /-- The expressions are thrown away. -/
  | clear

/-- The keys that were used, and the one that a call uses in front of them. An expression that does
not compile is not used. -/
def Call.use (used : List CacheKey) : Call → List CacheKey
  | .get source b =>
    if (CompiledExpression.compile source b).isOk then CacheKey.of source b :: used else used
  | .clear => []

/-- The keys that calls used since they last cleared the cache, the last one first. -/
def used (calls : List Call) : List CacheKey := calls.foldl Call.use []

/-- The keys that were used last, each once, as many as there is room for. -/
def recent (capacity : Nat) (calls : List Call) : List CacheKey :=
  (used calls).eraseDups.take capacity

variable {capacity : Nat} {calls : List Call} {source : String} {b : Bindings}

theorem recent_concat_clear (capacity : Nat) (calls : List Call) :
    recent capacity (calls ++ [.clear]) = [] := by
  rw [recent, used, List.foldl_append]
  exact List.take_nil

theorem recent_concat_of_error {error : CompileError}
    (h : CompiledExpression.compile source b = .error error) :
    recent capacity (calls ++ [.get source b]) = recent capacity calls := by
  rw [recent, used, List.foldl_append, List.foldl_cons, List.foldl_nil, Call.use, h]
  rfl

/-- A use puts its key in front, and the one that was used first out if there is no room. -/
theorem recent_concat {e : CompiledExpression} (h : CompiledExpression.compile source b = .ok e) :
    recent capacity (calls ++ [.get source b]) =
      (CacheKey.of source b :: (recent capacity calls).filter (· ≠ CacheKey.of source b)).take
        capacity := by
  have hused : used (calls ++ [.get source b]) = CacheKey.of source b :: used calls := by
    rw [used, List.foldl_append, List.foldl_cons, List.foldl_nil, Call.use, h]
    rfl
  rw [recent, recent, hused, eraseDups_cons_eq, eraseDups_filter]
  cases capacity with
  | zero => rfl
  | succ n =>
    rw [List.take_succ_cons, List.take_succ_cons, take_filter_take (nodup_eraseDups _)]

/-! ## Calls of a cache -/

variable {σ : Type} [Lru σ CacheKey CachedExpression]

/-- The expressions with their keys, the last used one first. -/
def held (c : Cache σ) : List (CacheKey × CachedExpression) := Lru.entries c.entries

/-- How many expressions there is room for. -/
def room (c : Cache σ) : Nat := Lru.capacity c.entries

/-- The expressions that are left of those in the cache with one of them as the last used one. -/
def touched (c : Cache σ) (key : CacheKey) (e : CachedExpression) :
    List (CacheKey × CachedExpression) := Lru.touched c.entries key e

theorem keys_touched (c : Cache σ) (key : CacheKey) (e : CachedExpression) :
    (c.touched key e).map (·.1) = (key :: (c.held.map (·.1)).filter (· ≠ key)).take c.room := by
  rw [touched, Lru.touched, List.map_take, List.map_cons, List.filter_map]
  rfl

theorem mem_touched {c : Cache σ} {key : CacheKey} {e : CachedExpression}
    {entry : CacheKey × CachedExpression} (h : entry ∈ c.touched key e) :
    entry = (key, e) ∨ entry ∈ c.held ∧ entry.1 ≠ key := by
  rcases List.mem_cons.1 (List.mem_of_mem_take h) with heq | hmem
  · exact .inl heq
  · rw [List.mem_filter, decide_eq_true_iff] at hmem
    exact .inr hmem

/-- What a call for an expression comes to, and the cache after it. -/
inductive Got (c : Cache σ) (serial : Nat) (source : String) (b : Bindings) :
    Except CompileError CachedExpression → Cache σ → Prop
  /-- The expression is in the cache. -/
  | hit {e : CachedExpression} {c' : Cache σ} : (CacheKey.of source b, e) ∈ c.held →
    c'.held = c.touched (CacheKey.of source b) e → Got c serial source b (.ok e) c'
  /-- The expression does not compile. -/
  | failed {error : CompileError} {c' : Cache σ} : CacheKey.of source b ∉ c.held.map (·.1) →
    CompiledExpression.compile source b = .error error → c'.held = c.held →
    Got c serial source b (.error error) c'
  /-- The expression is new in the cache. -/
  | new {e : CompiledExpression} {c' : Cache σ} : CacheKey.of source b ∉ c.held.map (·.1) →
    CompiledExpression.compile source b = .ok e →
    c'.held = c.touched (CacheKey.of source b) ⟨serial, e⟩ →
    Got c serial source b (.ok ⟨serial, e⟩) c'

/-- A cache has room for an expression, and holds no more of them than it has room for. -/
structure Roomy (c : Cache σ) : Prop where
  /-- There is room. -/
  room_pos : 0 < c.room
  /-- There is room for what is held. -/
  length_le : c.held.length ≤ c.room

variable [LawfulLru σ] {c : Cache σ}

/-- The map after a look-up for an expression. -/
def looked (c : Cache σ) (source : String) (b : Bindings) : σ :=
  (Lru.get c.entries (CacheKey.of source b)).2

theorem get_of_some {e : CachedExpression} (serial : Nat)
    (h : c.held.lookup (CacheKey.of source b) = some e) :
    c.get serial source b = (.ok e, ⟨c.looked source b⟩) := by
  have hget : Lru.get c.entries (CacheKey.of source b) = (some e, c.looked source b) :=
    Prod.ext ((LawfulLru.value_get ..).trans h) rfl
  rw [get, hget]

theorem get_of_none (serial : Nat) (h : c.held.lookup (CacheKey.of source b) = none) :
    c.get serial source b =
      match CompiledExpression.compile source b with
      | .error error => (.error error, ⟨c.looked source b⟩)
      | .ok e => (.ok ⟨serial, e⟩, ⟨Lru.put (c.looked source b) (.of source b) ⟨serial, e⟩⟩) := by
  have hget : Lru.get c.entries (CacheKey.of source b) = (none, c.looked source b) :=
    Prod.ext ((LawfulLru.value_get ..).trans h) rfl
  cases hcompile : CompiledExpression.compile source b with
  | error error => simp only [get, hget, hcompile]
  | ok e => simp only [get, hget, hcompile]

/-- A call for an expression comes to one of three things. -/
theorem Roomy.got (hc : c.Roomy) (serial : Nat) (source : String) (b : Bindings) :
    Got c serial source b (c.get serial source b).1 (c.get serial source b).2 := by
  cases hlookup : c.held.lookup (CacheKey.of source b) with
  | some e =>
    obtain ⟨before, after, hentries, -⟩ := List.lookup_eq_some_iff.1 hlookup
    have hheld : Lru.entries (c.looked source b) = c.touched (.of source b) e :=
      LawfulLru.entries_get_eq hlookup hc.length_le
    rw [get_of_some serial hlookup]
    exact .hit (hentries ▸ List.mem_append_right _ List.mem_cons_self) hheld
  | none =>
    -- Looking for the key has moved nothing, so what is put in meets the cache as it was.
    have hkey : CacheKey.of source b ∉ c.held.map (·.1) := by
      rw [List.lookup_eq_none_iff] at hlookup
      rintro hmem
      obtain ⟨entry, hentry, heq⟩ := List.mem_map.1 hmem
      exact bne_iff_ne.1 (hlookup entry hentry) heq.symm
    have hlooked : Lru.entries (c.looked source b) = c.held :=
      LawfulLru.entries_get_of_none c.entries hlookup
    have hroom : Lru.capacity (c.looked source b) = c.room := LawfulLru.capacity_get ..
    rw [get_of_none serial hlookup]
    cases hcompile : CompiledExpression.compile source b with
    | error error => exact .failed hkey hcompile hlooked
    | ok e =>
      have hput : Lru.entries (Lru.put (c.looked source b) (.of source b) ⟨serial, e⟩) =
          c.touched (.of source b) ⟨serial, e⟩ := by
        rw [LawfulLru.entries_put_eq _ (hlooked ▸ hlookup) (hroom ▸ hc.room_pos)
          (hlooked ▸ hroom ▸ hc.length_le), Lru.touched, hlooked, hroom]
        rfl
      exact .new hkey hcompile hput

/-- A call does not change how much room there is. -/
theorem room_get (c : Cache σ) (serial : Nat) (source : String) (b : Bindings) :
    (c.get serial source b).2.room = c.room := by
  have hroom : Lru.capacity (c.looked source b) = c.room := LawfulLru.capacity_get ..
  cases hlookup : c.held.lookup (CacheKey.of source b) with
  | some e =>
    rw [get_of_some serial hlookup]
    exact hroom
  | none =>
    rw [get_of_none serial hlookup]
    cases CompiledExpression.compile source b with
    | error error => exact hroom
    | ok e => exact (LawfulLru.capacity_put ..).trans hroom

/-! ## Histories -/

/-- A cache and what it has answered to its calls, each answer with its key, the last one first. -/
structure History (σ : Type) where
  /-- The cache. -/
  cache : Cache σ
  /-- The answers. -/
  answers : List (CacheKey × CachedExpression)
  /-- How many calls there were; the number of the next one. -/
  calls : Nat

/-- A cache that has not been called. -/
def History.start (c : Cache σ) : History σ := ⟨c, [], 0⟩

/-- A cache after a further call. A call that fails is not answered by an expression. -/
def History.after (h : History σ) : Call → History σ
  | .get source b =>
    match h.cache.get h.calls source b with
    | (.ok e, cache) => ⟨cache, (CacheKey.of source b, e) :: h.answers, h.calls + 1⟩
    | (.error _, cache) => ⟨cache, h.answers, h.calls + 1⟩
  | .clear => ⟨h.cache.clear, h.answers, h.calls + 1⟩

/-- A cache after calls. -/
def History.run (c : Cache σ) (calls : List Call) : History σ :=
  calls.foldl History.after (.start c)

/-- A cache holds what its calls used last: the answer that each of the keys got last. -/
structure Kept (capacity : Nat) (calls : List Call) (h : History σ) : Prop where
  /-- The room never changes. -/
  room_eq : h.cache.room = capacity
  /-- The keys in the cache are those that were used last. -/
  keys_eq : h.cache.held.map (·.1) = recent capacity calls
  /-- An expression is what compiling gives for its key. -/
  compiles : ∀ source b e, (CacheKey.of source b, e) ∈ h.cache.held →
    CompiledExpression.compile source b = .ok e.expression
  /-- An expression is the last answer for its key. -/
  answered : ∀ entry ∈ h.cache.held, h.answers.lookup entry.1 = some entry.2
  /-- No answer has the number of the next call, or a later one. -/
  numbered : ∀ answer ∈ h.answers, answer.2.serial < h.calls

omit [LawfulLru σ] in
/-- What is in a cache was an answer. -/
theorem Kept.mem_answers {h : History σ} (hkept : Kept capacity calls h)
    {entry : CacheKey × CachedExpression} (hentry : entry ∈ h.cache.held) :
    entry ∈ h.answers := by
  obtain ⟨before, after, hanswers, -⟩ := List.lookup_eq_some_iff.1 (hkept.answered entry hentry)
  simp [hanswers]

omit [LawfulLru σ] in
theorem Kept.length_le {h : History σ} (hkept : Kept capacity calls h) :
    h.cache.held.length ≤ capacity := by
  rw [← List.length_map (·.1), hkept.keys_eq]
  exact List.length_take_le ..

omit [LawfulLru σ] in
theorem Kept.roomy {h : History σ} (hkept : Kept capacity calls h) (hpos : 0 < capacity) :
    h.cache.Roomy :=
  ⟨hkept.room_eq ▸ hpos, hkept.room_eq ▸ hkept.length_le⟩

omit [LawfulLru σ] in
/-- The use of an expression, be it in the cache or new. -/
theorem Kept.touch {h : History σ} (hkept : Kept capacity calls h) {e : CachedExpression}
    (hheld : c.held = h.cache.touched (.of source b) e) (hroom : c.room = h.cache.room)
    (hcompile : CompiledExpression.compile source b = .ok e.expression)
    (hserial : e.serial < h.calls + 1) :
    Kept capacity (calls ++ [.get source b])
      ⟨c, (CacheKey.of source b, e) :: h.answers, h.calls + 1⟩ where
  room_eq := hroom.trans hkept.room_eq
  keys_eq := by
    rw [recent_concat hcompile, ← hkept.keys_eq, ← hkept.room_eq, hheld]
    exact keys_touched ..
  compiles := by
    intro source' b' e' hentry
    rw [hheld] at hentry
    rcases mem_touched hentry with heq | ⟨hmem, -⟩
    · obtain ⟨hkey, rfl⟩ := Prod.mk.inj heq
      rw [compile_eq_of_key_eq hkey, hcompile]
    · exact hkept.compiles source' b' e' hmem
  answered := by
    intro entry hentry
    rw [hheld] at hentry
    rcases mem_touched hentry with rfl | ⟨hmem, hne⟩
    · exact List.lookup_cons_self
    · rw [List.lookup_cons, beq_eq_false_iff_ne.2 hne]
      exact hkept.answered entry hmem
  numbered := by
    intro answer hanswer
    rcases List.mem_cons.1 hanswer with rfl | hmem
    · exact hserial
    · exact Nat.lt_succ_of_lt (hkept.numbered answer hmem)

/-- A call keeps in the cache what its calls used last. -/
theorem Kept.after {h : History σ} (hkept : Kept capacity calls h) (hpos : 0 < capacity)
    (call : Call) : Kept capacity (calls ++ [call]) (h.after call) := by
  cases call with
  | get source b =>
    have hgot := (hkept.roomy hpos).got h.calls source b
    have hroom := room_get h.cache h.calls source b
    rw [History.after]
    generalize h.cache.get h.calls source b = r at hgot hroom
    obtain ⟨result, cache⟩ := r
    cases hgot with
    | hit hentry hheld =>
      exact hkept.touch hheld hroom (hkept.compiles source b _ hentry)
        (Nat.lt_succ_of_lt (hkept.numbered _ (hkept.mem_answers hentry)))
    | failed _ herror hheld =>
      refine ⟨hroom.trans hkept.room_eq, ?_, hheld ▸ hkept.compiles, hheld ▸ hkept.answered,
        fun answer hanswer => Nat.lt_succ_of_lt (hkept.numbered answer hanswer)⟩
      rw [recent_concat_of_error herror, ← hkept.keys_eq, hheld]
    | new _ hcompile hheld => exact hkept.touch hheld hroom hcompile (Nat.lt_succ_self _)
  | clear =>
    have hnil : h.cache.clear.held = [] := LawfulLru.entries_clear _
    have hroom : h.cache.clear.room = h.cache.room := LawfulLru.capacity_clear _
    refine ⟨hroom.trans hkept.room_eq, ?_, fun _ _ _ hentry => ?_, fun _ hentry => ?_,
      fun answer hanswer => Nat.lt_succ_of_lt (hkept.numbered answer hanswer)⟩
    · rw [History.after, hnil, recent_concat_clear]
      rfl
    · rw [History.after, hnil] at hentry
      cases hentry
    · rw [History.after, hnil] at hentry
      cases hentry

/-- A cache that has been made with room for expressions. -/
theorem kept_start (hpos : 0 < capacity) :
    Kept capacity [] (.start (⟨Lru.new capacity hpos⟩ : Cache σ)) := by
  have hnil : (⟨Lru.new capacity hpos⟩ : Cache σ).held = [] := LawfulLru.entries_new capacity hpos
  refine ⟨LawfulLru.capacity_new capacity hpos, ?_, fun _ _ _ hentry => ?_, fun _ hentry => ?_,
    nofun⟩
  · rw [History.start, hnil]
    exact List.take_nil.symm
  · rw [History.start, hnil] at hentry
    cases hentry
  · rw [History.start, hnil] at hentry
    cases hentry

/-- **After any calls a cache holds what they used last.** -/
theorem kept_run (hpos : 0 < capacity) (calls : List Call) :
    Kept capacity calls (.run (⟨Lru.new capacity hpos⟩ : Cache σ) calls) := by
  induction calls using List.reverseRecOn with
  | nil => exact kept_start hpos
  | append_singleton calls call ih =>
    rw [History.run, List.foldl_append]
    exact ih.after hpos call

/-! ## Answers -/

section Answers

variable {h : History σ} {serial : Nat}

/-- An answer is what compiling anew gives. -/
theorem Kept.map_get (hkept : Kept capacity calls h) (hpos : 0 < capacity) (serial : Nat)
    (source : String) (b : Bindings) :
    (h.cache.get serial source b).1.map (·.expression) = CompiledExpression.compile source b := by
  have hgot := (hkept.roomy hpos).got serial source b
  generalize h.cache.get serial source b = r at hgot
  obtain ⟨result, c'⟩ := r
  cases hgot with
  | hit hentry =>
    rw [hkept.compiles source b _ hentry]
    rfl
  | failed _ herror =>
    rw [herror]
    rfl
  | new _ hcompile =>
    rw [hcompile]
    rfl

/-- The answer for a key that was used last is the one that the key got last. -/
theorem Kept.exists_stored (hkept : Kept capacity calls h) (hpos : 0 < capacity)
    (hkey : CacheKey.of source b ∈ recent capacity calls) :
    ∃ e, (h.cache.get serial source b).1 = .ok e ∧
      h.answers.lookup (CacheKey.of source b) = some e := by
  rw [← hkept.keys_eq] at hkey
  have hgot := (hkept.roomy hpos).got serial source b
  generalize h.cache.get serial source b = r at hgot
  obtain ⟨result, c'⟩ := r
  cases hgot with
  | hit hentry => exact ⟨_, rfl, hkept.answered _ hentry⟩
  | failed hnot => exact absurd hkey hnot
  | new hnot => exact absurd hkey hnot

/-- The answer to the next call was given before if its key was among those used last, and only
then. -/
theorem Kept.stored_iff (hkept : Kept capacity calls h) (hpos : 0 < capacity)
    {e : CachedExpression} (he : (h.cache.get h.calls source b).1 = .ok e) :
    (∃ answer ∈ h.answers, answer.2.serial = e.serial) ↔
      CacheKey.of source b ∈ recent capacity calls := by
  rw [← hkept.keys_eq]
  have hgot := (hkept.roomy hpos).got h.calls source b
  generalize h.cache.get h.calls source b = r at hgot he
  obtain ⟨result, c'⟩ := r
  cases hgot with
  | hit hentry =>
    cases he
    exact iff_of_true ⟨_, hkept.mem_answers hentry, rfl⟩ (List.mem_map_of_mem hentry)
  | failed => cases he
  | new hnot =>
    cases he
    -- The number of a new expression is later than those of all answers.
    refine iff_of_false ?_ hnot
    rintro ⟨answer, hanswer, hserial⟩
    exact Nat.ne_of_lt (hkept.numbered answer hanswer) hserial

/-- A call that fails leaves what the cache holds as it is. -/
theorem Roomy.held_of_error (hc : c.Roomy) {error : CompileError}
    (herror : (c.get serial source b).1 = .error error) :
    (c.get serial source b).2.held = c.held := by
  have hgot := hc.got serial source b
  generalize c.get serial source b = r at hgot herror
  obtain ⟨result, c'⟩ := r
  cases hgot with
  | hit => cases herror
  | failed _ _ hheld => exact hheld
  | new => cases herror

end Answers

/-- What a cache of a capacity holds after calls, and what it answers to the next one. -/
structure ExactlyRecent (capacity : Nat) (calls : List Call) (h : History σ) : Prop where
  /-- The keys in the cache are those that were used last, the last one first. -/
  keys_eq : h.cache.held.map (·.1) = recent capacity calls
  /-- The cache counts them. -/
  size_eq : h.cache.size = (recent capacity calls).length
  /-- There are no more of them than there is room for. -/
  size_le : h.cache.size ≤ capacity
  /-- An answer is what compiling anew gives. -/
  transparent : ∀ serial source b,
    (h.cache.get serial source b).1.map (·.expression) = CompiledExpression.compile source b
  /-- The answer was given before if its key was among those used last, and only then. -/
  stored_iff : ∀ source b e, (h.cache.get h.calls source b).1 = .ok e →
    ((∃ answer ∈ h.answers, answer.2.serial = e.serial) ↔
      CacheKey.of source b ∈ recent capacity calls)
  /-- It is then the one that the key got last. -/
  stored : ∀ source b, CacheKey.of source b ∈ recent capacity calls →
    ∃ e, (h.cache.get h.calls source b).1 = .ok e ∧
      h.answers.lookup (CacheKey.of source b) = some e
  /-- A call that fails leaves what the cache holds as it is, and in its order. -/
  failed : ∀ serial source b error, (h.cache.get serial source b).1 = .error error →
    (h.cache.get serial source b).2.held = h.cache.held

/-- **A cache answers as if it compiled anew, with what it holds**, and it holds what was used
last. -/
theorem exactlyRecent_run (hpos : 0 < capacity) (calls : List Call) :
    ExactlyRecent capacity calls (.run (⟨Lru.new capacity hpos⟩ : Cache σ) calls) := by
  have hkept := kept_run (σ := σ) hpos calls
  have hsize : (History.run (⟨Lru.new capacity hpos⟩ : Cache σ) calls).cache.size =
      (recent capacity calls).length := by
    rw [size, LawfulLru.len_eq, ← hkept.keys_eq, List.length_map]
    rfl
  exact ⟨hkept.keys_eq, hsize, hsize ▸ List.length_take_le .., hkept.map_get hpos,
    fun _ _ _ he => hkept.stored_iff hpos he, fun _ _ hkey => hkept.exists_stored hpos hkey,
    fun _ _ _ _ herror => (hkept.roomy hpos).held_of_error herror⟩

end XmlQuery.XPath.Cache
