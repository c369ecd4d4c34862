import XmlQuery.Proofs.XPath.Recency
import XmlQuery.Query.Engine

/-!
# Transparency

An engine is used over and over, and what it keeps of its uses is in its cache, if it has one. Since
a cache answers as if it compiled anew, nobody can tell from the answers of an engine what it has
been used for: a document at hand is answered for as by a function that keeps nothing. All that is
known of the map in the cache is that it is a lawful one.

## Main definitions

* `Engine.Use`: what an engine is used for
* `Engine.used`: an engine after uses
* `Engine.Caches`: the cache of an engine has the history of its uses

## Main results

* `caches_used`: the uses of an engine are calls of its cache
* `run_inline`: an engine answers as a function that keeps nothing
* `exactlyRecent_and_transparent`: **a cache holds what was used last, and nobody sees it**
-/

namespace XmlQuery.Query

open XPath (Bindings Cache CacheKey CachedExpression CompiledExpression LawfulLru Lru Recent)
open XPath.Cache (Call ExactlyRecent History)

namespace Engine

/-- What an engine is used for. -/
inductive Use
  /-- To compile an expression. -/
  | compile (expression : String) (b : Bindings)
  /-- To answer a request, with a loader. -/
  | run (loader : Loader) (r : Request)

/-- The call of the cache in a use. -/
def Use.call : Use → Call
  | .compile expression b => .get expression b
  | .run _ r => .get r.expression r.bindings

section

variable {σ : Type} [Lru σ CacheKey CachedExpression]

/-- An engine after a use. -/
def after (g : Engine σ) : Use → Engine σ
  | .compile expression b => (g.compile expression b).2
  | .run loader r => (g.run loader r).2

/-- An engine after uses. -/
def used (s : Settings) (uses : List Use) : Engine σ := uses.foldl after (.ofSettings s)

/-- The cache of an engine, if there is one, has a history with as many calls as the engine has
uses. -/
structure Caches (g : Engine σ) (h : Option (History σ)) : Prop where
  /-- The cache has the history. -/
  cache_eq : g.cache = h.map (·.cache)
  /-- Every use is a call. -/
  served_eq : ∀ h' ∈ h, g.served = h'.calls

variable {g : Engine σ} {h : Option (History σ)}

/-- What an engine compiles comes from its cache, if there is one. -/
theorem compile_of_some {c : Cache σ} (hcache : g.cache = some c) (expression : String)
    (b : Bindings) :
    (g.compile expression b).1 = (c.get g.served expression b).1 ∧
      (g.compile expression b).2.cache = some (c.get g.served expression b).2 ∧
      (g.compile expression b).2.served = g.served + 1 := by
  rw [compile, hcache]
  exact ⟨rfl, rfl, rfl⟩

theorem compile_of_none (hcache : g.cache = none) (expression : String) (b : Bindings) :
    (g.compile expression b).1 = (CompiledExpression.compile expression b).map (⟨g.served, ·⟩) ∧
      (g.compile expression b).2.cache = none := by
  rw [compile, hcache]
  exact ⟨rfl, rfl⟩

theorem cache_after_get (h : History σ) (source : String) (b : Bindings) :
    (h.after (.get source b)).cache = (h.cache.get h.calls source b).2 ∧
      (h.after (.get source b)).calls = h.calls + 1 := by
  rw [History.after]
  rcases h.cache.get h.calls source b with ⟨e | error, c⟩ <;> exact ⟨rfl, rfl⟩

theorem Caches.compile (hcaches : g.Caches h) (expression : String) (b : Bindings) :
    (g.compile expression b).2.Caches (h.map (·.after (.get expression b))) := by
  cases h with
  | none =>
    exact ⟨(compile_of_none hcaches.cache_eq expression b).2, nofun⟩
  | some h =>
    obtain ⟨-, hcache, hserved⟩ := compile_of_some hcaches.cache_eq expression b
    obtain ⟨hafter, hcalls⟩ := cache_after_get h expression b
    have hsame : g.served = h.calls := hcaches.served_eq h rfl
    refine ⟨?_, ?_⟩
    · rw [hcache, hsame, Option.map_some, Option.map_some, hafter]
    · rintro _ ⟨⟩
      rw [hserved, hcalls, hsame]

/-- A use is a call of the cache. -/
theorem Caches.after (hcaches : g.Caches h) (use : Use) :
    (g.after use).Caches (h.map (·.after use.call)) := by
  cases use with
  | compile expression b => exact hcaches.compile expression b
  | run loader r => exact hcaches.compile r.expression r.bindings

/-- The uses of an engine are calls of its cache. -/
theorem caches_used (s : Settings) (uses : List Use) :
    (used s uses : Engine σ).Caches
      ((Cache.ofCapacity? s.cacheCapacity).map (.run · (uses.map Use.call))) := by
  induction uses using List.reverseRecOn with
  | nil =>
    change (ofSettings s : Engine σ).Caches _
    rw [ofSettings]
    cases (Cache.ofCapacity? s.cacheCapacity : Option (Cache σ)) with
    | none => exact ⟨rfl, nofun⟩
    | some c =>
      refine ⟨rfl, ?_⟩
      rintro _ ⟨⟩
      rfl
  | append_singleton uses use ih =>
    have hnext := ih.after use
    have hrun : ∀ c : Cache σ, History.run c (uses.map Use.call ++ [use.call]) =
        (History.run c (uses.map Use.call)).after use.call := fun c => List.foldl_append
    simp only [List.map_append, List.map_cons, List.map_nil, hrun]
    rw [Option.map_map] at hnext
    rw [used, List.foldl_append]
    exact hnext

variable [LawfulLru σ]

/-- An engine compiles what would be compiled anew. -/
theorem map_compile_used (s : Settings) (uses : List Use) (expression : String) (b : Bindings) :
    ((used s uses : Engine σ).compile expression b).1.map (·.expression) =
      CompiledExpression.compile expression b := by
  have hcaches := caches_used (σ := σ) s uses
  rcases Nat.eq_zero_or_pos s.cacheCapacity with hzero | hpos
  · rw [Cache.ofCapacity?, dif_neg (hzero ▸ Nat.lt_irrefl 0)] at hcaches
    rw [(compile_of_none hcaches.cache_eq expression b).1]
    cases CompiledExpression.compile expression b with
    | error error => rfl
    | ok e => rfl
  · rw [Cache.ofCapacity?, dif_pos hpos] at hcaches
    rw [(compile_of_some hcaches.cache_eq expression b).1]
    exact (Cache.exactlyRecent_run hpos (uses.map Use.call)).transparent _ expression b

/-- An engine answers for a document at hand as a function that keeps nothing. -/
theorem run_inline (s : Settings) (uses : List Use) (loader : Loader) (expression text : String)
    (b : Bindings) :
    ((used s uses : Engine σ).run loader ⟨expression, .inline text, b⟩).1 =
      queryDocument (Utf8.encode text.toList) expression b := by
  have hrun : ((used s uses : Engine σ).run loader ⟨expression, .inline text, b⟩).1 =
      (((used s uses : Engine σ).compile expression b).1.mapError .compile >>= fun e =>
        selectRecords (Utf8.encode text.toList) e.expression) := rfl
  rw [hrun, queryDocument, ← map_compile_used (σ := σ) s uses]
  cases ((used s uses : Engine σ).compile expression b).1 with
  | error error => rfl
  | ok e => rfl

end

/-- **A cache holds what was used last, and nobody sees it**: after any calls a cache over a lawful
map holds the expressions of the keys that were used last, a key stands for an expression and a map
of prefixes, and after any uses an engine, be it one that keeps expressions or not, answers for a
document at hand as a function that keeps nothing. -/
theorem exactlyRecent_and_transparent {σ : Type} [Lru σ CacheKey CachedExpression] [LawfulLru σ] :
    (∀ capacity, 0 < capacity → ∃ c : Cache σ, Cache.ofCapacity? capacity = some c ∧
      ∀ calls, ExactlyRecent capacity calls (.run c calls)) ∧
    (∀ {pairs pairs' : List (String × String)} {b b' : Bindings} {source source' : String},
      Bindings.ofPairs pairs = .ok b → Bindings.ofPairs pairs' = .ok b' →
        (CacheKey.of source b = CacheKey.of source' b' ↔
          source = source' ∧ ∀ p, b.get? p = b'.get? p)) ∧
    ∀ (s : Settings) (uses : List Use) (loader : Loader) (expression text : String) (b : Bindings),
      ((used s uses : Engine σ).run loader ⟨expression, .inline text, b⟩).1 =
        queryDocument (Utf8.encode text.toList) expression b :=
  ⟨fun capacity hpos => ⟨⟨Lru.new capacity hpos⟩, dif_pos hpos, Cache.exactlyRecent_run hpos⟩,
    CacheKey.of_eq_iff, run_inline⟩

/-- A list is a lawful map. In a cache with room for two the use of the first of two expressions
makes the second one give way to a third, what does not compile changes nothing, and the first one
is found again; an engine that keeps nothing answers too. -/
theorem exactlyRecent_and_transparent_list :
    let calls : List Call := [.get "a" .empty, .get "b" .empty, .get "a" .empty, .get "c" .empty,
      .get "/r[" .empty]
    (∃ c : Cache (Recent CacheKey CachedExpression), Cache.ofCapacity? 2 = some c ∧
      let h := History.run c calls
      h.cache.held.map (·.1) = [⟨"c", []⟩, ⟨"a", []⟩] ∧
      ∃ e, (h.cache.get h.calls "a" .empty).1 = .ok e ∧
        h.answers.lookup (.of "a" .empty) = some e) ∧
    ((used { cacheCapacity := 0 } [.compile "a" .empty] :
        Engine (Recent CacheKey CachedExpression)).run (.ofFetch fun _ => .error "")
      ⟨"a", .inline "<a/>", .empty⟩).1 = queryDocument (Utf8.encode "<a/>".toList) "a" .empty := by
  intro calls
  have hrecent : Cache.recent 2 calls = [⟨"c", []⟩, ⟨"a", []⟩] := by decide +kernel
  have hkey : CacheKey.of "a" .empty = ⟨"a", []⟩ := by
    simp [CacheKey.of, Bindings.sorted, Bindings.empty]
  have hmem : CacheKey.of "a" .empty ∈ Cache.recent 2 calls := by
    rw [hrecent, hkey]
    exact List.mem_cons_of_mem _ List.mem_cons_self
  obtain ⟨hcache, -, hanswer⟩ :=
    exactlyRecent_and_transparent (σ := Recent CacheKey CachedExpression)
  obtain ⟨c, hc, hruns⟩ := hcache 2 Nat.two_pos
  exact ⟨⟨c, hc, (hruns calls).keys_eq.trans hrecent, (hruns calls).stored "a" .empty hmem⟩,
    hanswer _ _ _ _ _ _⟩

end Engine

end XmlQuery.Query
