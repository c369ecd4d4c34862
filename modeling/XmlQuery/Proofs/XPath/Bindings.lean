import Mathlib.Data.List.Nodup
import XmlQuery.Proofs.Outcome
import XmlQuery.XPath.Cache

/-!
# Bindings as maps

What an expression compiles to depends on the namespaces that prefixes are bound to, and not on the
order of the bindings. Neither does what it is known by in a cache: the bindings are sorted for it,
and a table that came about by insertions has one binding for a prefix.

## Main results

* `lookup_sorted`: sorting a table changes no binding
* `compile_congr`: equal bindings compile an expression in the same way
* `CacheKey.of_eq_iff`: **a key stands for an expression and a map**
-/

namespace XmlQuery.XPath

open Bindings (insertEntry nodup_insertEntry ofPairs)

variable {b b' : Bindings}

/-! ## Sorted tables -/

/-- The order of the bindings in a sorted table. -/
def PrefixOrdered (x y : String × String) : Bool := decide (x.1 ≤ y.1)

theorem prefixOrdered_trans (x y z : String × String) (hxy : PrefixOrdered x y = true)
    (hyz : PrefixOrdered y z = true) : PrefixOrdered x z = true := by
  simp only [PrefixOrdered, decide_eq_true_iff] at *
  exact String.le_trans hxy hyz

theorem prefixOrdered_total (x y : String × String) :
    (PrefixOrdered x y || PrefixOrdered y x) = true := by
  simpa [PrefixOrdered] using String.le_total x.1 y.1

theorem Bindings.sorted_perm (b : Bindings) : b.sorted.Perm b.entries := List.mergeSort_perm ..

theorem Bindings.sorted_pairwise (b : Bindings) : b.sorted.Pairwise fun x y => x.1 ≤ y.1 :=
  (List.pairwise_mergeSort prefixOrdered_trans prefixOrdered_total b.entries).imp of_decide_eq_true

theorem lookup_eq_head?_filter (p : String) (entries : List (String × String)) :
    entries.lookup p = ((entries.filter (p == ·.1)).head?).map (·.2) := by
  induction entries with
  | nil => rfl
  | cons entry rest ih =>
    rw [List.lookup_cons, List.filter_cons]
    cases hp : p == entry.1 with
    | true => rfl
    | false => exact ih

/-- Sorting a table changes no binding: the bindings of one prefix stay in their order. -/
theorem lookup_sorted (b : Bindings) (p : String) : b.sorted.lookup p = b.get? p := by
  have hordered : (b.entries.filter (p == ·.1)).Pairwise (PrefixOrdered · · = true) := by
    refine List.pairwise_of_forall_mem_list fun x hx y hy => ?_
    rw [PrefixOrdered, ← eq_of_beq (List.mem_filter.1 hx).2, ← eq_of_beq (List.mem_filter.1 hy).2]
    exact decide_eq_true (String.le_refl p)
  have hsub : (b.entries.filter (p == ·.1)).Sublist b.sorted :=
    List.sublist_mergeSort prefixOrdered_trans prefixOrdered_total hordered
      List.filter_sublist
  have heq : b.entries.filter (p == ·.1) = b.sorted.filter (p == ·.1) := by
    refine List.Sublist.eq_of_length_le ?_ (Nat.le_of_eq (b.sorted_perm.filter _).length_eq)
    simpa using hsub.filter (p == ·.1)
  rw [Bindings.get?, lookup_eq_head?_filter, lookup_eq_head?_filter, heq]

/-! ## Tables made by insertions -/

theorem nodup_foldlM_insert {pairs : List (String × String)} {a : Bindings}
    (h : pairs.foldlM (fun b (p, uri) => b.insert p uri) a = .ok b)
    (ha : (a.entries.map (·.1)).Nodup) : (b.entries.map (·.1)).Nodup := by
  induction pairs generalizing a with
  | nil =>
    cases h
    exact ha
  | cons pair rest ih =>
    rw [List.foldlM_cons, bind_eq_ok_iff] at h
    obtain ⟨c, hc, hrest⟩ := h
    simp only [Bindings.insert] at hc
    split at hc
    · cases hc
    · cases hc
      exact ih hrest (nodup_insertEntry ha)

/-- A table made by insertions has one binding for a prefix. -/
theorem nodup_of_ofPairs {pairs : List (String × String)} (h : ofPairs pairs = .ok b) :
    (b.entries.map (·.1)).Nodup :=
  nodup_foldlM_insert h List.nodup_nil

theorem lookup_eq_some_iff_mem {p uri : String} {entries : List (String × String)}
    (h : (entries.map (·.1)).Nodup) : entries.lookup p = some uri ↔ (p, uri) ∈ entries := by
  induction entries with
  | nil => simp
  | cons entry rest ih =>
    rw [List.map_cons, List.nodup_cons] at h
    rw [List.lookup_cons, List.mem_cons]
    cases hp : p == entry.1 with
    | true =>
      obtain rfl := eq_of_beq hp
      have hrest : (entry.1, uri) ∉ rest := fun hmem => h.1 (List.mem_map_of_mem (f := (·.1)) hmem)
      simp [hrest, Prod.ext_iff, eq_comm]
    | false =>
      have hne : (p, uri) ≠ entry := fun heq => beq_eq_false_iff_ne.1 hp (heq ▸ rfl)
      rw [ih h.2, or_iff_right hne]

/-- The bindings of different prefixes can be sorted in one way only. -/
theorem eq_sorted {entries : List (String × String)} (hb : (b.entries.map (·.1)).Nodup)
    (hperm : entries.Perm b.entries) (hle : entries.Pairwise fun x y => x.1 ≤ y.1) :
    entries = b.sorted := by
  refine List.Perm.eq_of_pairwise ?_ hle b.sorted_pairwise (hperm.trans b.sorted_perm.symm)
  intro x y hx hy hxy hyx
  -- Bindings of the same prefix are the same binding.
  exact List.inj_on_of_nodup_map hb (hperm.mem_iff.1 hx) (b.sorted_perm.mem_iff.1 hy)
    (String.le_antisymm hxy hyx)

/-- Tables with one binding for a prefix are sorted to the same list if they bind the same prefixes
to the same namespaces. -/
theorem sorted_eq_of_get? (hb : (b.entries.map (·.1)).Nodup) (hb' : (b'.entries.map (·.1)).Nodup)
    (h : ∀ p, b.get? p = b'.get? p) : b.sorted = b'.sorted := by
  have hperm : b.entries.Perm b'.entries := by
    rw [List.perm_ext_iff_of_nodup (List.Nodup.of_map _ hb) (List.Nodup.of_map _ hb')]
    rintro ⟨p, uri⟩
    rw [← lookup_eq_some_iff_mem hb, ← lookup_eq_some_iff_mem hb']
    exact iff_of_eq (congrArg (· = some uri) (h p))
  exact eq_sorted hb' (b.sorted_perm.trans hperm) b.sorted_pairwise

/-! ## Code -/

theorem resolve_congr (h : ∀ p, b.get? p = b'.get? p) (axis : Axis) (test : NodeTest) :
    test.resolve b axis = test.resolve b' axis := by
  have hrequire : ∀ p, b.require p = b'.require p := fun p => by
    rw [Bindings.require, Bindings.require, Bindings.resolve?, Bindings.resolve?, h]
  have hunprefixed : b.unprefixed axis = b'.unprefixed axis := by
    rw [Bindings.unprefixed, Bindings.unprefixed, Bindings.default?, Bindings.default?, h]
  cases test with
  | name l => rw [NodeTest.resolve, NodeTest.resolve, hunprefixed]
  | qname p l => rw [NodeTest.resolve, NodeTest.resolve, hrequire]
  | wildcard p => rw [NodeTest.resolve, NodeTest.resolve, hrequire]
  | _ => rfl

mutual

/-- The code of an expression depends on what prefixes are bound to. -/
theorem code_congr (h : ∀ p, b.get? p = b'.get? p) (e : Expr) : e.code b = e.code b' := by
  cases e with
  | root | number | string | «variable» => rfl
  | negate operand => rw [Expr.code, Expr.code, code_congr h operand]
  | binary op left right =>
    rw [Expr.code, Expr.code, code_congr h left, code_congr h right]
  | union left right => rw [Expr.code, Expr.code, code_congr h left, code_congr h right]
  | path base axis test predicates =>
    rw [Expr.code, Expr.code, code_congr h base, resolve_congr h, programs_congr h predicates]
  | step axis test predicates =>
    rw [Expr.code, Expr.code, resolve_congr h, programs_congr h predicates]
  | filter base predicate => rw [Expr.code, Expr.code, code_congr h base, code_congr h predicate]
  | call name arguments => rw [Expr.code, Expr.code, codes_congr h arguments]

theorem codes_congr (h : ∀ p, b.get? p = b'.get? p) (es : List Expr) :
    codes b es = codes b' es := by
  cases es with
  | nil => rfl
  | cons e rest => rw [codes, codes, code_congr h e, codes_congr h rest]

theorem programs_congr (h : ∀ p, b.get? p = b'.get? p) (es : List Expr) :
    programs b es = programs b' es := by
  cases es with
  | nil => rfl
  | cons e rest => rw [programs, programs, code_congr h e, programs_congr h rest]

end

/-- Equal bindings compile an expression in the same way, if they were made in another order. -/
theorem compile_congr (source : String) (h : ∀ p, b.get? p = b'.get? p) :
    CompiledExpression.compile source b = CompiledExpression.compile source b' := by
  rw [CompiledExpression.compile, CompiledExpression.compile]
  cases parse source with
  | error e => rfl
  | ok e => exact congrArg (Except.map _) (code_congr h e)

/-! ## Keys -/

theorem get?_of_key_eq {source source' : String}
    (h : CacheKey.of source b = CacheKey.of source' b') :
    source = source' ∧ ∀ p, b.get? p = b'.get? p := by
  injection h with hsource hsorted
  refine ⟨hsource, fun p => ?_⟩
  rw [← lookup_sorted, ← lookup_sorted, hsorted]

/-- What is known by one key compiles in the same way. -/
theorem compile_eq_of_key_eq {source source' : String}
    (h : CacheKey.of source b = CacheKey.of source' b') :
    CompiledExpression.compile source b = CompiledExpression.compile source' b' := by
  obtain ⟨rfl, hget⟩ := get?_of_key_eq h
  exact compile_congr source hget

/-- **A key stands for an expression and a map**: it tells tables apart by what they bind, and not
by the order of their insertions. -/
theorem CacheKey.of_eq_iff {source source' : String} {pairs pairs' : List (String × String)}
    (hb : ofPairs pairs = .ok b) (hb' : ofPairs pairs' = .ok b') :
    CacheKey.of source b = CacheKey.of source' b' ↔
      source = source' ∧ ∀ p, b.get? p = b'.get? p := by
  constructor
  · exact get?_of_key_eq
  · rintro ⟨rfl, hget⟩
    rw [CacheKey.of, CacheKey.of,
      sorted_eq_of_get? (nodup_of_ofPairs hb) (nodup_of_ofPairs hb') hget]

end XmlQuery.XPath
