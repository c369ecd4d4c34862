import Mathlib.Data.Finset.Sort
import XmlQuery.XPath.Machine

/-!
# Document order

Putting nodes in document order makes a list of the set of them: nothing but their order and
their repetitions is lost.

## Main results

* `sortedLT_inDocumentOrder`, `mem_inDocumentOrder`: the order and the members of the list
* `inDocumentOrder_eq_sort`: it lists the set of the nodes from the least on
-/

namespace XmlQuery.XPath

theorem mem_withoutRepetitions {id : Nat} {nodes : List Nat} :
    id ∈ withoutRepetitions nodes ↔ id ∈ nodes := by
  fun_induction withoutRepetitions nodes with
  | case1 => rfl
  | case2 => rfl
  | case3 a rest ih => simp [ih]
  | case4 a b rest h ih => simp [ih]

/-- In a sorted list equal nodes are neighbours, so no node is left twice. -/
theorem sortedLT_withoutRepetitions {nodes : List Nat} (h : nodes.SortedLE) :
    (withoutRepetitions nodes).SortedLT := by
  rw [List.sortedLT_iff_pairwise]
  have hle := h.pairwise
  clear h
  fun_induction withoutRepetitions nodes with
  | case1 => exact .nil
  | case2 => exact List.pairwise_singleton _ _
  | case3 a rest ih => exact ih hle.of_cons
  | case4 a b rest hab ih =>
    refine List.pairwise_cons.2 ⟨fun c hc => ?_, ih hle.of_cons⟩
    have hb : a ≤ b := List.rel_of_pairwise_cons hle List.mem_cons_self
    rcases List.mem_cons.1 (mem_withoutRepetitions.1 hc) with rfl | hc
    · omega
    · have hbc : b ≤ c := List.rel_of_pairwise_cons hle.of_cons hc
      omega

theorem mem_inDocumentOrder {id : Nat} {nodes : List Nat} :
    id ∈ inDocumentOrder nodes ↔ id ∈ nodes := by
  rw [inDocumentOrder, mem_withoutRepetitions, List.mem_mergeSort]

theorem sortedLT_inDocumentOrder (nodes : List Nat) : (inDocumentOrder nodes).SortedLT :=
  sortedLT_withoutRepetitions (List.pairwise_mergeSort' (· ≤ ·) nodes).sortedLE

/-- Nodes in document order are the list of the set of them. -/
theorem inDocumentOrder_eq_sort (nodes : List Nat) :
    inDocumentOrder nodes = nodes.toFinset.sort := by
  apply (sortedLT_inDocumentOrder nodes).eq_of_mem_iff (Finset.sortedLT_sort _)
  intro id
  rw [mem_inDocumentOrder, Finset.mem_sort, List.mem_toFinset]

end XmlQuery.XPath
