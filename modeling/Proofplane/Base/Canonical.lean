import Mathlib.Data.List.Destutter
import Mathlib.Data.List.Sort

/-!
# Lists as sets

A list that stands for the set of its elements is sorted, and equal neighbours are merged.

* `sortDedup`              both in turn;
* `sortDedup_eq_iff`       **two lists become the same exactly when they have the same elements**.
-/

namespace Base
variable {α : Type*}

section
variable [DecidableEq α]

/-- merging drops nothing but repetitions -/
theorem mem_destutter'_ne {l : List α} {a b : α} :
    a ∈ l.destutter' (· ≠ ·) b ↔ a = b ∨ a ∈ l := by
  induction l generalizing b with
  | nil => simp [List.destutter'_nil]
  | cons c l ih =>
    by_cases hbc : b ≠ c
    · rw [List.destutter'_cons_pos _ hbc, List.mem_cons, ih, List.mem_cons]
    · rw [List.destutter'_cons_neg _ hbc, ih, List.mem_cons]
      have heq : b = c := not_not.mp hbc
      rw [← heq]
      tauto

theorem mem_destutter_ne {l : List α} {a : α} : a ∈ l.destutter (· ≠ ·) ↔ a ∈ l := by
  cases l with
  | nil => rfl
  | cons b l =>
    rw [List.destutter_cons', mem_destutter'_ne, List.mem_cons]

end

variable [LinearOrder α]

/-- sorted, and equal neighbours once -/
def sortDedup (l : List α) : List α := (l.insertionSort (· ≤ ·)).destutter (· ≠ ·)

variable {l l' : List α}

theorem mem_sortDedup {a : α} : a ∈ sortDedup l ↔ a ∈ l := by
  unfold sortDedup
  rw [mem_destutter_ne, List.mem_insertionSort]

/-- every element is below those that follow it -/
theorem sortDedup_pairwise (l : List α) : (sortDedup l).Pairwise (· < ·) := by
  have hsorted : (l.insertionSort (· ≤ ·)).Pairwise (· ≤ ·) := List.pairwise_insertionSort _ l
  have hle : (sortDedup l).Pairwise (· ≤ ·) := hsorted.sublist (List.destutter_sublist _ _)
  have hne : (sortDedup l).IsChain (· ≠ ·) := List.isChain_destutter _ _
  have hlt : (sortDedup l).IsChain (· < ·) := by
    rw [List.isChain_iff_getElem]
    intro i hi
    exact lt_of_le_of_ne (hle.isChain.getElem i hi) (hne.getElem i hi)
  exact hlt.pairwise

theorem sortDedup_nodup (l : List α) : (sortDedup l).Nodup := (sortDedup_pairwise l).nodup

theorem sortDedup_eq_iff : sortDedup l = sortDedup l' ↔ ∀ a, a ∈ l ↔ a ∈ l' := by
  constructor
  · intro h a
    rw [← mem_sortDedup, h, mem_sortDedup]
  · intro h
    refine (sortDedup_pairwise l).eq_of_mem_iff (sortDedup_pairwise l') ?_
    intro a
    rw [mem_sortDedup, mem_sortDedup]
    exact h a

end Base
