import Mathlib.Data.List.Sort
import Mathlib.Algebra.Order.Ring.Rat
/-! # An unstable sort

Go's `sort.Slice(xs, less)` reorders `xs` so that no element is `less` than one before it, but it
is not stable: elements neither of which is `less` than the other come out in whatever order its
pattern-defeating quicksort leaves them.  A `SliceSort` is any function with that contract, for
orders given by a rational key, so that what is proved for every `SliceSort` holds whichever
order the sort gives the ties.  The stable merge sort is one (`SliceSort.merge`).
-/

namespace MiniWorld.Run

/-- A sort ascending by a rational key, which leaves the order of equal keys open. -/
structure SliceSort (α : Type*) where
  sort : (α → ℚ) → List α → List α
  perm : ∀ (key : α → ℚ) (xs : List α), (sort key xs).Perm xs
  sorted : ∀ (key : α → ℚ) (xs : List α), (sort key xs).Pairwise fun a b => key a ≤ key b

namespace SliceSort

variable {α : Type*}

theorem mem_sort (slice : SliceSort α) {key : α → ℚ} {xs : List α} {x : α} :
    x ∈ slice.sort key xs ↔ x ∈ xs :=
  (slice.perm key xs).mem_iff

/-- The stable merge sort. -/
def merge : SliceSort α where
  sort key xs := xs.mergeSort fun a b => decide (key a ≤ key b)
  perm key xs := List.mergeSort_perm xs _
  sorted key xs := by
    have ordered := @List.pairwise_mergeSort α (fun a b => decide (key a ≤ key b))
      (fun a b c ab bc => by
        simp only [decide_eq_true_eq] at ab bc ⊢
        exact ab.trans bc)
      (fun a b => by simpa using le_total (key a) (key b)) xs
    simpa using ordered

theorem merge_sort_of_pairwise {key : α → ℚ} {xs : List α} (ordered : xs.Pairwise fun a b => key a ≤ key b) :
    merge.sort key xs = xs :=
  List.mergeSort_of_pairwise (by simpa using ordered)

end SliceSort

end MiniWorld.Run
