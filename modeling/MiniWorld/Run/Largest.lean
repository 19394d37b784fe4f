import Mathlib.Data.Multiset.Sort
/-! # The largest elements of a multiset

`largest k m` is the multiset of the `k` largest elements of `m`, repeats counted: the first
`k` of `m` sorted in decreasing order.  A bounded buffer that, once full, drops one least
element of what it held and what came in keeps exactly the largest: when `s` with one more
element `d` at or below all of it is `t`, then `s` is the `card s` largest of `t`
(`largest_add_of_forall_le`).
-/

namespace MiniWorld.Run

variable {β : Type*} [LinearOrder β]

/-- The `k` largest elements of `m`, with their repeats. -/
def largest (k : ℕ) (m : Multiset β) : Multiset β := ((m.sort (· ≥ ·)).take k : List β)

/-- Dropping one least element leaves the largest: `s` is the `card s` largest of `s` with an
element `d` at or below every element of `s`. -/
theorem largest_add_of_forall_le {s : Multiset β} {d : β} (below : ∀ x ∈ s, d ≤ x) :
    largest (Multiset.card s) (s + {d}) = s := by
  set sorted := s.sort (· ≥ ·) with sorted_def
  -- `d` last keeps the sorted `s` decreasing
  have descending : (sorted ++ [d]).Pairwise (· ≥ ·) := by
    refine List.pairwise_append.mpr ⟨Multiset.pairwise_sort s _, List.pairwise_singleton _ _, ?_⟩
    intro x member y last
    rw [List.mem_singleton.mp last]
    exact below x ((Multiset.mem_sort _).mp member)
  -- two decreasing lists of one multiset are one list
  have same : (s + {d}).sort (· ≥ ·) = sorted ++ [d] := by
    apply List.Perm.eq_of_pairwise' (Multiset.pairwise_sort _ _) descending
    rw [← Multiset.coe_eq_coe, Multiset.sort_eq, ← Multiset.coe_add, sorted_def, Multiset.sort_eq]
    rfl
  unfold largest
  rw [same, List.take_left' (Multiset.length_sort _)]
  exact Multiset.sort_eq s _

end MiniWorld.Run
