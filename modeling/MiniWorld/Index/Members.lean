import Mathlib.Data.List.Perm.Basic
import Mathlib.Data.List.Basic
import Mathlib.Data.List.Nodup

/-! # Lists as sets of members

A list without duplicates stands for the set of its members; these are the
counting facts the index proofs need when one such list is a slice of another:

* `length_filter_not_mem_add` — dropping the members of a sublist `removed`
  shortens a list by the length of `removed`;
* `length_eq_add_of_mem_iff` — a list whose members are those of two disjoint
  lists is as long as both together.
-/

namespace MiniWorld.Index

variable {α : Type*}

/-- Dropping the members of `removed`, all of them in `l`, shortens `l` by the
length of `removed`. -/
theorem length_filter_not_mem_add [DecidableEq α] {l removed : List α} (distinct : l.Nodup)
    (removedDistinct : removed.Nodup) (inside : removed ⊆ l) :
    (l.filter fun a => a ∉ removed).length + removed.length = l.length := by
  have kept : (l.filter fun a => a ∈ removed).Perm removed :=
    (List.perm_ext_iff_of_nodup (distinct.filter _) removedDistinct).mpr fun a => by
      simp only [List.mem_filter, decide_eq_true_eq]
      exact ⟨fun member => member.2, fun member => ⟨inside member, member⟩⟩
  have split : l.length = (l.filter fun a => decide (a ∈ removed)).length +
      (l.filter fun a => !decide (a ∈ removed)).length := List.length_eq_length_filter_add _
  simp only [decide_not]
  rw [← kept.length_eq]
  omega

/-- A list whose members are those of `first` or `second`, two disjoint lists,
is as long as both together. -/
theorem length_eq_add_of_mem_iff {l first second : List α} (distinct : l.Nodup)
    (firstDistinct : first.Nodup) (secondDistinct : second.Nodup)
    (apart : ∀ a ∈ first, a ∉ second) (members : ∀ a, a ∈ l ↔ a ∈ first ∨ a ∈ second) :
    l.length = first.length + second.length := by
  have joined : l.Perm (first ++ second) :=
    (List.perm_ext_iff_of_nodup distinct
      (firstDistinct.append secondDistinct fun a inFirst inSecond => apart a inFirst inSecond)).mpr
      fun a => by rw [List.mem_append, members]
  rw [joined.length_eq, List.length_append]

end MiniWorld.Index
