import Mathlib.Data.Nat.ModEq
import Mathlib.Data.Finset.Prod
import Mathlib.Data.Finset.Card
/-! # Probing pairs of residues

A search whose `i`-th probe looks at the pair of residues `((t + i * a) % m, (t + i * b) % n)`
visits every pair within its first `m * n` probes when `a` is invertible modulo `m`, `b` modulo
`n`, and `m` and `n` are coprime.  Two probes below `m * n` that agree on both residues agree
modulo `m` and modulo `n`, hence modulo `m * n` by the Chinese remainder theorem, so the first
`m * n` probes are distinct; there are as many of them as pairs.
-/

namespace MiniWorld.Run

/-- The pair of residues of the `i`-th probe from `t`. -/
def probe (m n a b t i : ℕ) : ℕ × ℕ := ((t + i * a) % m, (t + i * b) % n)

section Probe

variable {m n a b : ℕ} (t : ℕ)

/-- The first `m * n` probes are distinct. -/
theorem probe_injOn (am : m.Coprime a) (bn : n.Coprime b) (mn : m.Coprime n) :
    Set.InjOn (probe m n a b t) (Finset.range (m * n) : Set ℕ) := by
  intro i early j early' same
  simp only [probe, Prod.mk.injEq] at same
  have left : i ≡ j [MOD m] :=
    Nat.ModEq.cancel_right_of_coprime am (Nat.ModEq.add_left_cancel' t same.1)
  have right : i ≡ j [MOD n] :=
    Nat.ModEq.cancel_right_of_coprime bn (Nat.ModEq.add_left_cancel' t same.2)
  exact ((Nat.modEq_and_modEq_iff_modEq_mul mn).mp ⟨left, right⟩).eq_of_lt_of_lt
    (Finset.mem_range.mp early) (Finset.mem_range.mp early')

/-- The first `m * n` probes visit every pair of residues. -/
theorem probe_surjOn (am : m.Coprime a) (bn : n.Coprime b) (mn : m.Coprime n) {x y : ℕ}
    (hx : x < m) (hy : y < n) : ∃ i < m * n, probe m n a b t i = (x, y) := by
  have image : (Finset.range (m * n)).image (probe m n a b t) =
      Finset.range m ×ˢ Finset.range n := by
    apply Finset.eq_of_subset_of_card_le
    · intro pair member
      obtain ⟨i, early, rfl⟩ := Finset.mem_image.mp member
      have positive := Nat.pos_of_ne_zero (Nat.ne_zero_of_lt (Finset.mem_range.mp early))
      simp only [probe, Finset.mem_product, Finset.mem_range]
      exact ⟨Nat.mod_lt _ (Nat.pos_of_mul_pos_right positive),
        Nat.mod_lt _ (Nat.pos_of_mul_pos_left positive)⟩
    · rw [Finset.card_product, Finset.card_image_of_injOn (probe_injOn t am bn mn),
        Finset.card_range, Finset.card_range, Finset.card_range]
  have visited : (x, y) ∈ (Finset.range (m * n)).image (probe m n a b t) := by
    rw [image]
    exact Finset.mem_product.mpr ⟨Finset.mem_range.mpr hx, Finset.mem_range.mpr hy⟩
  obtain ⟨i, early, hit⟩ := Finset.mem_image.mp visited
  exact ⟨i, Finset.mem_range.mp early, hit⟩

end Probe

end MiniWorld.Run
