import Mathlib
/-! # Hexagons of the axial lattice

A hex grid in axial coordinates `(q, r)` has the third cube coordinate `s = -q - r`; the hexagon
of radius `R` is the set of points whose three cube coordinates are at most `R` in absolute
value.  It has `3 R ^ 2 + 3 R + 1` points: apart from the centre, each point lies in exactly one
of three rhombi of `R * (R + 1)` points, the three rotations of `1 ≤ q ≤ R, -R ≤ r ≤ 0`
(`hexagon_eq_sectors`, `card_hexagon`).
-/

namespace MiniWorld.Grid

/-- The largest absolute value of the cube coordinates `q`, `r` and `-q - r`. -/
def cubeNorm (p : ℤ × ℤ) : ℕ := max (max p.1.natAbs p.2.natAbs) (p.1 + p.2).natAbs

/-- The hexagon of radius `R`. -/
noncomputable def hexagon (R : ℕ) : Finset (ℤ × ℤ) :=
  (Finset.Icc (-R : ℤ) R ×ˢ Finset.Icc (-R : ℤ) R).filter fun p => cubeNorm p ≤ R

/-- The bound on the norm as six linear bounds. -/
theorem cubeNorm_le_iff {p : ℤ × ℤ} {R : ℕ} :
    cubeNorm p ≤ R ↔ -(R : ℤ) ≤ p.1 ∧ p.1 ≤ R ∧ -(R : ℤ) ≤ p.2 ∧ p.2 ≤ R ∧
      -(R : ℤ) ≤ p.1 + p.2 ∧ p.1 + p.2 ≤ R := by
  simp only [cubeNorm]
  omega

theorem mem_hexagon {R : ℕ} {p : ℤ × ℤ} : p ∈ hexagon R ↔ cubeNorm p ≤ R := by
  rcases p with ⟨q, r⟩
  simp only [hexagon, Finset.mem_filter, Finset.mem_product, Finset.mem_Icc, cubeNorm_le_iff]
  omega

/-- The rhombus `1 ≤ a ≤ R, -R ≤ b ≤ 0` of `R * (R + 1)` points. -/
noncomputable def rhombus (R : ℕ) : Finset (ℤ × ℤ) := Finset.Icc (1 : ℤ) R ×ˢ Finset.Icc (-R : ℤ) 0

theorem card_rhombus (R : ℕ) : (rhombus R).card = R * (R + 1) := by
  rw [rhombus, Finset.card_product, Int.card_Icc, Int.card_Icc]
  congr 1 <;> omega

section Sectors

variable (R : ℕ)

/-- The points with `q > 0` and `r ≤ 0`. -/
noncomputable def sectorQ : Finset (ℤ × ℤ) := (hexagon R).filter fun p => 1 ≤ p.1 ∧ p.2 ≤ 0

/-- The points with `r > 0` and `s ≤ 0`. -/
noncomputable def sectorR : Finset (ℤ × ℤ) := (hexagon R).filter fun p => 1 ≤ p.2 ∧ 0 ≤ p.1 + p.2

/-- The points with `s > 0` and `q ≤ 0`. -/
noncomputable def sectorS : Finset (ℤ × ℤ) := (hexagon R).filter fun p => p.1 + p.2 ≤ -1 ∧ p.1 ≤ 0

/-- The centre and the three sectors make up the hexagon. -/
theorem hexagon_eq_sectors : hexagon R = insert (0, 0) (sectorQ R ∪ sectorR R ∪ sectorS R) := by
  ext ⟨q, r⟩
  simp only [sectorQ, sectorR, sectorS, Finset.mem_insert, Finset.mem_union, Finset.mem_filter,
    mem_hexagon, cubeNorm_le_iff, Prod.mk.injEq]
  omega

theorem card_sectorQ : (sectorQ R).card = R * (R + 1) := by
  rw [← card_rhombus R]
  refine Finset.card_nbij' id id ?_ ?_ (fun _ _ => rfl) (fun _ _ => rfl) <;>
  · rintro ⟨q, r⟩ member
    simp only [Finset.mem_coe, sectorQ, rhombus, Finset.mem_filter, Finset.mem_product, Finset.mem_Icc,
      mem_hexagon, cubeNorm_le_iff, id] at member ⊢
    omega

/-- The sector of `r` is the rhombus turned once: `(q, r) ↦ (r, s)`. -/
theorem card_sectorR : (sectorR R).card = R * (R + 1) := by
  rw [← card_rhombus R]
  refine Finset.card_nbij' (fun p => (p.2, -p.1 - p.2)) (fun p => (-p.1 - p.2, p.1)) ?_ ?_ ?_ ?_ <;>
  · rintro ⟨q, r⟩ member
    simp only [Finset.mem_coe, sectorR, rhombus, Finset.mem_filter, Finset.mem_product, Finset.mem_Icc,
      mem_hexagon, cubeNorm_le_iff, Prod.mk.injEq, and_true, true_and] at member ⊢
    omega

/-- The sector of `s` is the rhombus turned twice: `(q, r) ↦ (s, q)`. -/
theorem card_sectorS : (sectorS R).card = R * (R + 1) := by
  rw [← card_rhombus R]
  refine Finset.card_nbij' (fun p => (-p.1 - p.2, p.1)) (fun p => (p.2, -p.1 - p.2)) ?_ ?_ ?_ ?_ <;>
  · rintro ⟨q, r⟩ member
    simp only [Finset.mem_coe, sectorS, rhombus, Finset.mem_filter, Finset.mem_product, Finset.mem_Icc,
      mem_hexagon, cubeNorm_le_iff, Prod.mk.injEq, and_true, true_and] at member ⊢
    omega

end Sectors

/-- The hexagon of radius `R` has `3 R ^ 2 + 3 R + 1` points. -/
theorem card_hexagon (R : ℕ) : (hexagon R).card = 3 * R ^ 2 + 3 * R + 1 := by
  have apart : Disjoint (sectorQ R ∪ sectorR R) (sectorS R) := by
    rw [Finset.disjoint_left]
    rintro ⟨q, r⟩ left right
    simp only [sectorQ, sectorR, sectorS, Finset.mem_union, Finset.mem_filter] at left right
    omega
  have apart' : Disjoint (sectorQ R) (sectorR R) := by
    rw [Finset.disjoint_left]
    rintro ⟨q, r⟩ left right
    simp only [sectorQ, sectorR, Finset.mem_filter] at left right
    omega
  have centre : ((0 : ℤ), (0 : ℤ)) ∉ sectorQ R ∪ sectorR R ∪ sectorS R := by
    simp [sectorQ, sectorR, sectorS]
  rw [hexagon_eq_sectors, Finset.card_insert_of_notMem centre, Finset.card_union_of_disjoint apart,
    Finset.card_union_of_disjoint apart', card_sectorQ, card_sectorR, card_sectorS]
  ring

end MiniWorld.Grid
