import MiniWorld.Engine.Merchant
import MiniWorld.Run.FirstMin
import Mathlib.Algebra.Order.BigOperators.Group.Finset
/-! # Greedy routes (`internal/engine/market.go` `routeCost`, `internal/world/hex.go`)

`routeCost` walks from one hex toward another, each round moving to the first neighbour
strictly closer than everything before it, and adds the terrain cost of each hex it enters.
The loop has no bound of its own; it rests on a fact of cube coordinates.  A hex that is not
the target has a neighbour exactly one step closer (`exists_neighbor_closer`), and by the
triangle inequality none is closer than that (`distance_le_neighbor`).  So every round moves
to a neighbour one step closer (`stepToward_spec`), the walk reaches the target in exactly
`Distance` rounds, and the cost is the sum of the costs of the hexes it enters
(`greedy_route_is_shortest`).
-/

namespace MiniWorld.Engine

open MiniWorld.Run (scanMin scanMin_le_of_mem scanMin_cases)

/-! ## Hex geometry -/

@[simp] theorem distance_self (a : HexCoord) : distance a a = 0 := by
  simp [distance]

theorem stepToward_eq (cur target : HexCoord) :
    stepToward cur target =
      (scanMin (fun n => distance n target) cur.neighbors (cur, distance cur target)).1 := rfl

/-- `Distance` read off the differences of the axial coordinates. -/
theorem distance_eq (a b : HexCoord) :
    distance a b = max (max (a.q - b.q).natAbs (a.r - b.r).natAbs) (a.q - b.q + (a.r - b.r)).natAbs := by
  rw [distance, HexCoord.s, HexCoord.s, ← Int.natAbs_neg (a.q - b.q + (a.r - b.r))]
  congr 2
  ring

/-- The distance from a hex moved by `(dq, dr)`, in the differences of the hex it moved from. -/
theorem distance_moved (cur target : HexCoord) (dq dr : ℤ) :
    distance ⟨cur.q + dq, cur.r + dr⟩ target =
      max (max (cur.q - target.q + dq).natAbs (cur.r - target.r + dr).natAbs)
        (cur.q - target.q + (cur.r - target.r) + (dq + dr)).natAbs := by
  rw [distance_eq, show cur.q + dq - target.q + (cur.r + dr - target.r) =
      cur.q - target.q + (cur.r - target.r) + (dq + dr) by ring,
    show cur.q + dq - target.q = cur.q - target.q + dq by ring,
    show cur.r + dr - target.r = cur.r - target.r + dr by ring]

theorem distance_triangle (a b c : HexCoord) : distance a c ≤ distance a b + distance b c := by
  rw [distance_eq, distance_eq, distance_eq]
  -- on each of the three axes the difference is the sum of the two steps' differences
  have q := Int.natAbs_add_le (a.q - b.q) (b.q - c.q)
  have r := Int.natAbs_add_le (a.r - b.r) (b.r - c.r)
  have s := Int.natAbs_add_le (a.q - b.q + (a.r - b.r)) (b.q - c.q + (b.r - c.r))
  rw [sub_add_sub_cancel] at q r
  rw [show a.q - b.q + (a.r - b.r) + (b.q - c.q + (b.r - c.r)) = a.q - c.q + (a.r - c.r) by ring] at s
  omega

theorem distance_neighbor (cur : HexCoord) : ∀ n ∈ cur.neighbors, distance cur n = 1 := by
  intro n member
  simp only [HexCoord.neighbors, hexNeighborDirections, List.map_cons, List.map_nil,
    List.mem_cons, List.not_mem_nil, or_false] at member
  rcases member with rfl | rfl | rfl | rfl | rfl | rfl <;> simp [distance_eq]

/-- A neighbour is at most one step nearer to any hex. -/
theorem distance_le_neighbor (cur target : HexCoord) :
    ∀ n ∈ cur.neighbors, distance cur target ≤ distance n target + 1 := by
  intro n member
  have step := distance_triangle cur n target
  rw [distance_neighbor cur n member] at step
  omega

/-- A hex other than the target has a neighbour one step nearer: step along an axis on which
the two cube differences have opposite signs. -/
theorem exists_neighbor_closer (cur target : HexCoord) (apart : cur ≠ target) :
    ∃ n ∈ cur.neighbors, distance n target + 1 = distance cur target := by
  have moved : cur.q ≠ target.q ∨ cur.r ≠ target.r := by
    by_contra same
    simp only [not_or, not_not] at same
    exact apart (by cases cur; cases target; simp_all)
  have closer : ∀ dq dr : ℤ, ⟨dq, dr⟩ ∈ hexNeighborDirections →
      distance ⟨cur.q + dq, cur.r + dr⟩ target + 1 = distance cur target →
      ∃ n ∈ cur.neighbors, distance n target + 1 = distance cur target := fun dq dr listed nearer =>
    ⟨_, List.mem_map.mpr ⟨⟨dq, dr⟩, listed, rfl⟩, nearer⟩
  rcases lt_trichotomy cur.q target.q with west | level | east
  · by_cases below : cur.q + cur.r < target.q + target.r
    · exact closer 1 0 (by decide) (by rw [distance_moved, distance_eq]; omega)
    · exact closer 1 (-1) (by decide) (by rw [distance_moved, distance_eq]; omega)
  · rcases lt_or_gt_of_ne (moved.resolve_left (not_not.mpr level)) with north | south
    · exact closer 0 1 (by decide) (by rw [distance_moved, distance_eq]; omega)
    · exact closer 0 (-1) (by decide) (by rw [distance_moved, distance_eq]; omega)
  · by_cases above : target.q + target.r < cur.q + cur.r
    · exact closer (-1) 0 (by decide) (by rw [distance_moved, distance_eq]; omega)
    · exact closer (-1) 1 (by decide) (by rw [distance_moved, distance_eq]; omega)

/-- A round of `routeCost` away from the target moves to a neighbour exactly one step
closer: the scan finds the closer neighbour, and nothing below it. -/
theorem stepToward_spec (cur target : HexCoord) (apart : cur ≠ target) :
    stepToward cur target ∈ cur.neighbors ∧
      distance (stepToward cur target) target + 1 = distance cur target := by
  obtain ⟨n, member, closer⟩ := exists_neighbor_closer cur target apart
  have low := scanMin_le_of_mem (fun n => distance n target) cur.neighbors
    (cur, distance cur target) n member
  rw [stepToward_eq]
  rcases scanMin_cases (fun n => distance n target) cur.neighbors (cur, distance cur target)
    with same | ⟨chosen, valued⟩
  · -- the scan cannot stay put: a neighbour lies below its start
    rw [same] at low
    change distance cur target ≤ distance n target at low
    omega
  · have floor := distance_le_neighbor cur target _ chosen
    exact ⟨chosen, by omega⟩

/-! ## The walk -/

/-- After `k` rounds within the distance, the walk is `k` steps nearer. -/
theorem iterate_stepToward_distance (origin target : HexCoord) :
    ∀ k ≤ distance origin target,
      distance ((fun c => stepToward c target)^[k] origin) target + k = distance origin target
  | 0, _ => rfl
  | k + 1, within => by
    have before := iterate_stepToward_distance origin target k (by omega)
    have apart : (fun c => stepToward c target)^[k] origin ≠ target := by
      rintro arrived
      rw [arrived, distance_self] at before
      omega
    rw [Function.iterate_succ_apply']
    have := (stepToward_spec _ target apart).2
    omega

/-- The cost of the loop, given fuel for the whole distance: what it had plus the entry cost
of every hex the walk enters. -/
theorem routeCostLoop_sum (hexAt : HexCoord → Option Hex) (target : HexCoord) :
    ∀ (fuel : ℕ) (cur : HexCoord) (cost : ℕ), distance cur target ≤ fuel →
      routeCostLoop hexAt target fuel cur cost = cost +
        ∑ i ∈ Finset.range (distance cur target),
          enterCost hexAt ((fun c => stepToward c target)^[i + 1] cur)
  | 0, cur, cost, near => by
    rw [Nat.le_zero.mp near]
    rfl
  | fuel + 1, cur, cost, near => by
    by_cases arrived : cur = target
    · subst arrived
      simp [routeCostLoop, distance_self]
    · obtain ⟨_, closer⟩ := stepToward_spec cur target arrived
      have moved : stepToward cur target ≠ cur := fun stayed => by
        rw [stayed] at closer
        omega
      simp only [routeCostLoop, arrived, moved, if_false]
      rw [routeCostLoop_sum hexAt target fuel _ _ (by omega), ← closer, Finset.sum_range_succ']
      simp only [Function.iterate_succ_apply, Function.iterate_zero_apply]
      ring

/-- Every hex costs between 3 (river) and 999 (ocean) ticks to enter. -/
theorem enterCost_mem (hexAt : HexCoord → Option Hex) (coord : HexCoord) :
    3 ≤ enterCost hexAt coord ∧ enterCost hexAt coord ≤ 999 := by
  unfold enterCost
  split
  · rename_i hex _
    cases hex.terrain <;> decide
  · decide

theorem greedy_route_is_shortest (hexAt : HexCoord → Option Hex) (origin target : HexCoord) :
    (∀ k < distance origin target,
      (fun c => stepToward c target)^[k + 1] origin ∈
          ((fun c => stepToward c target)^[k] origin).neighbors ∧
        distance ((fun c => stepToward c target)^[k + 1] origin) target + 1 =
          distance ((fun c => stepToward c target)^[k] origin) target) ∧
    (∀ k < distance origin target, (fun c => stepToward c target)^[k] origin ≠ target) ∧
    (fun c => stepToward c target)^[distance origin target] origin = target ∧
    routeCost hexAt origin target = ∑ i ∈ Finset.range (distance origin target),
      enterCost hexAt ((fun c => stepToward c target)^[i + 1] origin) ∧
    (∀ extra, routeCostLoop hexAt target (distance origin target + extra) origin 0 =
      routeCost hexAt origin target) ∧
    3 * distance origin target ≤ routeCost hexAt origin target ∧
    routeCost hexAt origin target ≤ 999 * distance origin target ∧
    (routeCost hexAt origin target = 0 ↔ origin = target) := by
  have apart : ∀ k < distance origin target, (fun c => stepToward c target)^[k] origin ≠ target := by
    intro k within arrived
    have := iterate_stepToward_distance origin target k within.le
    rw [arrived, distance_self] at this
    omega
  have summed : routeCost hexAt origin target = ∑ i ∈ Finset.range (distance origin target),
      enterCost hexAt ((fun c => stepToward c target)^[i + 1] origin) := by
    rw [routeCost, routeCostLoop_sum hexAt target _ origin 0 le_rfl, zero_add]
  have lower : 3 * distance origin target ≤ routeCost hexAt origin target := by
    rw [summed]
    simpa [mul_comm] using Finset.card_nsmul_le_sum (Finset.range (distance origin target)) _ 3
      (fun i _ => (enterCost_mem hexAt _).1)
  have upper : routeCost hexAt origin target ≤ 999 * distance origin target := by
    rw [summed]
    simpa [mul_comm] using Finset.sum_le_card_nsmul (Finset.range (distance origin target)) _ 999
      (fun i _ => (enterCost_mem hexAt _).2)
  refine ⟨fun k within => ?_, apart, ?_, summed,
    fun extra => routeCostLoop_fuel hexAt target _ extra origin 0 le_rfl, lower, upper, ?_⟩
  · rw [Function.iterate_succ_apply']
    exact stepToward_spec _ target (apart k within)
  · have := iterate_stepToward_distance origin target _ le_rfl
    exact eq_of_distance_eq_zero (by omega)
  · constructor
    · intro free
      exact eq_of_distance_eq_zero (by omega)
    · rintro rfl
      simpa [distance_self] using summed

end MiniWorld.Engine
