import MiniWorld.Engine.Migration
/-! # The neighbour indexes (`internal/engine/simulation.go` `BuildSettlementNeighbors`)

`BuildSettlementNeighbors` fills two caches.  `SettlementNeighbors` comes from a triangular
pair loop over `Settlements` that appends each populated pair within ten hexes to both
endpoints' entries (`buildSettlementNeighbors`, in `Migration.lean`).  `SettlementTradeNeighbors`
then walks that map and keeps, under each ID, the neighbours within five hexes of the
settlement `SettlementIndex` gives for the ID, if they have a market.  The walk touches
each key of the map once and writes only that key's entry, so Go's random map order does
not show, and the model gives the entry of each key directly
(`buildSettlementTradeNeighbors`).

With distinct IDs and an index that agrees with the list, the neighbours of a settlement
are exactly the other populated settlements within ten hexes, in list order, each once, and
the trade neighbours are the part of that list within five hexes with a market
(`neighbor_indexes_exact`).
-/

namespace MiniWorld.Engine

namespace Simulation

/-- The trade index of `BuildSettlementNeighbors`, built from the neighbour index. -/
def buildSettlementTradeNeighbors (s : Simulation) (neighbors : ℕ → Option (List SettRef)) :
    ℕ → Option (List SettRef) := fun id =>
  match neighbors id, s.settlementIndex id with
  | some nbs, some sett =>
    match nbs.filter fun nb => distance (s.settlementAt sett).position
        (s.settlementAt nb).position ≤ 5 ∧ (s.settlementAt nb).market.isSome with
    | [] => none
    | kept => some kept
  | _, _ => none

/-- The test of the pair loop: both settlements populated and at most ten hexes apart. -/
def Linked (s : Simulation) (a b : SettRef) : Prop :=
  0 < (s.settlementAt a).population ∧ 0 < (s.settlementAt b).population ∧
    distance (s.settlementAt a).position (s.settlementAt b).position ≤ 10

instance (s : Simulation) (a b : SettRef) : Decidable (s.Linked a b) :=
  inferInstanceAs (Decidable (_ ∧ _ ∧ _))

theorem distance_comm (a b : HexCoord) : distance a b = distance b a := by
  -- each of the three differences only changes sign
  have flip : ∀ x y : ℤ, (x - y).natAbs = (y - x).natAbs := fun x y => by
    rw [← Int.natAbs_neg, neg_sub]
  simp only [distance, flip a.q, flip a.r, flip a.s]

theorem Linked.symm {s : Simulation} {a b : SettRef} (linked : s.Linked a b) : s.Linked b a :=
  ⟨linked.2.1, linked.1, distance_comm _ _ ▸ linked.2.2⟩

/-- One later settlement `b` of the pair loop for `a`. -/
def pairStep (s : Simulation) (a : SettRef) (neighbors : ℕ → Option (List SettRef))
    (b : SettRef) : ℕ → Option (List SettRef) :=
  let sb := s.settlementAt b
  if sb.population = 0 then neighbors
  else if distance (s.settlementAt a).position sb.position ≤ 10 then
    addNeighbor (addNeighbor neighbors (s.settlementAt a).id b) sb.id a
  else neighbors

theorem neighborPairs_cons (s : Simulation) (a : SettRef) (later : List SettRef)
    (neighbors : ℕ → Option (List SettRef)) :
    s.neighborPairs (a :: later) neighbors = s.neighborPairs later
      (if (s.settlementAt a).population = 0 then neighbors else later.foldl (s.pairStep a) neighbors) :=
  rfl

theorem addNeighbor_getD (neighbors : ℕ → Option (List SettRef)) (k : ℕ) (q : SettRef) (j : ℕ) :
    (addNeighbor neighbors k q j).getD [] = (neighbors j).getD [] ++ if j = k then [q] else [] := by
  unfold addNeighbor
  by_cases atKey : j = k
  · subst atKey
    simp
  · simp [atKey]

/-- The entries one step of the pair loop adds under the key `j`. -/
theorem pairStep_getD (s : Simulation) {a : SettRef} (populated : 0 < (s.settlementAt a).population)
    (neighbors : ℕ → Option (List SettRef)) (b : SettRef) (j : ℕ) :
    (s.pairStep a neighbors b j).getD [] = (neighbors j).getD [] ++
      if s.Linked a b then
        (if j = (s.settlementAt a).id then [b] else []) ++
          (if j = (s.settlementAt b).id then [a] else [])
      else [] := by
  unfold pairStep
  by_cases linked : s.Linked a b
  · have occupied : (s.settlementAt b).population ≠ 0 := Nat.pos_iff_ne_zero.mp linked.2.1
    simp only [linked, occupied, linked.2.2, if_true, if_false, addNeighbor_getD, List.append_assoc]
  · simp only [linked, if_false, List.append_nil]
    split_ifs with empty near
    · rfl
    · exact absurd ⟨populated, Nat.pos_of_ne_zero empty, near⟩ linked
    · rfl

/-- The pair loop for `a` over the later settlements, key by key. -/
theorem foldl_pairStep_getD (s : Simulation) {a : SettRef}
    (populated : 0 < (s.settlementAt a).population) (j : ℕ) :
    ∀ (later : List SettRef) (neighbors : ℕ → Option (List SettRef)),
      ((later.foldl (s.pairStep a) neighbors) j).getD [] = (neighbors j).getD [] ++
        later.flatMap fun b => if s.Linked a b then
          (if j = (s.settlementAt a).id then [b] else []) ++
            (if j = (s.settlementAt b).id then [a] else [])
        else []
  | [], _ => by simp
  | b :: rest, neighbors => by
    rw [List.foldl_cons, foldl_pairStep_getD s populated j rest, pairStep_getD s populated,
      List.flatMap_cons, List.append_assoc]

/-- A step of the pair loop writes only under the two keys of the pair. -/
theorem pairStep_other (s : Simulation) (a : SettRef) (neighbors : ℕ → Option (List SettRef))
    (b : SettRef) {j : ℕ} (notA : j ≠ (s.settlementAt a).id) (notB : j ≠ (s.settlementAt b).id) :
    s.pairStep a neighbors b j = neighbors j := by
  unfold pairStep addNeighbor
  split_ifs <;> simp [Function.update_of_ne, notA, notB]

theorem foldl_pairStep_other (s : Simulation) (a : SettRef) {j : ℕ}
    (notA : j ≠ (s.settlementAt a).id) :
    ∀ (later : List SettRef) (neighbors : ℕ → Option (List SettRef)),
      (∀ b ∈ later, j ≠ (s.settlementAt b).id) → (later.foldl (s.pairStep a) neighbors) j = neighbors j
  | [], _, _ => rfl
  | b :: rest, neighbors, notLater => by
    rw [List.foldl_cons, foldl_pairStep_other s a notA rest _
      fun b member => notLater b (List.mem_cons_of_mem _ member),
      pairStep_other s a neighbors b notA (notLater b List.mem_cons_self)]

/-- The settlements after `a` add nothing under a key that none of them has and `a` lacks. -/
theorem flatMap_pairs_other (s : Simulation) (a : SettRef) (j : ℕ) (later : List SettRef)
    (notA : j ≠ (s.settlementAt a).id) (notLater : ∀ b ∈ later, j ≠ (s.settlementAt b).id) :
    (later.flatMap fun b => if s.Linked a b then
        (if j = (s.settlementAt a).id then [b] else []) ++
          (if j = (s.settlementAt b).id then [a] else [])
      else []) = [] := by
  simp only [List.flatMap_eq_nil_iff]
  intro b member
  simp [notA, notLater b member]

/-- Under `a`'s own key, the pair loop for `a` lists the linked later settlements. -/
theorem flatMap_pairs_self (s : Simulation) (a : SettRef) (later : List SettRef)
    (apart : ∀ b ∈ later, (s.settlementAt a).id ≠ (s.settlementAt b).id) :
    (later.flatMap fun b => if s.Linked a b then
        (if (s.settlementAt a).id = (s.settlementAt a).id then [b] else []) ++
          (if (s.settlementAt a).id = (s.settlementAt b).id then [a] else [])
      else []) = later.filter fun b => s.Linked a b := by
  induction later with
  | nil => rfl
  | cons b rest ih =>
    have others : ∀ b ∈ rest, (s.settlementAt a).id ≠ (s.settlementAt b).id :=
      fun b member => apart b (List.mem_cons_of_mem _ member)
    rw [List.flatMap_cons, ih others, List.filter_cons]
    split_ifs <;> simp_all

/-- Under the key of a later settlement `x`, the pair loop for `a` lists `a` once if the two are
linked. -/
theorem flatMap_pairs_later (s : Simulation) (a x : SettRef) (later : List SettRef)
    (member : x ∈ later) (notA : (s.settlementAt x).id ≠ (s.settlementAt a).id)
    (distinct : (later.map fun q => (s.settlementAt q).id).Nodup) :
    (later.flatMap fun b => if s.Linked a b then
        (if (s.settlementAt x).id = (s.settlementAt a).id then [b] else []) ++
          (if (s.settlementAt x).id = (s.settlementAt b).id then [a] else [])
      else []) = if s.Linked a x then [a] else [] := by
  induction later with
  | nil => cases member
  | cons b rest ih =>
    rw [List.map_cons, List.nodup_cons] at distinct
    rw [List.flatMap_cons]
    rcases List.mem_cons.mp member with rfl | inRest
    · -- no later settlement shares the key of `x`
      rw [flatMap_pairs_other s a _ rest notA fun b listed same =>
        distinct.1 (List.mem_map.mpr ⟨b, listed, same.symm⟩)]
      simp [notA]
    · have apart : (s.settlementAt x).id ≠ (s.settlementAt b).id := fun same =>
        distinct.1 (List.mem_map.mpr ⟨x, inRest, same⟩)
      rw [ih inRest distinct.2]
      simp [notA, apart]

/-- The neighbours the pair loop over `l` lists under each key, given distinct IDs: under the
key of a settlement of `l`, the others of `l` linked to it, in order; under any other key,
nothing new. -/
theorem neighborPairs_getD (s : Simulation) :
    ∀ (l : List SettRef), (l.map fun q => (s.settlementAt q).id).Nodup →
      ∀ neighbors : ℕ → Option (List SettRef),
        (∀ x ∈ l, (s.neighborPairs l neighbors (s.settlementAt x).id).getD [] =
          (neighbors (s.settlementAt x).id).getD [] ++ l.filter fun y => y ≠ x ∧ s.Linked x y) ∧
        (∀ j, (∀ x ∈ l, j ≠ (s.settlementAt x).id) → s.neighborPairs l neighbors j = neighbors j)
  | [], _, _ => ⟨fun _ member => (List.not_mem_nil member).elim, fun _ _ => rfl⟩
  | a :: later, distinct, neighbors => by
    have distinct' := distinct
    rw [List.map_cons, List.nodup_cons] at distinct'
    have aLater : ∀ b ∈ later, (s.settlementAt a).id ≠ (s.settlementAt b).id :=
      fun b member same => distinct'.1 (List.mem_map.mpr ⟨b, member, same.symm⟩)
    have aFresh : a ∉ later := fun member => aLater a member rfl
    obtain ⟨laterKeys, laterOthers⟩ := neighborPairs_getD s later distinct'.2
      (if (s.settlementAt a).population = 0 then neighbors else later.foldl (s.pairStep a) neighbors)
    rw [neighborPairs_cons]
    -- what the pair loop for `a` adds under the key `j`
    have added : ∀ j, ((if (s.settlementAt a).population = 0 then neighbors
        else later.foldl (s.pairStep a) neighbors) j).getD [] = (neighbors j).getD [] ++
          later.flatMap fun b => if s.Linked a b then
            (if j = (s.settlementAt a).id then [b] else []) ++
              (if j = (s.settlementAt b).id then [a] else [])
          else [] := by
      intro j
      by_cases empty : (s.settlementAt a).population = 0
      · have unlinked : ∀ b, ¬ s.Linked a b := fun b linked => by
          have := linked.1
          omega
        simp [empty, unlinked]
      · rw [if_neg empty]
        exact foldl_pairStep_getD s (Nat.pos_of_ne_zero empty) j later neighbors
    refine ⟨fun x member => ?_, fun j notKey => ?_⟩
    · rcases List.mem_cons.mp member with rfl | inLater
      · -- `x` is the head: no later settlement has its key
        rw [laterOthers _ aLater, added, flatMap_pairs_self s x later aLater, List.filter_cons]
        simp only [ne_eq, not_true_eq_false, false_and]
        congr 1
        exact List.filter_congr fun y listed => by simp [show y ≠ x from fun same => aFresh (same ▸ listed)]
      · have notA : (s.settlementAt x).id ≠ (s.settlementAt a).id := (aLater x inLater).symm
        rw [laterKeys x inLater, added, flatMap_pairs_later s a x later inLater notA distinct'.2,
          List.filter_cons]
        have other : a ≠ x := fun same => aFresh (same ▸ inLater)
        by_cases linked : s.Linked a x
        · simp [linked, linked.symm, other]
        · have unlinked : ¬ s.Linked x a := fun back => linked back.symm
          simp [linked, unlinked]
    · rw [laterOthers j fun x member => notKey x (List.mem_cons_of_mem a member)]
      split_ifs
      · rfl
      · exact foldl_pairStep_other s a (notKey a List.mem_cons_self) later neighbors
          fun b member => notKey b (List.mem_cons_of_mem a member)

/-- `SettlementNeighbors` of a settlement, read as Go reads a map of slices: the others of the
list linked to it, in list order. -/
theorem buildSettlementNeighbors_getD (s : Simulation)
    (distinct : (s.settlements.map fun q => (s.settlementAt q).id).Nodup) {a : SettRef}
    (member : a ∈ s.settlements) :
    (s.buildSettlementNeighbors (s.settlementAt a).id).getD [] =
      s.settlements.filter fun b => b ≠ a ∧ s.Linked a b := by
  simpa [buildSettlementNeighbors] using
    (neighborPairs_getD s s.settlements distinct fun _ => none).1 a member

/-- `SettlementTradeNeighbors` of a settlement the index knows: its neighbours within five
hexes with a market, in order. -/
theorem buildSettlementTradeNeighbors_getD (s : Simulation) (neighbors : ℕ → Option (List SettRef))
    {a : SettRef} (indexed : s.settlementIndex (s.settlementAt a).id = some a) :
    (s.buildSettlementTradeNeighbors neighbors (s.settlementAt a).id).getD [] =
      ((neighbors (s.settlementAt a).id).getD []).filter fun b =>
        distance (s.settlementAt a).position (s.settlementAt b).position ≤ 5 ∧
          (s.settlementAt b).market.isSome := by
  unfold buildSettlementTradeNeighbors
  cases listed : neighbors (s.settlementAt a).id with
  | none => rfl
  | some nbs =>
    simp only [indexed, Option.getD_some]
    -- Go leaves an empty filter out of the map, which reads back as the empty list
    split
    · rename_i kept
      exact kept.symm
    · rfl

/-- What the two caches hold for a settlement `a`. -/
structure NeighborIndexExact (s : Simulation) (a : SettRef) : Prop where
  /-- The neighbours are the others linked to `a`, in list order. -/
  neighbors : (s.buildSettlementNeighbors (s.settlementAt a).id).getD [] =
    s.settlements.filter fun b => b ≠ a ∧ s.Linked a b
  mem_neighbors : ∀ b, b ∈ (s.buildSettlementNeighbors (s.settlementAt a).id).getD [] ↔
    b ∈ s.settlements ∧ b ≠ a ∧ 0 < (s.settlementAt a).population ∧
      0 < (s.settlementAt b).population ∧
      distance (s.settlementAt a).position (s.settlementAt b).position ≤ 10
  /-- Each neighbour is listed once. -/
  nodup : ((s.buildSettlementNeighbors (s.settlementAt a).id).getD []).Nodup
  symm : ∀ b ∈ s.settlements, b ∈ (s.buildSettlementNeighbors (s.settlementAt a).id).getD [] ↔
    a ∈ (s.buildSettlementNeighbors (s.settlementAt b).id).getD []
  irrefl : a ∉ (s.buildSettlementNeighbors (s.settlementAt a).id).getD []
  /-- The trade neighbours are the neighbours within five hexes with a market. -/
  trade : (s.buildSettlementTradeNeighbors s.buildSettlementNeighbors (s.settlementAt a).id).getD [] =
    ((s.buildSettlementNeighbors (s.settlementAt a).id).getD []).filter fun b =>
      distance (s.settlementAt a).position (s.settlementAt b).position ≤ 5 ∧
        (s.settlementAt b).market.isSome

theorem neighbor_indexes_exact (s : Simulation)
    (distinct : (s.settlements.map fun q => (s.settlementAt q).id).Nodup)
    (indexed : ∀ q ∈ s.settlements, s.settlementIndex (s.settlementAt q).id = some q)
    (a : SettRef) (member : a ∈ s.settlements) : s.NeighborIndexExact a := by
  have listed := buildSettlementNeighbors_getD s distinct member
  have mem : ∀ b, b ∈ (s.buildSettlementNeighbors (s.settlementAt a).id).getD [] ↔
      b ∈ s.settlements ∧ b ≠ a ∧ s.Linked a b := by
    intro b
    simp [listed]
  refine ⟨listed, fun b => (mem b).trans (by simp [Linked]), ?_, fun b other => ?_, ?_,
    buildSettlementTradeNeighbors_getD s _ (indexed a member)⟩
  · rw [listed]
    exact (List.Nodup.of_map _ distinct).filter _
  · rw [mem, buildSettlementNeighbors_getD s distinct other, List.mem_filter, decide_eq_true_eq]
    exact ⟨fun ⟨_, apart, linked⟩ => ⟨member, Ne.symm apart, linked.symm⟩,
      fun ⟨_, apart, linked⟩ => ⟨other, Ne.symm apart, linked.symm⟩⟩
  · rw [mem]
    exact fun ⟨_, apart, _⟩ => apart rfl

/-- Three settlements in a row, four and seven hexes from the first. -/
def rowWorld : Simulation :=
  newSimulation (fun _ => none) []
    [{ (default : Settlement) with id := 1, position := ⟨0, 0⟩, population := 3 },
     { (default : Settlement) with id := 2, position := ⟨4, 0⟩, population := 2 },
     { (default : Settlement) with id := 3, position := ⟨7, 0⟩, population := 4 }]

/-- The first settlement trades with the second only. -/
example : rowWorld.buildSettlementNeighbors 1 = some [1, 2] ∧
    rowWorld.buildSettlementTradeNeighbors rowWorld.buildSettlementNeighbors 1 = some [1] := by
  decide +kernel

theorem rowWorld_indexes_exact :
    (rowWorld.settlements.map fun q => (rowWorld.settlementAt q).id).Nodup ∧
      (∀ q ∈ rowWorld.settlements, rowWorld.settlementIndex (rowWorld.settlementAt q).id = some q) ∧
      0 ∈ rowWorld.settlements ∧ rowWorld.NeighborIndexExact 0 :=
  ⟨by decide +kernel, by decide +kernel, by decide +kernel,
    neighbor_indexes_exact rowWorld (by decide +kernel) (by decide +kernel) 0 (by decide +kernel)⟩

end Simulation

end MiniWorld.Engine
