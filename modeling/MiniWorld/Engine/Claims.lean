import MiniWorld.Engine.Diaspora

/-! # Hex claims (`internal/engine/land_governance.go`)

A settlement holds the land of the hexes whose `ClaimedBy` names it.
`claimHexesForSettlement` walks the settlement's own hex and its six
neighbours and claims those nobody holds yet (`claimHex`).  The check that
leaves a neighbour's claim alone runs on the home hex too, so a settlement
founded on a hex of another settlement's ring never holds its own home
(`daughter_founded_on_claimed_hex`), although the function's comment says it
claims the home hex, and `captureHex` never takes a settlement's home.  On
free land it does give the settlement its home (`claimHexesForSettlement_home`),
and abandonment frees every hex the settlement held
(`releaseSettlementClaims_frees`).

`NewSimulation` ends with `initSettlementClaims`, which `newSimulation` leaves
out; a generated world is claimed here by applying it.  `captureHex` is modelled with the raids
(`Engine/Warfare.lean`).
-/

namespace MiniWorld.Engine

open MiniWorld.Agents MiniWorld.Phi

namespace Simulation

/-- `initSettlementClaims`: every populated settlement, in `Settlements`
order, claims its hexes. -/
def initSettlementClaims (s : Simulation) : Simulation :=
  s.settlements.foldl (fun t q =>
    if (t.settlementAt q).population = 0 then t else t.claimHexesForSettlement (t.settlementAt q).id) s

/-! ## One hex -/

section ClaimHex

variable (settID : ℕ) (hexAt : HexCoord → Option Hex)

theorem claimHex_of_ne {coord c : HexCoord} (other : c ≠ coord) :
    claimHex settID hexAt coord c = hexAt c := by
  unfold claimHex
  cases found : hexAt coord with
  | none => rfl
  | some hex =>
    dsimp only
    split_ifs
    · rfl
    · exact Function.update_of_ne other _ _
    · rfl

/-- A hex somebody holds is never taken over. -/
theorem claimHex_of_held (coord : HexCoord) {c : HexCoord} {hex : Hex} (held : hexAt c = some hex)
    (taken : hex.claimedBy.isSome) : claimHex settID hexAt coord c = some hex := by
  by_cases same : c = coord
  · subst same
    have free : hex.claimedBy.isNone = false := by
      cases claim : hex.claimedBy <;> simp_all
    simp [claimHex, held, free]
  · rw [claimHex_of_ne settID hexAt same, held]

theorem claimHex_free {c : HexCoord} {hex : Hex} (held : hexAt c = some hex) (land : hex.terrain ≠ .ocean)
    (free : hex.claimedBy = none) :
    claimHex settID hexAt c c = some { hex with claimedBy := some settID } := by
  simp [claimHex, held, land, free]

/-- The walk of `claimHexesForSettlement`: the induction is on the hexes
walked, and a held hex stays held at every step. -/
theorem foldl_claimHex_of_held {c : HexCoord} {hex : Hex} (taken : hex.claimedBy.isSome) :
    ∀ (coords : List HexCoord) (hexAt : HexCoord → Option Hex), hexAt c = some hex →
      (coords.foldl (claimHex settID) hexAt) c = some hex
  | [], _, held => held
  | coord :: coords, hexAt, held => by
    rw [List.foldl_cons]
    exact foldl_claimHex_of_held taken coords _ (claimHex_of_held settID hexAt coord held taken)

end ClaimHex

/-! ## A settlement's claims -/

theorem claimHexesForSettlement_hexAt_of_held (s : Simulation) (settID : ℕ) {c : HexCoord} {hex : Hex}
    (held : s.hexAt c = some hex) (taken : hex.claimedBy.isSome) :
    (s.claimHexesForSettlement settID).hexAt c = some hex := by
  unfold claimHexesForSettlement
  split
  · exact held
  · exact foldl_claimHex_of_held settID taken _ _ held

/-- On free land the settlement gets its own hex: it is walked first, and
held from then on. -/
theorem claimHexesForSettlement_home (s : Simulation) (settID : ℕ) {q : SettRef} {hex : Hex}
    (indexed : s.settlementIndex settID = some q) (held : s.hexAt (s.settlementAt q).position = some hex)
    (land : hex.terrain ≠ .ocean) (free : hex.claimedBy = none) :
    (s.claimHexesForSettlement settID).hexAt (s.settlementAt q).position =
      some { hex with claimedBy := some settID } := by
  simp only [claimHexesForSettlement, indexed, List.foldl_cons]
  exact foldl_claimHex_of_held settID rfl _ _ (claimHex_free settID s.hexAt held land free)

/-- Abandonment frees exactly the hexes the settlement held. -/
theorem releaseSettlementClaims_frees (s : Simulation) (settID : ℕ) (c : HexCoord) :
    (s.releaseSettlementClaims settID).hexAt c = (s.hexAt c).map fun hex =>
      if hex.claimedBy = some settID then { hex with claimedBy := none } else hex := rfl

/-- After the release no hex names the settlement. -/
theorem releaseSettlementClaims_none (s : Simulation) (settID : ℕ) {c : HexCoord} {hex : Hex}
    (held : (s.releaseSettlementClaims settID).hexAt c = some hex) : hex.claimedBy ≠ some settID := by
  rw [releaseSettlementClaims_frees] at held
  obtain ⟨original, _, rfl⟩ := Option.map_eq_some_iff.mp held
  split_ifs with mine
  · simp
  · exact mine

/-! ## The founding site -/

theorem goRound_natCast (n : ℕ) : goRound n = n := by
  have nonneg : ¬ (n : ℝ) < 0 := not_lt.mpr (Nat.cast_nonneg n)
  rw [goRound, if_neg nonneg, Int.floor_eq_iff]
  push_cast
  constructor <;> linarith

/-- The first golden-angle direction is due east: a hex three out that is on
the map, unsettled and habitable heads the candidates, and the diaspora founds
there. -/
theorem goldenAngleCandidates_head (s : Simulation) (position : HexCoord) {hex : Hex}
    (onMap : s.hexAt ⟨position.q + 3, position.r⟩ = some hex) (unsettled : hex.settlementID = none)
    (habitable : hex.terrain ∈ [Terrain.plains, .forest, .coast, .river, .mountain]) :
    (s.goldenAngleCandidates position).head? = some ⟨position.q + 3, position.r⟩ := by
  -- angle zero: the offset is three along q and none along r
  have east : goRound (3 * Real.cos (2.0 * Real.pi * matter * 0)) = 3 := by
    rw [mul_zero, Real.cos_zero, mul_one]
    exact_mod_cast goRound_natCast 3
  have north : goRound (3 * Real.sin (2.0 * Real.pi * matter * 0)) = 0 := by
    rw [mul_zero, Real.sin_zero, mul_zero]
    exact_mod_cast goRound_natCast 0
  have first : List.range 6 = 0 :: List.range' 1 5 := rfl
  have near : List.range' 3 3 = 3 :: [4, 5] := rfl
  unfold goldenAngleCandidates
  rw [first, near]
  -- the directions and distances are coerced to reals through the list monad
  simp only [List.bind_eq_flatMap, List.flatMap_cons, List.pure_def, List.filterMap_cons, Nat.cast_zero,
    Nat.cast_ofNat, east, north, add_zero, onMap, unsettled, Option.elim, Option.isNone_none, habitable, and_self,
    if_true, List.cons_append, List.head?_cons]

/-- A settlement that is not overmassed sends no one. -/
theorem overmassSettlement_of_calm (capacityAt : HexCoord → ℚ) (acc : Simulation × (ℕ → Option (List SettRef)))
    (q : SettRef)
    (calm : (acc.1.settlementAt q).isOvermassed
      (acc.1.settlementCarryingCapacity capacityAt (acc.1.settlementAt q).id).1 = false) :
    overmassSettlement capacityAt acc q = acc := by
  unfold overmassSettlement
  simp only [calm, Bool.not_false, if_true]

/-- An overmassed settlement of twenty or more alive, whose `Agnosis` share is at least
twenty-five, founds its daughter on its first golden-angle site. -/
theorem overmassSettlement_of_site (capacityAt : HexCoord → ℚ) (s : Simulation)
    (neighbors : ℕ → Option (List SettRef)) (q : SettRef) {site : HexCoord} {rest : List HexCoord}
    (overmassed : (s.settlementAt q).isOvermassed
      (s.settlementCarryingCapacity capacityAt (s.settlementAt q).id).1 = true)
    (crowded : 20 ≤ ((s.settlementAgents (s.settlementAt q).id).filter fun p => (s.agentAt p).alive).length)
    (enough : 25 ≤ ⌊(((s.settlementAgents (s.settlementAt q).id).filter fun p => (s.agentAt p).alive).length : ℚ) *
      agnosis⌋₊)
    (sites : s.goldenAngleCandidates (s.settlementAt q).position = site :: rest) :
    overmassSettlement capacityAt (s, neighbors) q =
      s.foundDaughter q site
        (s.selectEmigrants ⌊(((s.settlementAgents (s.settlementAt q).id).filter fun p => (s.agentAt p).alive).length : ℚ) *
          agnosis⌋₊ ((s.settlementAgents (s.settlementAt q).id).filter fun p => (s.agentAt p).alive))
        (s.settlementAgents (s.settlementAt q).id) := by
  unfold overmassSettlement
  simp only [overmassed, Bool.not_true, Bool.false_eq_true, if_false]
  rw [if_neg (by omega), if_neg (by omega), sites]

/-! ## Founding on a held hex -/

theorem moveHomes_hexAt (k : ℕ) (movers : List AgentRef) (s : Simulation) :
    (movers.foldl (moveHome k) s).hexAt = s.hexAt := by
  rw [moveHomes_eq]

/-- The pooling writes purses only. -/
theorem poolWealth_frame (E : List AgentRef) (s : Simulation) :
    (poolWealth E s).1.hexAt = s.hexAt ∧ (poolWealth E s).1.settlementAt = s.settlementAt ∧
      (poolWealth E s).1.settlements = s.settlements ∧ (poolWealth E s).1.nextSettRef = s.nextSettRef := by
  refine Run.foldl_invariant (fun acc : Simulation × ℕ => acc.1.hexAt = s.hexAt ∧
      acc.1.settlementAt = s.settlementAt ∧ acc.1.settlements = s.settlements ∧
      acc.1.nextSettRef = s.nextSettRef) _ E (s, 0) ?_ ⟨rfl, rfl, rfl, rfl⟩
  rintro e - ⟨pooled, total⟩ ⟨map, records, listed, next⟩
  exact ⟨map, records, listed, next⟩

/-- A founding on a hex held by another settlement leaves the hold in place:
only the hex's `SettlementID` is written. -/
theorem foundSettlement_hexAt_held (s : Simulation) (coord : HexCoord) (founders : List AgentRef)
    (treasury : ℕ) (gov : GovernanceType) {hex : Hex} (held : s.hexAt coord = some hex)
    (taken : hex.claimedBy.isSome) :
    (s.foundSettlement coord founders treasury gov).1.hexAt coord =
      some { hex with settlementID := some (s.maxSettlementID + 1) } := by
  simp only [foundSettlement, foldl_modifyAgent_home, moveHomes_hexAt]
  refine claimHexesForSettlement_hexAt_of_held _ _ ?_ taken
  simp [held]

/-- The diaspora founds its settlement on the first golden-angle site, which
only has to be unsettled: when another settlement holds that hex, the new
settlement, populated by the emigrants, does not hold its own home. -/
theorem daughter_founded_on_claimed_hex (s : Simulation) (q : SettRef) (site : HexCoord)
    (emigrants settAgents : List AgentRef) (hex : Hex) (holder : SettRef) (fresh : q ≠ s.nextSettRef)
    (onMap : s.hexAt site = some hex) (listed : holder ∈ s.settlements)
    (held : hex.claimedBy = some (s.settlementAt holder).id) :
    ((s.foundDaughter q site emigrants settAgents).1.settlementAt s.nextSettRef).position = site ∧
      ((s.foundDaughter q site emigrants settAgents).1.settlementAt s.nextSettRef).population =
        emigrants.length ∧
      ∃ hex', (s.foundDaughter q site emigrants settAgents).1.hexAt site = some hex' ∧
        hex'.claimedBy = some (s.settlementAt holder).id ∧
        hex'.claimedBy ≠ some ((s.foundDaughter q site emigrants settAgents).1.settlementAt s.nextSettRef).id := by
  obtain ⟨map, records, settlements, next⟩ := poolWealth_frame emigrants s
  have pooledMax : (poolWealth emigrants s).1.maxSettlementID = s.maxSettlementID := by
    simp only [maxSettlementID, records, settlements]
  set pooled := (poolWealth emigrants s).1
  have freshPooled : q ≠ pooled.nextSettRef := by rw [next]; exact fresh
  -- the daughter's record sits at the next reference, under the next `ID`
  have position : ((pooled.settleDaughter q site emigrants settAgents (poolWealth emigrants s).2
      (s.settlementAt q).governance).1.settlementAt pooled.nextSettRef).position = site := by
    simp only [settleDaughter, foundSettlement, foldl_modifyAgent_home, moveHomes_settlementAt,
      claimHexesForSettlement_settlementAt, modifySettlement_settlementAt_apply, Ne.symm freshPooled,
      if_false, Function.update_self]
  have population := settleDaughter_population pooled q site emigrants settAgents (poolWealth emigrants s).2
    (s.settlementAt q).governance freshPooled pooled.nextSettRef
  have newID := settleDaughter_id pooled q site emigrants settAgents (poolWealth emigrants s).2
    (s.settlementAt q).governance pooled.nextSettRef
  rw [if_pos rfl] at population newID
  have map' : (pooled.settleDaughter q site emigrants settAgents (poolWealth emigrants s).2
      (s.settlementAt q).governance).1.hexAt site = some { hex with settlementID := some (s.maxSettlementID + 1) } := by
    simp only [settleDaughter]
    rw [← pooledMax]
    exact foundSettlement_hexAt_held pooled site emigrants _ _ (by rw [map]; exact onMap) (by simp [held])
  -- a listed settlement's `ID` is at most the largest, the daughter's is one more
  have below : (s.settlementAt holder).id ≤ s.maxSettlementID := le_maxSettlementID listed
  simp only [foundDaughter]
  rw [next] at position population newID
  refine ⟨position, population, _, map', held, ?_⟩
  rw [held, newID, pooledMax]
  simp only [ne_eq, Option.some.injEq]
  omega

/-- A city of 106 at `(0,0)`, four hexes west of a hamlet of two, on open plains, claimed as
`NewSimulation` claims them. -/
def borderCity : Simulation :=
  { (newSimulation
    (fun c => some ⟨.plains, if c = ⟨0, 0⟩ then some 1 else if c = ⟨4, 0⟩ then some 2 else none, none⟩)
    ((List.range 108).map fun i =>
      { (default : Agent) with id := i + 1, alive := true, age := 20, homeSettID := some (if i < 106 then 1 else 2) })
    [{ (default : Settlement) with id := 1, position := ⟨0, 0⟩, population := 106, governanceScore := 1 / 10 },
     { (default : Settlement) with id := 2, position := ⟨4, 0⟩, population := 2, governanceScore := 1 / 10 }]).initSettlementClaims
    with spawner := some ⟨109⟩ }

/-- The city's overmass pass: twenty-five of its 106 leave for the first golden-angle site, three
hexes east, in the hamlet's ring, and the daughter they found does not hold its home. -/
theorem borderCity_daughter_unclaimed :
    (0 : SettRef) ≠ borderCity.nextSettRef ∧ borderCity.hexAt ⟨3, 0⟩ = some ⟨.plains, none, some 2⟩ ∧
      (1 : SettRef) ∈ borderCity.settlements ∧
      (⟨.plains, none, some 2⟩ : Hex).claimedBy = some (borderCity.settlementAt 1).id ∧
      processSettlementOvermass (fun _ => 0) (fun _ => none) borderCity =
        (borderCity.foundDaughter 0 ⟨3, 0⟩ (List.range 25) (List.range 106)).1 ∧
      ((borderCity.foundDaughter 0 ⟨3, 0⟩ (List.range 25) (List.range 106)).1.settlementAt
        borderCity.nextSettRef).position = ⟨3, 0⟩ ∧
      ((borderCity.foundDaughter 0 ⟨3, 0⟩ (List.range 25) (List.range 106)).1.settlementAt
        borderCity.nextSettRef).population = (List.range 25).length ∧
      ∃ hex', (borderCity.foundDaughter 0 ⟨3, 0⟩ (List.range 25) (List.range 106)).1.hexAt ⟨3, 0⟩ = some hex' ∧
        hex'.claimedBy = some (borderCity.settlementAt 1).id ∧
        hex'.claimedBy ≠ some ((borderCity.foundDaughter 0 ⟨3, 0⟩ (List.range 25) (List.range 106)).1.settlementAt
          borderCity.nextSettRef).id := by
  -- the first golden-angle site of the city is the hex three east
  obtain ⟨rest, sites⟩ := List.head?_eq_some_iff.mp
    (goldenAngleCandidates_head borderCity (borderCity.settlementAt 0).position rfl rfl (by decide))
  have east : (⟨(borderCity.settlementAt 0).position.q + 3, (borderCity.settlementAt 0).position.r⟩ : HexCoord) =
      ⟨3, 0⟩ := by decide +kernel
  rw [east] at sites
  -- the city diaspora founds there; the hamlet of two is not overmassed
  have founded := overmassSettlement_of_site (fun _ => 0) borderCity (fun _ => none) 0
    (by decide +kernel) (by decide +kernel) (by decide +kernel) sites
  have agents : borderCity.settlementAgents (borderCity.settlementAt 0).id = List.range 106 := by decide +kernel
  have emigrants : borderCity.selectEmigrants ⌊(((List.range 106).filter fun p => (borderCity.agentAt p).alive).length : ℚ) *
      agnosis⌋₊ ((List.range 106).filter fun p => (borderCity.agentAt p).alive) = List.range 25 := by decide +kernel
  rw [agents, emigrants] at founded
  have calm := overmassSettlement_of_calm (fun _ => 0)
    (borderCity.foundDaughter 0 ⟨3, 0⟩ (List.range 25) (List.range 106)) 1 (by decide +kernel)
  have pass : processSettlementOvermass (fun _ => 0) (fun _ => none) borderCity =
      (borderCity.foundDaughter 0 ⟨3, 0⟩ (List.range 25) (List.range 106)).1 := by
    show ([0, 1].foldl (overmassSettlement (fun _ => 0)) (borderCity, fun _ => none)).1 = _
    rw [List.foldl_cons, List.foldl_cons, List.foldl_nil, founded, calm]
  exact ⟨by decide +kernel, rfl, by decide +kernel, by decide +kernel, pass,
    daughter_founded_on_claimed_hex borderCity 0 ⟨3, 0⟩ (List.range 25) (List.range 106) ⟨.plains, none, some 2⟩ 1
      (by decide +kernel) rfl (by decide +kernel) (by decide +kernel)⟩

end Simulation

end MiniWorld.Engine
