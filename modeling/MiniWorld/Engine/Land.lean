import MiniWorld.Engine.Seasons
import MiniWorld.Engine.Cognition

/-! # The land across runs and restarts (`internal/engine/production.go`, `land_governance.go`,
`seasons.go`, `simulation.go` `TickHour` and the drought of `processRandomEvents`, `cognition.go`
`restore_land` and `advocate_land`, `internal/persistence/db.go` `SaveWorldState`,
`cmd/worldsim/main.go` the restore of `hex_health` and `hex_resources`)

Every writer of a hex's land keeps it `Sound` — health in the unit interval, resources
non-negative and zero off the keys of its map, irrigation and conservation at most five — and
the weather that `MapToSim` makes keeps the temperature modifier at most one, which the
regenerations need to regrow rather than shrink.  Work wears a hex by an amount scaled by
`coherenceExtractionMod`, cached per home for a tick; it stays at least `1 - Agnosis` because
every soul stays in the unit interval and every governance score at most one (`Careful`), which
no writer of the land disturbs.  `LandStep` is every such writer, the save of the two hex keys of
`world_meta` and the restart that reads them back past tick zero, and `land_stays_sound` holds
along every run.

The restart restores each saved hex and then sets to full health every hex at health zero that
was never worked, meant for a first deploy without saved health.  A hex that drought, storms or
disasters wore down to zero without anyone working it is saved as `{h: 0, t: 0}` and so comes
back at full health (`restart_revives_desertified_hex`).
-/

namespace MiniWorld.Engine

open MiniWorld.Phi MiniWorld.Run MiniWorld.Agents

/-! ## Work on the land -/

section Work

variable {keys : List ResourceType} {land : HexLand}

theorem HexLand.Sound.restoreLand (sound : land.Sound keys) (a : Agent) :
    (MiniWorld.Engine.restoreLand a land).Sound keys := by
  unfold MiniWorld.Engine.restoreLand
  split_ifs
  · exact sound.raiseHealth (by have := agnosis_pos; positivity)
  · exact sound

/-- The land after crediting whole units: the same, or one exotic fewer from a hex that held one. -/
theorem creditUnits_land (a : Agent) (land : HexLand) :
    (creditUnits a land).2 = land ∨
      (1 ≤ land.resources resourceExotics ∧ (creditUnits a land).2 =
        { land with
          resources := Function.update land.resources resourceExotics (land.resources resourceExotics - 1) }) := by
  unfold creditUnits
  dsimp only
  -- the coal of a miner touches the agent only
  split_ifs
  all_goals first
    | exact .inl rfl
    | exact .inr ⟨‹_ ∧ _›.2, rfl⟩

/-- A unit leaves the land sound: an exotic is taken only while the hex holds a whole one, so
its key is one of the map's. -/
theorem HexLand.Sound.creditUnits (sound : land.Sound keys) (a : Agent) :
    (MiniWorld.Engine.creditUnits a land).2.Sound keys := by
  rcases creditUnits_land a land with same | ⟨whole, taken⟩
  · rw [same]
    exact sound
  · have listed : resourceExotics ∈ keys := by
      by_contra absent
      have none := sound.unkeyed _ absent
      linarith
    rw [taken]
    refine ⟨sound.health_nonneg, sound.health_le_one, fun r => ?_, fun r absent => ?_, sound.irrigation_le⟩ <;>
      dsimp only
    · by_cases here : r = resourceExotics
      · subst here
        simp only [Function.update_self]
        linarith
      · rw [Function.update_of_ne here]
        exact sound.resources_nonneg r
    · have other : r ≠ resourceExotics := fun same => absent (same ▸ listed)
      rw [Function.update_of_ne other]
      exact sound.unkeyed r absent

theorem HexLand.Sound.creditIfGrown (sound : land.Sound keys) (a : Agent) :
    (MiniWorld.Engine.creditIfGrown a land).2.Sound keys := by
  unfold MiniWorld.Engine.creditIfGrown
  split_ifs
  · exact sound.creditUnits a
  · exact sound

/-- An extraction keeps the land sound when it draws a positive amount, at most the full
production, of a resource of the hex's map, under non-negative damage modifiers. -/
theorem HexLand.Sound.extract (sound : land.Sound keys) {resType : ResourceType} (listed : resType ∈ keys)
    {fullProduction producedFloat : ℚ} (produced : 0 < producedFloat) (within : producedFloat ≤ fullProduction)
    {coherenceMod conservationMod : ℚ} (coherent : 0 ≤ coherenceMod) (conserving : 0 ≤ conservationMod)
    (tick : ℕ) (a : Agent) :
    (MiniWorld.Engine.extract tick coherenceMod conservationMod resType fullProduction producedFloat a land).2.Sound
      keys := by
  -- the land right after the draw, before the units and the laborer's care
  have drawn : ({ land with
      resources := Function.update land.resources resType
        (if land.resources resType - producedFloat < 0 then 0 else land.resources resType - producedFloat)
      health := if land.health - agnosis * 0.001 * (producedFloat / fullProduction) * conservationMod * coherenceMod < 0
        then 0 else land.health - agnosis * 0.001 * (producedFloat / fullProduction) * conservationMod * coherenceMod
      lastExtractedTick := tick } : HexLand).Sound keys := by
    have damage : 0 ≤ agnosis * 0.001 * (producedFloat / fullProduction) * conservationMod * coherenceMod := by
      have := agnosis_pos
      have : 0 ≤ producedFloat / fullProduction := div_nonneg produced.le (by linarith)
      positivity
    have upper := sound.health_le_one
    refine ⟨by split_ifs <;> linarith, by split_ifs <;> linarith, fun r => ?_, fun r absent => ?_,
      sound.irrigation_le⟩ <;> dsimp only
    · by_cases here : r = resType
      · subst here
        simp only [Function.update_self]
        split_ifs <;> linarith
      · rw [Function.update_of_ne here]
        exact sound.resources_nonneg r
    · have other : r ≠ resType := fun same => absent (same ▸ listed)
      rw [Function.update_of_ne other]
      exact sound.unkeyed r absent
  exact (drawn.creditIfGrown _).restoreLand _

theorem HexLand.Sound.workLand (sound : land.Sound keys) (tick : ℕ) (boostMul : ℚ) {coherenceMod conservationMod : ℚ}
    (coherent : 0 ≤ coherenceMod) (conserving : 0 ≤ conservationMod) (resType : ResourceType) (a : Agent) :
    ∀ land' ∈ (MiniWorld.Engine.workLand tick boostMul coherenceMod conservationMod resType a land).2,
      land'.Sound keys := by
  intro land' found
  unfold MiniWorld.Engine.workLand at found
  dsimp only at found
  by_cases barren : land.resources resType < 0.01
  · rw [if_pos barren, Option.mem_def, Option.some.injEq] at found
    exact found ▸ sound
  rw [if_neg barren] at found
  -- the boosted full production enters only through its minimum with what is there
  generalize (if boostMul > 1 then (productionAmount a : ℚ) * boostMul else productionAmount a) = full at found
  by_cases negligible : min full (land.resources resType) < 0.01
  · rw [if_pos negligible, Option.mem_def, Option.some.injEq] at found
    exact found ▸ sound
  rw [if_neg negligible, Option.mem_def, Option.some.injEq] at found
  subst found
  -- a resource the hex holds at least `0.01` of is a key of its map
  have listed : resType ∈ keys := by
    by_contra absent
    have none := sound.unkeyed _ absent
    linarith
  exact sound.extract listed (by linarith [not_lt.mp negligible]) (min_le_left _ _) coherent conserving tick _

/-- `ResolveWork` hands back land that is sound whenever the land it was given is. -/
theorem resolveWork_sound (kind : ActionKind) (insight : Bool) (tick : ℕ) (boostMul : ℚ)
    {coherenceMod conservationMod : ℚ} (coherent : 0 ≤ coherenceMod) (conserving : 0 ≤ conservationMod)
    (a : Agent) {hex : Option HexLand} (sound : ∀ land ∈ hex, land.Sound keys) :
    ∀ land' ∈ (resolveWork kind insight tick boostMul coherenceMod conservationMod a hex).2, land'.Sound keys := by
  unfold resolveWork
  split_ifs
  · exact sound
  · exact sound
  · cases occupationResource a.occupation with
    | none => exact sound
    | some res =>
      cases hex with
      | none => exact fun _ absent => absurd absent (by simp)
      | some land => exact (sound land rfl).workLand tick boostMul coherent conserving _ a

end Work

namespace Simulation

variable {keys : HexCoord → List ResourceType} {s : Simulation}

theorem resolveBuyFood_landAt (s : Simulation) (p : AgentRef) : (s.resolveBuyFood p).landAt = s.landAt := by
  unfold resolveBuyFood
  split
  · rfl
  · split
    · rfl
    · split
      · rfl
      · dsimp only
        split_ifs <;> rfl

/-- An agent's minute keeps the land sound when its work's damage modifiers are non-negative. -/
theorem LandSound.resolveAction (sound : s.LandSound keys) (decide : Agent → ActionKind × Bool)
    (productionHex : Simulation → AgentRef → Option HexCoord) {workMods : Simulation → AgentRef → ℚ × ℚ × ℚ}
    (tick : ℕ) (p : AgentRef) (careful : 0 ≤ (workMods s p).2.1 ∧ 0 ≤ (workMods s p).2.2) :
    (s.resolveAction decide productionHex workMods tick p).LandSound keys := by
  unfold Simulation.resolveAction
  dsimp only
  split_ifs
  · rw [LandSound, resolveBuyFood_landAt]
    exact sound
  · cases hex : productionHex s p with
    | none => exact sound
    | some c =>
      -- the work's land is the production hex's, which is sound
      have worked : ∀ land' ∈ (resolveWork (decide (s.agentAt p)).1 (decide (s.agentAt p)).2 tick
          (workMods s p).1 (workMods s p).2.1 (workMods s p).2.2 (s.agentAt p) (some (s.landAt c))).2,
          land'.Sound (keys c) :=
        resolveWork_sound _ _ tick _ careful.1 careful.2 (s.agentAt p) fun _ found => by
          cases found
          exact sound c
      simp only [Option.map_some]
      cases found : (resolveWork (decide (s.agentAt p)).1 (decide (s.agentAt p)).2 tick (workMods s p).1
          (workMods s p).2.1 (workMods s p).2.2 (s.agentAt p) (some (s.landAt c))).2 with
      | none => exact sound
      | some land' =>
        intro c'
        simp only [Function.update_apply]
        split_ifs with here
        · subst here
          exact worked land' found
        · exact sound c'
  · exact sound

end Simulation

/-! ## The other writers of the land -/

namespace Simulation

/-- `restore_land`: the oracle's coherence heals the degraded hexes (below `Matter` health) of its
home settlement's hex and its six neighbours by `CittaCoherence·Agnosis·0.5`, capped at one. -/
def restoreLandVision (oracle : AgentRef) (s : Simulation) : Simulation :=
  let a := s.agentAt oracle
  a.homeSettID.elim s fun home =>
    (s.settlementIndex home).elim s fun q =>
      let sett := s.settlementAt q
      let healAmount := a.soul.cittaCoherence * agnosis * 0.5
      (sett.position :: sett.position.neighbors).foldl (landAtHex fun _ _ land =>
        if land.health ≥ matter then land else raiseHealth healAmount land) s

/-- The land damage of a drought disaster of `processRandomEvents` at `position`: each of its six
neighbours on the map loses `Agnosis·0.5` of health and the epicentre `Agnosis`, floored at zero,
ocean hexes too. -/
def droughtDisaster (position : HexCoord) (s : Simulation) : Simulation :=
  landAtHex (fun _ _ => lowerHealth agnosis)
    (position.neighbors.foldl (landAtHex fun _ _ => lowerHealth (agnosis * 0.5)) s) position

end Simulation

/-- What the land passes read and write besides the simulation: each hex's `ConservationLevel`,
the simulation's `CurrentWeather`, and `tickCoherenceCache`, the coherence modifier of each home
settlement as the first worker of the tick found it. -/
structure Landscape where
  sim : Simulation
  conservationAt : HexCoord → ℕ
  weather : SimWeather
  coherenceCache : ℕ → Option ℚ := fun _ => none

/-- The two upgrades of `processLandInvestment` and `advocate_land`. -/
inductive Upgrade where
  | irrigation
  | conservation
  deriving DecidableEq, Repr

def maxFloat64 : ℚ := (2 ^ 53 - 1) * 2 ^ 971

/-- The deterministic roll of a hex in a week:
`float64((simWeek·uint64(q+offset)·m + uint64(r+offset)·n) % modulus) / modulus`. -/
def weekRoll (simWeek : ℕ) (c : HexCoord) (offset m n modulus : ℕ) : ℚ :=
  (((simWeek * ((c.q + offset) % 2 ^ 64).toNat * m + ((c.r + offset) % 2 ^ 64).toNat * n) % 2 ^ 64 % modulus : ℕ) : ℚ) /
    modulus

namespace Landscape

/-- The level an upgrade of the hex `c` raises. -/
def upgradeLevel (l : Landscape) (c : HexCoord) : Upgrade → ℕ
  | .irrigation => (l.sim.landAt c).irrigationLevel
  | .conservation => l.conservationAt c

/-- `bestHex.IrrigationLevel = level` or `bestHex.ConservationLevel = level`. -/
def setLevel (l : Landscape) (c : HexCoord) (level : ℕ) : Upgrade → Landscape
  | .irrigation => { l with sim := l.sim.modifyLand c fun land => { land with irrigationLevel := level } }
  | .conservation => { l with conservationAt := Function.update l.conservationAt c level }

/-- `if hex.IrrigationLevel < 5 && hex.Health > phi.Agnosis { score := …; if score < bestScore {…} }`. -/
def irrigationCandidate (land : HexLand) (c : HexCoord) (best : Option (HexCoord × Upgrade) × ℚ) :
    Option (HexCoord × Upgrade) × ℚ :=
  if land.irrigationLevel < 5 ∧ land.health > agnosis then
    let score := land.health + land.irrigationLevel * 0.2
    if score < best.2 then (some (c, .irrigation), score) else best
  else best

/-- `if hex.ConservationLevel < 5 && hex.Health < phi.Matter { score := …; if score < bestScore {…} }`. -/
def conservationCandidate (land : HexLand) (conservation : ℕ) (c : HexCoord)
    (best : Option (HexCoord × Upgrade) × ℚ) : Option (HexCoord × Upgrade) × ℚ :=
  if conservation < 5 ∧ land.health < matter then
    let score := land.health + (conservation : ℚ) * 0.2 - 0.5
    if score < best.2 then (some (c, .conservation), score) else best
  else best

/-- One hex of the scan of `processLandInvestment` for the settlement `settID`: a claimed land hex
below irrigation five and above `Agnosis` health scores its health plus a fifth a level for
irrigation, and below conservation five and `Matter` health the same less a half for
conservation, checked second; the strictly lowest score so far wins. -/
def investCandidate (l : Landscape) (settID : ℕ) (best : Option (HexCoord × Upgrade) × ℚ) (c : HexCoord) :
    Option (HexCoord × Upgrade) × ℚ :=
  match l.sim.hexAt c with
  | none => best
  | some hex =>
    if hex.claimedBy ≠ some settID then best
    else if hex.terrain = .ocean then best
    else conservationCandidate (l.sim.landAt c) (l.conservationAt c) c (irrigationCandidate (l.sim.landAt c) c best)

/-- One settlement of `processLandInvestment`: a populated settlement with a hundred crowns and a
governance score of `Psyche` budgets `Agnosis·0.1` of its treasury, at most ten crowns a head;
with fifty or more it buys the next level of the scan's hex over the hexes in `order` (Go's order
of `WorldMap.Hexes`), at `level·Agnosis·pop·0.1` crowns and at least fifty, when it can pay. -/
def investIn (order : List HexCoord) (l : Landscape) (q : SettRef) : Landscape :=
  let sett := l.sim.settlementAt q
  if sett.population = 0 ∨ sett.treasury < 100 then l
  else if sett.governanceScore < psyche then l
  else
    let budget := min ⌊(sett.treasury : ℚ) * agnosis * 0.1⌋₊ (sett.population * 10)
    if budget < 50 then l
    else
      match (order.foldl (l.investCandidate sett.id) (none, maxFloat64)).1 with
      | none => l
      | some (c, upgrade) =>
        let nextLevel := l.upgradeLevel c upgrade + 1
        let cost := max ⌊(nextLevel : ℚ) * agnosis * sett.population * 0.1⌋₊ 50
        if cost > budget ∨ cost > sett.treasury then l
        else { l with sim := l.sim.debitSettlement q cost }.setLevel c nextLevel upgrade

/-- `processLandInvestment`, weekly. -/
def processLandInvestment (order : List HexCoord) (l : Landscape) : Landscape :=
  l.sim.settlements.foldl (investIn order) l

/-- One hex of `processInfrastructureDecay`: an improved hex decays one level of each
improvement with chance `Agnosis·0.05` a week, and a claimed hex of a populated settlement
resists half the time. -/
def decayAt (simWeek : ℕ) (l : Landscape) (c : HexCoord) : Landscape :=
  match l.sim.hexAt c with
  | none => l
  | some hex =>
    if (l.sim.landAt c).irrigationLevel = 0 ∧ l.conservationAt c = 0 then l
    else if weekRoll simWeek c 500 7 13 1000 > agnosis * 0.05 then l
    else if hex.claimedBy.any (fun id => (l.sim.settlementIndex id).any fun q =>
        decide ((l.sim.settlementAt q).population > 0 ∧ weekRoll simWeek c 300 11 17 100 < 0.5)) then l
    else
      { l with
        sim := l.sim.modifyLand c fun land => { land with irrigationLevel := land.irrigationLevel - 1 }
        conservationAt := Function.update l.conservationAt c (l.conservationAt c - 1) }

/-- `processInfrastructureDecay`, over the hexes in Go's order of `WorldMap.Hexes`. -/
def processInfrastructureDecay (order : List HexCoord) (tick : ℕ) (l : Landscape) : Landscape :=
  order.foldl (decayAt (tick / ticksPerSimWeek)) l

/-- One hex of the scan of `advocate_land`: the claimed land hex of least health wins, from `2.0`. -/
def neediestHex (l : Landscape) (settID : ℕ) (best : Option HexCoord × ℚ) (c : HexCoord) : Option HexCoord × ℚ :=
  match l.sim.hexAt c with
  | none => best
  | some hex =>
    if hex.claimedBy ≠ some settID then best
    else if hex.terrain = .ocean then best
    else if (l.sim.landAt c).health < best.2 then (some c, (l.sim.landAt c).health) else best

/-- `advocate_land`: the oracle raises the conservation of its home settlement's neediest hex
when that is below `Matter` health and level five, else its irrigation below level five, with no
governance gate and no cost. -/
def advocateLandVision (order : List HexCoord) (oracle : AgentRef) (l : Landscape) : Landscape :=
  (l.sim.agentAt oracle).homeSettID.elim l fun home =>
    (l.sim.settlementIndex home).elim l fun q =>
      match (order.foldl (l.neediestHex (l.sim.settlementAt q).id) (none, 2)).1 with
      | none => l
      | some c =>
        if (l.sim.landAt c).health < matter ∧ l.conservationAt c < 5 then
          l.setLevel c (l.conservationAt c + 1) .conservation
        else if (l.sim.landAt c).irrigationLevel < 5 then
          l.setLevel c ((l.sim.landAt c).irrigationLevel + 1) .irrigation
        else l

/-- The land of every hex is sound, every conservation level at most five, and the weather's
temperature modifier at most one. -/
structure Sound (keys : HexCoord → List ResourceType) (l : Landscape) : Prop where
  land : l.sim.LandSound keys
  conservation_le : ∀ c, l.conservationAt c ≤ 5
  weather_fit : l.weather.tempModifier ≤ 1

end Landscape

/-! ## The writers keep the land sound -/

namespace Simulation

variable {keys : HexCoord → List ResourceType} {s : Simulation}

theorem LandSound.landAtHex (sound : s.LandSound keys) {body : HexCoord → Hex → HexLand → HexLand}
    (keeps : ∀ c hex land, land.Sound (keys c) → (body c hex land).Sound (keys c)) (c : HexCoord) :
    (landAtHex body s c).LandSound keys := by
  unfold Simulation.landAtHex
  cases s.hexAt c with
  | none => exact sound
  | some hex => exact sound.modifyLand c (keeps c hex _)

/-- An oracle of non-negative coherence only heals. -/
theorem LandSound.restoreLandVision (sound : s.LandSound keys) (oracle : AgentRef)
    (calm : 0 ≤ (s.agentAt oracle).soul.cittaCoherence) : (s.restoreLandVision oracle).LandSound keys := by
  have heal : 0 ≤ (s.agentAt oracle).soul.cittaCoherence * agnosis * 0.5 := by
    have := agnosis_pos
    positivity
  unfold Simulation.restoreLandVision
  dsimp only
  cases (s.agentAt oracle).homeSettID with
  | none => exact sound
  | some home =>
    dsimp only [Option.elim]
    cases s.settlementIndex home with
    | none => exact sound
    | some q =>
      dsimp only [Option.elim]
      refine foldl_invariant (LandSound keys) _ _ s
        (fun pos _ t held => held.landAtHex (fun c hex land kept => ?_) pos) sound
      split_ifs
      · exact kept
      · exact kept.raiseHealth heal

theorem LandSound.droughtDisaster (sound : s.LandSound keys) (position : HexCoord) :
    (s.droughtDisaster position).LandSound keys := by
  have loss := agnosis_pos
  unfold Simulation.droughtDisaster
  refine LandSound.landAtHex ?_ (fun _ _ _ kept => kept.lowerHealth loss.le) position
  exact foldl_invariant (LandSound keys) _ position.neighbors s
    (fun c _ t held => held.landAtHex (fun _ _ _ kept => kept.lowerHealth (by positivity)) c) sound

end Simulation

/-! ## The coherence modifier of work

`coherenceExtractionMod` scales the health a worker's extraction costs its hex.  It falls below
one for a well-governed settlement of coherent agents, but never below `1 - Agnosis` while every
soul is in the unit interval and every governance score at most one (`Coherent`), so the damage
it scales is never negative; every writer of the land keeps every soul and score, and an
action's own writes keep a soul in the unit interval. -/

namespace Simulation

variable {s : Simulation}

/-- `coherenceExtractionMod`: one for a settlement not indexed, or with no agents listed or none
of them alive; else `1 + Agnosis·(1 - 2·quality)`, the quality being the governance score times
the alive listed agents' mean coherence. -/
def coherenceExtractionMod (s : Simulation) (settID : ℕ) : ℚ :=
  match s.settlementIndex settID with
  | none => 1
  | some q =>
    let settAgents := s.settlementAgents settID
    if settAgents.length = 0 then 1
    else
      let alive := settAgents.filter fun p => (s.agentAt p).alive
      if alive.length = 0 then 1
      else
        let totalCoherence := (alive.map fun p => (s.agentAt p).soul.cittaCoherence).sum
        let avgCoherence := totalCoherence / alive.length
        let quality := (s.settlementAt q).governanceScore * avgCoherence
        1 + agnosis * (1 - 2 * quality)

/-- The coherence modifier `applyTier2Decision` hands `ResolveWork`: one without a home, else
`coherenceExtractionMod` of the home, called directly. -/
def homeCoherence (s : Simulation) (p : AgentRef) : ℚ :=
  (s.agentAt p).homeSettID.elim 1 s.coherenceExtractionMod

/-- Every soul's coherence in the unit interval, as `AdjustCoherence` and
`AdjustCoherenceUncapped` clamp it, and every governance score at most one, as each writer of
the score clamps it. -/
structure Coherent (s : Simulation) : Prop where
  soul : ∀ p, 0 ≤ (s.agentAt p).soul.cittaCoherence ∧ (s.agentAt p).soul.cittaCoherence ≤ 1
  governance : ∀ q, (s.settlementAt q).governanceScore ≤ 1

/-- The mean of values in the unit interval is in it. -/
theorem mean_mem_unit {α : Type} {l : List α} {f : α → ℚ} (unit : ∀ a ∈ l, 0 ≤ f a ∧ f a ≤ 1)
    (nonempty : l.length ≠ 0) : 0 ≤ (l.map f).sum / l.length ∧ (l.map f).sum / l.length ≤ 1 := by
  have positive : (0 : ℚ) < l.length := by exact_mod_cast Nat.pos_of_ne_zero nonempty
  have below : (l.map f).sum ≤ l.length := by
    have bounded := List.sum_le_card_nsmul (l.map f) 1 fun v member => by
      obtain ⟨a, listed, rfl⟩ := List.mem_map.mp member
      exact (unit a listed).2
    simpa using bounded
  refine ⟨div_nonneg (List.sum_nonneg fun v member => ?_) positive.le, (div_le_one positive).mpr below⟩
  obtain ⟨a, listed, rfl⟩ := List.mem_map.mp member
  exact (unit a listed).1

/-- Coherent souls extract with a modifier of at least `1 - Agnosis`: the quality is at most the
mean coherence, which is at most one. -/
theorem Coherent.coherenceExtractionMod_ge (coherent : s.Coherent) (settID : ℕ) :
    1 - agnosis ≤ s.coherenceExtractionMod settID := by
  have spread := agnosis_pos
  unfold coherenceExtractionMod
  split
  · linarith
  · rename_i q _
    dsimp only
    split_ifs with noAgents noneAlive
    · linarith
    · linarith
    · obtain ⟨low, high⟩ := mean_mem_unit (fun p _ => coherent.soul p) noneAlive
      have quality := (mul_le_of_le_one_left low (coherent.governance q)).trans high
      nlinarith

theorem Coherent.homeCoherence_ge (coherent : s.Coherent) (p : AgentRef) : 1 - agnosis ≤ s.homeCoherence p := by
  unfold homeCoherence
  cases (s.agentAt p).homeSettID with
  | none =>
    rw [Option.elim_none]
    linarith [agnosis_pos]
  | some home => exact coherent.coherenceExtractionMod_ge home

/-- `t` keeps every soul and every governance score of `s`. -/
structure SoulsKept (s t : Simulation) : Prop where
  soul : ∀ p, (t.agentAt p).soul = (s.agentAt p).soul
  score : ∀ q, (t.settlementAt q).governanceScore = (s.settlementAt q).governanceScore

theorem SoulsKept.refl (s : Simulation) : SoulsKept s s := ⟨fun _ => rfl, fun _ => rfl⟩

theorem SoulsKept.trans {t u : Simulation} (first : SoulsKept s t) (second : SoulsKept t u) : SoulsKept s u :=
  ⟨fun p => (second.soul p).trans (first.soul p), fun q => (second.score q).trans (first.score q)⟩

theorem soulsKept_foldl {α : Type} (body : Simulation → α → Simulation) (each : ∀ t a, SoulsKept t (body t a))
    (items : List α) (s : Simulation) : SoulsKept s (items.foldl body s) :=
  foldl_invariant (SoulsKept s) body items s (fun a _ t kept => kept.trans (each t a)) (SoulsKept.refl s)

theorem Coherent.of_soulsKept {t : Simulation} (coherent : s.Coherent) (kept : SoulsKept s t) : t.Coherent :=
  ⟨fun p => by rw [kept.soul p]; exact coherent.soul p, fun q => by rw [kept.score q]; exact coherent.governance q⟩

/-- An agent's own write that keeps its coherence in the unit interval. -/
theorem Coherent.modifyAgent (coherent : s.Coherent) (p : AgentRef) {change : Agent → Agent}
    (kept : (s.agentAt p).Kept (change (s.agentAt p))) : (s.modifyAgent p change).Coherent := by
  refine ⟨fun p' => ?_, coherent.governance⟩
  rw [modifyAgent_agentAt]
  split_ifs with here
  · exact kept.soul (here ▸ coherent.soul p)
  · exact coherent.soul p'

theorem soulsKept_modifyAgent (s : Simulation) (p : AgentRef) {change : Agent → Agent}
    (keepsSoul : (change (s.agentAt p)).soul = (s.agentAt p).soul) : SoulsKept s (s.modifyAgent p change) := by
  refine ⟨fun p' => ?_, fun _ => rfl⟩
  rw [modifyAgent_agentAt]
  split_ifs with here
  · rw [here]
    exact keepsSoul
  · rfl

theorem soulsKept_modifySettlement (s : Simulation) (q : SettRef) {change : Settlement → Settlement}
    (keepsScore : (change (s.settlementAt q)).governanceScore = (s.settlementAt q).governanceScore) :
    SoulsKept s (s.modifySettlement q change) := by
  refine ⟨fun _ => rfl, fun q' => ?_⟩
  rw [modifySettlement_settlementAt_apply]
  split_ifs with here
  · rw [here]
    exact keepsScore
  · rfl

theorem soulsKept_resolveBuyFood (s : Simulation) (p : AgentRef) : SoulsKept s (s.resolveBuyFood p) := by
  have fed : ∀ (t : Simulation) (good : GoodType) (delta : ℤ) (bump : NeedsState → NeedsState),
      SoulsKept t ((t.addInventory p good delta).bumpNeeds p bump) :=
    fun t _ _ _ => (soulsKept_modifyAgent t p rfl).trans (soulsKept_modifyAgent _ p rfl)
  unfold resolveBuyFood
  split
  · exact fed s _ _ _
  · split
    · exact fed s _ _ _
    · split
      · exact fed s _ _ _
      · dsimp only
        split_ifs
        · exact ((soulsKept_modifyAgent s p rfl).trans (soulsKept_modifySettlement _ _ rfl)).trans (fed _ _ _ _)
        · exact fed s _ _ _

/-- An agent's minute keeps the souls coherent: buying food writes no soul, and work and the other
actions only the acting agent's, within the unit interval. -/
theorem Coherent.resolveAction (coherent : s.Coherent) (decide : Agent → ActionKind × Bool)
    (productionHex : Simulation → AgentRef → Option HexCoord) (workMods : Simulation → AgentRef → ℚ × ℚ × ℚ)
    (tick : ℕ) (p : AgentRef) : (s.resolveAction decide productionHex workMods tick p).Coherent := by
  unfold Simulation.resolveAction
  dsimp only
  split_ifs
  · exact coherent.of_soulsKept (soulsKept_resolveBuyFood s p)
  · have worked := @Coherent.modifyAgent s coherent p (fun _ => _)
      (resolveAction_worker_kept decide productionHex workMods tick s p)
    split
    · exact ⟨worked.soul, worked.governance⟩
    · exact worked
  · exact coherent.modifyAgent p (applyAction_kept _ _)

/-- The `bless` vision, which writes a coherence outside the clamps of `AdjustCoherence`, keeps it
in the unit interval by its own clamp at 0.7. -/
theorem Coherent.blessVision (coherent : s.Coherent) (oracle : AgentRef) (target : String) :
    (s.blessVision oracle target).Coherent := by
  rcases blessVision_cases s oracle target with same | ⟨c, blessed⟩
  · rw [same]
    exact coherent
  · rw [blessed]
    exact coherent.modifyAgent c ⟨rfl, rfl, rfl, fun unit => blessSoul_mem_unit unit.1⟩

theorem blessVision_landAt (s : Simulation) (oracle : AgentRef) (target : String) :
    (s.blessVision oracle target).landAt = s.landAt := by
  rcases blessVision_cases s oracle target with same | ⟨c, blessed⟩
  · rw [same]
  · rw [blessed]
    rfl

/-! ### The writers of the land keep every soul -/

theorem soulsKept_modifyLand (s : Simulation) (c : HexCoord) (change : HexLand → HexLand) :
    SoulsKept s (s.modifyLand c change) :=
  ⟨fun _ => rfl, fun _ => rfl⟩

theorem soulsKept_landAtHex (body : HexCoord → Hex → HexLand → HexLand) (s : Simulation) (c : HexCoord) :
    SoulsKept s (landAtHex body s c) := by
  unfold landAtHex
  split
  · exact SoulsKept.refl s
  · exact soulsKept_modifyLand _ _ _

theorem soulsKept_landLoop (radius : ℤ) (body : HexCoord → Hex → HexLand → HexLand) (s : Simulation) :
    SoulsKept s (s.landLoop radius body) :=
  soulsKept_foldl _ (soulsKept_landAtHex body) _ s

theorem soulsKept_damageHexHealth (conservationAt : HexCoord → ℕ) (c : HexCoord) (baseDamage : ℚ)
    (s : Simulation) : SoulsKept s (s.damageHexHealth conservationAt c baseDamage) := by
  unfold damageHexHealth
  split
  · exact SoulsKept.refl s
  · split_ifs
    · exact SoulsKept.refl s
    · exact soulsKept_modifyLand _ _ _

theorem soulsKept_applyWeatherHexDamage (conservationAt : HexCoord → ℕ) (radius : ℤ) (w : SimWeather)
    (tick : ℕ) (s : Simulation) : SoulsKept s (s.applyWeatherHexDamage conservationAt radius w tick) := by
  have eroded : ∀ t : Simulation, SoulsKept t (t.applyStormErosion conservationAt tick) := by
    intro t
    refine soulsKept_foldl _ (fun u q => ?_) _ t
    unfold erodeCoast
    dsimp only
    -- the population and the hour's draw are tested before the coast
    split_ifs
    · exact SoulsKept.refl u
    · split
      · exact SoulsKept.refl u
      · split_ifs <;> exact SoulsKept.refl u
    · split
      · exact SoulsKept.refl u
      · split_ifs
        · exact SoulsKept.refl u
        · exact (soulsKept_damageHexHealth _ _ _ u).trans
            (soulsKept_foldl _ (fun v nc => soulsKept_damageHexHealth conservationAt nc _ v) _ _)
  have stormed : SoulsKept s (if w.travelPenalty ≥ 2 then s.applyStormErosion conservationAt tick else s) := by
    split_ifs
    · exact eroded s
    · exact SoulsKept.refl s
  unfold Simulation.applyWeatherHexDamage
  dsimp only
  generalize (if w.travelPenalty ≥ 2 then s.applyStormErosion conservationAt tick else s) = t at stormed ⊢
  split_ifs
  · exact stormed.trans (soulsKept_landLoop _ _ _)
  · exact stormed

theorem soulsKept_droughtDisaster (position : HexCoord) (s : Simulation) : SoulsKept s (s.droughtDisaster position) :=
  (soulsKept_foldl _ (soulsKept_landAtHex _) _ s).trans (soulsKept_landAtHex _ _ _)

theorem soulsKept_restoreLandVision (oracle : AgentRef) (s : Simulation) :
    SoulsKept s (s.restoreLandVision oracle) := by
  unfold Simulation.restoreLandVision
  dsimp only
  cases (s.agentAt oracle).homeSettID with
  | none => exact SoulsKept.refl s
  | some home =>
    dsimp only [Option.elim]
    cases s.settlementIndex home with
    | none => exact SoulsKept.refl s
    | some q => exact soulsKept_foldl _ (soulsKept_landAtHex _) _ s

end Simulation

namespace Landscape

variable {keys : HexCoord → List ResourceType} {l : Landscape}

theorem Sound.withSim (sound : l.Sound keys) {t : Simulation} (kept : t.landAt = l.sim.landAt) :
    ({ l with sim := t } : Landscape).Sound keys :=
  ⟨fun c => kept ▸ sound.land c, sound.conservation_le, sound.weather_fit⟩

theorem Sound.setLevel (sound : l.Sound keys) (c : HexCoord) {level : ℕ} (le : level ≤ 5) (upgrade : Upgrade) :
    (l.setLevel c level upgrade).Sound keys := by
  cases upgrade with
  | irrigation =>
    refine ⟨?_, sound.conservation_le, sound.weather_fit⟩
    show (l.sim.modifyLand c fun land => { land with irrigationLevel := level }).LandSound keys
    exact sound.land.modifyLand c fun held =>
      ⟨held.health_nonneg, held.health_le_one, held.resources_nonneg, held.unkeyed, le⟩
  | conservation =>
    refine ⟨sound.land, fun c' => ?_, sound.weather_fit⟩
    show Function.update l.conservationAt c level c' ≤ 5
    rw [Function.update_apply]
    split_ifs
    exacts [le, sound.conservation_le c']

/-- A hex the scan considers keeps the best so far, or becomes it for an upgrade below level five. -/
theorem investCandidate_cases (settID : ℕ) (best : Option (HexCoord × Upgrade) × ℚ) (c : HexCoord) :
    l.investCandidate settID best c = best ∨
      ∃ upgrade, (l.investCandidate settID best c).1 = some (c, upgrade) ∧ l.upgradeLevel c upgrade < 5 := by
  unfold investCandidate
  cases l.sim.hexAt c with
  | none => exact .inl rfl
  | some hex =>
    dsimp only
    split_ifs
    · exact .inl rfl
    · exact .inl rfl
    · -- the conservation check runs on what the irrigation check left
      have irrigated : irrigationCandidate (l.sim.landAt c) c best = best ∨
          ((irrigationCandidate (l.sim.landAt c) c best).1 = some (c, .irrigation) ∧
            (l.sim.landAt c).irrigationLevel < 5) := by
        unfold irrigationCandidate
        dsimp only
        split_ifs with irrigable
        · exact .inr ⟨rfl, irrigable.1⟩
        · exact .inl rfl
        · exact .inl rfl
      unfold conservationCandidate
      dsimp only
      split_ifs with conservable
      · exact .inr ⟨.conservation, rfl, conservable.1⟩
      · rcases irrigated with same | ⟨picked, below⟩
        · exact .inl same
        · exact .inr ⟨.irrigation, picked, below⟩
      · rcases irrigated with same | ⟨picked, below⟩
        · exact .inl same
        · exact .inr ⟨.irrigation, picked, below⟩

/-- The scan of `processLandInvestment` picks an upgrade below level five. -/
theorem investScan_below (settID : ℕ) (order : List HexCoord) (start : ℚ) :
    ∀ c upgrade, (order.foldl (l.investCandidate settID) (none, start)).1 = some (c, upgrade) →
      l.upgradeLevel c upgrade < 5 := by
  refine foldl_invariant (fun best : Option (HexCoord × Upgrade) × ℚ =>
      ∀ c upgrade, best.1 = some (c, upgrade) → l.upgradeLevel c upgrade < 5) _ order _
    (fun c' _ best held c upgrade picked => ?_) fun _ _ picked => absurd picked (by simp)
  rcases investCandidate_cases settID best c' with same | ⟨upgrade', now, below⟩
  · exact held c upgrade (same ▸ picked)
  · rw [now, Option.some.injEq, Prod.mk.injEq] at picked
    obtain ⟨rfl, rfl⟩ := picked
    exact below

theorem Sound.investIn (sound : l.Sound keys) (order : List HexCoord) (q : SettRef) :
    (l.investIn order q).Sound keys := by
  unfold Landscape.investIn
  dsimp only
  split_ifs
  · exact sound
  · exact sound
  · exact sound
  · cases picked : (order.foldl (l.investCandidate (l.sim.settlementAt q).id) (none, maxFloat64)).1 with
    | none => exact sound
    | some pick =>
      obtain ⟨c, upgrade⟩ := pick
      dsimp only
      split_ifs
      · exact sound
      · -- the debit of the treasury leaves the land, and the level raised stays at most five
        refine Sound.setLevel ?_ c (investScan_below _ order _ c upgrade picked) upgrade
        exact sound.withSim rfl

theorem Sound.processLandInvestment (sound : l.Sound keys) (order : List HexCoord) :
    (l.processLandInvestment order).Sound keys :=
  foldl_invariant (Sound keys) _ _ l (fun q _ _ held => held.investIn order q) sound

theorem Sound.decayAt (sound : l.Sound keys) (simWeek : ℕ) (c : HexCoord) : (l.decayAt simWeek c).Sound keys := by
  unfold Landscape.decayAt
  cases l.sim.hexAt c with
  | none => exact sound
  | some hex =>
    dsimp only
    split_ifs
    · exact sound
    · exact sound
    · exact sound
    · -- a decay only lowers the two levels
      refine ⟨?_, fun c' => ?_, sound.weather_fit⟩
      · show (l.sim.modifyLand c fun land => { land with irrigationLevel := land.irrigationLevel - 1 }).LandSound keys
        exact sound.land.modifyLand c fun held => ⟨held.health_nonneg, held.health_le_one,
          held.resources_nonneg, held.unkeyed, le_trans (Nat.sub_le _ _) held.irrigation_le⟩
      show Function.update l.conservationAt c (l.conservationAt c - 1) c' ≤ 5
      rw [Function.update_apply]
      split_ifs with here
      · exact le_trans (Nat.sub_le _ _) (sound.conservation_le c)
      · exact sound.conservation_le c'

theorem Sound.processInfrastructureDecay (sound : l.Sound keys) (order : List HexCoord) (tick : ℕ) :
    (l.processInfrastructureDecay order tick).Sound keys :=
  foldl_invariant (Sound keys) _ _ l (fun c _ _ held => held.decayAt _ c) sound

theorem Sound.advocateLandVision (sound : l.Sound keys) (order : List HexCoord) (oracle : AgentRef) :
    (l.advocateLandVision order oracle).Sound keys := by
  unfold Landscape.advocateLandVision
  cases (l.sim.agentAt oracle).homeSettID with
  | none => exact sound
  | some home =>
    dsimp only [Option.elim]
    cases l.sim.settlementIndex home with
    | none => exact sound
    | some q =>
      dsimp only [Option.elim]
      cases (order.foldl (l.neediestHex (l.sim.settlementAt q).id) (none, 2)).1 with
      | none => exact sound
      | some c =>
        dsimp only
        split_ifs with conservable irrigable
        · exact sound.setLevel c conservable.2 .conservation
        · exact sound.setLevel c irrigable .irrigation
        · exact sound

end Landscape

/-! ## The hex rows of `world_meta` -/

structure HexHealthEntry where
  h : ℚ
  t : ℕ
  ir : ℕ
  co : ℕ
  cl : Option ℕ

/-- The `hex_health` and `hex_resources` rows of `world_meta`, as the restore decodes them: JSON
objects keyed by `"q,r"`, here by the coordinate (`fmt.Sscanf` reads back what `fmt.Sprintf`
wrote), and within a hex's resources by the resource; `none` is a row never written. -/
structure HexMeta where
  hexHealth : Option (GoMap HexCoord HexHealthEntry) := none
  hexResources : Option (GoMap HexCoord (GoMap ResourceType ℚ)) := none

/-- The rows of a loop over `WorldMap.Hexes`, in the order `order`, that keeps the row `row`
gives a hex, if any. -/
def collectRows {ν : Type} (order : List HexCoord) (row : HexCoord → Option ν) : GoMap HexCoord ν :=
  order.foldl (fun rows c => (row c).elim rows fun v => rows.insert c v) ∅

/-- `for resKey, qty := range resMap { hex.Resources[world.ResourceType(resType)] = qty }`. -/
def writeAll (resMap : GoMap ResourceType ℚ) (resources : ResourceType → ℚ) : ResourceType → ℚ :=
  resMap.keys.foldl (fun res r => (resMap.lookup r).elim res fun qty => Function.update res r qty) resources

/-- The loop of `main.go` after the restore: a hex at health zero never worked is set to full
health, meant for a first deploy with no saved health. -/
def pristineLand (land : HexLand) : HexLand :=
  if land.health = 0 ∧ land.lastExtractedTick = 0 then { land with health := 1 } else land

namespace Landscape

/-- The entry `SaveWorldState` writes for a hex that is not pristine: worn, worked, improved or
claimed. -/
def healthRow (l : Landscape) (c : HexCoord) : Option HexHealthEntry :=
  (l.sim.hexAt c).bind fun hex =>
    let land := l.sim.landAt c
    if land.health < 1 ∨ land.lastExtractedTick > 0 ∨ land.irrigationLevel > 0 ∨ l.conservationAt c > 0 ∨
        hex.claimedBy.isSome then
      some ⟨land.health, land.lastExtractedTick, land.irrigationLevel, l.conservationAt c, hex.claimedBy⟩
    else none

/-- The entry `SaveWorldState` writes for a hex with a resource: every resource of its map. -/
def resourceRow (keys : HexCoord → List ResourceType) (l : Landscape) (c : HexCoord) :
    Option (GoMap ResourceType ℚ) :=
  (l.sim.hexAt c).bind fun _ =>
    if (keys c).length = 0 then none
    else some ((keys c).foldl (fun m r => m.insert r ((l.sim.landAt c).resources r)) ∅)

/-- The two inline saves of `SaveWorldState`, `hex_health` then `hex_resources`, over the hexes of
the map in the order `order`; each is written only when it has an entry, and `SaveMeta` never
deletes, so an empty one leaves the row of an earlier save. -/
def saveHexes (keys : HexCoord → List ResourceType) (order : List HexCoord) (l : Landscape)
    (table : HexMeta) : HexMeta :=
  let health := collectRows order l.healthRow
  let table := if health.entries.length = 0 then table else { table with hexHealth := some health }
  let resources := collectRows order (l.resourceRow keys)
  if resources.entries.length = 0 then table else { table with hexResources := some resources }

/-- What a `hex_health` entry writes: the hex's claim, its health, last extraction and
irrigation, and its conservation. -/
def healthEntryStep (rows : GoMap HexCoord HexHealthEntry) (c : HexCoord)
    (view : Option Hex × HexLand × ℕ) : Option Hex × HexLand × ℕ :=
  match rows.lookup c, view.1 with
  | some e, some hex =>
    (some { hex with claimedBy := e.cl },
      { view.2.1 with health := e.h, lastExtractedTick := e.t, irrigationLevel := e.ir }, e.co)
  | _, _ => view

/-- One entry of the `hex_health` restore, on the hex of the map it names, if any. -/
def restoreHealthAt (rows : GoMap HexCoord HexHealthEntry) (l : Landscape) (c : HexCoord) : Landscape :=
  let view := healthEntryStep rows c (l.sim.hexAt c, l.sim.landAt c, l.conservationAt c)
  { l with
    sim := { l.sim with
      hexAt := Function.update l.sim.hexAt c view.1
      landAt := Function.update l.sim.landAt c view.2.1 }
    conservationAt := Function.update l.conservationAt c view.2.2 }

/-- One entry of the `hex_resources` restore. -/
def restoreResourcesAt (rows : GoMap HexCoord (GoMap ResourceType ℚ)) (l : Landscape) (c : HexCoord) :
    Landscape :=
  match rows.lookup c, l.sim.hexAt c with
  | some resMap, some _ =>
    { l with sim := l.sim.modifyLand c fun land => { land with resources := writeAll resMap land.resources } }
  | _, _ => l

/-- The `hex_health` restore of `main.go`, when the row decodes to an entry or more.  Go ranges
over the decoded map in an unspecified order; each entry writes only its own hex, so the model
walks the map's keys. -/
def restoreHexHealth (table : HexMeta) (l : Landscape) : Landscape :=
  match table.hexHealth with
  | none => l
  | some rows => if rows.entries.length = 0 then l else rows.keys.foldl (restoreHealthAt rows) l

/-- The `hex_resources` restore of `main.go`. -/
def restoreHexResources (table : HexMeta) (l : Landscape) : Landscape :=
  match table.hexResources with
  | none => l
  | some rows => if rows.entries.length = 0 then l else rows.keys.foldl (restoreResourcesAt rows) l

/-- The land of a restart: the freshly generated world `fresh`, its hex health and its resources
restored from the table, then every map hex, in the order `order`, through `pristineLand`. -/
def restoreHexes (order : List HexCoord) (table : HexMeta) (fresh : Landscape) : Landscape :=
  let l := restoreHexResources table (restoreHexHealth table fresh)
  { l with sim := order.foldl (Simulation.landAtHex fun _ _ => pristineLand) l.sim }

/-- The land of a restart of `main.go` at the loaded tick `startTick`: both restores run only
past tick zero, and the pristine pass always. -/
def restartLand (startTick : ℕ) (order : List HexCoord) (table : HexMeta) (fresh : Landscape) : Landscape :=
  if startTick > 0 then restoreHexes order table fresh else restoreHexes order {} fresh

/-- A landscape as `Generate` leaves it: every hex at full health, never worked, with no
improvement and no claim, its resources sound, and the weather at its zero value; its agents,
generated or loaded, have coherent souls, and nothing is cached yet. -/
structure Pristine (keys : HexCoord → List ResourceType) (l : Landscape) : Prop where
  land : l.sim.LandSound keys
  health : ∀ c, (l.sim.landAt c).health = 1
  unworked : ∀ c, (l.sim.landAt c).lastExtractedTick = 0
  unirrigated : ∀ c, (l.sim.landAt c).irrigationLevel = 0
  unconserved : ∀ c, l.conservationAt c = 0
  unclaimed : ∀ c hex, l.sim.hexAt c = some hex → hex.claimedBy = none
  weather : l.weather = default
  coherent : l.sim.Coherent
  uncached : ∀ k, l.coherenceCache k = none

end Landscape

/-- Rows a sound landscape could have written: health in the unit interval, levels at most five,
resources non-negative and of the hex's map. -/
structure HexMeta.Sound (keys : HexCoord → List ResourceType) (table : HexMeta) : Prop where
  health : ∀ rows ∈ table.hexHealth, ∀ c e, rows.lookup c = some e → 0 ≤ e.h ∧ e.h ≤ 1 ∧ e.ir ≤ 5 ∧ e.co ≤ 5
  resources : ∀ rows ∈ table.hexResources, ∀ c resMap, rows.lookup c = some resMap →
    ∀ r qty, resMap.lookup r = some qty → 0 ≤ qty ∧ r ∈ keys c

/-! ## Runs -/

/-- The modifiers `TickMinute` hands `ResolveWork`: the boost, the coherence modifier, and the
conservation factor of the production hex (one without a hex). -/
def workModifiers (conservationAt : HexCoord → ℕ) (productionHex : Simulation → AgentRef → Option HexCoord)
    (boost coherence : Simulation → AgentRef → ℚ) (s : Simulation) (p : AgentRef) : ℚ × ℚ × ℚ :=
  (boost s p, coherence s p, (productionHex s p).elim 1 fun c => conservationDamageFactor (conservationAt c))

namespace Landscape

/-- The coherence modifier of a worker's minute in `TickMinute`, through `tickCoherenceCache`:
one without a home; else the value cached for the home, or on a miss `coherenceExtractionMod`
of it, which is then cached.  Returns the modifier and the cache. -/
def cachedCoherence (l : Landscape) (p : AgentRef) : ℚ × (ℕ → Option ℚ) :=
  match (l.sim.agentAt p).homeSettID with
  | none => (1, l.coherenceCache)
  | some home =>
    match l.coherenceCache home with
    | some cm => (cm, l.coherenceCache)
    | none =>
      let cm := l.sim.coherenceExtractionMod home
      (cm, Function.update l.coherenceCache home (some cm))

/-- An agent's minute of `TickMinute` on the land: its decided action resolved with the boost
`boost` (the season's and its settlement's), the cached coherence modifier of its home and the
conservation factor of its production hex; only a worker consults the cache, and so fills it. -/
def resolveMinute (decide : Agent → ActionKind × Bool) (productionHex : Simulation → AgentRef → Option HexCoord)
    (boost : Simulation → AgentRef → ℚ) (tick : ℕ) (p : AgentRef) (l : Landscape) : Landscape :=
  let cached := l.cachedCoherence p
  { l with
    sim := l.sim.resolveAction decide productionHex
      (workModifiers l.conservationAt productionHex boost fun _ _ => cached.1) tick p
    coherenceCache := if (decide (l.sim.agentAt p)).1 = .work then cached.2 else l.coherenceCache }

/-- The `work` decision of `applyTier2Decision`: `ResolveWork` on the production hex, with the
settlement's boost, `coherenceExtractionMod` of the home called directly, and the hex's
conservation factor. -/
def tier2Work (productionHex : Simulation → AgentRef → Option HexCoord) (boost : Simulation → AgentRef → ℚ)
    (tick : ℕ) (p : AgentRef) (l : Landscape) : Landscape :=
  { l with
    sim := l.sim.resolveAction (fun _ => (.work, false)) productionHex
      (workModifiers l.conservationAt productionHex boost Simulation.homeCoherence) tick p }

end Landscape

/-- The land of a deployment: the running landscape and the hex rows of `world_meta`. -/
structure LandDeployment where
  land : Landscape
  table : HexMeta

/-- The writers of the land, the save of its rows and the restart, for hexes whose resource maps
have the keys `keys`. -/
inductive LandStep (keys : HexCoord → List ResourceType) : LandDeployment → LandDeployment → Prop where
  /-- An agent's minute in `TickMinute`: its action, with work on its production hex. -/
  | work (l : Landscape) (table : HexMeta) (decide : Agent → ActionKind × Bool)
      (productionHex : Simulation → AgentRef → Option HexCoord) (boost : Simulation → AgentRef → ℚ) (tick : ℕ)
      (p : AgentRef) :
      LandStep keys ⟨l, table⟩ ⟨l.resolveMinute decide productionHex boost tick p, table⟩
  /-- The start of `TickMinute`, which clears `tickCoherenceCache`. -/
  | clearCache (l : Landscape) (table : HexMeta) :
      LandStep keys ⟨l, table⟩ ⟨{ l with coherenceCache := fun _ => none }, table⟩
  /-- The `work` decision of a Tier-2 agent. -/
  | tier2Work (l : Landscape) (table : HexMeta) (productionHex : Simulation → AgentRef → Option HexCoord)
      (boost : Simulation → AgentRef → ℚ) (tick : ℕ) (p : AgentRef) :
      LandStep keys ⟨l, table⟩ ⟨l.tier2Work productionHex boost tick p, table⟩
  | season (l : Landscape) (table : HexMeta) (radius : ℤ) :
      LandStep keys ⟨l, table⟩ ⟨{ l with sim := l.sim.regenerateResources keys radius }, table⟩
  | week (l : Landscape) (table : HexMeta) (radius : ℤ) :
      LandStep keys ⟨l, table⟩ ⟨{ l with sim := l.sim.weeklyResourceRegen keys radius l.weather }, table⟩
  /-- `hourlyResourceRegen`, with `math.Log2`, which is non-negative from one on. -/
  | hour (l : Landscape) (table : HexMeta) (radius : ℤ) (log2 : ℚ → ℚ) (pressure : ℕ → ℚ)
      (log2_nonneg : ∀ x, 1 ≤ x → 0 ≤ log2 x) :
      LandStep keys ⟨l, table⟩ ⟨{ l with sim := l.sim.hourlyResourceRegen keys radius log2 pressure l.weather }, table⟩
  /-- `updateWeather`, from a fetch or the seasonal default; a failed fetch is an `other` step. -/
  | weather (l : Landscape) (table : HexMeta) (conditions : Option Conditions) :
      LandStep keys ⟨l, table⟩ ⟨{ l with weather := mapToSim conditions }, table⟩
  | weatherDamage (l : Landscape) (table : HexMeta) (radius : ℤ) (tick : ℕ) :
      LandStep keys ⟨l, table⟩ ⟨{ l with sim := l.sim.applyWeatherHexDamage l.conservationAt radius l.weather tick },
        table⟩
  | disaster (l : Landscape) (table : HexMeta) (position : HexCoord) :
      LandStep keys ⟨l, table⟩ ⟨{ l with sim := l.sim.droughtDisaster position }, table⟩
  | restoreLand (l : Landscape) (table : HexMeta) (oracle : AgentRef) :
      LandStep keys ⟨l, table⟩ ⟨{ l with sim := l.sim.restoreLandVision oracle }, table⟩
  | advocateLand (l : Landscape) (table : HexMeta) (order : List HexCoord) (oracle : AgentRef) :
      LandStep keys ⟨l, table⟩ ⟨l.advocateLandVision order oracle, table⟩
  | invest (l : Landscape) (table : HexMeta) (order : List HexCoord) :
      LandStep keys ⟨l, table⟩ ⟨l.processLandInvestment order, table⟩
  | decay (l : Landscape) (table : HexMeta) (order : List HexCoord) (tick : ℕ) :
      LandStep keys ⟨l, table⟩ ⟨l.processInfrastructureDecay order tick, table⟩
  /-- The `bless` vision of an oracle. -/
  | bless (l : Landscape) (table : HexMeta) (oracle : AgentRef) (target : String) :
      LandStep keys ⟨l, table⟩ ⟨{ l with sim := l.sim.blessVision oracle target }, table⟩
  /-- Any other write of the simulation, which leaves the land alone and every coherence in the
  unit interval and governance score at most one, as each writer of these clamps them. -/
  | other (l : Landscape) (table : HexMeta) (next : Simulation) (kept : next.landAt = l.sim.landAt)
      (coherent : next.Coherent) :
      LandStep keys ⟨l, table⟩ ⟨{ l with sim := next }, table⟩
  | save (l : Landscape) (table : HexMeta) (order : List HexCoord) :
      LandStep keys ⟨l, table⟩ ⟨l, l.saveHexes keys order table⟩
  /-- A restart at the loaded tick `startTick`: the world generated afresh, then the restore. -/
  | restart (l : Landscape) (table : HexMeta) (fresh : Landscape) (pristine : fresh.Pristine keys)
      (startTick : ℕ) (order : List HexCoord) :
      LandStep keys ⟨l, table⟩ ⟨Landscape.restartLand startTick order table fresh, table⟩

/-- A first deploy: a generated world and no rows. -/
def LandDeployment.Fresh (keys : HexCoord → List ResourceType) (d : LandDeployment) : Prop :=
  d.land.Pristine keys ∧ d.table = {}

/-! ## The save and the restore keep the land sound -/

theorem lookup_collectRows {ν : Type} (order : List HexCoord) (row : HexCoord → Option ν) (c : HexCoord) :
    (collectRows order row).lookup c = if c ∈ order then row c else none := by
  unfold collectRows
  rw [lookup_foldl_insertSome]
  split_ifs <;> simp

/-- A map written key by key from `f` holds `f` on exactly those keys. -/
theorem lookup_foldl_insert_of {ν : Type} (ks : List ResourceType) (f : ResourceType → ν) (r : ResourceType) :
    (ks.foldl (fun m r => m.insert r (f r)) (∅ : GoMap ResourceType ν)).lookup r =
      if r ∈ ks then some (f r) else none := by
  have written := lookup_foldl_insertSome (fun r => some (f r)) ks ∅ r
  simpa using written

theorem entries_length_ne_zero {κ ν : Type} [DecidableEq κ] {m : GoMap κ ν} {c : κ} {v : ν}
    (found : m.lookup c = some v) : m.entries.length ≠ 0 := by
  intro empty
  rw [AList.lookup, List.eq_nil_of_length_eq_zero empty] at found
  cases found

/-- `writeAll` takes each resource the map holds and keeps the rest. -/
theorem writeAll_apply (resMap : GoMap ResourceType ℚ) (resources : ResourceType → ℚ) (r : ResourceType) :
    writeAll resMap resources r = (resMap.lookup r).getD (resources r) := by
  have keyed : KeyLocal (fun (res : ResourceType → ℚ) r => res r)
      (fun res r => (resMap.lookup r).elim res fun qty => Function.update res r qty)
      fun r v => (resMap.lookup r).getD v := by
    intro res key other
    dsimp only
    by_cases same : other = key
    · subst same
      cases resMap.lookup other <;> simp
    · cases resMap.lookup key <;> simp [same]
  exact foldl_keyLocal_of_fixed keyed resMap.keys resMap.keys_nodup resources r fun absent => by
    rw [AList.lookup_eq_none.mpr absent]
    rfl

theorem HexLand.Sound.writeAll {ks : List ResourceType} {land : HexLand} (sound : land.Sound ks)
    {resMap : GoMap ResourceType ℚ} (fit : ∀ r qty, resMap.lookup r = some qty → 0 ≤ qty ∧ r ∈ ks) :
    { land with resources := MiniWorld.Engine.writeAll resMap land.resources }.Sound ks := by
  refine ⟨sound.health_nonneg, sound.health_le_one, fun r => ?_, fun r unlisted => ?_, sound.irrigation_le⟩
  · dsimp only
    rw [writeAll_apply]
    cases found : resMap.lookup r with
    | none => exact sound.resources_nonneg r
    | some qty => exact (fit r qty found).1
  · dsimp only
    rw [writeAll_apply]
    cases found : resMap.lookup r with
    | none => exact sound.unkeyed r unlisted
    | some qty => exact absurd (fit r qty found).2 unlisted

section Rows

variable {keys : HexCoord → List ResourceType}

theorem HexMeta.Sound.withHealth {table : HexMeta} (tsound : table.Sound keys) {rows : GoMap HexCoord HexHealthEntry}
    (fit : ∀ c e, rows.lookup c = some e → 0 ≤ e.h ∧ e.h ≤ 1 ∧ e.ir ≤ 5 ∧ e.co ≤ 5) :
    ({ table with hexHealth := some rows } : HexMeta).Sound keys :=
  ⟨fun _ saved => by obtain rfl := Option.mem_some_iff.mp saved; exact fit, tsound.resources⟩

theorem HexMeta.Sound.withResources {table : HexMeta} (tsound : table.Sound keys)
    {rows : GoMap HexCoord (GoMap ResourceType ℚ)}
    (fit : ∀ c resMap, rows.lookup c = some resMap → ∀ r qty, resMap.lookup r = some qty → 0 ≤ qty ∧ r ∈ keys c) :
    ({ table with hexResources := some rows } : HexMeta).Sound keys :=
  ⟨tsound.health, fun _ saved => by obtain rfl := Option.mem_some_iff.mp saved; exact fit⟩

theorem HexMeta.Sound.empty : HexMeta.Sound keys {} :=
  ⟨fun _ unsaved => absurd unsaved (Option.not_mem_none _), fun _ unsaved => absurd unsaved (Option.not_mem_none _)⟩

end Rows

namespace Landscape

variable {keys : HexCoord → List ResourceType} {l : Landscape}

theorem Sound.withLand (sound : l.Sound keys) {t : Simulation} (held : t.LandSound keys) :
    ({ l with sim := t } : Landscape).Sound keys :=
  ⟨held, sound.conservation_le, sound.weather_fit⟩

/-- The health row of a hex of the map below full health holds its land and conservation. -/
theorem healthRow_of_worn {c : HexCoord} {hex : Hex} (located : l.sim.hexAt c = some hex)
    (worn : (l.sim.landAt c).health < 1) :
    l.healthRow c = some ⟨(l.sim.landAt c).health, (l.sim.landAt c).lastExtractedTick,
      (l.sim.landAt c).irrigationLevel, l.conservationAt c, hex.claimedBy⟩ := by
  unfold healthRow
  simp only [located, Option.bind_some]
  rw [if_pos (.inl worn)]

theorem Sound.healthRow (sound : l.Sound keys) {c : HexCoord} {e : HexHealthEntry} (row : l.healthRow c = some e) :
    0 ≤ e.h ∧ e.h ≤ 1 ∧ e.ir ≤ 5 ∧ e.co ≤ 5 := by
  unfold Landscape.healthRow at row
  cases located : l.sim.hexAt c with
  | none => simp [located] at row
  | some hex =>
    simp only [located, Option.bind_some] at row
    split_ifs at row
    · cases row
      exact ⟨(sound.land c).health_nonneg, (sound.land c).health_le_one, (sound.land c).irrigation_le,
        sound.conservation_le c⟩

theorem Sound.resourceRow (sound : l.Sound keys) {c : HexCoord} {resMap : GoMap ResourceType ℚ}
    (row : l.resourceRow keys c = some resMap) : ∀ r qty, resMap.lookup r = some qty → 0 ≤ qty ∧ r ∈ keys c := by
  intro r qty found
  unfold Landscape.resourceRow at row
  cases located : l.sim.hexAt c with
  | none => simp [located] at row
  | some hex =>
    simp only [located, Option.bind_some] at row
    split_ifs at row
    cases row
    rw [lookup_foldl_insert_of] at found
    split_ifs at found with listed
    cases found
    exact ⟨(sound.land c).resources_nonneg r, listed⟩

theorem saveHexes_hexHealth (keys : HexCoord → List ResourceType) (order : List HexCoord) (table : HexMeta)
    (written : (collectRows order l.healthRow).entries.length ≠ 0) :
    (l.saveHexes keys order table).hexHealth = some (collectRows order l.healthRow) := by
  unfold saveHexes
  dsimp only
  split_ifs <;> rfl

end Landscape

theorem HexMeta.Sound.saveHexes {keys : HexCoord → List ResourceType} {l : Landscape} {table : HexMeta}
    (tsound : table.Sound keys) (sound : l.Sound keys) (order : List HexCoord) :
    (l.saveHexes keys order table).Sound keys := by
  have health : ∀ c e, (collectRows order l.healthRow).lookup c = some e →
      0 ≤ e.h ∧ e.h ≤ 1 ∧ e.ir ≤ 5 ∧ e.co ≤ 5 := fun c e found => by
    rw [lookup_collectRows] at found
    split_ifs at found
    exact sound.healthRow found
  have resources : ∀ c resMap, (collectRows order (l.resourceRow keys)).lookup c = some resMap →
      ∀ r qty, resMap.lookup r = some qty → 0 ≤ qty ∧ r ∈ keys c := fun c resMap found => by
    rw [lookup_collectRows] at found
    split_ifs at found
    exact sound.resourceRow found
  unfold Landscape.saveHexes
  dsimp only
  split_ifs
  · exact tsound
  · exact tsound.withHealth health
  · exact tsound.withResources resources
  · exact (tsound.withHealth health).withResources resources

namespace Landscape

variable {keys : HexCoord → List ResourceType} {l : Landscape}

theorem healthEntryStep_cases (rows : GoMap HexCoord HexHealthEntry) (c : HexCoord) (view : Option Hex × HexLand × ℕ) :
    healthEntryStep rows c view = view ∨ ∃ e hex, rows.lookup c = some e ∧ view.1 = some hex ∧
      healthEntryStep rows c view = (some { hex with claimedBy := e.cl },
        { view.2.1 with health := e.h, lastExtractedTick := e.t, irrigationLevel := e.ir }, e.co) := by
  unfold healthEntryStep
  split
  · next e hex found located => exact .inr ⟨e, hex, found, located, rfl⟩
  · exact .inl rfl

theorem Sound.restoreHealthAt (sound : l.Sound keys) {rows : GoMap HexCoord HexHealthEntry}
    (fit : ∀ c e, rows.lookup c = some e → 0 ≤ e.h ∧ e.h ≤ 1 ∧ e.ir ≤ 5 ∧ e.co ≤ 5) (c : HexCoord) :
    (l.restoreHealthAt rows c).Sound keys := by
  have step : (healthEntryStep rows c (l.sim.hexAt c, l.sim.landAt c, l.conservationAt c)).2.1.Sound (keys c) ∧
      (healthEntryStep rows c (l.sim.hexAt c, l.sim.landAt c, l.conservationAt c)).2.2 ≤ 5 := by
    rcases healthEntryStep_cases rows c (l.sim.hexAt c, l.sim.landAt c, l.conservationAt c) with
      kept | ⟨e, hex, found, -, written⟩
    · rw [kept]
      exact ⟨sound.land c, sound.conservation_le c⟩
    · rw [written]
      obtain ⟨nonneg, le_one, irrigated, conserved⟩ := fit c e found
      exact ⟨⟨nonneg, le_one, (sound.land c).resources_nonneg, (sound.land c).unkeyed, irrigated⟩, conserved⟩
  unfold Landscape.restoreHealthAt
  refine ⟨fun c' => ?_, fun c' => ?_, sound.weather_fit⟩
  -- each entry writes its own hex only
  · dsimp only
    rw [Function.update_apply]
    split_ifs with same
    · subst same
      exact step.1
    · exact sound.land c'
  · dsimp only
    rw [Function.update_apply]
    split_ifs with same
    · subst same
      exact step.2
    · exact sound.conservation_le c'

theorem Sound.restoreResourcesAt (sound : l.Sound keys) {rows : GoMap HexCoord (GoMap ResourceType ℚ)}
    (fit : ∀ c resMap, rows.lookup c = some resMap → ∀ r qty, resMap.lookup r = some qty → 0 ≤ qty ∧ r ∈ keys c)
    (c : HexCoord) : (l.restoreResourcesAt rows c).Sound keys := by
  unfold Landscape.restoreResourcesAt
  split
  · next resMap _ found _ =>
    exact sound.withLand (sound.land.modifyLand c fun held => held.writeAll (fit c resMap found))
  · exact sound

theorem Sound.restoreHexHealth (sound : l.Sound keys) {table : HexMeta} (tsound : table.Sound keys) :
    (l.restoreHexHealth table).Sound keys := by
  unfold Landscape.restoreHexHealth
  cases saved : table.hexHealth with
  | none => exact sound
  | some rows =>
    dsimp only
    split_ifs
    · exact sound
    · exact foldl_invariant (Sound keys) _ _ l
        (fun c _ _ held => held.restoreHealthAt (tsound.health rows saved) c) sound

theorem Sound.restoreHexResources (sound : l.Sound keys) {table : HexMeta} (tsound : table.Sound keys) :
    (l.restoreHexResources table).Sound keys := by
  unfold Landscape.restoreHexResources
  cases saved : table.hexResources with
  | none => exact sound
  | some rows =>
    dsimp only
    split_ifs
    · exact sound
    · exact foldl_invariant (Sound keys) _ _ l
        (fun c _ _ held => held.restoreResourcesAt (tsound.resources rows saved) c) sound

theorem Pristine.sound (pristine : l.Pristine keys) : l.Sound keys := by
  refine ⟨pristine.land, fun c => by simp [pristine.unconserved c], ?_⟩
  rw [pristine.weather]
  exact zero_le_one

theorem Sound.restoreHexes {fresh : Landscape} (pristine : fresh.Pristine keys) {table : HexMeta}
    (tsound : table.Sound keys) (order : List HexCoord) : (restoreHexes order table fresh).Sound keys := by
  have restored := (pristine.sound.restoreHexHealth tsound).restoreHexResources tsound
  unfold Landscape.restoreHexes
  refine restored.withLand (foldl_invariant (Simulation.LandSound keys) _ _ _ (fun c _ s held => ?_) restored.land)
  refine held.landAtHex (fun c hex land unrevived => ?_) c
  unfold pristineLand
  split_ifs
  · exact unrevived.withHealth zero_le_one le_rfl
  · exact unrevived

theorem Sound.restartLand {fresh : Landscape} (pristine : fresh.Pristine keys) {table : HexMeta}
    (tsound : table.Sound keys) (startTick : ℕ) (order : List HexCoord) :
    (restartLand startTick order table fresh).Sound keys := by
  unfold Landscape.restartLand
  split_ifs
  · exact Sound.restoreHexes pristine tsound order
  · exact Sound.restoreHexes pristine HexMeta.Sound.empty order

/-! ### The writers of the land keep every soul and the cache -/

/-- `l'` keeps every soul, every governance score and the coherence cache of `l`. -/
structure SoulsKept (l l' : Landscape) : Prop where
  sim : Simulation.SoulsKept l.sim l'.sim
  cache : l'.coherenceCache = l.coherenceCache

theorem SoulsKept.refl (l : Landscape) : l.SoulsKept l := ⟨Simulation.SoulsKept.refl _, rfl⟩

theorem SoulsKept.trans {l' l'' : Landscape} (first : l.SoulsKept l') (second : l'.SoulsKept l'') :
    l.SoulsKept l'' :=
  ⟨first.sim.trans second.sim, second.cache.trans first.cache⟩

theorem soulsKept_foldl {α : Type} (body : Landscape → α → Landscape)
    (each : ∀ (m : Landscape) (a : α), m.SoulsKept (body m a)) (items : List α) (l : Landscape) :
    l.SoulsKept (items.foldl body l) :=
  foldl_invariant (SoulsKept l) body items l (fun a _ m kept => kept.trans (each m a)) (SoulsKept.refl l)

theorem soulsKept_withSim {t : Simulation} (kept : Simulation.SoulsKept l.sim t) :
    l.SoulsKept { l with sim := t } :=
  ⟨kept, rfl⟩

theorem soulsKept_setLevel (c : HexCoord) (level : ℕ) (upgrade : Upgrade) : l.SoulsKept (l.setLevel c level upgrade) := by
  cases upgrade with
  | irrigation => exact soulsKept_withSim (Simulation.soulsKept_modifyLand _ _ _)
  | conservation => exact ⟨⟨fun _ => rfl, fun _ => rfl⟩, rfl⟩

theorem soulsKept_processLandInvestment (order : List HexCoord) (l : Landscape) :
    l.SoulsKept (l.processLandInvestment order) := by
  refine soulsKept_foldl _ (fun l q => ?_) _ l
  unfold investIn
  dsimp only
  split_ifs
  · exact SoulsKept.refl l
  · exact SoulsKept.refl l
  · exact SoulsKept.refl l
  · split
    · exact SoulsKept.refl l
    · split_ifs
      · exact SoulsKept.refl l
      · -- the upgrade is paid from the treasury, whose score it leaves
        exact (soulsKept_withSim (Simulation.soulsKept_modifySettlement _ _ rfl)).trans (soulsKept_setLevel _ _ _)

theorem soulsKept_processInfrastructureDecay (order : List HexCoord) (tick : ℕ) (l : Landscape) :
    l.SoulsKept (l.processInfrastructureDecay order tick) := by
  refine soulsKept_foldl _ (fun l c => ?_) _ l
  unfold decayAt
  split
  · exact SoulsKept.refl l
  · split_ifs
    · exact SoulsKept.refl l
    · exact SoulsKept.refl l
    · exact SoulsKept.refl l
    · exact ⟨⟨fun _ => rfl, fun _ => rfl⟩, rfl⟩

theorem soulsKept_advocateLandVision (order : List HexCoord) (oracle : AgentRef) (l : Landscape) :
    l.SoulsKept (l.advocateLandVision order oracle) := by
  unfold advocateLandVision
  cases (l.sim.agentAt oracle).homeSettID with
  | none => exact SoulsKept.refl l
  | some home =>
    dsimp only [Option.elim]
    cases l.sim.settlementIndex home with
    | none => exact SoulsKept.refl l
    | some q =>
      dsimp only [Option.elim]
      split
      · exact SoulsKept.refl l
      · split_ifs
        · exact soulsKept_setLevel _ _ _
        · exact soulsKept_setLevel _ _ _
        · exact SoulsKept.refl l

/-- The restart keeps the souls and the cache of the fresh world: the restores write the map,
the land and the conservation levels. -/
theorem soulsKept_restoreHexes (order : List HexCoord) (table : HexMeta) (fresh : Landscape) :
    fresh.SoulsKept (restoreHexes order table fresh) := by
  have health : fresh.SoulsKept (restoreHexHealth table fresh) := by
    unfold restoreHexHealth
    split
    · exact SoulsKept.refl fresh
    · rename_i rows _
      split_ifs
      · exact SoulsKept.refl fresh
      · exact soulsKept_foldl (restoreHealthAt rows) (fun l c => ⟨⟨fun _ => rfl, fun _ => rfl⟩, rfl⟩) _ fresh
  have resources : ∀ l : Landscape, l.SoulsKept (restoreHexResources table l) := by
    intro l
    unfold restoreHexResources
    split
    · exact SoulsKept.refl l
    · split_ifs
      · exact SoulsKept.refl l
      · refine soulsKept_foldl _ (fun l c => ?_) _ l
        unfold restoreResourcesAt
        split
        · exact soulsKept_withSim (Simulation.soulsKept_modifyLand _ _ _)
        · exact SoulsKept.refl l
  unfold Landscape.restoreHexes
  exact (health.trans (resources _)).trans
    (soulsKept_withSim (Simulation.soulsKept_foldl _ (Simulation.soulsKept_landAtHex _) _ _))

theorem soulsKept_restartLand (startTick : ℕ) (order : List HexCoord) (table : HexMeta) (fresh : Landscape) :
    fresh.SoulsKept (restartLand startTick order table fresh) := by
  unfold Landscape.restartLand
  split_ifs
  · exact soulsKept_restoreHexes order table fresh
  · exact soulsKept_restoreHexes order {} fresh

/-- The coherence modifiers a landscape can hand out are at least `1 - Agnosis`: its souls are
coherent, and so is each modifier it has cached. -/
structure Careful (l : Landscape) : Prop where
  coherent : l.sim.Coherent
  cached : ∀ k cm, l.coherenceCache k = some cm → 1 - agnosis ≤ cm

theorem Careful.of_soulsKept {l' : Landscape} (careful : l.Careful) (kept : l.SoulsKept l') : l'.Careful :=
  ⟨careful.coherent.of_soulsKept kept.sim, fun k cm found => careful.cached k cm (by rw [← kept.cache]; exact found)⟩

theorem Pristine.careful (pristine : l.Pristine keys) : l.Careful :=
  ⟨pristine.coherent, fun k cm found => absurd (found.symm.trans (pristine.uncached k)) (Option.some_ne_none cm)⟩

end Landscape

/-! ## Every run keeps the land sound -/

section Run

variable {keys : HexCoord → List ResourceType}

theorem workModifiers_careful (conservationAt : HexCoord → ℕ) (productionHex : Simulation → AgentRef → Option HexCoord)
    (boost : Simulation → AgentRef → ℚ) {coherence : Simulation → AgentRef → ℚ} {s : Simulation} {p : AgentRef}
    (careful : 0 ≤ coherence s p) :
    0 ≤ (workModifiers conservationAt productionHex boost coherence s p).2.1 ∧
      0 ≤ (workModifiers conservationAt productionHex boost coherence s p).2.2 := by
  refine ⟨careful, ?_⟩
  show 0 ≤ (productionHex s p).elim 1 fun c => conservationDamageFactor (conservationAt c)
  cases productionHex s p with
  | none => exact zero_le_one
  | some c =>
    rw [Option.elim_some]
    exact (conservationDamageFactor_pos (conservationAt c)).le

namespace Landscape

variable {l : Landscape}

theorem Careful.cachedCoherence_ge (careful : l.Careful) (p : AgentRef) : 1 - agnosis ≤ (l.cachedCoherence p).1 := by
  unfold cachedCoherence
  split
  · linarith [agnosis_pos]
  · rename_i home _
    split
    · rename_i cm found
      exact careful.cached home cm found
    · exact careful.coherent.coherenceExtractionMod_ge home

/-- A miss caches `coherenceExtractionMod` of the home, which the coherent souls bound. -/
theorem Careful.cachedCoherence_cache (careful : l.Careful) (p : AgentRef) :
    ∀ k cm, (l.cachedCoherence p).2 k = some cm → 1 - agnosis ≤ cm := by
  unfold cachedCoherence
  split
  · exact careful.cached
  · rename_i home _
    split
    · exact careful.cached
    · intro k cm found
      change Function.update l.coherenceCache home (some (l.sim.coherenceExtractionMod home)) k = some cm at found
      rw [Function.update_apply] at found
      split_ifs at found
      · cases found
        exact careful.coherent.coherenceExtractionMod_ge home
      · exact careful.cached k cm found

theorem Careful.resolveMinute (careful : l.Careful) (decide : Agent → ActionKind × Bool)
    (productionHex : Simulation → AgentRef → Option HexCoord) (boost : Simulation → AgentRef → ℚ) (tick : ℕ)
    (p : AgentRef) : (l.resolveMinute decide productionHex boost tick p).Careful := by
  refine ⟨careful.coherent.resolveAction decide productionHex _ tick p, ?_⟩
  unfold Landscape.resolveMinute
  dsimp only
  split_ifs
  · exact careful.cachedCoherence_cache p
  · exact careful.cached

end Landscape

/-- One step keeps the souls coherent and the cache within bounds: the writers of the land keep
every soul, the actions keep theirs in the unit interval, and a restart starts from a fresh
world. -/
theorem LandStep.careful {d d' : LandDeployment} (step : LandStep keys d d') (careful : d.land.Careful) :
    d'.land.Careful := by
  cases step with
  | work l table decide productionHex boost tick p => exact careful.resolveMinute decide productionHex boost tick p
  | clearCache l table => exact ⟨careful.coherent, fun _ _ cleared => by cases cleared⟩
  | tier2Work l table productionHex boost tick p =>
    exact ⟨careful.coherent.resolveAction (fun _ => (.work, false)) productionHex
      (workModifiers l.conservationAt productionHex boost Simulation.homeCoherence) tick p, careful.cached⟩
  | season l table radius =>
    exact careful.of_soulsKept (Landscape.soulsKept_withSim (Simulation.soulsKept_landLoop _ _ _))
  | week l table radius =>
    exact careful.of_soulsKept (Landscape.soulsKept_withSim (Simulation.soulsKept_landLoop _ _ _))
  | hour l table radius log2 pressure log2_nonneg =>
    exact careful.of_soulsKept (Landscape.soulsKept_withSim (Simulation.soulsKept_landLoop _ _ _))
  | weather l table conditions => exact ⟨careful.coherent, careful.cached⟩
  | weatherDamage l table radius tick =>
    exact careful.of_soulsKept (Landscape.soulsKept_withSim (Simulation.soulsKept_applyWeatherHexDamage _ _ _ _ _))
  | disaster l table position =>
    exact careful.of_soulsKept (Landscape.soulsKept_withSim (Simulation.soulsKept_droughtDisaster position _))
  | restoreLand l table oracle =>
    exact careful.of_soulsKept (Landscape.soulsKept_withSim (Simulation.soulsKept_restoreLandVision oracle _))
  | advocateLand l table order oracle => exact careful.of_soulsKept (Landscape.soulsKept_advocateLandVision order oracle l)
  | invest l table order => exact careful.of_soulsKept (Landscape.soulsKept_processLandInvestment order l)
  | decay l table order tick => exact careful.of_soulsKept (Landscape.soulsKept_processInfrastructureDecay order tick l)
  | bless l table oracle target => exact ⟨careful.coherent.blessVision oracle target, careful.cached⟩
  | other l table next kept coherent => exact ⟨coherent, careful.cached⟩
  | save l table order => exact careful
  | restart l table fresh pristine startTick order =>
    exact pristine.careful.of_soulsKept (Landscape.soulsKept_restartLand startTick order table fresh)

/-- One step keeps the land and the saved rows sound, from a landscape whose coherence modifiers
are at least `1 - Agnosis`, so that work never heals by extraction. -/
theorem LandStep.sound {d d' : LandDeployment} (step : LandStep keys d d')
    (sound : d.land.Sound keys ∧ d.table.Sound keys) (careful : d.land.Careful) :
    d'.land.Sound keys ∧ d'.table.Sound keys := by
  obtain ⟨held, saved⟩ := sound
  have spread : 0 ≤ 1 - agnosis := sub_nonneg.mpr agnosis_lt_one.le
  cases step with
  | work l table decide productionHex boost tick p =>
    have cached : 0 ≤ (l.cachedCoherence p).1 := spread.trans (careful.cachedCoherence_ge p)
    exact ⟨⟨held.land.resolveAction decide productionHex tick p
      (workModifiers_careful l.conservationAt productionHex boost cached), held.conservation_le, held.weather_fit⟩, saved⟩
  | clearCache l table => exact ⟨⟨held.land, held.conservation_le, held.weather_fit⟩, saved⟩
  | tier2Work l table productionHex boost tick p =>
    have direct : 0 ≤ l.sim.homeCoherence p := spread.trans (careful.coherent.homeCoherence_ge p)
    exact ⟨held.withLand (held.land.resolveAction _ productionHex tick p
      (workModifiers_careful l.conservationAt productionHex boost direct)), saved⟩
  | season l table radius => exact ⟨held.withLand (held.land.regenerateResources radius), saved⟩
  | week l table radius => exact ⟨held.withLand (held.land.weeklyResourceRegen radius held.weather_fit), saved⟩
  | hour l table radius log2 pressure log2_nonneg =>
    exact ⟨held.withLand (held.land.hourlyResourceRegen radius log2_nonneg pressure held.weather_fit), saved⟩
  | weather l table conditions =>
    exact ⟨⟨held.land, held.conservation_le, mapToSim_tempModifier_le conditions⟩, saved⟩
  | weatherDamage l table radius tick =>
    exact ⟨held.withLand (held.land.applyWeatherHexDamage l.conservationAt radius l.weather tick), saved⟩
  | disaster l table position => exact ⟨held.withLand (held.land.droughtDisaster position), saved⟩
  | restoreLand l table oracle =>
    exact ⟨held.withLand (held.land.restoreLandVision oracle (careful.coherent.soul oracle).1), saved⟩
  | advocateLand l table order oracle => exact ⟨held.advocateLandVision order oracle, saved⟩
  | invest l table order => exact ⟨held.processLandInvestment order, saved⟩
  | decay l table order tick => exact ⟨held.processInfrastructureDecay order tick, saved⟩
  | bless l table oracle target => exact ⟨held.withSim (Simulation.blessVision_landAt l.sim oracle target), saved⟩
  | other l table next kept coherent => exact ⟨held.withSim kept, saved⟩
  | save l table order => exact ⟨held, saved.saveHexes held order⟩
  | restart l table fresh pristine startTick order =>
    exact ⟨Landscape.Sound.restartLand pristine saved startTick order, saved⟩

theorem LandDeployment.Fresh.sound {d : LandDeployment} (fresh : d.Fresh keys) :
    d.land.Sound keys ∧ d.table.Sound keys := by
  obtain ⟨pristine, empty⟩ := fresh
  rw [empty]
  exact ⟨pristine.sound, HexMeta.Sound.empty⟩

/-- Over every run from a first deploy, every hex keeps its land sound and every saved row its
bounds; the invariant carries the coherence bounds that keep work's damage non-negative. -/
theorem land_stays_sound {d : LandDeployment} (reachable : Reachable (LandStep keys) (LandDeployment.Fresh keys) d) :
    d.land.Sound keys ∧ d.table.Sound keys :=
  (@reachable_invariant LandDeployment (LandStep keys) (LandDeployment.Fresh keys)
    (fun d => (d.land.Sound keys ∧ d.table.Sound keys) ∧ d.land.Careful)
    (fun _ fresh => ⟨fresh.sound, fresh.1.careful⟩)
    (fun _ _ held step => ⟨step.sound held.1 held.2, step.careful held.2⟩) d reachable).1

/-- Plains everywhere at full health, with no resources and no one on them. -/
def pristinePlains : Landscape where
  sim :=
    { agentAt := fun _ => default, agents := [], nextAgentRef := 0, agentIndex := fun _ => none,
      settlementAt := fun _ => default, settlements := [], settlementIndex := fun _ => none,
      settlementAgents := fun _ => [], nextSettRef := 0, factionAt := fun _ => default, factions := [],
      hexAt := fun _ => some ⟨.plains, none, none⟩, spawner := none, registry := Registry.fresh, lastTick := 0,
      currentSeason := 0, totalWealth := 0, totalPopulation := 0, inheritLog := [],
      landAt := fun _ => ⟨fun _ => 0, 1, 0, 0⟩ }
  conservationAt := fun _ => 0
  weather := default

theorem pristinePlains_pristine : pristinePlains.Pristine fun _ => [] where
  land _ := ⟨zero_le_one, le_rfl, fun _ => le_rfl, fun _ _ => rfl, Nat.zero_le _⟩
  health _ := rfl
  unworked _ := rfl
  unirrigated _ := rfl
  unconserved _ := rfl
  unclaimed _ _ located := by cases located; rfl
  weather := rfl
  coherent := ⟨fun _ => ⟨le_rfl, zero_le_one⟩, fun _ => zero_le_one⟩
  uncached _ := rfl

/-- The plains after a drought disaster at the origin. -/
def droughtPlains : Landscape := { pristinePlains with sim := pristinePlains.sim.droughtDisaster ⟨0, 0⟩ }

/-- The origin and its six neighbours, the hexes the drought wore. -/
def droughtHexes : List HexCoord := ⟨0, 0⟩ :: (⟨0, 0⟩ : HexCoord).neighbors

/-- The hex rows `SaveWorldState` writes of the worn plains. -/
def droughtTable : HexMeta := droughtPlains.saveHexes (fun _ => []) droughtHexes {}

/-- A restart at tick one after the drought and the save. -/
def droughtRestart : LandDeployment := ⟨Landscape.restartLand 1 droughtHexes droughtTable pristinePlains, droughtTable⟩

/-- A first deploy of the plains, a drought, a save of the hex rows and a restart that reads them
back: the epicentre comes back worn by `Agnosis`, and the land and the rows are sound. -/
theorem droughtRestart_land_stays_sound :
    Reachable (LandStep fun _ => []) (LandDeployment.Fresh fun _ => []) droughtRestart ∧
      (droughtRestart.land.sim.landAt ⟨0, 0⟩).health = 1 - agnosis ∧
      droughtRestart.land.Sound (fun _ => []) ∧ droughtRestart.table.Sound fun _ => [] :=
  have reachable : Reachable (LandStep fun _ => []) (LandDeployment.Fresh fun _ => []) droughtRestart :=
    ⟨_, ⟨pristinePlains_pristine, rfl⟩,
      ((Relation.ReflTransGen.single (LandStep.disaster pristinePlains {} ⟨0, 0⟩)).tail
        (LandStep.save droughtPlains {} droughtHexes)).tail
          (LandStep.restart droughtPlains droughtTable pristinePlains pristinePlains_pristine 1 droughtHexes)⟩
  ⟨reachable, by decide +kernel, land_stays_sound reachable⟩

end Run

/-! ## What a restart brings back -/

namespace Landscape

variable {keys : HexCoord → List ResourceType} {l : Landscape}

theorem restoreHealthAt_keyLocal (rows : GoMap HexCoord HexHealthEntry) :
    KeyLocal (fun (l : Landscape) c => (l.sim.hexAt c, l.sim.landAt c, l.conservationAt c)) (restoreHealthAt rows)
      (healthEntryStep rows) := by
  intro l key other
  unfold Landscape.restoreHealthAt
  by_cases same : other = key
  · subst same
    simp
  · simp [same]

/-- A hex of the map that the `hex_health` row names comes back with the saved claim, health,
last extraction and irrigation. -/
theorem restoreHexHealth_at {table : HexMeta} {rows : GoMap HexCoord HexHealthEntry}
    (saved : table.hexHealth = some rows) {c : HexCoord} {e : HexHealthEntry} (found : rows.lookup c = some e)
    {hex : Hex} (located : l.sim.hexAt c = some hex) :
    (l.restoreHexHealth table).sim.hexAt c = some { hex with claimedBy := e.cl } ∧
      (l.restoreHexHealth table).sim.landAt c =
        { l.sim.landAt c with health := e.h, lastExtractedTick := e.t, irrigationLevel := e.ir } := by
  have walked := foldl_keyLocal_of_fixed (restoreHealthAt_keyLocal rows) rows.keys rows.keys_nodup l c
    fun absent => by
      rw [AList.lookup_eq_none.mpr absent] at found
      cases found
  simp only [healthEntryStep, found, located, Prod.mk.injEq] at walked
  unfold Landscape.restoreHexHealth
  rw [saved]
  dsimp only
  rw [if_neg (entries_length_ne_zero found)]
  exact ⟨walked.1, walked.2.1⟩

/-- The `hex_resources` restore writes resources only. -/
theorem restoreResourcesAt_keeps (rows : GoMap HexCoord (GoMap ResourceType ℚ)) (l : Landscape) (c : HexCoord) :
    (l.restoreResourcesAt rows c).sim.hexAt = l.sim.hexAt ∧
      ∀ c', ((l.restoreResourcesAt rows c).sim.landAt c').health = (l.sim.landAt c').health ∧
        ((l.restoreResourcesAt rows c).sim.landAt c').lastExtractedTick = (l.sim.landAt c').lastExtractedTick := by
  unfold Landscape.restoreResourcesAt
  split
  · refine ⟨rfl, fun c' => ?_⟩
    simp only [Simulation.modifyLand_landAt]
    split_ifs with same
    · subst same
      exact ⟨rfl, rfl⟩
    · exact ⟨rfl, rfl⟩
  · exact ⟨rfl, fun _ => ⟨rfl, rfl⟩⟩

theorem restoreHexResources_keeps (table : HexMeta) (l : Landscape) :
    (l.restoreHexResources table).sim.hexAt = l.sim.hexAt ∧
      ∀ c, ((l.restoreHexResources table).sim.landAt c).health = (l.sim.landAt c).health ∧
        ((l.restoreHexResources table).sim.landAt c).lastExtractedTick = (l.sim.landAt c).lastExtractedTick := by
  unfold Landscape.restoreHexResources
  cases table.hexResources with
  | none => exact ⟨rfl, fun _ => ⟨rfl, rfl⟩⟩
  | some rows =>
    dsimp only
    split_ifs
    · exact ⟨rfl, fun _ => ⟨rfl, rfl⟩⟩
    -- each entry keeps the map and the health and last extraction of every hex
    · refine foldl_invariant (fun l' : Landscape => l'.sim.hexAt = l.sim.hexAt ∧
          ∀ c, (l'.sim.landAt c).health = (l.sim.landAt c).health ∧
            (l'.sim.landAt c).lastExtractedTick = (l.sim.landAt c).lastExtractedTick)
        _ _ l (fun c _ l' held => ?_) ⟨rfl, fun _ => ⟨rfl, rfl⟩⟩
      obtain ⟨hexKept, landKept⟩ := restoreResourcesAt_keeps rows l' c
      exact ⟨hexKept.trans held.1, fun c' =>
        ⟨(landKept c').1.trans (held.2 c').1, (landKept c').2.trans (held.2 c').2⟩⟩

end Landscape

/-- A hex worn to health zero that no one ever worked is saved as such and comes back at full
health: the pristine pass of the restart cannot tell it from a hex with no saved health. -/
theorem restart_revives_desertified_hex {keys : HexCoord → List ResourceType} {l fresh : Landscape}
    (table : HexMeta) {saveOrder restartOrder : List HexCoord} (distinct : restartOrder.Nodup) {c : HexCoord}
    (onMap : (l.sim.hexAt c).isSome) (freshMap : (fresh.sim.hexAt c).isSome) (saved : c ∈ saveOrder)
    (walked : c ∈ restartOrder) (desertified : (l.sim.landAt c).health = 0)
    (unworked : (l.sim.landAt c).lastExtractedTick = 0) :
    ((Landscape.restoreHexes restartOrder (l.saveHexes keys saveOrder table) fresh).sim.landAt c).health = 1 := by
  obtain ⟨hex, located⟩ := Option.isSome_iff_exists.mp onMap
  obtain ⟨freshHex, freshLocated⟩ := Option.isSome_iff_exists.mp freshMap
  have row := Landscape.healthRow_of_worn located (by rw [desertified]; exact zero_lt_one)
  have found : (collectRows saveOrder l.healthRow).lookup c = l.healthRow c := by
    rw [lookup_collectRows, if_pos saved]
  rw [row] at found
  -- the health restore writes the saved zeros and keeps the hex on the map; the resources keep both
  obtain ⟨hexRestored, landRestored⟩ := Landscape.restoreHexHealth_at
    (Landscape.saveHexes_hexHealth keys saveOrder table (entries_length_ne_zero found)) found freshLocated
  obtain ⟨hexKept, landKept⟩ := Landscape.restoreHexResources_keeps (l.saveHexes keys saveOrder table)
    (fresh.restoreHexHealth (l.saveHexes keys saveOrder table))
  have worn : ((fresh.restoreHexHealth (l.saveHexes keys saveOrder table)).sim.landAt c).health = 0 := by
    rw [landRestored]
    exact desertified
  have idle : ((fresh.restoreHexHealth (l.saveHexes keys saveOrder table)).sim.landAt c).lastExtractedTick = 0 := by
    rw [landRestored]
    exact unworked
  unfold Landscape.restoreHexes
  dsimp only
  rw [Simulation.foldl_landAtHex_landAt _ distinct, if_pos walked, hexKept, hexRestored]
  dsimp only [Option.elim]
  unfold pristineLand
  rw [if_pos ⟨(landKept c).1.trans worn, (landKept c).2.trans idle⟩]

/-- The plains after a drought that left one hex at health zero. -/
def desertPlains : Landscape :=
  { pristinePlains with sim := { pristinePlains.sim with landAt := fun _ => ⟨fun _ => 0, 0, 0, 0⟩ } }

theorem desertPlains_revived :
    [(⟨0, 0⟩ : HexCoord)].Nodup ∧ (desertPlains.sim.hexAt ⟨0, 0⟩).isSome ∧ (pristinePlains.sim.hexAt ⟨0, 0⟩).isSome ∧
      (desertPlains.sim.landAt ⟨0, 0⟩).health = 0 ∧ (desertPlains.sim.landAt ⟨0, 0⟩).lastExtractedTick = 0 ∧
      ((Landscape.restoreHexes [⟨0, 0⟩] (desertPlains.saveHexes (fun _ => []) [⟨0, 0⟩] {}) pristinePlains).sim.landAt
        ⟨0, 0⟩).health = 1 :=
  ⟨List.nodup_singleton _, rfl, rfl, rfl, rfl,
    restart_revives_desertified_hex {} (List.nodup_singleton _) rfl rfl (List.mem_singleton_self _)
      (List.mem_singleton_self _) rfl rfl⟩

end MiniWorld.Engine
