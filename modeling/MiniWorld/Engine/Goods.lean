import MiniWorld.Engine.Relationships

/-! # Goods never go negative (`simulation.go` `TickMinute` and `TickHour`,
`market.go` `decayInventories`, `seasons.go` `checkCropFailure`)

Every writer of an agent's `Inventory` or `TradeCargo` keeps the stock
non-negative, in the sense of `Stocked`:

* an agent's minute resolves its decided action by `resolveBuyFood`,
  `ResolveWork` on the land of its production hex, or `ApplyAction`
  (`resolveAction_stocked`), and a death empties the estate
  (`handleAgentDeath_stocked`);
* the hourly decay and the crop failure of a heat wave clamp at zero;
* the markets, the merchants, Tier-2 sales and theft take only what is held
  (`MiniWorld.Engine.Stock`, `MiniWorld.Engine.Crime`);
* natural deaths and battles empty estates, and new agents start with
  nothing.

`GoodsStep` collects these writers, with the grants that only add goods
(famine relief, the autumn harvest, an alchemical breakthrough) and every other
step of the membership run, which leaves goods and cargo alone.  No writer of
goods changes an `ID`, a home, an `Alive` flag or a list (each is `Settled`),
so every goods step is a membership step (`GoodsStep.memberStep`), and the
markets read lists in which each alive agent stands once: with a repeat, an
agent's surplus would be offered twice.  From a world with no negative stock and
an exact membership index, every run of these steps keeps both.

Not modelled: `Decide`, the choice of `bestProductionHex` and the production
modifiers of a tick (parameters), and the weather (the temperature modifier is
a parameter).
-/

namespace MiniWorld.Engine

open MiniWorld.Agents MiniWorld.Phi MiniWorld.Run

namespace Simulation

/-! ## The hourly writers -/

/-- `decayInventories`: every alive agent's goods decay. -/
def decayInventories (s : Simulation) : Simulation :=
  s.agents.foldl (fun s p => if (s.agentAt p).alive then s.modifyAgent p decayInventory else s) s

/-- The mean irrigation around a settlement: over its hex and the six around it
that are on the map and not ocean; zero with none. -/
def avgIrrigation (s : Simulation) (position : HexCoord) : ℚ :=
  let land := (position.neighbors ++ [position]).filter fun c =>
    match s.hexAt c with
    | some h => decide (h.terrain ≠ .ocean)
    | none => false
  if land.length > 0 then (land.map fun c => ((s.landAt c).irrigationLevel : ℚ)).sum / land.length
  else 0

/-- The grain an agent keeps after a crop failure at `spoilRate`: the whole part
of its share is lost, at least one unit, clamped at zero. -/
def spoilGrain (spoilRate : ℚ) (a : Agent) : Agent :=
  let grain := a.inventory goodGrain
  if grain > 0 then
    let lost := goInt ((grain : ℚ) * spoilRate)
    let lost := if lost < 1 then 1 else lost
    let left := grain - lost
    { a with inventory := Function.update a.inventory goodGrain (if left < 0 then 0 else left) }
  else a

/-- A crop failure at one settlement: spared when empty or irrigated to level
three on average; else each alive listed agent's grain spoils at `Agnosis`
times the missing protection. -/
def cropFailureAt (s : Simulation) (q : SettRef) : Simulation :=
  let sett := s.settlementAt q
  if sett.population = 0 then s
  else
    let avg := s.avgIrrigation sett.position
    if avg ≥ 3 then s
    else
      let protection := avg / 3
      let spoilRate := agnosis * (1 - protection)
      (s.settlementAgents sett.id).foldl (fun s p =>
        if (s.agentAt p).alive then s.modifyAgent p (spoilGrain spoilRate) else s) s

/-- `checkCropFailure` under the weather's `tempModifier`: an hour of heat
above `Agnosis` lengthens the streak, any other resets it; at 72 hours the
crops fail and the streak falls back to 48. -/
def checkCropFailure (tempModifier : ℚ) (s : Simulation) : Simulation :=
  if tempModifier > agnosis then
    let s := { s with registry := { s.registry with heatStreakHours := s.registry.heatStreakHours + 1 } }
    if s.registry.heatStreakHours < 72 then s
    else
      let s := { s with registry := { s.registry with heatStreakHours := 48 } }
      s.settlements.foldl cropFailureAt s
  else { s with registry := { s.registry with heatStreakHours := 0 } }

/-! ## An agent's action in `TickMinute` -/

/-- The resolution of the action an agent decides: `decide` is `Decide`, with
the insight draw of a contemplation; `productionHex` the hex
`bestProductionHex` picks, and `workMods` the boost, coherence and
conservation modifiers of the work.  Buying food goes to the market, work to
`ResolveWork` on the land of the hex, which is written back, and the rest to
`ApplyAction`. -/
def resolveAction (decide : Agent → ActionKind × Bool) (productionHex : Simulation → AgentRef → Option HexCoord)
    (workMods : Simulation → AgentRef → ℚ × ℚ × ℚ) (tick : ℕ) (s : Simulation) (p : AgentRef) :
    Simulation :=
  let action := decide (s.agentAt p)
  if action.1 = .buyFood then s.resolveBuyFood p
  else if action.1 = .work then
    let hex := productionHex s p
    let mods := workMods s p
    let worked := resolveWork action.1 action.2 tick mods.1 mods.2.1 mods.2.2 (s.agentAt p) (hex.map s.landAt)
    let s := s.modifyAgent p fun _ => worked.1
    match hex, worked.2 with
    | some c, some land => { s with landAt := Function.update s.landAt c land }
    | _, _ => s
  else s.modifyAgent p (applyAction action.1 action.2)

/-! ## A minute's action keeps the membership and the lives

`MemberStep.minute` and `LifeStep.minute` take any action that is settled, or that at most
clears its own agent's flag; the engine's own resolution is both, and kills no one (a starving
agent dies in `TickMinute`, after the action). -/

theorem settled_landAt (s : Simulation) (landAt : HexCoord → HexLand) : Settled s { s with landAt := landAt } :=
  ⟨List.Perm.refl _, rfl, fun _ => rfl, fun _ => rfl, fun _ alive => alive, rfl, rfl, rfl, rfl,
    rfl, fun _ => rfl, fun _ => rfl⟩

theorem settled_modifyAgent_of_kept (s : Simulation) (p : AgentRef) {change : Agent → Agent}
    (kept : (s.agentAt p).Kept (change (s.agentAt p))) : Settled s (s.modifyAgent p change) :=
  settled_modifyAgent s p kept.id kept.home fun alive => kept.alive ▸ alive

theorem settled_resolveBuyFood (s : Simulation) (p : AgentRef) : Settled s (s.resolveBuyFood p) := by
  have fed : ∀ (t : Simulation) (good : GoodType) (delta : ℤ) (bump : NeedsState → NeedsState),
      Settled t ((t.addInventory p good delta).bumpNeeds p bump) :=
    fun t _ _ _ => (settled_modifyAgent t p rfl rfl fun alive => alive).trans
      (settled_modifyAgent _ p rfl rfl fun alive => alive)
  unfold resolveBuyFood
  split
  · exact fed s _ _ _
  · split
    · exact fed s _ _ _
    · split
      · exact fed s _ _ _
      · dsimp only
        split_ifs
        · exact ((settled_modifyAgent s p rfl rfl fun alive => alive).trans
            (settled_creditSettlement _ _ _)).trans (fed _ _ _ _)
        · exact fed s _ _ _

section Minute

variable (decide : Agent → ActionKind × Bool) (productionHex : Simulation → AgentRef → Option HexCoord)
  (workMods : Simulation → AgentRef → ℚ × ℚ × ℚ) (tick : ℕ)

theorem resolveAction_worker_kept (s : Simulation) (p : AgentRef) :
    (s.agentAt p).Kept (resolveWork (decide (s.agentAt p)).1 (decide (s.agentAt p)).2 tick (workMods s p).1
      (workMods s p).2.1 (workMods s p).2.2 (s.agentAt p) ((productionHex s p).map s.landAt)).1 :=
  resolveWork_kept _ _ tick _ _ _ _

theorem resolveAction_settled (s : Simulation) (p : AgentRef) :
    Settled s (s.resolveAction decide productionHex workMods tick p) := by
  unfold resolveAction
  dsimp only
  split_ifs
  · exact settled_resolveBuyFood s p
  · have worked := @settled_modifyAgent_of_kept s p (fun _ => _)
      (resolveAction_worker_kept decide productionHex workMods tick s p)
    -- the land of the hex is written back after the worker
    split
    · exact worked.trans (settled_landAt _ _)
    · exact worked
  · exact settled_modifyAgent_of_kept s p (applyAction_kept _ _)

theorem resolveAction_livesKept (s : Simulation) (p : AgentRef) :
    LivesKept s (s.resolveAction decide productionHex workMods tick p) := by
  unfold resolveAction
  dsimp only
  split_ifs
  · exact resolveBuyFood_livesKept s p
  · have worked := @livesKept_modifyAgent s p (fun _ => _)
      (resolveAction_worker_kept decide productionHex workMods tick s p).alive
    split
    · exact worked.trans ⟨fun _ => rfl, rfl, rfl⟩
    · exact worked
  · exact livesKept_modifyAgent s p (applyAction_kept _ _).alive

/-- A minute of `TickMinute` with the engine's resolution of the decided actions is a step of the
membership run, whatever the shuffle's permutation. -/
theorem MemberStep.resolveMinute {shuffle : ℕ → List AgentRef → List AgentRef}
    (permutes : ∀ tick l, (shuffle tick l).Perm l) (s : Simulation) :
    MemberStep s (tickMinute shuffle (resolveAction decide productionHex workMods tick) tick s) :=
  .minute permutes (resolveAction_settled decide productionHex workMods tick) tick s

/-- A minute of `TickMinute` with the engine's resolution of the decided actions is a step of the
run of lives: the actions kill no one. -/
theorem LifeStep.resolveMinute (shuffle : ℕ → List AgentRef → List AgentRef) (s : Simulation) :
    LifeStep s (tickMinute shuffle (resolveAction decide productionHex workMods tick) tick s) :=
  .minute shuffle (fun t p => .inl (resolveAction_livesKept decide productionHex workMods tick t p)) tick s

end Minute

/-! ## The writers keep the stock -/

section Stocked

variable {s : Simulation}

theorem decayInventories_stocked (stocked : s.Stocked) : s.decayInventories.Stocked := by
  apply foldl_invariant Stocked _ s.agents s _ stocked
  intro p _ t tStocked
  split_ifs
  · exact tStocked.modifyAgent p (decayInventory_stocked (tStocked p))
  · exact tStocked

/-- Spoiled grain is clamped at zero; no other good is touched. -/
theorem spoilGrain_stocked {a : Agent} (spoilRate : ℚ) (stocked : a.Stocked) : (spoilGrain spoilRate a).Stocked := by
  unfold spoilGrain
  dsimp only
  by_cases held : a.inventory goodGrain > 0
  · rw [if_pos held]
    refine stocked.update rfl rfl ?_
    split_ifs <;> omega
  · rw [if_neg held]
    exact stocked

theorem cropFailureAt_stocked (q : SettRef) (stocked : s.Stocked) : (s.cropFailureAt q).Stocked := by
  unfold cropFailureAt
  extract_lets sett
  split_ifs
  · exact stocked
  · exact stocked
  · apply foldl_invariant Stocked _ _ s _ stocked
    intro p _ t tStocked
    split_ifs
    · exact tStocked.modifyAgent p (spoilGrain_stocked _ (tStocked p))
    · exact tStocked

theorem checkCropFailure_stocked (tempModifier : ℚ) (stocked : s.Stocked) :
    (s.checkCropFailure tempModifier).Stocked := by
  unfold checkCropFailure
  dsimp only
  split_ifs
  · exact stocked.of_agentAt rfl
  · -- the streak falls back and every settlement is visited
    apply foldl_invariant Stocked _ s.settlements
    · intro q _ t tStocked
      exact cropFailureAt_stocked q tStocked
    · exact stocked.of_agentAt rfl
  · exact stocked.of_agentAt rfl

theorem resolveAction_stocked (decide : Agent → ActionKind × Bool)
    (productionHex : Simulation → AgentRef → Option HexCoord) (workMods : Simulation → AgentRef → ℚ × ℚ × ℚ)
    (tick : ℕ) (p : AgentRef) (stocked : s.Stocked) :
    (resolveAction decide productionHex workMods tick s p).Stocked := by
  unfold resolveAction
  dsimp only
  split_ifs
  · exact resolveBuyFood_stocked p stocked
  · have workerStocked := stocked.setAgent p (resolveWork_stocked (decide (s.agentAt p)).1
      (decide (s.agentAt p)).2 tick (workMods s p).1 (workMods s p).2.1 (workMods s p).2.2
      ((productionHex s p).map s.landAt) (stocked p))
    -- the land written back is no agent's
    split
    · exact workerStocked.of_agentAt rfl
    · exact workerStocked
  · exact stocked.modifyAgent p (applyAction_stocked _ _ (stocked p))

/-! ## Deaths empty the estate -/

theorem bequeath_stocked (a : Agent) (q : SettRef) (stocked : s.Stocked) : (bequeath a q s).Stocked := by
  have credited := stocked.creditSettlement q (a.wealth / 2)
  unfold bequeath
  dsimp only
  -- the goods go to the market supply, not to an agent
  apply Stocked.modifyMarket
  split
  · exact credited.creditAgent _ _
  · split_ifs
    · exact credited.creditSettlement q _
    · exact credited

theorem inheritWealth_stocked (p : AgentRef) (stocked : s.Stocked) : (s.inheritWealth p).Stocked := by
  unfold inheritWealth
  extract_lets a logged estate
  have loggedStocked : logged.Stocked := stocked.of_agentAt rfl
  split_ifs
  · exact loggedStocked
  · have estateStocked : estate.Stocked := by
      simp only [estate]
      split
      · exact bequeath_stocked a _ loggedStocked
      · exact loggedStocked
    -- the dead agent is emptied: it holds nothing
    exact estateStocked.modifyAgent p ⟨fun _ => le_refl 0, (estateStocked p).cargo⟩

theorem touchWitnesses_stocked (deadID : AgentID) (k : ℕ) (gate : Agent → Bool) (drift : Agent → ℚ)
    (stocked : s.Stocked) : (touchWitnesses deadID k gate drift s).Stocked := by
  apply foldl_invariant Stocked _ _ s _ stocked
  intro w _ t tStocked
  extract_lets witness
  split_ifs
  · exact tStocked.modifyAgent_goods w (fun _ => rfl) (fun _ => rfl)
  · exact tStocked

theorem handleAgentDeath_stocked (p : AgentRef) (stocked : s.Stocked) : (s.handleAgentDeath p).Stocked := by
  have inherited : (s.countDeath.inheritWealth p).Stocked :=
    inheritWealth_stocked p (stocked.of_agentAt rfl)
  unfold handleAgentDeath
  dsimp only
  split
  · exact touchWitnesses_stocked _ _ _ _ inherited
  · exact inherited

section Minute

variable {act : Simulation → AgentRef → Simulation}

/-- An agent's minute keeps the stock when its action does: decaying needs
and a death in either place touch no goods but the estate's. -/
theorem tickMinuteAgent_stocked (acts : ∀ s p, s.Stocked → (act s p).Stocked) (p : AgentRef)
    (stocked : s.Stocked) : (tickMinuteAgent act s p).Stocked := by
  have decayed : (s.modifyAgent p decayNeeds).Stocked :=
    stocked.modifyAgent_goods p (fun _ => rfl) (fun _ => rfl)
  unfold tickMinuteAgent
  dsimp only
  split_ifs
  · exact stocked
  · exact stocked
  · exact handleAgentDeath_stocked p decayed
  · exact handleAgentDeath_stocked p (acts _ p decayed)
  · exact acts _ p decayed

theorem tickMinute_stocked (shuffle : ℕ → List AgentRef → List AgentRef)
    (acts : ∀ s p, s.Stocked → (act s p).Stocked) (tick : ℕ) (stocked : s.Stocked) :
    (tickMinute shuffle act tick s).Stocked := by
  unfold tickMinute
  extract_lets clocked ordered
  have orderedStocked : ordered.Stocked := by
    simp only [ordered]
    split_ifs
    · exact stocked.of_agentAt rfl
    · exact stocked.of_agentAt rfl
  apply foldl_invariant Stocked _ _ ordered _ orderedStocked
  intro p _ t tStocked
  exact tickMinuteAgent_stocked acts p tStocked

end Minute

theorem witnessNaturalDeath_stocked (a : Agent) (stocked : s.Stocked) : (witnessNaturalDeath a s).Stocked := by
  unfold witnessNaturalDeath
  split
  · exact stocked
  · split_ifs
    · exact touchWitnesses_stocked _ _ _ _ stocked
    · exact touchWitnesses_stocked _ _ _ _ stocked

theorem naturalDeath_stocked (p : AgentRef) (stocked : s.Stocked) : (s.naturalDeath p).Stocked := by
  have died : (s.modifyAgent p fun a => { a with alive := false, health := 0 }).Stocked :=
    stocked.modifyAgent_goods p (fun _ => rfl) (fun _ => rfl)
  unfold naturalDeath
  dsimp only
  apply witnessNaturalDeath_stocked
  apply inheritWealth_stocked
  -- the death is counted, and a liberated soul feeds the pool
  split_ifs
  · exact died.of_agentAt rfl
  · exact died.of_agentAt rfl

theorem illnessCheck_stocked (p : AgentRef) (stocked : s.Stocked) : (s.illnessCheck p).Stocked := by
  have weakened : (s.modifyAgent p fun a => { a with health := a.health - 0.01 }).Stocked :=
    stocked.modifyAgent_goods p (fun _ => rfl) (fun _ => rfl)
  have died : ((s.modifyAgent p fun a => { a with health := a.health - 0.01 }).modifyAgent p
      fun a => { a with alive := false }).Stocked :=
    weakened.modifyAgent_goods p (fun _ => rfl) (fun _ => rfl)
  unfold illnessCheck
  dsimp only
  split_ifs
  · exact inheritWealth_stocked p (died.of_agentAt rfl)
  · exact weakened
  · exact stocked

theorem processNaturalDeaths_stocked (tick : ℕ) (stocked : s.Stocked) :
    (processNaturalDeaths tick s).Stocked := by
  apply foldl_invariant Stocked _ s.agents s _ stocked
  intro p _ t tStocked
  unfold naturalDeathCheck
  extract_lets a mortalityChance
  split_ifs
  · exact tStocked
  · exact naturalDeath_stocked p tStocked
  · exact illnessCheck_stocked p tStocked

theorem casualtyLoop_stocked (tick : ℕ) (targetCasualties : ℤ) :
    ∀ (soldiers : List AgentRef) (acc : Simulation × ℕ), acc.1.Stocked →
      (casualtyLoop tick targetCasualties acc soldiers).1.Stocked
  | [], _, stocked => stocked
  | p :: rest, (s, casualties), stocked => by
    have later := casualtyLoop_stocked tick targetCasualties rest
    unfold casualtyLoop
    dsimp only
    split_ifs
    · exact stocked
    · exact later _ stocked
    · -- a casualty, handed to `handleAgentDeath`
      refine later _ (handleAgentDeath_stocked p ?_)
      exact stocked.modifyAgent_goods p (fun _ => rfl) (fun _ => rfl)
    · exact later _ stocked

theorem applyCasualties_stocked (tick : ℕ) (soldiers : List AgentRef) (rate : ℚ) (stocked : s.Stocked) :
    (applyCasualties tick soldiers rate s).1.Stocked := by
  unfold applyCasualties
  split_ifs
  · exact stocked
  · exact casualtyLoop_stocked tick _ soldiers (s, 0) stocked

/-! ## Arrivals start with nothing -/

theorem Stocked.appendAgent (stocked : s.Stocked) {a : Agent} (held : a.Stocked) :
    (s.appendAgent a).Stocked := by
  intro p
  by_cases fresh : p = s.nextAgentRef
  · subst fresh
    simpa [Simulation.appendAgent] using held
  · simpa [Simulation.appendAgent, fresh] using stocked p

theorem addAgent_stocked (factionFor : Agent → GovernanceType → ℕ) {a : Agent} (held : a.Stocked)
    (stocked : s.Stocked) : (s.addAgent factionFor a).Stocked := by
  unfold addAgent
  extract_lets gov joined
  have joinedStocked : joined.Stocked := by
    simp only [joined]
    split_ifs
    · exact ⟨held.inventory, held.cargo⟩
    · exact held
  exact stocked.appendAgent joinedStocked

theorem spawnOne_stocked (sp : Spawner) (traits : Agent) (settlementID : ℕ) :
    (sp.spawnOne traits settlementID).1.Stocked :=
  ⟨fun _ => le_refl 0, fun _ => le_refl 0⟩

theorem spawnPopulation_stocked (sp : Spawner) (draws : List Agent) (settlementID : ℕ) :
    ∀ a ∈ (sp.spawnPopulation draws settlementID).1, a.Stocked := by
  apply foldl_invariant (fun acc : List Agent × Spawner => ∀ a ∈ acc.1, a.Stocked) _ draws ([], sp) _
    (fun _ member => absurd member List.not_mem_nil)
  rintro traits - acc held a member
  rcases List.mem_append.mp member with old | new
  · exact held a old
  · rw [List.mem_singleton.mp new]
    exact spawnOne_stocked _ _ _

theorem bearChild_stocked (factionFor : Agent → GovernanceType → ℕ) (traits : Agent) (q : SettRef)
    (stocked : s.Stocked) : (bearChild factionFor traits q s).Stocked := by
  unfold bearChild
  split
  · exact stocked
  · rename_i sp _
    have added : ({ s with spawner := some (sp.spawnChild traits (s.settlementAt q).id).2 }.addAgent factionFor
        (sp.spawnChild traits (s.settlementAt q).id).1).Stocked :=
      addAgent_stocked factionFor (spawnOne_stocked _ _ _) (stocked.of_agentAt rfl)
    -- the birth is counted and the population raised
    refine Stocked.modifySettlement ?_ q _
    exact added.of_agentAt rfl

theorem admitRefugees_stocked (factionFor : Agent → GovernanceType → ℕ) (draws : List Agent) (q : SettRef)
    (stocked : s.Stocked) : (admitRefugees factionFor draws q s).Stocked := by
  unfold admitRefugees
  split
  · exact stocked
  · extract_lets aliveCount spawned added
    have addedStocked : added.Stocked := by
      apply foldl_invariant Stocked _ spawned.1
      · intro a member t tStocked
        exact addAgent_stocked factionFor (spawnPopulation_stocked _ _ _ a member) tStocked
      · exact stocked.of_agentAt rfl
    exact addedStocked.modifySettlement q _

theorem spawnImmigrants_stocked (name : String) (draws : List Agent) (stocked : s.Stocked) :
    (s.spawnImmigrants name draws).Stocked := by
  unfold spawnImmigrants
  split
  · extract_lets spawned added
    have addedStocked : added.Stocked := by
      apply foldl_invariant Stocked _ spawned.1
      · intro a member t tStocked
        exact tStocked.appendAgent (spawnPopulation_stocked _ _ _ a member)
      · exact stocked.of_agentAt rfl
    exact addedStocked.modifySettlement _ _
  · exact stocked

end Stocked

/-! ## The goods writers leave the membership alone

Every writer of goods changes crowns, goods, needs, skills, markets, routes or counters, and no
`ID`, home, `Alive` flag, list or population: each is `Settled`, so a run of goods steps keeps
the membership exact, and with it the lists the markets read. -/

section Settled

theorem settled_debitAgent (s : Simulation) (p : AgentRef) (amount : ℕ) : Settled s (s.debitAgent p amount) :=
  settled_modifyAgent s p rfl rfl fun alive => alive

theorem settled_debitSettlement (s : Simulation) (q : SettRef) (amount : ℕ) :
    Settled s (s.debitSettlement q amount) :=
  settled_modifySettlement s q rfl rfl

theorem settled_addInventory (s : Simulation) (p : AgentRef) (good : GoodType) (delta : ℤ) :
    Settled s (s.addInventory p good delta) :=
  settled_modifyAgent s p rfl rfl fun alive => alive

theorem settled_trade (s : Simulation) (p : AgentRef) {change : Agent → Agent}
    (kept : (s.agentAt p).Kept (change (s.agentAt p))) : Settled s (s.modifyAgent p change) :=
  settled_modifyAgent_of_kept s p kept

/-! ### The markets -/

theorem settled_tradeUnit (good : GoodType) (buyer seller : AgentRef) (clearCrowns : ℕ) (s : Simulation) :
    Settled s (tradeUnit good buyer seller clearCrowns s) :=
  (((settled_debitAgent _ _ _).trans (settled_creditAgent _ _ _)).trans (settled_addInventory _ _ _ _)).trans
    (settled_addInventory _ _ _ _)

theorem settled_unitLoop (good : GoodType) (buyer seller : AgentRef) (clearCrowns : ℕ) :
    ∀ (n : ℕ) (s : Simulation), Settled s (unitLoop good buyer seller clearCrowns n s).1
  | 0, s => Settled.refl s
  | n + 1, s => by
    unfold unitLoop
    split_ifs
    · exact Settled.refl s
    · exact (settled_tradeUnit good buyer seller clearCrowns s).trans (settled_unitLoop good buyer seller clearCrowns n _)

/-- The matching loop, by induction on the buy orders, one consumed each iteration. -/
theorem settled_matchLoop (good : GoodType) :
    ∀ (buys : List Order) (s : Simulation) (totalTraded totalRevenue : ℕ) (sells : List Order) (sellRemain : ℤ),
      Settled s (matchLoop good s totalTraded totalRevenue sells sellRemain buys).1
  | [], s, _, _, [], _ => Settled.refl s
  | [], s, _, _, _ :: _, _ => Settled.refl s
  | _ :: _, s, _, _, [], _ => Settled.refl s
  | buy :: buys, s, totalTraded, totalRevenue, sell :: sells, sellRemain => by
    unfold matchLoop
    dsimp only
    split_ifs
    · exact Settled.refl s
    · exact (settled_unitLoop _ _ _ _ _ s).trans (settled_matchLoop good buys _ _ _ _ _)
    · exact (settled_unitLoop _ _ _ _ _ s).trans (settled_matchLoop good buys _ _ _ _ _)

theorem settled_recordTrades (q : SettRef) (good : GoodType) (totalTraded totalRevenue : ℕ) (s : Simulation)
    (maxTraded : ℕ) : Settled s (recordTrades q good totalTraded totalRevenue s maxTraded).1 := by
  unfold recordTrades
  dsimp only
  -- the price blend, the trade count and the most traded good are market writes
  split_ifs
  · exact ((settled_modifyMarket _ _ _).trans (settled_modifyMarket _ _ _)).trans (settled_modifyMarket _ _ _)
  · exact (settled_modifyMarket _ _ _).trans (settled_modifyMarket _ _ _)
  · exact (settled_modifyMarket _ _ _).trans (settled_modifyMarket _ _ _)
  · exact settled_modifyMarket _ _ _

theorem settled_matchOrders (slice : SliceSort Order) (q : SettRef) (goodOrder : List GoodType)
    (sellOrders buyOrders : List Order) (s : Simulation) :
    Settled s (matchOrders slice q goodOrder sellOrders buyOrders s) := by
  refine foldl_invariant (fun acc : Simulation × ℕ => Settled s acc.1) _ goodOrder (s, 0) ?_ (Settled.refl s)
  intro good _ acc kept
  unfold matchGood
  dsimp only
  split_ifs
  · exact kept
  · exact (kept.trans (settled_matchLoop good _ _ _ _ _ _)).trans (settled_recordTrades _ _ _ _ _ _)

theorem settled_resolveMarkets (slice : SliceSort Order) (goodOrder : SettRef → List GoodType) (s : Simulation) :
    Settled s (s.resolveMarkets slice goodOrder) := by
  refine settled_foldl _ (fun t q => ?_) _ s
  dsimp only
  split_ifs
  · exact Settled.refl t
  · unfold resolveSettlementMarket
    split
    · exact Settled.refl t
    · -- the tallied market, the matching, and the surplus decay
      exact ((settled_modifySettlement t q rfl rfl).trans (settled_matchOrders _ _ _ _ _ _)).trans
        (settled_modifyMarket _ _ _)

/-! ### The merchants -/

theorem settled_sellUnits (p : AgentRef) (d : SettRef) (good : GoodType) (unitPrice : ℕ) :
    ∀ (n : ℕ) (s : Simulation) (revenue : ℕ), Settled s (sellUnits p d good unitPrice n (s, revenue)).1
  | 0, s, _ => Settled.refl s
  | n + 1, s, revenue => by
    unfold sellUnits
    split_ifs
    · exact ((settled_debitSettlement _ _ _).trans (settled_creditAgent _ _ _)).trans
        (settled_sellUnits p d good unitPrice n _ _)
    · split
      · exact Settled.refl s
      · exact (((settled_debitAgent _ _ _).trans (settled_creditAgent _ _ _)).trans
          (settled_creditSettlement _ _ _)).trans (settled_sellUnits p d good unitPrice n _ _)

theorem settled_sellCargo (p : AgentRef) (d : SettRef) (market : Market) :
    ∀ (goods : List GoodType) (s : Simulation) (revenue : ℕ), Settled s (sellCargo p d market goods (s, revenue)).1
  | [], s, _ => Settled.refl s
  | good :: rest, s, revenue => by
    unfold sellCargo
    split
    · exact settled_sellCargo p d market rest s revenue
    · dsimp only
      split_ifs
      · exact settled_sellCargo p d market rest s revenue
      · exact (settled_sellUnits p d good _ _ s revenue).trans (settled_sellCargo p d market rest _ _)

theorem settled_commissionLoop (seller : AgentRef) (revenue maxTotal : ℕ) :
    ∀ (residents : List AgentRef) (s : Simulation) (totalPaid : ℕ),
      Settled s (commissionLoop seller revenue maxTotal residents (s, totalPaid)).1
  | [], s, _ => Settled.refl s
  | p :: rest, s, totalPaid => by
    have paid : ∀ commission, Settled s ((s.debitAgent seller commission).creditAgent p commission) :=
      fun _ => (settled_debitAgent _ _ _).trans (settled_creditAgent _ _ _)
    unfold commissionLoop
    dsimp only
    -- a resident passed over, a zero commission that ends the loop, or a commission paid
    -- (the split also cases on the cap and the purse inside the commission)
    split_ifs
    all_goals first
      | exact settled_commissionLoop seller revenue maxTotal rest s totalPaid
      | exact Settled.refl s
      | exact paid _
      | exact (paid _).trans (settled_commissionLoop seller revenue maxTotal rest _ _)

theorem settled_sellMerchantCargo (s : Simulation) (p : AgentRef) (d : SettRef) (market : Market) :
    Settled s (s.sellMerchantCargo p d market) := by
  have sold := settled_sellCargo p d market inventoryGoods s 0
  unfold sellMerchantCargo tier2Commission
  dsimp only
  split_ifs
  · exact (sold.trans (settled_modifyAgent _ p rfl rfl fun alive => alive))
  · exact (sold.trans (settled_modifyAgent _ p rfl rfl fun alive => alive)).trans
      (settled_commissionLoop _ _ _ _ _ _)
  · exact sold

theorem settled_recordInterSettlementTrade (s : Simulation) (source dest : ℕ) :
    Settled s (s.recordInterSettlementTrade source dest) := by
  unfold recordInterSettlementTrade
  split_ifs
  · exact Settled.refl s
  · exact settled_registry s _

theorem settled_arrive (s : Simulation) (q : SettRef) (p : AgentRef) (destID : ℕ) :
    Settled s (s.arrive q p destID) := by
  unfold arrive
  extract_lets sold repay repaid
  have soldKept : Settled s sold := by
    simp only [sold]
    split
    · exact Settled.refl s
    · rename_i d _
      split
      · exact Settled.refl s
      · rename_i market _
        have traded := settled_sellMerchantCargo s p d market
        -- the trade volume counted, and the trade recorded between the two settlements
        split
        · exact traded.trans (settled_registry _ _)
        · exact (traded.trans (settled_registry _ _)).trans (settled_recordInterSettlementTrade _ _ _)
  have repaidKept : Settled s repaid := by
    simp only [repaid]
    split_ifs
    · exact ((soldKept.trans (settled_debitAgent _ _ _)).trans (settled_creditSettlement _ _ _)).trans
        (settled_modifyAgent _ p rfl rfl fun alive => alive)
    · exact soldKept
  exact repaidKept.trans (settled_modifyAgent _ p rfl rfl fun alive => alive)

theorem settled_buyLoop (p : AgentRef) (q : SettRef) (buyPrice : ℕ) :
    ∀ (n : ℕ) (s : Simulation) (qty : ℕ), Settled s (buyLoop p q buyPrice n (s, qty)).1
  | 0, s, _ => Settled.refl s
  | n + 1, s, qty => by
    unfold buyLoop
    split_ifs
    · exact ((settled_debitAgent _ _ _).trans (settled_creditSettlement _ _ _)).trans
        (settled_buyLoop p q buyPrice n _ _)
    · exact ((settled_debitSettlement _ _ _).trans (settled_modifyAgent _ p rfl rfl fun alive => alive)).trans
        (settled_buyLoop p q buyPrice n _ _)
    · exact Settled.refl s

theorem settled_buyMeal (p : AgentRef) (q : SettRef) (market : Market) :
    ∀ (foods : List GoodType) (s fed : Simulation), buyMeal p q market foods s = some fed → Settled s fed
  | [], _, _, bought => by cases bought
  | food :: rest, s, fed, bought => by
    unfold buyMeal at bought
    split at bought
    · exact settled_buyMeal p q market rest s fed bought
    · split_ifs at bought
      · cases bought
        exact ((settled_debitAgent _ _ _).trans (settled_creditSettlement _ _ _)).trans
          (settled_addInventory _ _ _ _)
      · exact settled_buyMeal p q market rest s fed bought

theorem settled_provisionLoop (p : AgentRef) (q : SettRef) (market : Market) :
    ∀ (n : ℕ) (s : Simulation), Settled s (provisionLoop p q market n s)
  | 0, s => Settled.refl s
  | n + 1, s => by
    unfold provisionLoop
    split
    · exact Settled.refl s
    · next fed bought =>
      exact (settled_buyMeal p q market _ s fed bought).trans (settled_provisionLoop p q market n fed)

theorem settled_depart (s : Simulation) (q : SettRef) (home : Market) (p : AgentRef) (good : GoodType)
    (d : SettRef) : Settled s (s.depart q home p good d) := by
  have bought := settled_buyLoop p q (crownPrice (((home.entries good).map (·.price)).getD 0)) 5 s 0
  unfold depart
  dsimp only
  split_ifs
  · exact bought
  · -- the cargo loaded, the meals for the road, and the travel time
    exact ((bought.trans (settled_modifyAgent _ p rfl rfl fun alive => alive)).trans
      (settled_provisionLoop _ _ _ _ _)).trans (settled_modifyAgent _ p rfl rfl fun alive => alive)

theorem settled_merchantHour (goodOrder : List GoodType) (q : SettRef) (home : Market)
    (neighbors : List SettRef) (s : Simulation) (p : AgentRef) :
    Settled s (merchantHour goodOrder q home neighbors s p) := by
  unfold merchantHour
  dsimp only
  split_ifs
  · exact Settled.refl s
  · exact settled_modifyAgent _ p rfl rfl fun alive => alive
  · split
    · exact settled_arrive s q p _
    · -- a merchant at home: the scouting clears its preferred destination, then it may leave
      unfold tradeTrip
      dsimp only
      split_ifs
      · exact Settled.refl s
      · have cleared := @settled_modifyAgent s p (fun a => { a with tradePreferredDest := none }) rfl rfl
          fun alive => alive
        split
        · exact cleared
        · split_ifs
          · exact cleared.trans (settled_depart _ _ _ _ _ _)
          · exact cleared

theorem settled_resolveMerchantTrade (tradeNeighbors wideNeighbors : ℕ → List SettRef)
    (goodOrder : List GoodType) (s : Simulation) :
    Settled s (s.resolveMerchantTrade tradeNeighbors wideNeighbors goodOrder) := by
  refine settled_foldl _ (fun t q => ?_) _ s
  unfold merchantSettlement
  dsimp only
  split
  · exact Settled.refl t
  · -- the wide neighbours of a settlement with a surplus, else its trade neighbours
    split_ifs
    · exact Settled.refl t
    · exact settled_foldl _ (settled_merchantHour goodOrder q _ _) _ t
    · exact Settled.refl t
    · exact settled_foldl _ (settled_merchantHour goodOrder q _ _) _ t

/-! ### Tier-2 sales, decay and the crop failure -/

theorem settled_saleLoop (p : AgentRef) (q : SettRef) (good : GoodType) (unitPrice : ℕ) :
    ∀ (n : ℕ) (s : Simulation), Settled s (saleLoop p q good unitPrice n s)
  | 0, s => Settled.refl s
  | n + 1, s => by
    unfold saleLoop
    split_ifs
    · exact Settled.refl s
    · exact (((settled_debitSettlement _ _ _).trans (settled_creditAgent _ _ _)).trans
        (settled_addInventory _ _ _ _)).trans (settled_saleLoop p q good unitPrice n _)

theorem settled_tier2Trade (s : Simulation) (p : AgentRef) : Settled s (s.tier2Trade p) := by
  unfold tier2Trade
  split
  · exact Settled.refl s
  · split
    · exact Settled.refl s
    · unfold tier2MarketSell
      split
      · exact Settled.refl s
      · extract_lets best unitPrice sold
        split_ifs
        · exact Settled.refl s
        · exact (settled_saleLoop _ _ _ _ _ s).trans (settled_modifyAgent _ p rfl rfl fun alive => alive)

theorem settled_decayInventories (s : Simulation) : Settled s s.decayInventories := by
  refine settled_foldl _ (fun t p => ?_) _ s
  split_ifs
  · exact settled_trade t p decayInventory_kept
  · exact Settled.refl t

theorem spoilGrain_kept (spoilRate : ℚ) (a : Agent) : a.Kept (spoilGrain spoilRate a) := by
  unfold spoilGrain
  dsimp only
  split_ifs <;> exact .of_soul rfl rfl rfl rfl

theorem settled_checkCropFailure (tempModifier : ℚ) (s : Simulation) : Settled s (s.checkCropFailure tempModifier) := by
  have spoiled : ∀ (t : Simulation) (q : SettRef), Settled t (t.cropFailureAt q) := by
    intro t q
    unfold cropFailureAt
    dsimp only
    split_ifs
    · exact Settled.refl t
    · exact Settled.refl t
    · refine settled_foldl _ (fun u p => ?_) _ t
      split_ifs
      · exact settled_trade u p (spoilGrain_kept _ _)
      · exact Settled.refl u
  unfold checkCropFailure
  dsimp only
  split_ifs
  · exact settled_registry s _
  · -- the streak falls back, and the crops of every settlement fail
    exact ((settled_registry s _).trans (settled_registry _ _)).trans (settled_foldl _ spoiled _ _)
  · exact settled_registry s _

end Settled

/-! ## A generated world starts with no negative stock -/

theorem default_stocked : (default : Agent).Stocked :=
  ⟨fun _ => le_refl 0, fun _ => le_refl 0⟩

theorem newSimulation_stocked (hexAt : HexCoord → Option Hex) {ag : List Agent} (setts : List Settlement)
    (held : ∀ a ∈ ag, a.Stocked) : (newSimulation hexAt ag setts).Stocked := by
  intro p
  show (ag.getD p default).Stocked
  by_cases listed : p < ag.length
  · rw [List.getD_eq_getElem _ _ listed]
    exact held _ (List.getElem_mem listed)
  · rw [List.getD_eq_default _ _ (Nat.le_of_not_lt listed)]
    exact default_stocked

/-! ## Every run keeps the stock -/

/-- The steps of a run, as far as goods go: every writer of an inventory or a cargo, and any
other step of the membership run that leaves them alone.  A minute resolves each agent's
decided action, in the shuffle's order; a grant adds a natural number of units (famine relief,
the autumn harvest, an alchemical breakthrough); a birth or refugees go to a listed
settlement. -/
inductive GoodsStep : Simulation → Simulation → Prop
  | minute {shuffle : ℕ → List AgentRef → List AgentRef} (permutes : ∀ tick l, (shuffle tick l).Perm l)
      (decide : Agent → ActionKind × Bool) (productionHex : Simulation → AgentRef → Option HexCoord)
      (workMods : Simulation → AgentRef → ℚ × ℚ × ℚ) (tick : ℕ) (s : Simulation) :
      GoodsStep s (tickMinute shuffle (resolveAction decide productionHex workMods tick) tick s)
  | markets (slice : SliceSort Order) (goodOrder : SettRef → List GoodType) (keys : ∀ q, (goodOrder q).Nodup)
      (s : Simulation) : GoodsStep s (s.resolveMarkets slice goodOrder)
  | merchants (tradeNeighbors wideNeighbors : ℕ → List SettRef) (goodOrder : List GoodType) (s : Simulation) :
      GoodsStep s (s.resolveMerchantTrade tradeNeighbors wideNeighbors goodOrder)
  | tier2 (p : AgentRef) (s : Simulation) : GoodsStep s (s.tier2Trade p)
  | decay (s : Simulation) : GoodsStep s s.decayInventories
  | cropFailure (tempModifier : ℚ) (s : Simulation) : GoodsStep s (s.checkCropFailure tempModifier)
  | crime (diplomacyBonus : ℕ → ℚ) (tick : ℕ) (s : Simulation) : GoodsStep s (s.processCrime diplomacyBonus tick)
  | natural (tick : ℕ) (s : Simulation) : GoodsStep s (processNaturalDeaths tick s)
  | battle (tick : ℕ) (soldiers : List AgentRef) (rate : ℚ) (s : Simulation) :
      GoodsStep s (applyCasualties tick soldiers rate s).1
  | birth (factionFor : Agent → GovernanceType → ℕ) (traits : Agent) {q : SettRef} {s : Simulation}
      (listed : q ∈ s.settlements) : GoodsStep s (bearChild factionFor traits q s)
  | refugees (factionFor : Agent → GovernanceType → ℕ) (draws : List Agent) {q : SettRef} {s : Simulation}
      (listed : q ∈ s.settlements) : GoodsStep s (admitRefugees factionFor draws q s)
  | immigrants (name : String) (draws : List Agent) (s : Simulation) : GoodsStep s (s.spawnImmigrants name draws)
  | grant (p : AgentRef) (good : GoodType) (units : ℕ) (s : Simulation) : GoodsStep s (s.addInventory p good units)
  | member {s t : Simulation} (step : MemberStep s t) (goods : GoodsKept s t)
      (cargo : ∀ p, (t.agentAt p).tradeCargo = (s.agentAt p).tradeCargo) : GoodsStep s t

/-- Every goods step is a step of the membership run: the writers of goods are settled, and
the others are membership steps already. -/
theorem GoodsStep.memberStep {s t : Simulation} (step : GoodsStep s t) : MemberStep s t := by
  cases step with
  | minute permutes decide productionHex workMods tick =>
    exact MemberStep.resolveMinute decide productionHex workMods tick permutes s
  | markets slice goodOrder keys => exact .settled (settled_resolveMarkets slice goodOrder s)
  | merchants tradeNeighbors wideNeighbors goodOrder =>
    exact .settled (settled_resolveMerchantTrade tradeNeighbors wideNeighbors goodOrder s)
  | tier2 p => exact .settled (settled_tier2Trade s p)
  | decay => exact .settled (settled_decayInventories s)
  | cropFailure tempModifier => exact .settled (settled_checkCropFailure tempModifier s)
  | crime diplomacyBonus tick => exact .settled (settled_processCrime diplomacyBonus tick s)
  | natural tick => exact .natural tick s
  | battle tick soldiers rate => exact .battle tick soldiers rate s
  | birth factionFor traits listed => exact .birth factionFor traits listed
  | refugees factionFor draws listed => exact .refugees factionFor draws listed
  | immigrants name draws => exact .spawn name draws s
  | grant p good units => exact .settled (settled_addInventory s p good units)
  | member step goods cargo => exact step

/-- One step keeps the stock, each writer by its own lemma; the markets read the membership's
lists, each alive agent listed once. -/
theorem GoodsStep.stocked {s t : Simulation} (step : GoodsStep s t) (stocked : s.Stocked)
    (members : s.Membership) : t.Stocked := by
  cases step with
  | minute permutes decide productionHex workMods tick =>
    exact tickMinute_stocked _
      (fun _ p held => resolveAction_stocked decide productionHex workMods tick p held) tick stocked
  | markets slice goodOrder keys => exact resolveMarkets_stocked slice goodOrder stocked members.listed_once keys
  | merchants tradeNeighbors wideNeighbors goodOrder =>
    exact resolveMerchantTrade_stocked tradeNeighbors wideNeighbors goodOrder stocked
  | tier2 p => exact tier2Trade_stocked p stocked
  | decay => exact decayInventories_stocked stocked
  | cropFailure tempModifier => exact checkCropFailure_stocked tempModifier stocked
  | crime diplomacyBonus tick => exact processCrime_stocked diplomacyBonus tick stocked
  | natural tick => exact processNaturalDeaths_stocked tick stocked
  | battle tick soldiers rate => exact applyCasualties_stocked tick soldiers rate stocked
  | birth factionFor traits listed => exact bearChild_stocked factionFor traits _ stocked
  | refugees factionFor draws listed => exact admitRefugees_stocked factionFor draws _ stocked
  | immigrants name draws => exact spawnImmigrants_stocked name draws stocked
  | grant p good units => exact stocked.addInventory_of_nonneg p good (Int.natCast_nonneg units)
  | member step goods cargo => exact fun p => (stocked p).of_goods (goods p) (cargo p)

/-- A run keeps the stock and the membership, by induction on its steps. -/
theorem GoodsStep.run_stocked {s t : Simulation} (run : Relation.ReflTransGen GoodsStep s t)
    (stocked : s.Stocked) (members : s.Membership) : t.Stocked ∧ t.Membership := by
  induction run with
  | refl => exact ⟨stocked, members⟩
  | tail _ step held => exact ⟨step.stocked held.1 held.2, step.memberStep.membership held.2⟩

/-- Goods never go negative: from a world where no agent holds a negative quantity, as a
generated world does (`newSimulation_stocked`), and whose membership index is exact, as a
generated or loaded world's is (`Generated.membership`), every entry of every agent's inventory
and cargo stays non-negative over any run. -/
theorem goods_never_negative {s t : Simulation} (start : s.Stocked) (members : s.Membership)
    (run : Relation.ReflTransGen GoodsStep s t) (p : AgentRef) (good : GoodType) :
    0 ≤ (t.agentAt p).inventory good ∧ 0 ≤ (t.agentAt p).tradeCargo good := by
  have stocked := (GoodsStep.run_stocked run start members).1
  exact ⟨(stocked p).inventory good, (stocked p).cargo good⟩

theorem hamletWorld_stocked : hamletWorld.Stocked := by
  intro p
  show ([{ (default : Agent) with id := 1, alive := true, homeSettID := some 1 }].getD p default).Stocked
  -- the resident and the default record past it hold nothing
  cases p <;> exact ⟨fun _ => le_refl 0, fun _ => le_refl 0⟩

/-- The hamlet's resident is granted five units of grain at the harvest, its market day
passes, and its goods then decay. -/
theorem hamletWorld_goods_never_negative :
    0 ≤ (((hamletWorld.addInventory 0 goodGrain (5 : ℕ)).resolveMarkets SliceSort.merge fun _ => []).decayInventories.agentAt
        0).inventory goodGrain ∧
      0 ≤ (((hamletWorld.addInventory 0 goodGrain (5 : ℕ)).resolveMarkets SliceSort.merge fun _ => []).decayInventories.agentAt
        0).tradeCargo goodGrain :=
  goods_never_negative hamletWorld_stocked hamletWorld_generated.membership
    (((Relation.ReflTransGen.single (GoodsStep.grant 0 goodGrain 5 hamletWorld)).tail
      (GoodsStep.markets _ _ (fun _ => List.nodup_nil) _)).tail (GoodsStep.decay _))
    0 goodGrain

end Simulation

end MiniWorld.Engine
