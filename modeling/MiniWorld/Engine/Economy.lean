import MiniWorld.Engine.Market
import MiniWorld.Engine.Treasury
import MiniWorld.Engine.Cognition
import MiniWorld.Engine.Warfare
import MiniWorld.Engine.Crime
import MiniWorld.Engine.Governance
import MiniWorld.Engine.Factions
import MiniWorld.Engine.Founding
/-! # The crown-moving passes over a run

The daily treasury flows (`collectTaxes`, `decayWealth`, `paySettlementWages`,
`payGarrisonStipends`), the settlement markets, an agent's food purchase and
Tier-2 sale, the `invest` decision, the natural deaths of a day, a day of
crime and of governance, a week of raids, the faction dues and patronage, and
the weekly overmass and abandonment passes each keep the money supply.  Taken
as the steps of a run, in any order and any number of times, they keep it over
the whole run (`moneySupply_closed`).  The engine calls the per-agent passes
for alive agents of `Agents`; `decayWealth` reads each purse as a `uint64`, so
its step asks that every purse fit one; the abandonment pass runs after the
weekly recount, so its step asks that every population count its alive
members (`PopulationSound`); and the overmass pass reads a
`SettlementNeighbors` cache built from the settlements, so its step asks that
the cache list settlements only.

A death is the one place where crowns leave the count: only the purses of
alive agents are counted, so clearing a flag takes the dead agent's purse out
of the money supply, and `inheritWealth` must put it back whole.  Between the
two the estate is pending (`Bereft`).  The wiring indexes the home of every
alive agent, so the branch of `inheritWealth` that finds no home settlement,
and empties the purse into nothing, is never taken at a death.
-/

namespace MiniWorld.Engine

open MiniWorld.Agents MiniWorld.Ledger MiniWorld.Phi
open MiniWorld.Run (SliceSort foldl_invariant)

namespace Simulation

/-! ## Writes outside the accounts -/

theorem crownsOnly_registry (s : Simulation) (registry : Registry) :
    CrownsOnly s { s with registry := registry } :=
  ⟨rfl, rfl, rfl, rfl, rfl, fun _ => rfl, fun _ => rfl, fun _ => rfl, rfl⟩

theorem crownsOnly_countDeath (s : Simulation) : CrownsOnly s s.countDeath := crownsOnly_registry s _

theorem crownsOnly_addLiberatedSpirit (s : Simulation) : CrownsOnly s s.addLiberatedSpirit :=
  crownsOnly_registry s _

/-- The witnesses of a death drift in coherence only. -/
theorem touchWitnesses_keeps {s : Simulation} (deadID : AgentID) (k : ℕ) (gate : Agent → Bool)
    (drift : Agent → ℚ) (wired : s.Wired) : Keeps s (touchWitnesses deadID k gate drift s) := by
  unfold touchWitnesses
  refine foldl_invariant (Keeps s) _ _ s (fun w _ t kept => ?_) (Keeps.refl wired)
  dsimp only
  split_ifs
  · exact kept.trans (keeps_modifyAgent kept.wired w (fun _ => rfl) (fun _ => rfl) (fun _ => rfl))
  · exact kept

theorem witnessNaturalDeath_keeps {s : Simulation} (a : Agent) (wired : s.Wired) :
    Keeps s (witnessNaturalDeath a s) := by
  unfold witnessNaturalDeath
  split
  · exact Keeps.refl wired
  · split_ifs
    · exact touchWitnesses_keeps _ _ _ _ wired
    · exact touchWitnesses_keeps _ _ _ _ wired

/-! ## A death and its estate -/

section Deaths

variable {s t u : Simulation} {p : AgentRef}

/-- A write that clears an agent's flag keeps the wiring: the dead need no home. -/
theorem Wired.kill (wired : s.Wired) (p : AgentRef) {change : Agent → Agent}
    (dead : (change (s.agentAt p)).alive = false) : (s.modifyAgent p change).Wired := by
  -- an agent alive after the write is one the write did not touch
  have untouched : ∀ p', ((s.modifyAgent p change).agentAt p').alive →
      (s.modifyAgent p change).agentAt p' = s.agentAt p' := by
    intro p' alive
    by_cases hp : p' = p
    · subst hp
      simp [dead] at alive
    · simp [modifyAgent_agentAt, hp]
  refine ⟨wired.agents_nodup, wired.settlements_nodup, wired.factions_nodup, ?_,
    wired.index_sound, wired.index_complete, ?_, wired.settlements_below⟩
  · intro k p' listed alive
    exact wired.listed_mem k p' listed (untouched p' alive ▸ alive)
  · intro p' member alive
    rw [untouched p' alive]
    exact wired.home_indexed p' member (untouched p' alive ▸ alive)

/-- Clearing the flag of an alive agent of `Agents` takes its purse out of the
money supply. -/
theorem moneySupply_kill (distinct : s.agents.Nodup) (listed : p ∈ s.agents)
    (alive : (s.agentAt p).alive) {change : Agent → Agent}
    (dead : (change (s.agentAt p)).alive = false) :
    (s.modifyAgent p change).moneySupply + (s.agentAt p).wealth = s.moneySupply := by
  have moved := agentMoney_modifyAgent distinct listed change
  simp only [liquidWealth, alive, dead, ite_true, Bool.false_eq_true, ite_false] at moved
  simp only [moneySupply, settlementMoney, factionMoney, modifyAgent_settlements,
    modifyAgent_settlementAt, modifyAgent_factions, modifyAgent_factionAt]
  omega

/-- A write to a dead agent that leaves it dead moves no crowns. -/
theorem moneySupply_modifyAgent_of_dead (dead : (s.agentAt p).alive = false) {change : Agent → Agent}
    (staysDead : (change (s.agentAt p)).alive = false) :
    (s.modifyAgent p change).moneySupply = s.moneySupply := by
  have same : ∀ p' ∈ s.agents, liquidWealth ((s.modifyAgent p change).agentAt p') =
      liquidWealth (s.agentAt p') := by
    intro p' _
    by_cases hp : p' = p
    · subst hp
      simp [liquidWealth, dead, staysDead]
    · simp [modifyAgent_agentAt, hp]
  simp only [moneySupply, agentMoney, settlementMoney, factionMoney, modifyAgent_agents,
    modifyAgent_settlements, modifyAgent_settlementAt, modifyAgent_factions, modifyAgent_factionAt,
    total_congr same]

/-- `after` is `before` with the alive agent `p` dead and its estate not yet
inherited: the money supply is short of its purse exactly, its home is still
indexed, and the slices are those of `before`. -/
structure Bereft (p : AgentRef) (before after : Simulation) : Prop where
  wired : after.Wired
  money : after.moneySupply + (after.agentAt p).wealth = before.moneySupply
  dead : (after.agentAt p).alive = false
  home : ∃ k q, (after.agentAt p).homeSettID = some k ∧ after.settlementIndex k = some q
  agents : after.agents = before.agents
  settlements : after.settlements = before.settlements
  factions : after.factions = before.factions

/-- Clearing the flag of an alive agent of `Agents`, by a write that keeps its
purse and its home, leaves its estate pending. -/
theorem Bereft.kill (wired : s.Wired) (listed : p ∈ s.agents) (alive : (s.agentAt p).alive)
    {change : Agent → Agent} (dead : (change (s.agentAt p)).alive = false)
    (keepsWealth : (change (s.agentAt p)).wealth = (s.agentAt p).wealth)
    (keepsHome : (change (s.agentAt p)).homeSettID = (s.agentAt p).homeSettID) :
    Bereft p s (s.modifyAgent p change) := by
  obtain ⟨k, q, home, indexed⟩ := wired.home_indexed p listed alive
  have taken := moneySupply_kill wired.agents_nodup listed alive dead
  refine ⟨wired.kill p dead, ?_, by simpa using dead, ⟨k, q, by simpa [keepsHome] using home, indexed⟩,
    rfl, rfl, rfl⟩
  simpa [keepsWealth] using taken

/-- A crowns-only write that moves no crowns and leaves the dead agent's purse
keeps its estate pending: the count of the death, the spirits pool. -/
theorem Bereft.crownsOnly (bereft : Bereft p s t) (change : CrownsOnly t u)
    (money : u.moneySupply = t.moneySupply) (purse : (u.agentAt p).wealth = (t.agentAt p).wealth) :
    Bereft p s u := by
  obtain ⟨k, q, home, indexed⟩ := bereft.home
  refine ⟨change.wired bereft.wired, by rw [money, purse]; exact bereft.money,
    (change.alive p).trans bereft.dead, ⟨k, q, (change.home p).trans home, ?_⟩,
    change.agents.trans bereft.agents, change.settlements.trans bereft.settlements,
    change.factions.trans bereft.factions⟩
  rw [change.settlementIndex]
  exact indexed

/-- An estate goes whole into counted accounts: half to the treasury of a
listed home `q`, the rest to the first other alive agent listed there, whom the
wiring puts in `Agents`, or with none to the treasury again. -/
theorem bequeath_estate (a : Agent) (wired : s.Wired) {q : SettRef} (member : q ∈ s.settlements) :
    CrownsOnly s (bequeath a q s) ∧ (bequeath a q s).moneySupply = s.moneySupply + a.wealth := by
  have halved := crownsOnly_creditSettlement s q (a.wealth / 2)
  have half := moneySupply_creditSettlement wired.settlements_nodup member (a.wealth / 2)
  have halvedWired := halved.wired wired
  have whole : a.wealth / 2 + (a.wealth - a.wealth / 2) = a.wealth := by omega
  -- the goods go to the market, which holds no crowns
  have market : ∀ t (f : Market → Market),
      CrownsOnly s t ∧ t.moneySupply = s.moneySupply + a.wealth →
        CrownsOnly s (t.modifyMarket q f) ∧ (t.modifyMarket q f).moneySupply = s.moneySupply + a.wealth :=
    fun t f ⟨change, money⟩ => ⟨change.trans (crownsOnly_modifyMarket t q f), by rw [moneySupply_modifyMarket, money]⟩
  unfold bequeath
  dsimp only
  apply market
  split
  next heir found =>
    -- the heir passed the search, so it is alive, and listed at home, so in `Agents`
    have chosen := List.find?_some found
    simp only [Bool.and_eq_true] at chosen
    have listed := halvedWired.listed_mem _ heir (List.mem_of_find?_eq_some found) chosen.1
    have given := moneySupply_creditAgent halvedWired.agents_nodup listed chosen.1
      (a.wealth - a.wealth / 2)
    exact ⟨halved.trans (crownsOnly_creditAgent _ heir _), by omega⟩
  next =>
    split_ifs
    · have given := moneySupply_creditSettlement halvedWired.settlements_nodup
        (halved.settlements ▸ member) (a.wealth - a.wealth / 2)
      exact ⟨halved.trans (crownsOnly_creditSettlement _ q _), by omega⟩
    · exact ⟨halved, by omega⟩

/-- `inheritWealth` of a dead agent whose home is indexed moves its purse whole
into counted accounts and empties it. -/
theorem inheritWealth_estate (wired : s.Wired) (dead : (s.agentAt p).alive = false) {k : ℕ}
    {q : SettRef} (home : (s.agentAt p).homeSettID = some k) (indexed : s.settlementIndex k = some q) :
    CrownsOnly s (s.inheritWealth p) ∧
      (s.inheritWealth p).moneySupply = s.moneySupply + (s.agentAt p).wealth := by
  have logged : CrownsOnly s { s with inheritLog := p :: s.inheritLog } :=
    ⟨rfl, rfl, rfl, rfl, rfl, fun _ => rfl, fun _ => rfl, fun _ => rfl, rfl⟩
  have member := (wired.index_sound k q indexed).1
  unfold inheritWealth
  dsimp only
  split_ifs with nothing
  · exact ⟨logged, by rw [nothing.1]; rfl⟩
  · -- the home is found, so the estate is bequeathed there before the purse is emptied
    simp only [home, Option.bind_some, indexed]
    obtain ⟨left, given⟩ := bequeath_estate (s.agentAt p) (logged.wired wired) member
    have stillDead := ((logged.trans left).alive p).trans dead
    refine ⟨(logged.trans left).trans (crownsOnly_modifyAgent _ p rfl rfl), ?_⟩
    rw [moneySupply_modifyAgent_of_dead stillDead stillDead]
    exact given

/-- Inheriting a pending estate restores the money supply. -/
theorem Bereft.inheritWealth (bereft : Bereft p s t) : Keeps s (t.inheritWealth p) := by
  obtain ⟨k, q, home, indexed⟩ := bereft.home
  obtain ⟨change, money⟩ := inheritWealth_estate bereft.wired bereft.dead home indexed
  exact ⟨change.wired bereft.wired, money.trans bereft.money, change.agents.trans bereft.agents,
    change.settlements.trans bereft.settlements, change.factions.trans bereft.factions⟩

/-- `handleAgentDeath` settles a pending estate: the death is counted, the
estate inherited, and the witnesses drift. -/
theorem Bereft.handleAgentDeath (bereft : Bereft p s t) : Keeps s (t.handleAgentDeath p) := by
  have inherited := (bereft.crownsOnly (crownsOnly_countDeath t) rfl rfl).inheritWealth
  unfold Simulation.handleAgentDeath
  dsimp only
  split
  · exact inherited.trans (touchWitnesses_keeps _ _ _ _ inherited.wired)
  · exact inherited

/-! ## The death sites -/

theorem naturalDeath_keeps (wired : s.Wired) (listed : p ∈ s.agents) (alive : (s.agentAt p).alive) :
    Keeps s (s.naturalDeath p) := by
  have killed : Bereft p s (s.modifyAgent p fun a => { a with alive := false, health := 0 }) :=
    Bereft.kill wired listed alive rfl rfl rfl
  have counted := killed.crownsOnly (crownsOnly_countDeath _) rfl rfl
  unfold naturalDeath
  extract_lets a killedState pooledState
  -- a liberated elder also feeds the spirits pool before its estate is inherited
  have pooled : Bereft p s pooledState := by
    simp only [pooledState]
    split_ifs
    · exact counted.crownsOnly (crownsOnly_addLiberatedSpirit _) rfl rfl
    · exact counted
  have inherited := pooled.inheritWealth
  exact inherited.trans (witnessNaturalDeath_keeps _ inherited.wired)

theorem illnessCheck_keeps (wired : s.Wired) (listed : p ∈ s.agents) (alive : (s.agentAt p).alive) :
    Keeps s (s.illnessCheck p) := by
  unfold illnessCheck
  split_ifs with ill
  · extract_lets weakenedState
    have weakened : Keeps s weakenedState :=
      keeps_modifyAgent wired p (fun _ => rfl) (fun _ => rfl) (fun _ => rfl)
    split_ifs with fatal
    · -- the illness kills the weakened agent, whose death is counted and inherited
      have killed : Bereft p weakenedState (weakenedState.modifyAgent p fun a => { a with alive := false }) :=
        Bereft.kill weakened.wired (weakened.agents ▸ listed) (by simpa [weakenedState] using alive) rfl rfl rfl
      exact weakened.trans (killed.crownsOnly (crownsOnly_countDeath _) rfl rfl).inheritWealth
    · exact weakened
  · exact Keeps.refl wired

theorem naturalDeathCheck_keeps (simDay : ℕ) (wired : s.Wired) (listed : p ∈ s.agents) :
    Keeps s (naturalDeathCheck simDay s p) := by
  unfold naturalDeathCheck
  dsimp only
  split_ifs with dead
  · exact Keeps.refl wired
  · exact naturalDeath_keeps wired listed (by simpa using dead)
  · exact illnessCheck_keeps wired listed (by simpa using dead)

/-- The natural deaths of a day keep the money supply: every agent of `Agents`
that dies leaves its estate at home. -/
theorem processNaturalDeaths_keeps (tick : ℕ) (wired : s.Wired) :
    Keeps s (processNaturalDeaths tick s) := by
  unfold processNaturalDeaths
  refine foldl_invariant (Keeps s) _ _ s (fun p member t kept => ?_) (Keeps.refl wired)
  exact kept.trans (naturalDeathCheck_keeps _ kept.wired (kept.agents ▸ member))

/-- The casualty loop keeps the money supply when every soldier of its list is
in `Agents`: each casualty is killed and handed to `handleAgentDeath`. -/
theorem casualtyLoop_keeps (tick : ℕ) (targetCasualties : ℤ) :
    ∀ (soldiers : List AgentRef) (acc : Simulation × ℕ), acc.1.Wired →
      (∀ p ∈ soldiers, p ∈ acc.1.agents) → Keeps acc.1 (casualtyLoop tick targetCasualties acc soldiers).1
  | [], _, wired, _ => Keeps.refl wired
  | p :: rest, (s, casualties), wired, enlisted => by
    have later := casualtyLoop_keeps tick targetCasualties rest
    have restEnlisted : ∀ p' ∈ rest, p' ∈ s.agents :=
      fun p' member => enlisted p' (List.mem_cons_of_mem p member)
    unfold casualtyLoop
    dsimp only
    split_ifs with reached dead
    · exact Keeps.refl wired
    · exact later (s, casualties) wired restEnlisted
    · have killed : Bereft p s (s.modifyAgent p fun a => { a with alive := false }) :=
        Bereft.kill wired (enlisted p List.mem_cons_self) (by simpa using dead) rfl rfl rfl
      have buried := killed.handleAgentDeath
      exact buried.trans (later (_, casualties + 1) buried.wired (buried.agents ▸ restEnlisted))
    · exact later (s, casualties) wired restEnlisted

theorem applyCasualties_keeps (tick : ℕ) {soldiers : List AgentRef} (rate : ℚ) (wired : s.Wired)
    (enlisted : ∀ p ∈ soldiers, p ∈ s.agents) : Keeps s (applyCasualties tick soldiers rate s).1 := by
  unfold applyCasualties
  split
  · exact Keeps.refl wired
  · exact casualtyLoop_keeps tick _ soldiers (s, 0) wired enlisted

end Deaths

/-! ## A week of raids -/

section Raids

variable {s : Simulation} (float32 : ℕ → ℕ → ℚ)

/-- The plunder moves crowns from the loser's treasury to the winner's, never
more than the loser holds. -/
theorem plunder_keeps (wired : s.Wired) {winner loser : SettRef} (winnerListed : winner ∈ s.settlements)
    (loserListed : loser ∈ s.settlements) : Keeps s (s.plunder winner loser) := by
  unfold plunder
  dsimp only
  generalize ⌊((s.settlementAt loser).treasury : ℚ) * agnosis * 0.5⌋₊ = taken
  have covered : (if taken > (s.settlementAt loser).treasury then (s.settlementAt loser).treasury else taken) ≤
      (s.settlementAt loser).treasury := by
    split_ifs <;> omega
  exact (transfer_keeps wired (show s.Counted (.settlement loser) from loserListed)
    (show s.Counted (.settlement winner) from winnerListed) covered).1

/-- The loops over agents after the fighting move no crowns: `Keeps` from a
wired start is the reflexive and transitive relation their loop lemmas ask for. -/
theorem keeps_boostSurvivors (soldiers : List AgentRef) {change : Agent → Agent}
    (keepsWealth : ∀ a, (change a).wealth = a.wealth) (keepsAlive : ∀ a, (change a).alive = a.alive)
    (keepsHome : ∀ a, (change a).homeSettID = a.homeSettID) (wired : s.Wired) :
    Keeps s (s.boostSurvivors soldiers change) :=
  @boostSurvivors_keeps (fun s t => s.Wired → Keeps s t) (fun _ wired => Keeps.refl wired)
    (fun first second wired => (first wired).trans (second (first wired).wired)) soldiers change
    (fun _ p wired => keeps_modifyAgent wired p keepsWealth keepsAlive keepsHome) s wired

theorem keeps_applyTraumaToWitnesses (settID : ℕ) (intensity : ℚ) (tick : ℕ) (wired : s.Wired) :
    Keeps s (s.applyTraumaToWitnesses float32 settID intensity tick) :=
  @applyTraumaToWitnesses_keeps (fun s t => s.Wired → Keeps s t) (fun _ wired => Keeps.refl wired)
    (fun first second wired => (first wired).trans (second (first wired).wired)) float32 settID intensity
    tick (fun _ w _ wired => keeps_modifyAgent wired w (fun _ => rfl) (fun _ => rfl) (fun _ => rfl)) s wired

variable (hexes : List HexCoord) (tick : ℕ) {attacker defender : SettRef}

/-- The fighting of a raid between two listed settlements: the casualties of
both sides, whose soldiers are alive agents listed at home and so in `Agents`,
the plunder, the capture, and the loops over the survivors and witnesses. -/
theorem fight_keeps (attackStrength defenseStrength : ℚ) (attackerWins : Bool) (wired : s.Wired)
    (attackerListed : attacker ∈ s.settlements) (defenderListed : defender ∈ s.settlements) :
    Keeps s (s.fight float32 hexes tick attacker defender attackStrength defenseStrength attackerWins) := by
  have enlisted : ∀ k, ∀ p ∈ s.soldiers k, p ∈ s.agents := fun k p member =>
    wired.listed_mem k p (List.mem_of_mem_filter member) (mem_soldiers member).1
  unfold fight
  extract_lets attackSoldiers defenderSoldiers balance intensity loserSoldiers winnerSoldiers
    wounded fallen winnerSett loserSett plundered captured cheered shaken witnessed
  have woundedKept : Keeps s wounded := by
    refine applyCasualties_keeps tick _ wired ?_
    simp only [loserSoldiers]
    split_ifs
    · exact enlisted _
    · exact enlisted _
  have fallenKept : Keeps wounded fallen := by
    refine applyCasualties_keeps tick _ woundedKept.wired ?_
    rw [woundedKept.agents]
    simp only [winnerSoldiers]
    split_ifs
    · exact enlisted _
    · exact enlisted _
  have battle := woundedKept.trans fallenKept
  have sides : winnerSett ∈ fallen.settlements ∧ loserSett ∈ fallen.settlements := by
    rw [battle.settlements]
    simp only [winnerSett, loserSett]
    split_ifs
    · exact ⟨attackerListed, defenderListed⟩
    · exact ⟨defenderListed, attackerListed⟩
  have plunderKept := plunder_keeps fallenKept.wired sides.1 sides.2
  -- the capture writes the hex map only
  have capturedKept : Keeps plundered captured := by
    simp only [captured]
    split_ifs
    · exact (show CrownsOnly plundered (plundered.captureHexAt _ _ _) from
        ⟨rfl, rfl, rfl, rfl, rfl, fun _ => rfl, fun _ => rfl, fun _ => rfl, rfl⟩).keeps plunderKept.wired rfl
    · exact Keeps.refl plunderKept.wired
  have cheeredKept : Keeps captured cheered :=
    keeps_boostSurvivors _ (fun _ => rfl) (fun _ => rfl) (fun _ => rfl) capturedKept.wired
  have shakenKept : Keeps cheered shaken :=
    keeps_boostSurvivors _ (fun _ => rfl) (fun _ => rfl) (fun _ => rfl) cheeredKept.wired
  have witnessedKept : Keeps shaken witnessed :=
    keeps_applyTraumaToWitnesses float32 _ _ _ shakenKept.wired
  exact battle.trans (plunderKept.trans (capturedKept.trans (cheeredKept.trans (shakenKept.trans
    (witnessedKept.trans (keeps_applyTraumaToWitnesses float32 _ _ _ witnessedKept.wired))))))

theorem resolveRaid_keeps (dist : ℕ) (wired : s.Wired) (attackerListed : attacker ∈ s.settlements)
    (defenderListed : defender ∈ s.settlements) :
    Keeps s (s.resolveRaid float32 hexes tick attacker defender dist).1 := by
  rcases resolveRaid_cases float32 hexes tick attacker defender dist s with
    same | ⟨attackStrength, defenseStrength, attackerWins, fought⟩
  · rw [same]
    exact Keeps.refl wired
  · rw [fought]
    have fightKept := fight_keeps float32 hexes tick attackStrength defenseStrength attackerWins wired
      attackerListed defenderListed
    exact fightKept.trans ((crownsOnly_registry _ _).keeps fightKept.wired rfl)

theorem raid_keeps (dist : ℕ) (wired : s.Wired) (attackerListed : attacker ∈ s.settlements)
    (defenderListed : defender ∈ s.settlements) :
    Keeps s (s.raid float32 hexes tick attacker defender dist) := by
  have resolved := resolveRaid_keeps float32 hexes tick dist wired attackerListed defenderListed
  exact resolved.trans ((crownsOnly_registry _ _).keeps resolved.wired rfl)

variable (hexOrder : SettRelKey → List HexCoord)

/-- The body of `processWarfare` at a pair raids, if at all, between two
indexed settlements, so listed ones. -/
theorem warfarePair_keeps (key : SettRelKey) (wired : s.Wired) :
    Keeps s (s.warfarePair float32 hexOrder tick key) := by
  rcases warfarePair_cases float32 hexOrder tick s key with same | ⟨pair, passed, raided | raided⟩
  · rw [same]
    exact Keeps.refl wired
  all_goals
    obtain ⟨indexedA, indexedB⟩ := warPair_indexed passed
    have listedA := (wired.index_sound _ _ indexedA).1
    have listedB := (wired.index_sound _ _ indexedB).1
    rw [raided]
  · exact raid_keeps float32 _ tick _ wired listedA listedB
  · exact raid_keeps float32 _ tick _ wired listedB listedA

theorem processWarfare_keeps (order : List SettRelKey) (wired : s.Wired) :
    Keeps s (s.processWarfare float32 hexOrder order tick) := by
  unfold processWarfare
  exact foldl_invariant (Keeps s) _ order s
    (fun key _ t kept => kept.trans (warfarePair_keeps float32 tick hexOrder key kept.wired)) (Keeps.refl wired)

end Raids

/-! ## Passes that only circulate crowns

Crime and governance move crowns between purses and treasuries and write
roles, needs, bonds and influence besides, all of it crowns-only:
`Circulates` carries both facts through their loops, and gives `Keeps` once
the start is wired. -/

/-- `after` is `before` after crowns-only writes that keep the money supply. -/
structure Circulates (before after : Simulation) : Prop where
  crownsOnly : CrownsOnly before after
  money : after.moneySupply = before.moneySupply

section Circulation

variable {s t u : Simulation}

theorem Circulates.refl (s : Simulation) : Circulates s s := ⟨CrownsOnly.refl s, rfl⟩

theorem Circulates.trans (first : Circulates s t) (second : Circulates t u) : Circulates s u :=
  ⟨first.crownsOnly.trans second.crownsOnly, second.money.trans first.money⟩

theorem Circulates.keeps (circulates : Circulates s t) (wired : s.Wired) : Keeps s t :=
  circulates.crownsOnly.keeps wired circulates.money

/-- A write that keeps a faction's `Treasury` keeps the money supply. -/
theorem moneySupply_modifyFaction_of_treasury {f : FactionRef} {change : Faction → Faction}
    (keepsTreasury : (change (s.factionAt f)).treasury = (s.factionAt f).treasury) :
    (s.modifyFaction f change).moneySupply = s.moneySupply := by
  have same : ∀ f' ∈ s.factions, ((s.modifyFaction f change).factionAt f').treasury =
      (s.factionAt f').treasury := by
    intro f' _
    by_cases hf : f' = f
    · subst hf
      simp [modifyFaction_factionAt_apply, keepsTreasury]
    · simp [modifyFaction_factionAt_apply, hf]
  simp only [moneySupply, agentMoney, settlementMoney, factionMoney, modifyFaction_agents,
    modifyFaction_agentAt, modifyFaction_settlements, modifyFaction_settlementAt, modifyFaction_factions,
    total_congr same]

/-- A write that takes `amount` from the purse of an alive agent of `Agents`,
whatever else it writes but the flag, lowers the money supply by `amount`. -/
theorem moneySupply_modifyAgent_take (distinct : s.agents.Nodup) {p : AgentRef} (listed : p ∈ s.agents)
    (alive : (s.agentAt p).alive) {change : Agent → Agent}
    (keepsAlive : (change (s.agentAt p)).alive = (s.agentAt p).alive) {amount : ℕ}
    (taken : (change (s.agentAt p)).wealth + amount = (s.agentAt p).wealth) :
    (s.modifyAgent p change).moneySupply + amount = s.moneySupply := by
  have moved := agentMoney_modifyAgent distinct listed change
  simp only [liquidWealth, keepsAlive, alive, ite_true] at moved
  simp only [moneySupply, settlementMoney, factionMoney, modifyAgent_settlements,
    modifyAgent_settlementAt, modifyAgent_factions, modifyAgent_factionAt]
  omega

theorem circulates_modifyAgent (s : Simulation) (p : AgentRef) {change : Agent → Agent}
    (keepsWealth : ∀ a, (change a).wealth = a.wealth) (keepsAlive : ∀ a, (change a).alive = a.alive)
    (keepsHome : ∀ a, (change a).homeSettID = a.homeSettID) : Circulates s (s.modifyAgent p change) :=
  ⟨crownsOnly_modifyAgent s p (keepsAlive _) (keepsHome _),
    moneySupply_modifyAgent_of_wealth (keepsWealth _) (keepsAlive _)⟩

theorem circulates_modifySettlement (s : Simulation) (q : SettRef) {change : Settlement → Settlement}
    (keepsTreasury : ∀ t, (change t).treasury = t.treasury) (keepsId : ∀ t, (change t).id = t.id) :
    Circulates s (s.modifySettlement q change) :=
  ⟨crownsOnly_modifySettlement s q (keepsId _), moneySupply_modifySettlement_of_treasury (keepsTreasury _)⟩

theorem circulates_modifyFaction (s : Simulation) (f : FactionRef) {change : Faction → Faction}
    (keepsTreasury : ∀ t, (change t).treasury = t.treasury) : Circulates s (s.modifyFaction f change) :=
  ⟨crownsOnly_modifyFaction s f change, moneySupply_modifyFaction_of_treasury (keepsTreasury _)⟩

theorem circulates_addInventory (s : Simulation) (p : AgentRef) (good : GoodType) (delta : ℤ) :
    Circulates s (s.addInventory p good delta) :=
  ⟨crownsOnly_addInventory s p good delta, moneySupply_addInventory s p good delta⟩

/-- A covered transfer between two counted accounts. -/
theorem circulates_transfer {source target : Account} (wired : s.Wired) (fromCounted : s.Counted source)
    (toCounted : s.Counted target) {amount : ℕ} (covered : amount ≤ s.balance source) :
    Circulates s ((s.debit source amount).credit target amount) := by
  obtain ⟨kept, change⟩ := transfer_keeps wired fromCounted toCounted covered
  exact ⟨change, kept.money⟩

/-- An alive agent of `Agents` pays `amount` of its purse, by a write that may
change anything of it but its flag and home, into the treasury of a listed
settlement. -/
theorem circulates_pay (wired : s.Wired) {p : AgentRef} (counted : s.Counted (.agent p))
    {change : Agent → Agent} (keepsAlive : (change (s.agentAt p)).alive = (s.agentAt p).alive)
    (keepsHome : (change (s.agentAt p)).homeSettID = (s.agentAt p).homeSettID) {amount : ℕ}
    (taken : (change (s.agentAt p)).wealth + amount = (s.agentAt p).wealth) {q : SettRef}
    (settled : q ∈ s.settlements) : Circulates s ((s.modifyAgent p change).creditSettlement q amount) := by
  have written := crownsOnly_modifyAgent s p keepsAlive keepsHome
  have paid := moneySupply_modifyAgent_take wired.agents_nodup counted.1 counted.2 keepsAlive taken
  have credited := moneySupply_creditSettlement (written.wired wired).settlements_nodup
    (written.settlements ▸ settled) amount
  exact ⟨written.trans (crownsOnly_creditSettlement _ q amount), by omega⟩

end Circulation

/-! ## A day of crime -/

section Crime

variable {s : Simulation}

/-- A damaged bond is all that changes: the purse, the flag and the home stay. -/
theorem damageRelationship_purse (a : Agent) (targetID : AgentID) (sentimentDmg trustDmg : ℚ) :
    (damageRelationship a targetID sentimentDmg trustDmg).wealth = a.wealth ∧
      (damageRelationship a targetID sentimentDmg trustDmg).alive = a.alive ∧
      (damageRelationship a targetID sentimentDmg trustDmg).homeSettID = a.homeSettID := by
  unfold damageRelationship
  split
  · exact ⟨rfl, rfl, rfl⟩
  · split_ifs <;> exact ⟨rfl, rfl, rfl⟩

theorem circulates_adjustFactionInfluenceFromCrime (s : Simulation) (settID : ℕ) :
    Circulates s (s.adjustFactionInfluenceFromCrime settID) := by
  unfold adjustFactionInfluenceFromCrime
  refine foldl_invariant (Circulates s) _ s.factions s (fun f _ t kept => ?_) (Circulates.refl s)
  dsimp only
  split_ifs
  · split
    · split_ifs
      · exact kept.trans (circulates_modifyFaction t f fun _ => rfl)
      · exact kept
    · exact kept
  · exact kept.trans (circulates_modifyFaction t f fun _ => rfl)
  · exact kept

theorem stealFood_circulates {thief victim : AgentRef} {stolen : Simulation}
    (taken : s.stealFood thief victim = some stolen) : Circulates s stolen := by
  unfold stealFood at taken
  split_ifs at taken
  · cases taken
    exact (circulates_addInventory _ _ _ _).trans (circulates_addInventory _ _ _ _)
  · cases taken
    exact (circulates_addInventory _ _ _ _).trans (circulates_addInventory _ _ _ _)

/-- Three crowns, or all the victim has, go to the thief. -/
theorem stealCrowns_circulates (wired : s.Wired) {thief victim : AgentRef}
    (thiefCounted : s.Counted (.agent thief)) (victimCounted : s.Counted (.agent victim)) :
    Circulates s (s.stealCrowns thief victim) :=
  circulates_transfer wired victimCounted thiefCounted (min_le_right _ _)

theorem theft_circulates (wired : s.Wired) (settID : ℕ) {thief victim : AgentRef}
    (thiefCounted : s.Counted (.agent thief)) (victimCounted : s.Counted (.agent victim)) :
    Circulates s (s.theft settID thief victim) := by
  -- the victim's bond with the thief and the factions' influence follow either theft
  have aftermath : ∀ (t : Simulation) (sentimentDmg trustDmg : ℚ), Circulates t
      ((t.modifyAgent victim fun v => damageRelationship v (s.agentAt thief).id sentimentDmg trustDmg
        ).adjustFactionInfluenceFromCrime settID) := fun t _ _ =>
    (circulates_modifyAgent t victim (fun v => (damageRelationship_purse v _ _ _).1)
      (fun v => (damageRelationship_purse v _ _ _).2.1) (fun v => (damageRelationship_purse v _ _ _).2.2)).trans
      (circulates_adjustFactionInfluenceFromCrime _ settID)
  unfold theft
  dsimp only
  split_ifs
  · split
    · next stolen taken => exact (stealFood_circulates taken).trans (aftermath stolen _ _)
    · exact Circulates.refl s
  · exact (stealCrowns_circulates wired thiefCounted victimCounted).trans (aftermath _ _ _)
  · exact Circulates.refl s

theorem processBetrayalExpulsion_circulates (s : Simulation) (criminal victim : AgentRef) :
    Circulates s (s.processBetrayalExpulsion criminal victim) := by
  unfold processBetrayalExpulsion
  split
  · split_ifs
    · exact circulates_modifyAgent s criminal (fun _ => rfl) (fun _ => rfl) (fun _ => rfl)
    · exact Circulates.refl s
  · exact Circulates.refl s

/-- A caught thief's fine leaves its purse for the treasury. -/
theorem catchThief_circulates (wired : s.Wired) {q : SettRef} (settled : q ∈ s.settlements) {p : AgentRef}
    (counted : s.Counted (.agent p)) (deterrence : ℚ) (simDay : ℕ) :
    Circulates s (s.catchThief q p deterrence simDay) := by
  unfold catchThief
  extract_lets a fine
  split_ifs
  · have covered : fine ≤ (s.agentAt p).wealth := min_le_right _ _
    exact circulates_pay wired counted rfl rfl (Nat.sub_add_cancel covered) settled
  · exact Circulates.refl s

/-- The crime of the resident of `settAgents` at `entry`: the thief and its
victim are alive residents, so counted. -/
theorem commitCrime_circulates (wired : s.Wired) {q : SettRef} (settled : q ∈ s.settlements)
    {settAgents : List AgentRef} (listed : s.AliveListed settAgents) (deterrence : ℚ) (simDay : ℕ)
    {entry : AgentRef × ℕ} (member : entry.1 ∈ settAgents) :
    Circulates s (commitCrime q settAgents deterrence simDay s entry) := by
  unfold commitCrime
  dsimp only
  split_ifs with dead
  any_goals exact Circulates.refl s
  split
  · exact Circulates.refl s
  · next victim chosen =>
    split_ifs with spared
    · exact Circulates.refl s
    · have thiefAlive : (s.agentAt entry.1).alive := by simpa using dead
      have victimAlive : (s.agentAt victim).alive := by
        simp only [Bool.not_eq_true', not_or, Bool.not_eq_false] at spared
        exact spared.2
      have thief : s.Counted (.agent entry.1) := ⟨listed _ member thiefAlive, thiefAlive⟩
      have robbed : s.Counted (.agent victim) :=
        ⟨listed _ (List.mem_of_getElem? chosen) victimAlive, victimAlive⟩
      have expelled := (theft_circulates wired (s.settlementAt q).id thief robbed).trans
        (processBetrayalExpulsion_circulates _ entry.1 victim)
      exact expelled.trans (catchThief_circulates (expelled.crownsOnly.wired wired)
        (expelled.crownsOnly.settlements ▸ settled) (expelled.crownsOnly.counted thief) _ _)

theorem settlementCrime_circulates (diplomacyBonus : ℕ → ℚ) (simDay : ℕ) (wired : s.Wired) {q : SettRef}
    (settled : q ∈ s.settlements) : Circulates s (settlementCrime diplomacyBonus simDay s q) := by
  unfold settlementCrime
  extract_lets sett settAgents soldierCount deterrence honored
  split_ifs
  · exact Circulates.refl s
  · -- the soldiers' honour writes needs only
    have honoredCirculates : Circulates s honored := by
      simp only [honored]
      split_ifs
      · refine foldl_invariant (Circulates s) _ settAgents s (fun p _ t kept => ?_) (Circulates.refl s)
        unfold honorSoldier
        extract_lets a
        split_ifs
        · exact kept.trans (circulates_modifyAgent t p (fun _ => rfl) (fun _ => rfl) (fun _ => rfl))
        · exact kept
      · exact Circulates.refl s
    refine foldl_invariant (Circulates s) _ _ honored (fun entry member t kept => ?_) honoredCirculates
    exact kept.trans (commitCrime_circulates (kept.crownsOnly.wired wired) (kept.crownsOnly.settlements ▸ settled)
      (kept.crownsOnly.aliveListed (wired.aliveListed _)) _ _ (List.fst_mem_of_mem_zipIdx member))

/-- A day of crime keeps the money supply: every theft and every fine moves
crowns between counted accounts. -/
theorem processCrime_keeps (diplomacyBonus : ℕ → ℚ) (tick : ℕ) (wired : s.Wired) :
    Keeps s (s.processCrime diplomacyBonus tick) := by
  have circulates : Circulates s (s.processCrime diplomacyBonus tick) := by
    unfold processCrime
    refine foldl_invariant (Circulates s) _ s.settlements s (fun q member t kept => ?_) (Circulates.refl s)
    exact kept.trans (settlementCrime_circulates _ _ (kept.crownsOnly.wired wired)
      (kept.crownsOnly.settlements ▸ member))
  exact circulates.keeps wired

end Crime

/-! ## A day of governance -/

section Governance

variable {s : Simulation}

theorem installLeader_circulates (s : Simulation) (q : SettRef) (alive : List AgentRef) (tick : ℕ) :
    Circulates s (s.installLeader q alive tick) := by
  unfold installLeader
  split
  · exact Circulates.refl s
  · exact (circulates_modifySettlement s q (fun _ => by rfl) (fun _ => by rfl)).trans
      (circulates_modifyAgent _ _ (fun _ => rfl) (fun _ => rfl) (fun _ => rfl))

theorem ensureLeader_circulates (s : Simulation) (q : SettRef) (alive : List AgentRef) (tick : ℕ) :
    Circulates s (s.ensureLeader q alive tick) := by
  unfold ensureLeader
  split
  · split_ifs
    · exact Circulates.refl s
    · exact (circulates_modifySettlement s q (fun _ => by rfl) (fun _ => by rfl)).trans
        (installLeader_circulates _ q alive tick)
  · exact installLeader_circulates s q alive tick

theorem decayGovernance_circulates (s : Simulation) (q : SettRef) :
    Circulates s (s.decayGovernance q) := by
  unfold decayGovernance
  exact circulates_modifySettlement s q (fun _ => rfl) (fun _ => rfl)

/-- A revolution seizes three tenths of the treasury for the faction behind it;
the writes before the seizure leave the treasury it reads. -/
theorem revolt_circulates (wired : s.Wired) {q : SettRef} (settled : q ∈ s.settlements) {f : FactionRef}
    (backed : f ∈ s.factions) (revolutionary : AgentRef) : Circulates s (s.revolt q f revolutionary) := by
  unfold revolt
  extract_lets sett governed deposed installed seized
  have governedCirculates : Circulates s governed :=
    circulates_modifySettlement s q (fun _ => rfl) (fun _ => rfl)
  have deposedCirculates : Circulates s deposed := by
    simp only [deposed]
    split
    · exact governedCirculates.trans (circulates_modifyAgent _ _ (fun _ => rfl) (fun _ => rfl) (fun _ => rfl))
    · exact governedCirculates
  have installedCirculates : Circulates s installed :=
    (deposedCirculates.trans (circulates_modifySettlement _ q (fun _ => by rfl) (fun _ => by rfl))).trans
      (circulates_modifyAgent _ _ (fun _ => rfl) (fun _ => rfl) (fun _ => rfl))
  have treasury : (installed.settlementAt q).treasury = (s.settlementAt q).treasury := by
    simp only [installed, deposed, governed]
    split <;> simp [modifySettlement_settlementAt_apply]
  have covered : seized ≤ installed.balance (.settlement q) := by
    show ⌊((s.settlementAt q).treasury : ℚ) * 0.3⌋₊ ≤ (installed.settlementAt q).treasury
    have nonneg : (0 : ℚ) ≤ (s.settlementAt q).treasury := Nat.cast_nonneg _
    rw [treasury]
    exact Nat.floor_le_of_le (by linarith)
  have seizedCirculates := circulates_transfer (installedCirculates.crownsOnly.wired wired)
    (installedCirculates.crownsOnly.counted (show s.Counted (.settlement q) from settled))
    (installedCirculates.crownsOnly.counted (show s.Counted (.faction f) from backed)) covered
  exact (installedCirculates.trans seizedCirculates).trans
    (circulates_modifySettlement _ q (fun _ => rfl) (fun _ => rfl))

theorem checkRevolution_circulates (wired : s.Wired) {q : SettRef} (settled : q ∈ s.settlements)
    (alive : List AgentRef) : Circulates s (s.checkRevolution q alive) := by
  unfold checkRevolution
  dsimp only
  split_ifs
  · exact Circulates.refl s
  · split
    · exact Circulates.refl s
    · next f found =>
      split
      · exact Circulates.refl s
      · -- the faction behind the revolt is one of `Factions`
        have backed : f ∈ s.factions := by
          rw [dominantFaction_eq_find] at found
          exact List.mem_of_find?_eq_some found
        exact revolt_circulates wired settled backed _

theorem governSettlement_circulates (tick : ℕ) (wired : s.Wired) {q : SettRef} (settled : q ∈ s.settlements) :
    Circulates s (governSettlement tick s q) := by
  unfold governSettlement
  extract_lets alive
  split_ifs
  · exact Circulates.refl s
  · have led := (ensureLeader_circulates s q alive tick).trans (decayGovernance_circulates _ q)
    exact led.trans (checkRevolution_circulates (led.crownsOnly.wired wired) (led.crownsOnly.settlements ▸ settled) _)

/-- A day of governance keeps the money supply: a revolution's seizure is the
only crown it moves. -/
theorem processGovernance_keeps (tick : ℕ) (wired : s.Wired) : Keeps s (processGovernance tick s) := by
  have circulates : Circulates s (processGovernance tick s) := by
    unfold processGovernance
    refine foldl_invariant (Circulates s) _ s.settlements s (fun q member t kept => ?_) (Circulates.refl s)
    exact kept.trans (governSettlement_circulates tick (kept.crownsOnly.wired wired)
      (kept.crownsOnly.settlements ▸ member))
  exact circulates.keeps wired

end Governance

/-! ## The abandonment of a settlement

An abandoned settlement's treasury is shared among the nearest settlements of
positive population, and then zeroed: the treasury read for the remainder is
the same as the one shared out only when the settlement is not among its own
nearest.  It is not when its `Population` counts its alive residents, as it
does when the weekly settlement passes run (`PopulationSound`): a settlement
with no one alive then has population zero. -/

/-- Every listed settlement's `Population` is the number of alive agents in its
list, as `updateSettlementPopulations` leaves it. -/
def PopulationSound (s : Simulation) : Prop :=
  ∀ q ∈ s.settlements, (s.settlementAt q).population = (s.aliveListed (s.settlementAt q).id).length

section Abandonment

variable {s : Simulation} (slice : SliceSort (ℕ × SettRef))

/-- The nearest active settlements are listed ones of positive population. -/
theorem mem_nearestActiveSettlements {source : HexCoord} {n : ℕ} {r : SettRef}
    (member : r ∈ s.nearestActiveSettlements slice source n) :
    r ∈ s.settlements ∧ 0 < (s.settlementAt r).population := by
  unfold nearestActiveSettlements at member
  obtain ⟨c, taken, rfl⟩ := List.mem_map.mp member
  have sorted := List.mem_of_mem_take taken
  rw [slice.mem_sort] at sorted
  obtain ⟨r, active, rfl⟩ := List.mem_map.mp sorted
  simpa using List.mem_filter.mp active

/-- A write to a settlement that keeps its `Population` keeps every population. -/
theorem modifySettlement_population (s : Simulation) (q : SettRef) {change : Settlement → Settlement}
    (keeps : ∀ t, (change t).population = t.population) (r : SettRef) :
    ((s.modifySettlement q change).settlementAt r).population = (s.settlementAt r).population := by
  by_cases hr : r = q
  · subst hr
    simp [modifySettlement_settlementAt_apply, keeps]
  · simp [modifySettlement_settlementAt_apply, hr]

/-- Crediting `share` to each settlement of a list of listed ones adds `share`
per entry to the money supply and writes no population, nor the treasury of a
settlement off the list. -/
theorem foldl_creditSettlement (share : ℕ) :
    ∀ (targets : List SettRef) (s : Simulation), s.Wired → (∀ r ∈ targets, r ∈ s.settlements) →
      CrownsOnly s (targets.foldl (fun s n => s.creditSettlement n share) s) ∧
        (targets.foldl (fun s n => s.creditSettlement n share) s).moneySupply =
          s.moneySupply + targets.length * share ∧
        (∀ r, ((targets.foldl (fun s n => s.creditSettlement n share) s).settlementAt r).population =
          (s.settlementAt r).population) ∧
        ∀ r ∉ targets, ((targets.foldl (fun s n => s.creditSettlement n share) s).settlementAt r).treasury =
          (s.settlementAt r).treasury
  | [], s, _, _ => ⟨CrownsOnly.refl s, by simp, fun _ => rfl, fun _ _ => rfl⟩
  | n :: rest, s, wired, listed => by
    have credited := crownsOnly_creditSettlement s n share
    have first := moneySupply_creditSettlement wired.settlements_nodup (listed n List.mem_cons_self) share
    obtain ⟨change, money, population, treasury⟩ := foldl_creditSettlement share rest _ (credited.wired wired)
      fun r member => credited.settlements ▸ listed r (List.mem_cons_of_mem n member)
    refine ⟨credited.trans change, ?_, fun r => ?_, fun r absent => ?_⟩
    · rw [List.foldl_cons, money, first, List.length_cons, add_one_mul]
      omega
    · rw [List.foldl_cons, population]
      exact modifySettlement_population s n (fun _ => by rfl) r
    · rw [List.mem_cons, not_or] at absent
      rw [List.foldl_cons, treasury r absent.2, creditSettlement_treasury, if_neg absent.1]

/-- Emptying a listed treasury takes it out of the money supply. -/
theorem moneySupply_emptyTreasury (distinct : s.settlements.Nodup) {q : SettRef} (listed : q ∈ s.settlements) :
    (s.modifySettlement q fun t => { t with treasury := 0 }).moneySupply + (s.settlementAt q).treasury =
      s.moneySupply := by
  have moved := settlementMoney_modifySettlement distinct listed fun t => { t with treasury := 0 }
  simp only [moneySupply, agentMoney, factionMoney, modifySettlement_agents, modifySettlement_agentAt,
    modifySettlement_factions, modifySettlement_factionAt]
  simp only at moved
  omega

/-- The redistribution of a listed settlement of population zero: the shares
and the remainder add up to the treasury that is then zeroed, and no
population changes. -/
theorem redistributeTreasury_circulates (wired : s.Wired) {q : SettRef} (settled : q ∈ s.settlements)
    (abandoned : (s.settlementAt q).population = 0) :
    Circulates s (s.redistributeTreasury slice q) ∧
      ∀ r, ((s.redistributeTreasury slice q).settlementAt r).population = (s.settlementAt r).population := by
  unfold redistributeTreasury
  dsimp only
  split
  · exact ⟨Circulates.refl s, fun _ => rfl⟩
  · next first rest nearest =>
    -- the nearest are listed and active, so the abandoned settlement is not one of them
    have active : ∀ r ∈ first :: rest, r ∈ s.settlements ∧ 0 < (s.settlementAt r).population :=
      fun r member => mem_nearestActiveSettlements slice (nearest ▸ member)
    rw [nearest]
    have absent : q ∉ first :: rest := fun member => by
      have positive := (active q member).2
      omega
    have firstOther : first ≠ q := fun same => absent (same ▸ List.mem_cons_self)
    obtain ⟨change, money, population, treasury⟩ := foldl_creditSettlement ((s.settlementAt q).treasury /
      (first :: rest).length) (first :: rest) s wired fun r member => (active r member).1
    set shared := (first :: rest).foldl (fun t n => t.creditSettlement n ((s.settlementAt q).treasury /
      (first :: rest).length)) s
    have sharedWired := change.wired wired
    have remainder := moneySupply_creditSettlement sharedWired.settlements_nodup
      (change.settlements ▸ (active first List.mem_cons_self).1)
      ((shared.settlementAt q).treasury - (s.settlementAt q).treasury / (first :: rest).length *
        (first :: rest).length)
    have remaindered := crownsOnly_creditSettlement shared first ((shared.settlementAt q).treasury -
      (s.settlementAt q).treasury / (first :: rest).length * (first :: rest).length)
    have emptied := moneySupply_emptyTreasury (remaindered.wired sharedWired).settlements_nodup
      ((change.trans remaindered).settlements ▸ settled)
    rw [creditSettlement_treasury, if_neg firstOther.symm, treasury q absent] at emptied
    rw [treasury q absent] at remainder
    -- the shares never exceed the treasury, so the remainder is what is left of it
    have covered := Nat.div_mul_le_self (s.settlementAt q).treasury (first :: rest).length
    have commuted := Nat.mul_comm (first :: rest).length ((s.settlementAt q).treasury / (first :: rest).length)
    refine ⟨⟨(change.trans remaindered).trans (crownsOnly_modifySettlement _ q rfl), ?_⟩, fun r => ?_⟩
    · rw [treasury q absent]
      omega
    · exact (modifySettlement_population _ q (fun _ => by rfl) r).trans
        ((modifySettlement_population _ first (fun _ => by rfl) r).trans (population r))

theorem crownsOnly_hexAt (s : Simulation) (hexAt : HexCoord → Option Hex) :
    CrownsOnly s { s with hexAt := hexAt } :=
  ⟨rfl, rfl, rfl, rfl, rfl, fun _ => rfl, fun _ => rfl, fun _ => rfl, rfl⟩

theorem CrownsOnly.aliveListed_eq {t : Simulation} (change : CrownsOnly s t) (k : ℕ) :
    t.aliveListed k = s.aliveListed k := by
  unfold Simulation.aliveListed
  rw [change.settlementAgents]
  exact List.filter_congr fun p _ => by rw [change.alive p]

/-- Crowns-only writes after which every listed settlement's population is
the count of its alive residents leave the populations sound. -/
theorem CrownsOnly.populationSound {t : Simulation} (change : CrownsOnly s t)
    (counted : ∀ r ∈ s.settlements, (t.settlementAt r).population = (s.aliveListed (s.settlementAt r).id).length) :
    t.PopulationSound := by
  intro r member
  rw [change.id, change.aliveListed_eq]
  exact counted r (change.settlements ▸ member)

/-- One settlement of the abandonment pass: one with no one alive, so of
population zero, has its treasury shared out and its claims, hex and
population cleared, which leaves the populations counting the alive. -/
theorem abandonSettlement_circulates (wired : s.Wired) (sound : s.PopulationSound) {q : SettRef}
    (settled : q ∈ s.settlements) :
    Circulates s (s.abandonSettlement slice q) ∧ (s.abandonSettlement slice q).PopulationSound := by
  unfold abandonSettlement
  extract_lets sett hexCleared weeks registry marked shared released cleared
  have markedCirculates : Circulates s marked := ⟨crownsOnly_registry s _, rfl⟩
  split_ifs with skipped empty
  · exact ⟨Circulates.refl s, sound⟩
  · -- no one alive: the population was zero, and the treasury goes to the nearest
    have abandoned : (s.settlementAt q).population = 0 := (sound q settled).trans empty
    have sharedCirculates : Circulates s shared ∧
        ∀ r, (shared.settlementAt r).population = (s.settlementAt r).population := by
      simp only [shared]
      split_ifs
      · obtain ⟨circulates, population⟩ := redistributeTreasury_circulates slice
          (markedCirculates.crownsOnly.wired wired) settled abandoned
        exact ⟨markedCirculates.trans circulates, population⟩
      · exact ⟨markedCirculates, fun _ => rfl⟩
    have clearedCirculates : Circulates s cleared :=
      (sharedCirculates.1.trans ⟨crownsOnly_hexAt _ _, rfl⟩).trans ⟨crownsOnly_hexAt _ _, rfl⟩
    refine ⟨clearedCirculates.trans (circulates_modifySettlement _ q (fun _ => by rfl) (fun _ => by rfl)),
      (clearedCirculates.crownsOnly.trans (crownsOnly_modifySettlement _ q rfl)).populationSound fun r member => ?_⟩
    by_cases hr : r = q
    · subst hr
      simpa [modifySettlement_settlementAt_apply] using empty.symm
    · simp only [modifySettlement_settlementAt_apply, hr, if_false]
      exact (sharedCirculates.2 r).trans (sound r member)
  · exact ⟨markedCirculates, markedCirculates.crownsOnly.populationSound fun r member => sound r member⟩
  · have erased : CrownsOnly s { s with registry := { s.registry with
        abandonedWeeks := s.registry.abandonedWeeks.erase sett.id } } := crownsOnly_registry s _
    exact ⟨⟨erased, rfl⟩, erased.populationSound fun r member => sound r member⟩

/-- The abandonment pass keeps the money supply when it starts with sound
populations, and leaves them sound. -/
theorem processSettlementAbandonment_keeps (wired : s.Wired) (sound : s.PopulationSound) :
    Keeps s (s.processSettlementAbandonment slice) := by
  have circulates : Circulates s (s.processSettlementAbandonment slice) := by
    unfold processSettlementAbandonment
    refine (foldl_invariant (fun t => Circulates s t ∧ t.PopulationSound) _ s.settlements s
      (fun q member t kept => ?_) ⟨Circulates.refl s, sound⟩).1
    obtain ⟨circulates, tSound⟩ := abandonSettlement_circulates slice (kept.1.crownsOnly.wired wired) kept.2
      (kept.1.crownsOnly.settlements ▸ member)
    exact ⟨kept.1.trans circulates, tSound⟩
  exact circulates.keeps wired

end Abandonment

/-! ## The passes as steps of a run -/

/-- The passes that move crowns between counted accounts only, or out of the
purse of the dead into counted accounts, or into the treasury of a settlement
they found. -/
inductive MoneyStep : Simulation → Simulation → Prop
  | markets (slice : SliceSort Order) (goodOrder : SettRef → List GoodType) (s : Simulation) :
      MoneyStep s (s.resolveMarkets slice goodOrder)
  | buyFood (s : Simulation) (p : AgentRef) (listed : p ∈ s.agents) (alive : (s.agentAt p).alive) :
      MoneyStep s (s.resolveBuyFood p)
  | tier2 (s : Simulation) (p : AgentRef) (listed : p ∈ s.agents) (alive : (s.agentAt p).alive) :
      MoneyStep s (s.tier2Trade p)
  | invest (s : Simulation) (p : AgentRef) (listed : p ∈ s.agents) (alive : (s.agentAt p).alive) :
      MoneyStep s (s.invest p)
  | taxes (s : Simulation) : MoneyStep s s.collectTaxes
  | decay (s : Simulation) (fits : s.WealthFits) : MoneyStep s s.decayWealth
  | wages (s : Simulation) : MoneyStep s s.paySettlementWages
  | garrison (s : Simulation) : MoneyStep s s.payGarrisonStipends
  | deaths (tick : ℕ) (s : Simulation) : MoneyStep s (processNaturalDeaths tick s)
  | warfare (float32 : ℕ → ℕ → ℚ) (hexOrder : SettRelKey → List HexCoord) (order : List SettRelKey)
      (tick : ℕ) (s : Simulation) : MoneyStep s (s.processWarfare float32 hexOrder order tick)
  | crime (diplomacyBonus : ℕ → ℚ) (tick : ℕ) (s : Simulation) : MoneyStep s (s.processCrime diplomacyBonus tick)
  | governance (tick : ℕ) (s : Simulation) : MoneyStep s (processGovernance tick s)
  | overmass (capacityAt : HexCoord → ℚ) (neighbors : ℕ → Option (List SettRef)) (s : Simulation)
      (cache : NeighborsListed neighbors s.settlements) :
      MoneyStep s (s.processSettlementOvermass capacityAt neighbors)
  | abandonment (slice : SliceSort (ℕ × SettRef)) (s : Simulation) (sound : s.PopulationSound) :
      MoneyStep s (s.processSettlementAbandonment slice)
  | dues (s : Simulation) : MoneyStep s s.collectFactionDues
  | patronage (seeker : Agent → Bool) (s : Simulation) : MoneyStep s (s.distributeFactionPatronage seeker)

/-- Each pass keeps the money supply and the wiring, by its own lemma. -/
theorem MoneyStep.conserves {s t : Simulation} (step : MoneyStep s t) (wired : s.Wired) : Conserves s t := by
  cases step with
  | markets slice goodOrder => exact (resolveMarkets_keeps slice goodOrder wired).conserves
  | buyFood _ p listed alive => exact (resolveBuyFood_keeps wired listed alive).conserves
  | tier2 _ p listed alive => exact (tier2Trade_keeps wired listed alive).conserves
  | invest _ p listed alive => exact (invest_keeps wired listed alive).conserves
  | taxes => exact (collectTaxes_keeps wired).conserves
  | decay _ fits => exact (decayWealth_keeps wired fits).conserves
  | wages => exact (paySettlementWages_keeps wired).conserves
  | garrison => exact (payGarrisonStipends_keeps wired).conserves
  | deaths tick => exact (processNaturalDeaths_keeps tick wired).conserves
  | warfare float32 hexOrder order tick =>
    exact (processWarfare_keeps float32 tick hexOrder order wired).conserves
  | crime diplomacyBonus tick => exact (processCrime_keeps diplomacyBonus tick wired).conserves
  | governance tick => exact (processGovernance_keeps tick wired).conserves
  | overmass capacityAt neighbors _ cache => exact processSettlementOvermass_conserves wired cache
  | abandonment slice _ sound => exact (processSettlementAbandonment_keeps slice wired sound).conserves
  | dues => exact (collectFactionDues_keeps wired).conserves
  | patronage seeker => exact (distributeFactionPatronage_keeps seeker wired).conserves

end Simulation

end MiniWorld.Engine
