import MiniWorld.Engine.Diaspora
import MiniWorld.Engine.Deaths
import MiniWorld.Engine.Setup

/-! # The membership index over a run

The ticks interleave three kinds of step as far as `SettlementAgents` goes:

* the death sites (`TickMinute`, `processNaturalDeaths`, `applyCasualties`)
  and every step that leaves homes, lists and the settlement set alone: they
  are `Settled`, so they keep `Membership` whatever flags they clear;
* the weekly recount `updateSettlementPopulations`, which makes every
  population the count of its list's alive members;
* the paths that change a `HomeSettID` or the settlement set, each proved in
  `Residents`, `Moves` and `Diaspora`.

`MemberStep` is one step of any of them, and `Generated` is a world as
`NewSimulation` builds it, generated or loaded, with the spawner `main.go`
sets.  `membership_index_exact` is the invariant over every run.
-/

namespace MiniWorld.Engine

open MiniWorld.Agents MiniWorld.Index MiniWorld.Run

namespace Simulation

/-! ## The death sites are settled -/

section Deaths

variable {s : Simulation} {p : AgentRef}

theorem settled_creditAgent (s : Simulation) (p : AgentRef) (amount : ℕ) :
    Settled s (s.creditAgent p amount) :=
  settled_modifyAgent s p rfl rfl fun alive => alive

theorem settled_creditSettlement (s : Simulation) (q : SettRef) (amount : ℕ) :
    Settled s (s.creditSettlement q amount) :=
  settled_modifySettlement s q rfl rfl

theorem settled_modifyMarket (s : Simulation) (q : SettRef) (change : Market → Market) :
    Settled s (s.modifyMarket q change) :=
  settled_modifySettlement s q rfl rfl

theorem settled_inheritLog (s : Simulation) (log : List AgentRef) :
    Settled s { s with inheritLog := log } :=
  ⟨List.Perm.refl _, rfl, fun _ => rfl, fun _ => rfl, fun _ alive => alive, rfl, rfl, rfl, rfl,
    rfl, fun _ => rfl, fun _ => rfl⟩

theorem settled_countDeath (s : Simulation) : Settled s s.countDeath := settled_registry s _

/-- A write of the dead agent's own record that clears its flag or leaves it. -/
theorem settled_kill (s : Simulation) (p : AgentRef) {change : Agent → Agent}
    (keepsId : (change (s.agentAt p)).id = (s.agentAt p).id)
    (keepsHome : (change (s.agentAt p)).homeSettID = (s.agentAt p).homeSettID)
    (clears : (change (s.agentAt p)).alive = false ∨
      (change (s.agentAt p)).alive = (s.agentAt p).alive) :
    Settled s (s.modifyAgent p change) := by
  refine settled_modifyAgent s p keepsId keepsHome fun alive => ?_
  rcases clears with cleared | same
  · rw [cleared] at alive; cases alive
  · rwa [same] at alive

/-- The estate goes to treasuries, an heir's purse and the market. -/
theorem settled_bequeath (a : Agent) (q : SettRef) (s : Simulation) : Settled s (bequeath a q s) := by
  unfold bequeath
  dsimp only
  refine Settled.trans ?_ (settled_modifyMarket _ q _)
  refine (settled_creditSettlement s q (a.wealth / 2)).trans ?_
  split
  · exact settled_creditAgent _ _ _
  · split_ifs
    · exact settled_creditSettlement _ q _
    · exact Settled.refl _

theorem settled_inheritWealth (s : Simulation) (p : AgentRef) : Settled s (s.inheritWealth p) := by
  have logged := settled_inheritLog s (p :: s.inheritLog)
  unfold inheritWealth
  dsimp only
  split_ifs
  · exact logged
  · refine logged.trans (Settled.trans ?_ (settled_modifyAgent _ p rfl rfl fun alive => alive))
    split
    · exact settled_bequeath _ _ _
    · exact Settled.refl _

theorem settled_touchWitnesses (deadID : AgentID) (k : ℕ) (gate : Agent → Bool) (drift : Agent → ℚ)
    (s : Simulation) : Settled s (touchWitnesses deadID k gate drift s) := by
  unfold touchWitnesses
  refine settled_foldl _ (fun t w => ?_) _ s
  dsimp only
  split_ifs
  · exact settled_modifyAgent t w rfl rfl fun alive => alive
  · exact Settled.refl t

theorem settled_handleAgentDeath (s : Simulation) (p : AgentRef) : Settled s (s.handleAgentDeath p) := by
  have inherited := (settled_countDeath s).trans (settled_inheritWealth s.countDeath p)
  unfold handleAgentDeath
  dsimp only
  split
  · exact inherited.trans (settled_touchWitnesses _ _ _ _ _)
  · exact inherited

/-- An agent's minute is settled when its action is: `DecayNeeds` may only
starve it. -/
theorem settled_tickMinuteAgent {act : Simulation → AgentRef → Simulation}
    (acts : ∀ t p, Settled t (act t p)) (s : Simulation) (p : AgentRef) :
    Settled s (tickMinuteAgent act s p) := by
  have decayed : Settled s (s.modifyAgent p decayNeeds) :=
    settled_kill s p rfl rfl (decayNeeds_alive (s.agentAt p)).symm
  unfold tickMinuteAgent
  dsimp only
  split_ifs
  · exact Settled.refl s
  · exact Settled.refl s
  · exact decayed.trans (settled_handleAgentDeath _ p)
  · exact (decayed.trans (acts _ p)).trans (settled_handleAgentDeath _ p)
  · exact decayed.trans (acts _ p)

/-- `TickMinute` is settled when `rand.Shuffle` permutes and every action is
settled. -/
theorem settled_tickMinute {shuffle : ℕ → List AgentRef → List AgentRef}
    (permutes : ∀ tick l, (shuffle tick l).Perm l) {act : Simulation → AgentRef → Simulation}
    (acts : ∀ t p, Settled t (act t p)) (tick : ℕ) (s : Simulation) :
    Settled s (tickMinute shuffle act tick s) := by
  have recorded : Settled s { s with lastTick := tick } :=
    ⟨List.Perm.refl _, rfl, fun _ => rfl, fun _ => rfl, fun _ alive => alive, rfl, rfl, rfl, rfl,
      rfl, fun _ => rfl, fun _ => rfl⟩
  unfold tickMinute
  dsimp only
  split_ifs
  · -- on the hour `Agents` is reordered
    have shuffled : Settled { s with lastTick := tick }
        { s with lastTick := tick, agents := shuffle tick s.agents } :=
      ⟨permutes tick s.agents, rfl, fun _ => rfl, fun _ => rfl, fun _ alive => alive, rfl, rfl, rfl,
        rfl, rfl, fun _ => rfl, fun _ => rfl⟩
    exact (recorded.trans shuffled).trans (settled_foldl _ (settled_tickMinuteAgent acts) _ _)
  · exact recorded.trans (settled_foldl _ (settled_tickMinuteAgent acts) _ _)

theorem settled_witnessNaturalDeath (a : Agent) (s : Simulation) : Settled s (witnessNaturalDeath a s) := by
  unfold witnessNaturalDeath
  split
  · exact Settled.refl s
  · split_ifs
    · exact settled_touchWitnesses _ _ _ _ _
    · exact settled_touchWitnesses _ _ _ _ _

/-- A natural death: the flag cleared, the death counted, a liberated spirit
pooled, the estate inherited, the witnesses touched. -/
theorem settled_naturalDeath (s : Simulation) (p : AgentRef) : Settled s (s.naturalDeath p) := by
  have killed : Settled s (s.modifyAgent p fun a => { a with alive := false, health := 0 }) :=
    settled_kill s p rfl rfl (.inl rfl)
  unfold naturalDeath
  dsimp only
  refine Settled.trans ?_ (settled_witnessNaturalDeath _ _)
  refine Settled.trans ?_ (settled_inheritWealth _ p)
  refine (killed.trans (settled_countDeath _)).trans ?_
  split_ifs
  · exact settled_registry _ _
  · exact Settled.refl _

theorem settled_illnessCheck (s : Simulation) (p : AgentRef) : Settled s (s.illnessCheck p) := by
  have weakened : Settled s (s.modifyAgent p fun a => { a with health := a.health - 0.01 }) :=
    settled_modifyAgent s p rfl rfl fun alive => alive
  unfold illnessCheck
  dsimp only
  split_ifs
  · -- the illness is fatal
    refine weakened.trans (((settled_kill _ p rfl rfl (.inl rfl)).trans (settled_countDeath _)).trans
      (settled_inheritWealth _ p))
  · exact weakened
  · exact Settled.refl s

theorem settled_processNaturalDeaths (tick : ℕ) (s : Simulation) :
    Settled s (processNaturalDeaths tick s) := by
  refine settled_foldl _ (fun t p => ?_) _ s
  unfold naturalDeathCheck
  dsimp only
  split_ifs
  · exact Settled.refl t
  · exact settled_naturalDeath t p
  · exact settled_illnessCheck t p

theorem settled_casualtyLoop (tick : ℕ) (targetCasualties : ℤ) :
    ∀ (soldiers : List AgentRef) (acc : Simulation × ℕ),
      Settled acc.1 (casualtyLoop tick targetCasualties acc soldiers).1
  | [], acc => Settled.refl acc.1
  | p :: rest, (s, casualties) => by
    unfold casualtyLoop
    dsimp only
    split_ifs
    · exact Settled.refl s
    · exact settled_casualtyLoop tick targetCasualties rest (s, casualties)
    · -- a casualty, handed to `handleAgentDeath`
      refine Settled.trans ?_ (settled_casualtyLoop tick targetCasualties rest (_, casualties + 1))
      exact (settled_kill s p rfl rfl (.inl rfl)).trans (settled_handleAgentDeath _ p)
    · exact settled_casualtyLoop tick targetCasualties rest (s, casualties)

theorem settled_applyCasualties (tick : ℕ) (soldiers : List AgentRef) (rate : ℚ) (s : Simulation) :
    Settled s (applyCasualties tick soldiers rate s).1 := by
  unfold applyCasualties
  split
  · exact Settled.refl s
  · exact settled_casualtyLoop tick _ soldiers (s, 0)

end Deaths

/-! ## The weekly recount -/

theorem Listed.aliveListed_length {s : Simulation} (reg : s.Registered) (listed : s.Listed) (k : ℕ) :
    (s.aliveListed k).length = (s.residents k).length :=
  ((List.perm_ext_iff_of_nodup (listed.listed_once k) (reg.residents_nodup k)).mpr
    (listed.exact k)).length_eq

/-- `updateSettlementPopulations` sets every listed settlement's population to
its list's alive count: over exact lists, the populations cover the residents
again whatever they were. -/
theorem Listed.updateSettlementPopulations {s : Simulation} (reg : s.Registered) (listed : s.Listed) :
    s.updateSettlementPopulations.Membership := by
  rw [updateSettlementPopulations_eq]
  have sameId : ∀ q, ((if q ∈ s.settlements then
      { s.settlementAt q with population := (s.aliveListed (s.settlementAt q).id).length }
      else s.settlementAt q)).id = (s.settlementAt q).id := by
    intro q; split <;> rfl
  refine ⟨reg.congr rfl rfl rfl rfl rfl rfl rfl sameId, listed.congr rfl rfl rfl, ?_⟩
  intro q member
  change (s.residents _).length ≤ _
  simp only [member, if_true]
  exact (listed.aliveListed_length reg _).ge

/-! ## Runs -/

/-- One step of a run, as far as the membership index goes: a death site, a
step that leaves homes, lists, the index and the populations alone, the weekly
recount, or one of the paths that change a home or the settlement set. -/
inductive MemberStep : Simulation → Simulation → Prop
  | minute {shuffle : ℕ → List AgentRef → List AgentRef} (permutes : ∀ tick l, (shuffle tick l).Perm l)
      {act : Simulation → AgentRef → Simulation} (acts : ∀ t p, Settled t (act t p)) (tick : ℕ)
      (s : Simulation) : MemberStep s (tickMinute shuffle act tick s)
  | natural (tick : ℕ) (s : Simulation) : MemberStep s (processNaturalDeaths tick s)
  | battle (tick : ℕ) (soldiers : List AgentRef) (rate : ℚ) (s : Simulation) :
      MemberStep s (applyCasualties tick soldiers rate s).1
  | settled {s t : Simulation} (kept : Settled s t) : MemberStep s t
  | recount (s : Simulation) : MemberStep s s.updateSettlementPopulations
  | birth (factionFor : Agent → GovernanceType → ℕ) (traits : Agent) {q : SettRef} {s : Simulation}
      (listed : q ∈ s.settlements) : MemberStep s (bearChild factionFor traits q s)
  | refugees (factionFor : Agent → GovernanceType → ℕ) (draws : List Agent) {q : SettRef} {s : Simulation}
      (listed : q ∈ s.settlements) : MemberStep s (admitRefugees factionFor draws q s)
  | spawn (name : String) (draws : List Agent) (s : Simulation) : MemberStep s (spawnImmigrants name draws s)
  | consolidate {name : String} {count : ℕ} {s t : Simulation}
      (done : s.consolidateSettlement name count = .ok t) : MemberStep s t
  | viability (s : Simulation) : MemberStep s s.processViabilityCheck
  | seasonal (capacityAt : HexCoord → ℚ) (wellbeing : Agent → Wellbeing) (s : Simulation) :
      MemberStep s (s.processSeasonalMigration capacityAt wellbeing)
  | resource (resourcesAt : HexCoord → Resource → ℚ) (lastWorkTick : Agent → ℕ) (keys : List ℕ) (tick : ℕ)
      (s : Simulation) : MemberStep s (s.processResourceMigration resourcesAt lastWorkTick keys tick)
  | relocate (target : String) (p : AgentRef) (s : Simulation) : MemberStep s (s.relocate target p)
  | guide (wellbeing : Agent → Wellbeing) (target : String) (oracle : AgentRef) (s : Simulation) :
      MemberStep s (s.guideMigration wellbeing target oracle)
  | overmass (capacityAt : HexCoord → ℚ) {neighbors : ℕ → Option (List SettRef)} {s : Simulation}
      (cache : NeighborsListed neighbors s.settlements) :
      MemberStep s (s.processSettlementOvermass capacityAt neighbors)
  | abandonment (slice : SliceSort (ℕ × SettRef)) (s : Simulation) :
      MemberStep s (s.processSettlementAbandonment slice)
  | compactSettlements (s : Simulation) : MemberStep s s.compactAbandonedSettlements
  | compactDead (s : Simulation) : MemberStep s s.compactDeadAgents

/-- Every step keeps the membership exact. -/
theorem MemberStep.membership {s t : Simulation} (step : MemberStep s t) (m : s.Membership) :
    t.Membership := by
  cases step with
  | minute permutes acts tick => exact m.settled (settled_tickMinute permutes acts tick s)
  | natural tick => exact m.settled (settled_processNaturalDeaths tick s)
  | battle tick soldiers rate => exact m.settled (settled_applyCasualties tick soldiers rate s)
  | settled kept => exact m.settled kept
  | recount => exact m.toListed.updateSettlementPopulations m.toRegistered
  | birth factionFor traits listed => exact m.bearChild factionFor traits listed
  | refugees factionFor draws listed => exact m.admitRefugees factionFor draws listed
  | spawn name draws => exact m.spawnImmigrants name draws
  | consolidate done => exact m.consolidateSettlement done
  | viability => exact m.processViabilityCheck
  | seasonal capacityAt wellbeing => exact m.processSeasonalMigration capacityAt wellbeing
  | resource resourcesAt lastWorkTick keys tick => exact m.processResourceMigration resourcesAt lastWorkTick keys tick
  | relocate target p => exact m.relocate target p
  | guide wellbeing target oracle => exact m.guideMigration wellbeing target oracle
  | overmass capacityAt cache => exact m.processSettlementOvermass cache
  | abandonment slice => exact m.processSettlementAbandonment slice
  | compactSettlements => exact m.compactAbandonedSettlements
  | compactDead => exact m.compactDeadAgents

/-! ## The start -/

/-- A world as `NewSimulation` builds it from generated or loaded records, with
the spawner `main.go` sets: distinct settlement IDs, distinct agent IDs below
the spawner's next ID, every alive agent at home in one of the settlements, and
every settlement's `Population` covering the alive agents at home there (the
generator spawns `Population` agents for each settlement; a loaded world reads
the populations it saved). -/
def Generated (s : Simulation) : Prop :=
  ∃ (hexAt : HexCoord → Option Hex) (ag : List Agent) (setts : List Settlement) (nextID : AgentID),
    (setts.map (·.id)).Nodup ∧ (ag.map (·.id)).Nodup ∧ (∀ a ∈ ag, a.id < nextID) ∧
    (∀ a ∈ ag, a.alive = true → ∃ k, a.homeSettID = some k ∧ k ∈ setts.map (·.id)) ∧
    (∀ st ∈ setts, (ag.filter fun a => a.alive = true ∧ a.homeSettID = some st.id).length ≤ st.population) ∧
    s = { newSimulation hexAt ag setts with spawner := some ⟨nextID⟩ }

/-- Counting the positions of a list whose entries pass a test counts the
entries that pass it. -/
theorem length_filter_range_getD {α : Type} (l : List α) (d : α) (test : α → Bool) :
    ((List.range l.length).filter fun i => test (l.getD i d)).length = (l.filter test).length := by
  have positions : (List.range l.length).map (fun i => l.getD i d) = l := by
    simpa using map_range_getD l d id
  conv_rhs => rw [← positions, List.filter_map, List.length_map]
  rfl

/-- The world `NewSimulation` builds has an exact membership index. -/
theorem Generated.membership {s : Simulation} (generated : Generated s) : s.Membership := by
  obtain ⟨hexAt, ag, setts, nextID, settIDs, agentIDs, below, homes, populations, rfl⟩ := generated
  have wired := newSimulation_wired hexAt settIDs homes
  have entry : ∀ p ∈ (newSimulation hexAt ag setts).agents, ag.getD p default ∈ ag := by
    intro p member
    have inRange : p < ag.length := List.mem_range.mp member
    rw [List.getD_eq_getElem ag default inRange]
    exact List.getElem_mem inRange
  refine ⟨⟨wired.agents_nodup, fun p member => List.mem_range.mp member, ?_, ?_, wired.settlements_nodup,
    wired.settlements_below, wired.index_sound, wired.index_complete, wired.home_indexed⟩, ⟨?_, ?_, ?_⟩, ?_⟩
  · -- distinct IDs at distinct positions
    intro p member p' member' same
    have inRange := List.mem_range.mp member
    have inRange' := List.mem_range.mp member'
    change (ag.getD p default).id = (ag.getD p' default).id at same
    rw [List.getD_eq_getElem ag default inRange, List.getD_eq_getElem ag default inRange'] at same
    have atIDs : (ag.map (·.id)).get ⟨p, by simpa using inRange⟩ =
        (ag.map (·.id)).get ⟨p', by simpa using inRange'⟩ := by
      simpa using same
    exact Fin.mk.inj_iff.mp ((agentIDs.get_inj_iff).mp atIDs)
  · intro sp spawned p member
    cases spawned
    exact below _ (entry p member)
  · intro k p listed
    exact (List.mem_filter.mp listed).1
  · intro k p
    simp only [mem_aliveListed, mem_residents]
    change p ∈ (List.range ag.length).filter (fun p => (ag.getD p default).homeSettID = some k) ∧ _ ↔ _
    rw [List.mem_filter]
    simp only [decide_eq_true_eq]
    constructor
    · rintro ⟨⟨member, home⟩, alive⟩
      exact ⟨member, alive, home⟩
    · rintro ⟨member, alive, home⟩
      exact ⟨⟨member, home⟩, alive⟩
  · intro k
    exact (wired.agents_nodup.filter _).filter _
  · -- the populations are the generated ones
    intro q member
    have inRange : q < setts.length := List.mem_range.mp member
    have listedSett : setts.getD q default ∈ setts := by
      rw [List.getD_eq_getElem setts default inRange]
      exact List.getElem_mem inRange
    have counted := populations _ listedSett
    change ((List.range ag.length).filter fun p => decide ((ag.getD p default).alive = true ∧
      (ag.getD p default).homeSettID = some (setts.getD q default).id)).length ≤
        (setts.getD q default).population
    rw [length_filter_range_getD ag default fun a => decide (a.alive = true ∧
      a.homeSettID = some (setts.getD q default).id)]
    exact counted

/-- The settlement membership index stays exact over every run from a
generated or loaded world: the alive agents listed under an ID are exactly the
alive agents of `Agents` at home there, each listed once; every alive agent's
home is a key of `SettlementIndex`; and `SettlementIndex` maps an ID to a
settlement exactly when that settlement is listed in `Settlements` with that
ID, which makes it the only one. -/
theorem membership_index_exact {s : Simulation} (reachable : Reachable MemberStep Generated s) :
    (∀ k p, p ∈ s.settlementAgents k ∧ (s.agentAt p).alive = true ↔
        p ∈ s.agents ∧ (s.agentAt p).alive = true ∧ (s.agentAt p).homeSettID = some k) ∧
      (∀ k, ((s.settlementAgents k).filter fun p => (s.agentAt p).alive).Nodup) ∧
      (∀ p ∈ s.agents, (s.agentAt p).alive = true →
        ∃ k q, (s.agentAt p).homeSettID = some k ∧ s.settlementIndex k = some q) ∧
      (∀ k q, s.settlementIndex k = some q ↔ q ∈ s.settlements ∧ (s.settlementAt q).id = k) := by
  have m : s.Membership := reachable_invariant (fun _ started => started.membership)
    (fun _ _ kept step => step.membership kept) reachable
  refine ⟨fun k p => ?_, m.listed_once, m.home_indexed, fun k q => ⟨m.index_sound k q, ?_⟩⟩
  · rw [← mem_aliveListed, m.exact, mem_residents]
  · rintro ⟨listed, rfl⟩
    exact m.index_complete q listed

/-- A hamlet: settlement `ID` 1 of population 1, and its one resident, agent 1. -/
def hamletWorld : Simulation :=
  { newSimulation (fun _ => none) [{ (default : Agent) with id := 1, alive := true, homeSettID := some 1 }]
      [{ (default : Settlement) with id := 1, population := 1 }] with spawner := some ⟨2⟩ }

theorem hamletWorld_generated : Generated hamletWorld :=
  ⟨fun _ => none, [{ (default : Agent) with id := 1, alive := true, homeSettID := some 1 }],
    [{ (default : Settlement) with id := 1, population := 1 }], 2, by decide, by decide, by decide,
    fun a member _ => ⟨1, by simp_all, by simp⟩, by decide, rfl⟩

/-- The hamlet after a birth and the weekly recount. -/
def hamletBirth : Simulation := (bearChild (fun _ _ => 0) default 0 hamletWorld).updateSettlementPopulations

/-- A birth in the hamlet and the recount after it: the newborn, agent 1, is listed under the
hamlet's `ID` beside the first resident, and the index is exact. -/
theorem hamletBirth_index_exact :
    Reachable MemberStep Generated hamletBirth ∧ hamletBirth.settlementAgents 1 = [0, 1] ∧
      ((∀ k p, p ∈ hamletBirth.settlementAgents k ∧ (hamletBirth.agentAt p).alive = true ↔
        p ∈ hamletBirth.agents ∧ (hamletBirth.agentAt p).alive = true ∧
          (hamletBirth.agentAt p).homeSettID = some k) ∧
      (∀ k, ((hamletBirth.settlementAgents k).filter fun p => (hamletBirth.agentAt p).alive).Nodup) ∧
      (∀ p ∈ hamletBirth.agents, (hamletBirth.agentAt p).alive = true →
        ∃ k q, (hamletBirth.agentAt p).homeSettID = some k ∧ hamletBirth.settlementIndex k = some q) ∧
      (∀ k q, hamletBirth.settlementIndex k = some q ↔
        q ∈ hamletBirth.settlements ∧ (hamletBirth.settlementAt q).id = k)) :=
  have reachable : Reachable MemberStep Generated hamletBirth :=
    ⟨hamletWorld, hamletWorld_generated,
      (Relation.ReflTransGen.single (MemberStep.birth (fun _ _ => 0) default (by decide +kernel))).tail
        (MemberStep.recount _)⟩
  ⟨reachable, by decide +kernel, membership_index_exact reachable⟩

end Simulation

end MiniWorld.Engine
