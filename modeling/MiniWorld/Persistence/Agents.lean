import MiniWorld.Engine.Simulation

/-! # Agents across a save and a restart (`internal/persistence/db.go`, `cmd/worldsim/main.go`)

The `agents` table is modelled as the list of rows `SaveAgents` writes:
`DELETE FROM agents`, then one row per *alive* agent.  `LoadAgents` reads the
rows with `alive = 1`, and the restore of `main.go` sets the spawner's next ID
to one more than the largest ID loaded.  Within one process the spawner only
counts up (`spawnOne` and `SpawnChild` take `nextID` and increment it).

Dead agents are never saved, so the largest ID loaded is the largest ID of an
agent alive at the last save.  When the agent holding the largest ID issued so
far has died, the restore hands its ID out again, while the `events` table
still holds rows under it.
-/

namespace MiniWorld.Engine

open MiniWorld.Agents

/-- A row of the `agents` table, with the columns the model's `Agent` has. -/
structure AgentRow where
  id : AgentID
  name : String
  age : ℕ
  health : ℚ
  homeSettlementID : Option ℕ
  occupation : Occupation
  wealth : ℕ
  tier : CognitionTier
  alive : ℕ
  role : SocialRole
  factionID : Option ℕ
  tradeSkill : ℚ
  combatSkill : ℚ
  farmingSkill : ℚ
  miningSkill : ℚ
  craftingSkill : ℚ
  needs : NeedsState
  soul : AgentSoul
  inventory : GoodInventory
  lastWorkTick : ℕ
  productionProgress : ℚ

/-- The row `SaveAgents` inserts for an agent; `alive` is written as `1`. -/
def agentRow (a : Agent) : AgentRow :=
  { id := a.id, name := a.name, age := a.age, health := a.health,
    homeSettlementID := a.homeSettID, occupation := a.occupation, wealth := a.wealth,
    tier := a.tier, alive := 1, role := a.role, factionID := a.factionID,
    tradeSkill := a.tradeSkill, combatSkill := a.combatSkill, farmingSkill := a.farmingSkill,
    miningSkill := a.miningSkill, craftingSkill := a.craftingSkill, needs := a.needs, soul := a.soul,
    inventory := a.inventory, lastWorkTick := a.lastWorkTick, productionProgress := a.productionProgress }

/-- `SaveAgents`: the table after a save holds a row for each alive agent. -/
def saveAgents (agentList : List Agent) : List AgentRow :=
  (agentList.filter (·.alive)).map agentRow

/-- The agent `LoadAgents` builds from a row; the fields the table has no
column for start empty. -/
def AgentRow.toAgent (r : AgentRow) : Agent :=
  { id := r.id, name := r.name, age := r.age, health := r.health,
    homeSettID := r.homeSettlementID, occupation := r.occupation, inventory := r.inventory,
    wealth := r.wealth, tradeSkill := r.tradeSkill, combatSkill := r.combatSkill,
    farmingSkill := r.farmingSkill, miningSkill := r.miningSkill, craftingSkill := r.craftingSkill,
    factionID := r.factionID, role := r.role, tier := r.tier, soul := r.soul, needs := r.needs,
    tradeDestSett := none, tradeCargo := fun _ => 0, travelTicksLeft := 0, consignmentDebt := 0,
    tradePreferredDest := none, productionProgress := r.productionProgress, lastWorkTick := r.lastWorkTick,
    alive := r.alive != 0 }

/-- `LoadAgents`: `SELECT * FROM agents WHERE alive = 1`. -/
def loadAgents (table : List AgentRow) : List Agent :=
  (table.filter fun r => r.alive = 1).map AgentRow.toAgent

/-- The largest ID of a list of agents, `0` for none: `maxID` of the restore. -/
def maxAgentID (allAgents : List Agent) : AgentID :=
  allAgents.foldl (fun maxID a => if a.id > maxID then a.id else maxID) 0

def Spawner.setNextID (spawner : Spawner) (id : AgentID) : Spawner :=
  { spawner with nextID := id }

/-- The ID part of `spawnOne` and `SpawnChild`: `id := s.nextID; s.nextID++`. -/
def Spawner.issueID (spawner : Spawner) : AgentID × Spawner :=
  (spawner.nextID, { spawner with nextID := spawner.nextID + 1 })

/-- The restore of `main.go`: the spawner continues above the largest ID loaded. -/
def restoreSpawner (spawner : Spawner) (table : List AgentRow) : Spawner :=
  spawner.setNextID (maxAgentID (loadAgents table) + 1)

theorem loadAgents_saveAgents (agentList : List Agent) :
    (loadAgents (saveAgents agentList)).map (·.id) = (agentList.filter (·.alive)).map (·.id) := by
  -- every row written carries `alive = 1`, so the load filter keeps them all
  have written : (saveAgents agentList).filter (fun r => r.alive = 1) = saveAgents agentList :=
    List.filter_eq_self.mpr fun r written => by
      obtain ⟨a, _, rfl⟩ := List.mem_map.mp written
      simp [agentRow]
  unfold loadAgents
  rw [written]
  simp [saveAgents, agentRow, AgentRow.toAgent, Function.comp_def]

/-- Two agents are born, IDs 1 and 2; the second dies before the save; after
the restart the spawner issues 2 again. -/
theorem restart_reissues_dead_id :
    (Spawner.issueID ⟨1⟩).1 = 1 ∧ (Spawner.issueID (Spawner.issueID ⟨1⟩).2).1 = 2 ∧
      (Spawner.issueID (restoreSpawner (Spawner.issueID (Spawner.issueID ⟨1⟩).2).2
        (saveAgents [{ (default : Agent) with id := 1, alive := true },
          { (default : Agent) with id := 2, alive := false }]))).1 = 2 := by
  refine ⟨rfl, rfl, ?_⟩
  decide

end MiniWorld.Engine
