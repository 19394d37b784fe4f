import MiniWorld.Engine.Lifecycle
import MiniWorld.Index.Build
import Mathlib.Data.List.GetD

/-! # A new simulation (`NewSimulation`, `internal/engine/simulation.go` lines 237–273)

`NewSimulation` takes the generated (or loaded) map, agents and settlements and
builds the indexes over them: `AgentIndex` and `SettlementIndex` by one pass
each, in which a later record wins an ID, and `SettlementAgents` by appending
every agent with a home to its home's list, in order.  Every settlement is given
a new market, and `updateStats` records the alive agents' wealth and number.

In the model the records are held at references `0, 1, …` in list order.  The
factions, the spawner and the clock are set by `main.go` afterwards; the hex
claims that `NewSimulation` makes last are `initSettlementClaims`
(`MiniWorld.Engine.Claims`), applied to the result.
-/

namespace MiniWorld.Engine

open MiniWorld.Agents MiniWorld.Ledger MiniWorld.Index

namespace Simulation

def newSimulation (hexAt : HexCoord → Option Hex) (ag : List Agent) (setts : List Settlement) :
    Simulation where
  agentAt p := ag.getD p default
  agents := List.range ag.length
  nextAgentRef := ag.length
  agentIndex := buildIndex (fun p => (ag.getD p default).id) (List.range ag.length)
  settlementAt q := { setts.getD q default with market := some newMarket }
  settlements := List.range setts.length
  settlementIndex := buildIndex (fun q => (setts.getD q default).id) (List.range setts.length)
  settlementAgents k := (List.range ag.length).filter fun p => (ag.getD p default).homeSettID = some k
  nextSettRef := setts.length
  factionAt _ := default
  factions := []
  hexAt := hexAt
  spawner := none
  registry := Registry.fresh
  lastTick := 0
  currentSeason := 0
  totalWealth := total (List.range ag.length) fun p => liquidWealth (ag.getD p default)
  totalPopulation := ((List.range ag.length).filter fun p => (ag.getD p default).alive).length
  inheritLog := []

/-- Reading a list at every position below its length reads the list. -/
theorem map_range_getD {α β : Type} (l : List α) (d : α) (f : α → β) :
    (List.range l.length).map (fun i => f (l.getD i d)) = l.map f := by
  apply List.ext_getElem (by simp)
  intro i _ inList
  simp only [List.getElem_map, List.getElem_range]
  exact congrArg f (List.getD_eq_getElem _ _ (by simpa using inList))

/-- A generated world is wired when its settlement IDs are distinct and every
alive agent's home is one of them. -/
theorem newSimulation_wired (hexAt : HexCoord → Option Hex) {ag : List Agent}
    {setts : List Settlement} (distinct : (setts.map (·.id)).Nodup)
    (homes : ∀ a ∈ ag, a.alive → ∃ k, a.homeSettID = some k ∧ k ∈ setts.map (·.id)) :
    (newSimulation hexAt ag setts).Wired := by
  have keys : ((List.range setts.length).map fun q => (setts.getD q default).id).Nodup := by
    rw [map_range_getD]
    exact distinct
  refine ⟨List.nodup_range, List.nodup_range, List.nodup_nil, ?_, ?_, ?_, ?_, ?_⟩
  · intro k p listed _
    exact (List.mem_filter.mp listed).1
  · intro k q indexed
    exact buildIndex_sound _ indexed
  · intro q member
    exact buildIndex_complete (fun q => (setts.getD q default).id) keys member
  · intro p member alive
    have inRange : p < ag.length := List.mem_range.mp member
    -- the agent's home is the ID of some listed settlement, found by the index
    have generated : ag.getD p default ∈ ag := by
      rw [List.getD_eq_getElem ag default inRange]
      exact List.getElem_mem inRange
    obtain ⟨k, home, listedID⟩ := homes _ generated alive
    obtain ⟨st, listedSett, rfl⟩ := List.mem_map.mp listedID
    obtain ⟨q, below, rfl⟩ := List.mem_iff_getElem.mp listedSett
    refine ⟨_, q, home, ?_⟩
    have found := buildIndex_complete (fun q => (setts.getD q default).id) keys
      (List.mem_range.mpr below)
    rw [List.getD_eq_getElem setts default below] at found
    exact found
  · intro q member
    exact List.mem_range.mp member

end Simulation

end MiniWorld.Engine
