import MiniWorld.Engine.Residents
/-! # Compacting the dead (`simulation.go` `compactDeadAgents`, `rebuildSettlementAgents`,
`perpetuation.go` `updateSettlementPopulations`)

Once a week `compactDeadAgents` drops the dead from `Agents`.  The alive keep their order,
`AgentIndex` is rebuilt from them, every relationship whose target the new index does not
know is pruned in place, and the membership lists and the populations are rebuilt.  With no
one dead it returns before touching anything.

`Compacted` is what a compaction that removed someone leaves.  `compactDeadAgents_exact`
proves it from any state: nothing of the world's invariants is assumed, not even distinct IDs
(the index then keeps the last agent of an ID, as the Go map does) or distinct pointers (the
pruning is the same when repeated).
-/

namespace MiniWorld.Engine

open MiniWorld.Agents MiniWorld.Index

namespace Simulation

/-- What `compactDeadAgents` leaves when it removed someone, against the state `s` it
started from. -/
structure Compacted (s t : Simulation) : Prop where
  /-- `Agents` is the alive of `s`, in their order. -/
  agents : t.agents = s.agents.filter fun p => (s.agentAt p).alive
  /-- The index finds agents of `Agents`, under their own IDs, -/
  index_sound : ∀ j p, t.agentIndex j = some p → p ∈ t.agents ∧ (t.agentAt p).id = j
  /-- has an entry at exactly their IDs, -/
  index_keys : ∀ j, (t.agentIndex j).isSome ↔ j ∈ t.agents.map fun p => (t.agentAt p).id
  /-- and, the IDs being distinct, finds every agent under its ID. -/
  index_exact : (t.agents.map fun p => (t.agentAt p).id).Nodup →
    ∀ p ∈ t.agents, t.agentIndex (t.agentAt p).id = some p
  /-- A kept agent keeps, in order, its relationships to the kept agents, -/
  relationships : ∀ p ∈ t.agents, (t.agentAt p).relationships =
    (s.agentAt p).relationships.filter fun r => r.targetID ∈ t.agents.map fun q => (t.agentAt q).id
  /-- and no record changes but in its relationships. -/
  records : ∀ p, { t.agentAt p with relationships := (s.agentAt p).relationships } = s.agentAt p
  /-- Every settlement's list is the agents of `Agents` at home there, -/
  lists : ∀ k, t.settlementAgents k = t.agents.filter fun p => (t.agentAt p).homeSettID = some k
  settlements : t.settlements = s.settlements
  /-- its population is the length of its list, -/
  populations : ∀ q ∈ t.settlements,
    (t.settlementAt q).population = (t.settlementAgents (t.settlementAt q).id).length
  /-- and nothing else of a settlement changes. -/
  settlement_records : ∀ q,
    { t.settlementAt q with population := (s.settlementAt q).population } = s.settlementAt q

/-- The rebuild after the pruning: a state whose `Agents` are the alive of `s`, indexed by
their IDs, with the relationships of each pruned to the indexed IDs and nothing else changed,
is rebuilt into a compaction of `s`. -/
theorem Compacted.rebuild {s u : Simulation}
    (agents : u.agents = s.agents.filter fun p => (s.agentAt p).alive)
    (index : u.agentIndex = buildIndex (fun p => (s.agentAt p).id) u.agents)
    (pruned : ∀ p, u.agentAt p = if p ∈ u.agents then
      { s.agentAt p with relationships := (s.agentAt p).relationships.filter fun r =>
          (u.agentIndex r.targetID).isSome }
      else s.agentAt p)
    (settlements : u.settlements = s.settlements) (settlementAt : u.settlementAt = s.settlementAt) :
    Compacted s u.rebuildSettlementAgents := by
  have sameId : (fun p => (u.agentAt p).id) = fun p => (s.agentAt p).id := by
    funext p
    rw [pruned p]
    split <;> rfl
  have alive : ∀ p ∈ u.agents, (u.agentAt p).alive = true := by
    intro p member
    rw [pruned p, if_pos member]
    rw [agents] at member
    exact (List.mem_filter.mp member).2
  have keys : ∀ j, (u.agentIndex j).isSome ↔ j ∈ u.agents.map fun p => (u.agentAt p).id := by
    intro j
    rw [index, sameId, buildIndex_isSome]
  rw [rebuildSettlementAgents_eq]
  refine ⟨agents, ?_, keys, ?_, ?_, ?_, ?_, settlements, ?_, ?_⟩
  · intro j p found
    rw [index] at found
    obtain ⟨member, atKey⟩ := buildIndex_sound _ found
    exact ⟨member, by rw [← atKey, ← congrFun sameId p]⟩
  · intro distinct p member
    change u.agentIndex (u.agentAt p).id = some p
    rw [sameId] at distinct
    rw [index, congrFun sameId p]
    exact buildIndex_complete _ distinct member
  · intro p member
    change (u.agentAt p).relationships = _
    rw [pruned p, if_pos member]
    -- the new index knows a target exactly when it is the ID of a kept agent
    exact List.filter_congr fun r _ => by rw [Bool.eq_iff_iff, keys, decide_eq_true_iff]
  · intro p
    change { u.agentAt p with relationships := (s.agentAt p).relationships } = s.agentAt p
    rw [pruned p]
    split <;> rfl
  · intro k
    change u.residents k = u.agents.filter fun p => (u.agentAt p).homeSettID = some k
    exact List.filter_congr fun p member => by simp [alive p member]
  · intro q member
    change q ∈ u.settlements at member
    simp only [member, if_true]
  · intro q
    simp only [settlementAt]
    split <;> rfl

theorem compactDeadAgents_exact (s : Simulation) :
    ((∃ p ∈ s.agents, (s.agentAt p).alive = false) → Compacted s s.compactDeadAgents) ∧
      ((∀ p ∈ s.agents, (s.agentAt p).alive = true) → s.compactDeadAgents = s) := by
  constructor
  · rintro ⟨dead, listed, gone⟩
    have removed : (s.agents.filter fun p => !(s.agentAt p).alive).length ≠ 0 := by
      simp only [ne_eq, List.length_eq_zero_iff, List.filter_eq_nil_iff, not_forall]
      exact ⟨dead, listed, by simp [gone]⟩
    unfold compactDeadAgents
    simp only [removed, if_false]
    rw [foldl_modifyAgent (by simp)]
    exact Compacted.rebuild rfl rfl (fun p => rfl) rfl rfl
  · intro allAlive
    have none : (s.agents.filter fun p => !(s.agentAt p).alive).length = 0 := by
      simp only [List.length_eq_zero_iff, List.filter_eq_nil_iff]
      intro p listed
      simp [allAlive p listed]
    unfold compactDeadAgents
    simp only [none, if_true]

end Simulation

end MiniWorld.Engine
