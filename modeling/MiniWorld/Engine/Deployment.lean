import MiniWorld.Engine.Relationships

/-! # Relationship lists over a deployment (`cmd/worldsim/main.go`, `internal/persistence/db.go`)

A deployment is the running world together with the `relationships` table of its
database.  Its steps are the daily pass, the day of crime, the compaction of the
dead, any step of the membership run that writes no relationship, the full save,
and a restart: a world built from the `agents` table, whose agents hold no
relationships, onto which `LoadRelationships` appends the rows of the table in the
order the database returns them.

The table holds under each agent ID a list such an agent may hold
(`TableBonded`).  The save writes the rows of one agent at most under an ID,
since the IDs are distinct (`Registered.saveRelationships_bonded`), and the load
appends to an agent only rows filed under its own ID, since the index finds an
agent only under its ID (`loadRelationships_bonded`).  Every step keeps the
membership, the bonds and the table (`BondStep.sound`), so in every reachable
deployment every agent holds at most twenty relationships, to distinct targets,
none of them itself (`relationships_bounded_distinct`).
-/

namespace MiniWorld.Engine

open MiniWorld.Agents MiniWorld.Index MiniWorld.Run

/-! ## The table -/

/-- A table whose rows under each agent ID make a list an agent with that ID may hold. -/
def TableBonded (table : List RelationshipRow) : Prop :=
  ∀ k, Bonds k ((table.filter fun r => r.agentID = k).map RelationshipRow.toRelationship)

theorem TableBonded.nil : TableBonded [] := fun k => Bonds.nil k

theorem TableBonded.perm {table rows : List RelationshipRow} (bonded : TableBonded table)
    (order : rows.Perm table) : TableBonded rows :=
  fun k => (bonded k).perm ((order.filter _).map _)

namespace Simulation

variable {s : Simulation}

/-- The full save of a registered world whose agents hold what they may: only one agent
has a given ID, so the rows under it are that agent's list. -/
theorem Registered.saveRelationships_bonded (reg : s.Registered) (bonded : s.Bonded) :
    TableBonded (saveRelationships (s.agents.map s.agentAt)) := by
  intro k
  rw [saveRelationships_filter, List.filter_map, List.flatMap_map]
  -- the agents saved under `k`: in `Agents`, once each, all with the ID `k`
  generalize saved_def : List.filter _ s.agents = saved
  have listed : ∀ p ∈ saved, p ∈ s.agents ∧ (s.agentAt p).id = k := by
    intro p member
    rw [← saved_def, List.mem_filter] at member
    simp only [Function.comp_apply, decide_eq_true_eq] at member
    exact ⟨member.1, member.2.2.2⟩
  have nodup : saved.Nodup := saved_def ▸ reg.agents_nodup.filter _
  match saved, nodup, listed with
  | [], _, _ => exact Bonds.nil k
  | [p], _, listed =>
    rw [List.flatMap_singleton, ← (listed p (List.mem_singleton_self p)).2]
    exact bonded p
  | p :: p' :: rest, nodup, listed =>
    -- two agents saved under one ID are one agent, saved twice
    obtain ⟨inAgents, own⟩ := listed p List.mem_cons_self
    obtain ⟨inAgents', own'⟩ := listed p' (List.mem_cons_of_mem _ List.mem_cons_self)
    have same := reg.ids_distinct p inAgents p' inAgents' (own.trans own'.symm)
    exact absurd (by rw [same]; exact List.mem_cons_self) (List.nodup_cons.mp nodup).1

/-! ## The load -/

theorem settled_loadRow (s : Simulation) (r : RelationshipRow) : Settled s (s.loadRow r) := by
  unfold loadRow
  cases s.agentIndex r.agentID with
  | none => exact Settled.refl s
  | some p =>
    dsimp only [Option.elim]
    exact settled_modifyAgent s p rfl rfl fun alive => alive

theorem settled_loadRelationships (s : Simulation) (read : Except String (List RelationshipRow)) :
    Settled s (s.loadRelationships read) := by
  cases read with
  | error _ => exact Settled.refl s
  | ok rows => exact settled_foldl _ settled_loadRow rows s

/-- A load onto agents holding nothing, whose index finds an agent only under its own ID, of
the rows of a table in some order: every agent then holds the rows under its ID, or some of
them, and so what it may. -/
theorem loadRelationships_bonded (empty : ∀ p, (s.agentAt p).relationships = [])
    (sound : ∀ k p, s.agentIndex k = some p → (s.agentAt p).id = k) {table : List RelationshipRow}
    (tableBonded : TableBonded table) {read : Except String (List RelationshipRow)}
    (order : ∀ rows, read = .ok rows → rows.Perm table) : (s.loadRelationships read).Bonded := by
  intro p
  cases read with
  | error _ =>
    -- a failed read loads nothing
    change Bonds (s.agentAt p).id (s.agentAt p).relationships
    rw [empty]
    exact Bonds.nil _
  | ok rows =>
    change Bonds ((s.loadRows rows).agentAt p).id ((s.loadRows rows).agentAt p).relationships
    rw [congrArg Agent.id (loadRows_records rows s p), loadRows_relationships, empty, List.nil_append]
    -- the index sends a row only to the agent of its ID
    have sent : (rows.filter fun r => s.agentIndex r.agentID = some p).Sublist
        (rows.filter fun r => r.agentID = (s.agentAt p).id) :=
      List.monotone_filter_right _ fun r found => by
        simp only [decide_eq_true_eq] at found ⊢
        exact (sound _ _ found).symm
    exact ((tableBonded.perm (order rows rfl)) (s.agentAt p).id).sublist (sent.map _)

/-- The agents of a world built from the `agents` table hold no relationships. -/
theorem newSimulation_loadAgents_relationships (hexAt : HexCoord → Option Hex) (agentRows : List AgentRow)
    (setts : List Settlement) (p : AgentRef) :
    ((newSimulation hexAt (loadAgents agentRows) setts).agentAt p).relationships = [] := by
  change ((loadAgents agentRows).getD p default).relationships = []
  rw [List.getD_eq_getElem?_getD]
  cases found : (loadAgents agentRows)[p]? with
  | none => rfl
  | some a =>
    obtain ⟨r, -, rfl⟩ := List.mem_map.mp (List.mem_of_getElem? found)
    rfl

/-- The index of a built world finds an agent only under its own ID. -/
theorem newSimulation_agentIndex_sound (hexAt : HexCoord → Option Hex) (ag : List Agent)
    (setts : List Settlement) {k : AgentID} {p : AgentRef}
    (found : (newSimulation hexAt ag setts).agentIndex k = some p) :
    ((newSimulation hexAt ag setts).agentAt p).id = k :=
  (buildIndex_sound _ found).2

end Simulation

/-! ## Steps that write no relationship -/

namespace Simulation

/-- Every agent of `t` holds nothing, or what it held in `s` under the same ID: `t` comes
from `s` by a step that writes no relationship, though it may register new agents. -/
def Untouched (s t : Simulation) : Prop :=
  ∀ p, (t.agentAt p).relationships = [] ∨
    (t.agentAt p).id = (s.agentAt p).id ∧ (t.agentAt p).relationships = (s.agentAt p).relationships

theorem Bonded.untouched {t : Simulation} (bonded : s.Bonded) (untouched : Untouched s t) : t.Bonded :=
  fun p => by
    rcases untouched p with empty | ⟨same, kept⟩
    · rw [empty]
      exact Bonds.nil _
    · rw [same, kept]
      exact bonded p

end Simulation

/-! ## The run -/

/-- The running world and the `relationships` table of its database. -/
structure Deployment where
  sim : Simulation
  table : List RelationshipRow

open Simulation

/-- The steps of a deployment. -/
inductive BondStep : Deployment → Deployment → Prop
  /-- `processRelationships`. -/
  | relationships (sexOf : Agent → Sex) (tick : ℕ) (world : Simulation) (table : List RelationshipRow) :
      BondStep ⟨world, table⟩ ⟨world.processRelationships sexOf tick, table⟩
  /-- `processCrime`. -/
  | crime (diplomacyBonus : ℕ → ℚ) (tick : ℕ) (world : Simulation) (table : List RelationshipRow) :
      BondStep ⟨world, table⟩ ⟨world.processCrime diplomacyBonus tick, table⟩
  /-- `compactDeadAgents`, which prunes the relationships to agents no longer indexed. -/
  | compact (world : Simulation) (table : List RelationshipRow) :
      BondStep ⟨world, table⟩ ⟨world.compactDeadAgents, table⟩
  /-- Any other step of the membership run; none of them writes a relationship. -/
  | member {world next : Simulation} (step : MemberStep world next) (untouched : Untouched world next)
      (table : List RelationshipRow) : BondStep ⟨world, table⟩ ⟨next, table⟩
  /-- `SaveWorldStateFull`, whose `SaveRelationships` replaces the table. -/
  | save (world : Simulation) (table : List RelationshipRow) :
      BondStep ⟨world, table⟩ ⟨world, saveRelationships (world.agents.map world.agentAt)⟩
  /-- A restart: `NewSimulation` over the agents `LoadAgents` reads, then `LoadRelationships`
  over what its `SELECT` returns, the rows of the table in some order. -/
  | restart (world : Simulation) (table : List RelationshipRow) (hexAt : HexCoord → Option Hex)
      (agentRows : List AgentRow) (setts : List Settlement) (sp : Spawner)
      (generated : Generated { newSimulation hexAt (loadAgents agentRows) setts with spawner := some sp })
      (read : Except String (List RelationshipRow)) (order : ∀ rows, read = .ok rows → rows.Perm table) :
      BondStep ⟨world, table⟩
        ⟨({ newSimulation hexAt (loadAgents agentRows) setts with spawner := some sp }).loadRelationships read,
          table⟩

/-- What every step keeps: the membership is exact, every agent holds what it may, and so
does the table under every ID. -/
structure Sound (d : Deployment) : Prop where
  membership : d.sim.Membership
  bonded : d.sim.Bonded
  saved : TableBonded d.table

/-- A first start: a generated world whose agents hold no relationships, over an empty table. -/
structure Fresh (d : Deployment) : Prop where
  generated : Generated d.sim
  empty : ∀ p, (d.sim.agentAt p).relationships = []
  table_empty : d.table = []

theorem Fresh.sound {d : Deployment} (fresh : Fresh d) : Sound d where
  membership := fresh.generated.membership
  bonded p := by
    rw [fresh.empty p]
    exact Bonds.nil _
  saved := by
    rw [fresh.table_empty]
    exact TableBonded.nil

/-- Every step keeps `Sound`. -/
theorem BondStep.sound {d e : Deployment} (step : BondStep d e) (sound : Sound d) : Sound e := by
  cases step with
  | relationships sexOf tick world table =>
    have kept := processRelationships_settledBonded sexOf tick sound.membership sound.bonded
    exact ⟨sound.membership.settled kept.1, kept.2, sound.saved⟩
  | crime diplomacyBonus tick world table =>
    have kept := processCrime_settledBonded diplomacyBonus tick sound.bonded
    exact ⟨sound.membership.settled kept.1, kept.2, sound.saved⟩
  | compact world table =>
    exact ⟨(MemberStep.compactDead world).membership sound.membership,
      compactDeadAgents_bonded sound.bonded, sound.saved⟩
  | member step untouched table =>
    exact ⟨step.membership sound.membership, sound.bonded.untouched untouched, sound.saved⟩
  | save world table =>
    exact ⟨sound.membership, sound.bonded,
      sound.membership.toRegistered.saveRelationships_bonded sound.bonded⟩
  | restart world table hexAt agentRows setts sp generated read order =>
    -- the loaded world's agents start empty, and its index finds an agent under its own ID
    refine ⟨generated.membership.settled (settled_loadRelationships _ read), ?_, sound.saved⟩
    exact loadRelationships_bonded
      (s := { newSimulation hexAt (loadAgents agentRows) setts with spawner := some sp })
      (newSimulation_loadAgents_relationships hexAt agentRows setts)
      (fun _ _ found => newSimulation_agentIndex_sound hexAt _ setts found) sound.saved order

theorem relationships_bounded_distinct {d : Deployment} (reachable : Reachable BondStep Fresh d)
    (p : AgentRef) :
    (d.sim.agentAt p).relationships.length ≤ 20 ∧ ((d.sim.agentAt p).relationships.map (·.targetID)).Nodup ∧
      (d.sim.agentAt p).id ∉ (d.sim.agentAt p).relationships.map (·.targetID) := by
  have sound : Sound d :=
    reachable_invariant (fun _ fresh => fresh.sound) (fun _ _ held step => step.sound held) reachable
  have bonds := sound.bonded p
  exact ⟨bonds.bounded, bonds.distinct, bonds.not_self⟩

/-- An adult of twenty at home in settlement 1. -/
def hamletResident (id : AgentID) : Agent :=
  { (default : Agent) with id := id, alive := true, age := 20, homeSettID := some 1 }

/-- Two residents of one settlement. -/
def pairHamlet : Simulation :=
  { newSimulation (fun _ => none) [hamletResident 1, hamletResident 2]
      [{ (default : Settlement) with id := 1, population := 2 }] with spawner := some ⟨3⟩ }

theorem pairHamlet_fresh : Fresh ⟨pairHamlet, []⟩ := by
  refine ⟨⟨fun _ => none, [hamletResident 1, hamletResident 2],
    [{ (default : Settlement) with id := 1, population := 2 }], 3, by decide, by decide, by decide,
    fun a member _ => ⟨1, ?_, by simp⟩, by decide, rfl⟩, fun p => ?_, rfl⟩
  · simp only [List.mem_cons, List.not_mem_nil, or_false] at member
    rcases member with rfl | rfl <;> rfl
  · rcases p with _ | _ | p <;> rfl

/-- The pair's first day, when they befriend each other, and the save after it. -/
def pairHamletSaved : Deployment :=
  ⟨pairHamlet.processRelationships (fun _ => .male) 0,
    saveRelationships ((pairHamlet.processRelationships (fun _ => .male) 0).agents.map
      (pairHamlet.processRelationships (fun _ => .male) 0).agentAt)⟩

theorem pairHamlet_relationships_bounded :
    Reachable BondStep Fresh pairHamletSaved ∧
      (pairHamletSaved.sim.agentAt 0).relationships.map (·.targetID) = [2] ∧
      ((pairHamletSaved.sim.agentAt 0).relationships.length ≤ 20 ∧
        ((pairHamletSaved.sim.agentAt 0).relationships.map (·.targetID)).Nodup ∧
        (pairHamletSaved.sim.agentAt 0).id ∉ (pairHamletSaved.sim.agentAt 0).relationships.map (·.targetID)) := by
  -- the day's interaction bonds the two, and the save writes both bonds
  have reachable : Reachable BondStep Fresh pairHamletSaved :=
    ⟨_, pairHamlet_fresh,
      .tail (.single (BondStep.relationships (fun _ => .male) 0 pairHamlet [])) (BondStep.save _ _)⟩
  exact ⟨reachable, by decide +kernel, relationships_bounded_distinct reachable 0⟩

end MiniWorld.Engine
