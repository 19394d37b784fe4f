import MiniWorld.Engine.Simulation

/-! # Relationships across a full save and a restart (`internal/persistence/db.go`)

`SaveRelationships` runs in `SaveWorldStateFull` only.  In one transaction it
empties the `relationships` table and inserts one row for every relationship
of every alive agent of `Agents`; a failed insert rolls the transaction back
and leaves the table as it was.  At a restart `LoadRelationships` reads every
row, in whatever order the database returns them, and appends each to the
relationships of the agent `AgentIndex` finds under its `agent_id`.  A row of
an agent that was not loaded is skipped, and a read that fails (a database
older than the table) loads nothing.  The compaction of each slice's capacity
at the end copies the slice unchanged.

* `saveRelationships_filter` — the rows saved under an ID are, in order, the
  relationships of the alive agents with that ID;
* `loadRows_relationships` — after the load, an agent holds what it held
  followed by the rows the index sends to it, in the order read;
  `loadRows_records` — and nothing else of a record changes.
-/

namespace MiniWorld.Engine

open MiniWorld.Agents

/-- A row of the `relationships` table. -/
structure RelationshipRow where
  agentID : AgentID
  targetID : AgentID
  sentiment : ℚ
  trust : ℚ

/-- The relationship `LoadRelationships` makes of a row. -/
def RelationshipRow.toRelationship (r : RelationshipRow) : Relationship :=
  { targetID := r.targetID, sentiment := r.sentiment, trust := r.trust }

/-- The rows `SaveRelationships` inserts for an agent, one per relationship. -/
def relationshipRows (a : Agent) : List RelationshipRow :=
  a.relationships.map fun r => ⟨a.id, r.targetID, r.sentiment, r.trust⟩

/-- `SaveRelationships`: the table after the save of `agentList`, in its order;
the dead and the agents with no relationships are skipped. -/
def saveRelationships (agentList : List Agent) : List RelationshipRow :=
  (agentList.filter fun a => a.alive ∧ a.relationships.length ≠ 0).flatMap relationshipRows

namespace Simulation

/-- One row of `LoadRelationships`: it goes to the end of the relationships of
the agent indexed under its `agent_id`, if any. -/
def loadRow (s : Simulation) (r : RelationshipRow) : Simulation :=
  (s.agentIndex r.agentID).elim s fun p =>
    s.modifyAgent p fun a => { a with relationships := a.relationships ++ [r.toRelationship] }

/-- The row loop of `LoadRelationships`. -/
def loadRows (s : Simulation) (rows : List RelationshipRow) : Simulation := rows.foldl loadRow s

/-- `LoadRelationships`, on what its `SELECT` returned. -/
def loadRelationships (s : Simulation) (read : Except String (List RelationshipRow)) : Simulation :=
  match read with
  | .error _ => s
  | .ok rows => s.loadRows rows

end Simulation

/-! ## The saved table -/

@[simp] theorem relationshipRows_toRelationship (a : Agent) :
    (relationshipRows a).map RelationshipRow.toRelationship = a.relationships := by
  simp [relationshipRows, RelationshipRow.toRelationship, Function.comp_def]

/-- Every row of an agent carries its ID. -/
theorem relationshipRows_agentID (a : Agent) (k : AgentID) :
    (relationshipRows a).filter (fun r => r.agentID = k) = if a.id = k then relationshipRows a else [] := by
  split_ifs with own
  · exact List.filter_eq_self.mpr fun r member => by
      obtain ⟨_, _, rfl⟩ := List.mem_map.mp member
      simp [own]
  · exact List.filter_eq_nil_iff.mpr fun r member => by
      obtain ⟨_, _, rfl⟩ := List.mem_map.mp member
      simp [own]

/-- The rows saved under `k` are the relationships of the saved agents with ID `k`, in the
order of the list. -/
theorem saveRelationships_filter (agentList : List Agent) (k : AgentID) :
    ((saveRelationships agentList).filter fun r => r.agentID = k).map RelationshipRow.toRelationship =
      (agentList.filter fun a => a.alive ∧ a.relationships.length ≠ 0 ∧ a.id = k).flatMap
        (·.relationships) := by
  induction agentList with
  | nil => rfl
  | cons a rest ih =>
    unfold saveRelationships at ih ⊢
    by_cases saved : a.alive ∧ a.relationships.length ≠ 0
    · -- the agent's own rows come first, and survive the filter exactly under its ID
      rw [List.filter_cons_of_pos (by simpa using saved), List.flatMap_cons, List.filter_append,
        List.map_append, ih, relationshipRows_agentID]
      by_cases own : a.id = k
      · rw [if_pos own, List.filter_cons_of_pos (by simpa [own] using saved), List.flatMap_cons,
          relationshipRows_toRelationship]
      · rw [if_neg own, List.filter_cons_of_neg (by simp [own])]
        rfl
    · rw [List.filter_cons_of_neg (by simpa using saved), ih,
        List.filter_cons_of_neg (by simp only [decide_eq_true_eq]; tauto)]

/-! ## The load -/

namespace Simulation

@[simp] theorem loadRow_agentIndex (s : Simulation) (r : RelationshipRow) :
    (s.loadRow r).agentIndex = s.agentIndex := by
  unfold loadRow
  cases s.agentIndex r.agentID <;> rfl

/-- A row goes to the agent the index finds under its `agent_id`, and to no other. -/
theorem loadRow_relationships (s : Simulation) (r : RelationshipRow) (p : AgentRef) :
    ((s.loadRow r).agentAt p).relationships =
      if s.agentIndex r.agentID = some p then (s.agentAt p).relationships ++ [r.toRelationship]
      else (s.agentAt p).relationships := by
  unfold loadRow
  cases found : s.agentIndex r.agentID with
  | none => simp
  | some q =>
    by_cases here : q = p
    · subst here
      simp
    · simp [modifyAgent_agentAt, Ne.symm here, here]

/-- A row changes no record but in its relationships. -/
theorem loadRow_records (s : Simulation) (r : RelationshipRow) (p : AgentRef) :
    { (s.loadRow r).agentAt p with relationships := (s.agentAt p).relationships } = s.agentAt p := by
  unfold loadRow
  cases s.agentIndex r.agentID with
  | none => rfl
  | some q =>
    by_cases here : p = q
    · subst here
      simp
    · simp [modifyAgent_agentAt, here]

@[simp] theorem loadRows_agentIndex (s : Simulation) (rows : List RelationshipRow) :
    (s.loadRows rows).agentIndex = s.agentIndex := by
  induction rows generalizing s with
  | nil => rfl
  | cons r rest ih => exact (ih (s.loadRow r)).trans (loadRow_agentIndex s r)

/-- After the load an agent holds what it held, then every row the index sends to it, in the
order read. -/
theorem loadRows_relationships (rows : List RelationshipRow) (s : Simulation) (p : AgentRef) :
    ((s.loadRows rows).agentAt p).relationships = (s.agentAt p).relationships ++
      (rows.filter fun r => s.agentIndex r.agentID = some p).map RelationshipRow.toRelationship := by
  induction rows generalizing s with
  | nil => simp [loadRows]
  | cons r rest ih =>
    change (((s.loadRow r).loadRows rest).agentAt p).relationships = _
    rw [ih, loadRow_relationships, loadRow_agentIndex]
    by_cases found : s.agentIndex r.agentID = some p
    · simp [found]
    · simp [found]

/-- The load changes no record but in its relationships. -/
theorem loadRows_records (rows : List RelationshipRow) (s : Simulation) (p : AgentRef) :
    { (s.loadRows rows).agentAt p with relationships := (s.agentAt p).relationships } = s.agentAt p := by
  induction rows generalizing s with
  | nil => rfl
  | cons r rest ih =>
    have later := congrArg (fun a : Agent => { a with relationships := (s.agentAt p).relationships })
      (ih (s.loadRow r))
    simp only at later
    exact later.trans (loadRow_records s r p)

end Simulation

end MiniWorld.Engine
