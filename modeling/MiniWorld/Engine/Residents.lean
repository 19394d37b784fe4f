import MiniWorld.Engine.Migration

/-! # The membership index: its invariant, the rebuild and the arrivals

`SettlementAgents` is exact when, for every settlement ID `k`, its alive
members are the alive agents of `Agents` whose `HomeSettID` is `k`, each once:
the list `residents k`, which is what `rebuildSettlementAgents` installs.  Three
structures split what that takes:

* `Registered` — what every path keeps, moving homes or not: no pointer twice,
  references below their allocators, distinct agent IDs below the spawner's
  next ID, `SettlementIndex` agreeing with `Settlements`, and every alive
  agent's home a key of `SettlementIndex`;
* `Listed` — the lists hold agents of `Agents`, and their alive members are
  the residents, once each;
* `Covered` — every settlement's `Population` is at least its number of
  residents, which is what lets compaction drop a settlement of population zero.

`Membership` is all three.  The rebuild restores `Listed` and `Covered` from
`Registered` alone (`Registered.rebuildSettlementAgents`), so a path that moves
homes and then rebuilds has only to keep `Registered` while it moves.
`Settled` is a step that leaves homes, IDs, lists, the index and the
populations alone and may only clear `Alive` flags; it keeps `Membership`.
The arrivals extend the lists by hand (`appendAgent`) and raise the population
to match.
-/

namespace MiniWorld.Engine

open MiniWorld.Agents MiniWorld.Index MiniWorld.Run

namespace Simulation

/-- The alive agents of `Agents` whose home is `k`, in `Agents` order: the list
`rebuildSettlementAgents` gives `k`. -/
def residents (s : Simulation) (k : ℕ) : List AgentRef :=
  s.agents.filter fun p => (s.agentAt p).alive ∧ (s.agentAt p).homeSettID = some k

section Reading

variable {s : Simulation} {k : ℕ} {p : AgentRef}

@[simp] theorem mem_residents :
    p ∈ s.residents k ↔
      p ∈ s.agents ∧ (s.agentAt p).alive = true ∧ (s.agentAt p).homeSettID = some k := by
  simp [residents]

@[simp] theorem mem_aliveListed :
    p ∈ s.aliveListed k ↔ p ∈ s.settlementAgents k ∧ (s.agentAt p).alive = true := by
  simp [aliveListed]

theorem findSettlementByName_mem {name : String} {q : SettRef} (found : s.findSettlementByName name = some q) :
    q ∈ s.settlements :=
  List.mem_of_find?_eq_some found

@[simp] theorem residents_modifySettlement (q : SettRef) (change : Settlement → Settlement) :
    (s.modifySettlement q change).residents = s.residents := rfl

@[simp] theorem aliveListed_modifySettlement (q : SettRef) (change : Settlement → Settlement) :
    (s.modifySettlement q change).aliveListed = s.aliveListed := rfl

end Reading

/-! ## The invariant -/

/-- What every path keeps: the slices, the allocators, the agent IDs, the
settlement index and the homes of the alive. -/
structure Registered (s : Simulation) : Prop where
  agents_nodup : s.agents.Nodup
  agents_below : ∀ p ∈ s.agents, p < s.nextAgentRef
  ids_distinct : ∀ p ∈ s.agents, ∀ p' ∈ s.agents, (s.agentAt p).id = (s.agentAt p').id → p = p'
  ids_fresh : ∀ sp, s.spawner = some sp → ∀ p ∈ s.agents, (s.agentAt p).id < sp.nextID
  settlements_nodup : s.settlements.Nodup
  settlements_below : ∀ q ∈ s.settlements, q < s.nextSettRef
  index_sound : ∀ k q, s.settlementIndex k = some q → q ∈ s.settlements ∧ (s.settlementAt q).id = k
  index_complete : ∀ q ∈ s.settlements, s.settlementIndex (s.settlementAt q).id = some q
  home_indexed : ∀ p ∈ s.agents, (s.agentAt p).alive = true →
    ∃ k q, (s.agentAt p).homeSettID = some k ∧ s.settlementIndex k = some q

/-- The lists are exact: they hold agents of `Agents`, and the alive members
of list `k` are the residents of `k`, each once. -/
structure Listed (s : Simulation) : Prop where
  listed_agents : ∀ k, ∀ p ∈ s.settlementAgents k, p ∈ s.agents
  exact : ∀ k p, p ∈ s.aliveListed k ↔ p ∈ s.residents k
  listed_once : ∀ k, (s.aliveListed k).Nodup

/-- Every settlement's `Population` covers its residents. -/
def Covered (s : Simulation) : Prop :=
  ∀ q ∈ s.settlements, (s.residents (s.settlementAt q).id).length ≤ (s.settlementAt q).population

/-- The membership index is exact, and the populations cover it. -/
structure Membership (s : Simulation) : Prop extends s.Registered, s.Listed where
  covered : s.Covered

section Invariant

variable {s : Simulation}

theorem Registered.residents_nodup (reg : s.Registered) (k : ℕ) : (s.residents k).Nodup :=
  reg.agents_nodup.filter _

/-- Two listed settlements with one ID are one: `SettlementIndex` finds both. -/
theorem Registered.settlement_eq_of_id (reg : s.Registered) {q q' : SettRef}
    (listed : q ∈ s.settlements) (listed' : q' ∈ s.settlements)
    (same : (s.settlementAt q).id = (s.settlementAt q').id) : q = q' := by
  have found := reg.index_complete q listed
  rw [same, reg.index_complete q' listed'] at found
  exact (Option.some_inj.mp found).symm

theorem Registered.indexed (reg : s.Registered) {q : SettRef} (listed : q ∈ s.settlements) :
    ∃ q', s.settlementIndex (s.settlementAt q).id = some q' :=
  ⟨q, reg.index_complete q listed⟩

theorem Membership.aliveListed_length (m : s.Membership) (k : ℕ) :
    (s.aliveListed k).length = (s.residents k).length :=
  ((List.perm_ext_iff_of_nodup (m.listed_once k) (m.residents_nodup k)).mpr (m.exact k)).length_eq

end Invariant

/-! ## Steps that leave the membership alone -/

/-- `after` keeps the homes, IDs, lists, index and populations of `before`,
holds its agents in some order, and only clears `Alive` flags: the minute,
the deaths, and every pass that moves crowns, goods, needs or the registry. -/
structure Settled (before after : Simulation) : Prop where
  agents : after.agents.Perm before.agents
  nextAgentRef : after.nextAgentRef = before.nextAgentRef
  id : ∀ p, (after.agentAt p).id = (before.agentAt p).id
  home : ∀ p, (after.agentAt p).homeSettID = (before.agentAt p).homeSettID
  alive : ∀ p, (after.agentAt p).alive = true → (before.agentAt p).alive = true
  spawner : after.spawner = before.spawner
  settlements : after.settlements = before.settlements
  nextSettRef : after.nextSettRef = before.nextSettRef
  settlementIndex : after.settlementIndex = before.settlementIndex
  settlementAgents : after.settlementAgents = before.settlementAgents
  settlementID : ∀ q, (after.settlementAt q).id = (before.settlementAt q).id
  population : ∀ q, (after.settlementAt q).population = (before.settlementAt q).population

section Settled

variable {s t u : Simulation}

theorem Settled.refl (s : Simulation) : Settled s s :=
  ⟨List.Perm.refl _, rfl, fun _ => rfl, fun _ => rfl, fun _ alive => alive, rfl, rfl, rfl, rfl,
    rfl, fun _ => rfl, fun _ => rfl⟩

theorem Settled.trans (first : Settled s t) (second : Settled t u) : Settled s u :=
  ⟨second.agents.trans first.agents, second.nextAgentRef.trans first.nextAgentRef,
    fun p => (second.id p).trans (first.id p), fun p => (second.home p).trans (first.home p),
    fun p alive => first.alive p (second.alive p alive), second.spawner.trans first.spawner,
    second.settlements.trans first.settlements, second.nextSettRef.trans first.nextSettRef,
    second.settlementIndex.trans first.settlementIndex,
    second.settlementAgents.trans first.settlementAgents,
    fun q => (second.settlementID q).trans (first.settlementID q),
    fun q => (second.population q).trans (first.population q)⟩

/-- A write through an agent pointer that keeps its `ID` and home and does not
bring it to life. -/
theorem settled_modifyAgent (s : Simulation) (p : AgentRef) {change : Agent → Agent}
    (keepsId : (change (s.agentAt p)).id = (s.agentAt p).id)
    (keepsHome : (change (s.agentAt p)).homeSettID = (s.agentAt p).homeSettID)
    (noRevival : (change (s.agentAt p)).alive = true → (s.agentAt p).alive = true) :
    Settled s (s.modifyAgent p change) := by
  refine ⟨List.Perm.refl _, rfl, ?_, ?_, ?_, rfl, rfl, rfl, rfl, rfl, fun _ => rfl, fun _ => rfl⟩
  · intro p'
    by_cases hp : p' = p
    · subst hp; simp [keepsId]
    · simp [modifyAgent_agentAt, hp]
  · intro p'
    by_cases hp : p' = p
    · subst hp; simp [keepsHome]
    · simp [modifyAgent_agentAt, hp]
  · intro p'
    by_cases hp : p' = p
    · subst hp; simpa using noRevival
    · simp [modifyAgent_agentAt, hp]

/-- A write through a settlement pointer that keeps its `ID` and population. -/
theorem settled_modifySettlement (s : Simulation) (q : SettRef) {change : Settlement → Settlement}
    (keepsId : (change (s.settlementAt q)).id = (s.settlementAt q).id)
    (keepsPopulation : (change (s.settlementAt q)).population = (s.settlementAt q).population) :
    Settled s (s.modifySettlement q change) := by
  refine ⟨List.Perm.refl _, rfl, fun _ => rfl, fun _ => rfl, fun _ alive => alive, rfl, rfl, rfl,
    rfl, rfl, ?_, ?_⟩
  · intro q'
    by_cases hq : q' = q
    · subst hq; simp [modifySettlement_settlementAt_apply, keepsId]
    · simp [modifySettlement_settlementAt_apply, hq]
  · intro q'
    by_cases hq : q' = q
    · subst hq; simp [modifySettlement_settlementAt_apply, keepsPopulation]
    · simp [modifySettlement_settlementAt_apply, hq]

theorem settled_registry (s : Simulation) (registry : Registry) :
    Settled s { s with registry := registry } :=
  ⟨List.Perm.refl _, rfl, fun _ => rfl, fun _ => rfl, fun _ alive => alive, rfl, rfl, rfl, rfl,
    rfl, fun _ => rfl, fun _ => rfl⟩

theorem settled_foldl {α : Type} (body : Simulation → α → Simulation)
    (each : ∀ t a, Settled t (body t a)) (items : List α) (s : Simulation) :
    Settled s (items.foldl body s) :=
  foldl_invariant (Settled s) body items s (fun a _ t kept => kept.trans (each t a))
    (Settled.refl s)

/-- A settled step has no more residents anywhere. -/
theorem Settled.residents_sublist (kept : Settled s t) (k : ℕ) :
    (t.residents k).Subperm (s.residents k) := by
  have moved : (t.residents k).Perm <| s.agents.filter fun p =>
      (t.agentAt p).alive ∧ (t.agentAt p).homeSettID = some k := kept.agents.filter _
  refine moved.subperm.trans (List.monotone_filter_right _ ?_).subperm
  intro p inT
  simp only [decide_eq_true_eq] at inT ⊢
  exact ⟨kept.alive p inT.1, kept.home p ▸ inT.2⟩

theorem Registered.settled (reg : s.Registered) (kept : Settled s t) : t.Registered where
  agents_nodup := kept.agents.nodup_iff.mpr reg.agents_nodup
  agents_below p member := kept.nextAgentRef ▸ reg.agents_below p (kept.agents.mem_iff.mp member)
  ids_distinct p member p' member' same := by
    rw [kept.id, kept.id] at same
    exact reg.ids_distinct p (kept.agents.mem_iff.mp member) p' (kept.agents.mem_iff.mp member') same
  ids_fresh sp spawned p member := by
    rw [kept.spawner] at spawned
    rw [kept.id]
    exact reg.ids_fresh sp spawned p (kept.agents.mem_iff.mp member)
  settlements_nodup := kept.settlements ▸ reg.settlements_nodup
  settlements_below q member := by
    rw [kept.settlements] at member
    rw [kept.nextSettRef]
    exact reg.settlements_below q member
  index_sound k q indexed := by
    rw [kept.settlementIndex] at indexed
    rw [kept.settlements, kept.settlementID]
    exact reg.index_sound k q indexed
  index_complete q member := by
    rw [kept.settlements] at member
    rw [kept.settlementIndex, kept.settlementID]
    exact reg.index_complete q member
  home_indexed p member alive := by
    rw [kept.home, kept.settlementIndex]
    exact reg.home_indexed p (kept.agents.mem_iff.mp member) (kept.alive p alive)

theorem Listed.settled (m : s.Listed) (kept : Settled s t) : t.Listed where
  listed_agents k p listed := by
    rw [kept.settlementAgents] at listed
    exact kept.agents.mem_iff.mpr (m.listed_agents k p listed)
  exact k p := by
    simp only [mem_aliveListed, mem_residents, kept.settlementAgents, kept.home,
      kept.agents.mem_iff]
    constructor
    · rintro ⟨listed, alive⟩
      have resident := mem_residents.mp ((m.exact k p).mp
        (mem_aliveListed.mpr ⟨listed, kept.alive p alive⟩))
      exact ⟨resident.1, alive, resident.2.2⟩
    · rintro ⟨member, alive, home⟩
      have listed := (m.exact k p).mpr (mem_residents.mpr ⟨member, kept.alive p alive, home⟩)
      exact ⟨(mem_aliveListed.mp listed).1, alive⟩
  listed_once k := by
    -- the alive members of the same list can only have become fewer
    refine (m.listed_once k).sublist ?_
    unfold aliveListed
    rw [kept.settlementAgents]
    exact List.monotone_filter_right _ fun p alive => kept.alive p alive

/-- The lists read only `Agents`, the agent records and `SettlementAgents`. -/
theorem Listed.congr (listed : s.Listed) (agents : t.agents = s.agents) (agentAt : t.agentAt = s.agentAt)
    (lists : t.settlementAgents = s.settlementAgents) : t.Listed := by
  have sameAlive : t.aliveListed = s.aliveListed := by
    funext k; simp only [aliveListed, agentAt, lists]
  have sameResidents : t.residents = s.residents := by
    funext k; simp only [residents, agentAt, agents]
  refine ⟨?_, ?_, ?_⟩
  · intro k p member
    rw [lists] at member
    exact agents ▸ listed.listed_agents k p member
  · rw [sameAlive, sameResidents]
    exact listed.exact
  · rw [sameAlive]
    exact listed.listed_once

theorem Membership.settled (m : s.Membership) (kept : Settled s t) : t.Membership where
  toRegistered := m.toRegistered.settled kept
  toListed := m.toListed.settled kept
  covered q member := by
    rw [kept.settlements] at member
    rw [kept.settlementID, kept.population]
    exact (kept.residents_sublist _).length_le.trans (m.covered q member)

end Settled

/-! ## The rebuild -/

/-- The populations loop writes each listed settlement with the count of its
list's alive agents (a settlement listed twice gets the same count twice);
nothing else changes. -/
theorem updateSettlementPopulations_eq {s : Simulation} :
    s.updateSettlementPopulations =
      { s with settlementAt := fun q =>
          if q ∈ s.settlements then
            { s.settlementAt q with population := (s.aliveListed (s.settlementAt q).id).length }
          else s.settlementAt q } := by
  -- the counts read only the lists and the agents, which the loop leaves alone
  suffices loop : ∀ (pending : List SettRef) (t : Simulation),
      t.settlementAgents = s.settlementAgents → t.agentAt = s.agentAt →
      pending.foldl (fun t q => t.modifySettlement q fun sett =>
          { sett with population := (t.aliveListed sett.id).length }) t =
        { t with settlementAt := fun q =>
            if q ∈ pending then
              { t.settlementAt q with population := (s.aliveListed (t.settlementAt q).id).length }
            else t.settlementAt q } from
    loop s.settlements s rfl rfl
  intro pending
  induction pending with
  | nil => intro t _ _; simp
  | cons q rest ih =>
    intro t lists agents
    rw [List.foldl_cons, ih _ (by simpa using lists) (by simpa using agents)]
    have same : t.aliveListed = s.aliveListed := by
      funext k; simp [aliveListed, lists, agents]
    simp only [modifySettlement, same]
    congr 1
    funext q'
    by_cases here : q' = q
    · -- a later write of the same settlement stores the same count again
      subst here
      by_cases again : q' ∈ rest <;> simp [again]
    · simp [here]

/-- The rebuild installs the residents as the lists, and every listed
settlement's population as its number of residents. -/
theorem rebuildSettlementAgents_eq {s : Simulation} :
    s.rebuildSettlementAgents =
      { s with
        settlementAgents := s.residents
        settlementAt := fun q =>
          if q ∈ s.settlements then
            { s.settlementAt q with population := (s.residents (s.settlementAt q).id).length }
          else s.settlementAt q } := by
  have allAlive : ∀ k, (s.residents k).filter (fun p => (s.agentAt p).alive) = s.residents k := by
    intro k
    rw [List.filter_eq_self]
    intro p resident
    exact (mem_residents.mp resident).2.1
  change updateSettlementPopulations { s with settlementAgents := s.residents } = _
  rw [updateSettlementPopulations_eq]
  simp only [aliveListed, allAlive]

/-- From `Registered` alone, the rebuild makes the membership exact. -/
theorem Registered.rebuildSettlementAgents {s : Simulation} (reg : s.Registered) :
    s.rebuildSettlementAgents.Membership := by
  rw [rebuildSettlementAgents_eq]
  have sameId : ∀ q, ((if q ∈ s.settlements then
      { s.settlementAt q with population := (s.residents (s.settlementAt q).id).length }
      else s.settlementAt q)).id = (s.settlementAt q).id := by
    intro q; split <;> rfl
  refine ⟨⟨reg.agents_nodup, reg.agents_below, reg.ids_distinct, reg.ids_fresh,
    reg.settlements_nodup, reg.settlements_below, ?_, ?_, reg.home_indexed⟩, ⟨?_, ?_, ?_⟩, ?_⟩
  · intro k q indexed
    simp only [sameId]
    exact reg.index_sound k q indexed
  · intro q member
    simp only [sameId]
    exact reg.index_complete q member
  · intro k p listed
    exact (mem_residents.mp listed).1
  · intro k p
    simp only [mem_aliveListed, mem_residents]
    constructor
    · rintro ⟨resident, _⟩
      exact resident
    · intro resident
      exact ⟨resident, resident.2.1⟩
  · intro k
    exact (reg.residents_nodup k).filter _
  · intro q member
    simp only [member, if_true]
    exact le_refl _

/-! ## Moving homes -/

section Moves

variable {s t : Simulation}

theorem moveHome_agentAt (k : ℕ) (s : Simulation) (p p' : AgentRef) :
    (s.moveHome k p).agentAt p' =
      if p' = p then { s.agentAt p with homeSettID := some k } else s.agentAt p' :=
  modifyAgent_agentAt s p _ p'

@[simp] theorem moveHome_settlements (k : ℕ) (s : Simulation) (p : AgentRef) :
    (s.moveHome k p).settlements = s.settlements := rfl

/-- Moving an agent to a key of `SettlementIndex` keeps the registration. -/
theorem Registered.moveHome (reg : s.Registered) {k : ℕ} (indexed : ∃ q, s.settlementIndex k = some q)
    (p : AgentRef) : (s.moveHome k p).Registered := by
  have sameId : ∀ p', ((s.moveHome k p).agentAt p').id = (s.agentAt p').id := by
    intro p'; rw [moveHome_agentAt]; split_ifs with here <;> simp [here]
  have sameAlive : ∀ p', ((s.moveHome k p).agentAt p').alive = (s.agentAt p').alive := by
    intro p'; rw [moveHome_agentAt]; split_ifs with here <;> simp [here]
  refine ⟨reg.agents_nodup, reg.agents_below, ?_, ?_, reg.settlements_nodup, reg.settlements_below,
    reg.index_sound, reg.index_complete, ?_⟩
  · intro p₁ member₁ p₂ member₂ same
    rw [sameId, sameId] at same
    exact reg.ids_distinct p₁ member₁ p₂ member₂ same
  · intro sp spawned p' member
    rw [sameId]
    exact reg.ids_fresh sp spawned p' member
  · intro p' member alive
    rw [sameAlive] at alive
    by_cases here : p' = p
    · -- the moved agent's new home is the indexed key
      obtain ⟨q, found⟩ := indexed
      exact ⟨k, q, by simp [moveHome_agentAt, here], found⟩
    · rw [moveHome_agentAt, if_neg here]
      exact reg.home_indexed p' member alive

/-- A home-moving loop in progress from `start`: every state is registered and
has the settlements of `start`, and until `moved` holds nothing but settled
changes have been made. -/
structure Migrating (start now : Simulation) (moved : Prop) : Prop where
  registered : now.Registered
  settlements : now.settlements = start.settlements
  settled : ¬moved → Settled start now

theorem Migrating.refl (reg : s.Registered) (moved : Prop) : Migrating s s moved :=
  ⟨reg, rfl, fun _ => Settled.refl s⟩

/-- A move to a settlement of `start` is a move to a key of the index. -/
theorem Migrating.move {moved : Prop} (migrating : Migrating s t moved) {target : SettRef}
    (listed : target ∈ s.settlements) (p : AgentRef) {moved' : Prop} (now : moved') :
    Migrating s (t.moveHome (t.settlementAt target).id p) moved' :=
  ⟨migrating.registered.moveHome (migrating.registered.indexed (migrating.settlements ▸ listed)) p,
    migrating.settlements, fun notMoved => absurd now notMoved⟩

theorem Migrating.registry {moved : Prop} (migrating : Migrating s t moved) (registry : Registry) :
    Migrating s { t with registry := registry } moved :=
  ⟨migrating.registered.settled (settled_registry t registry), migrating.settlements,
    fun notMoved => (migrating.settled notMoved).trans (settled_registry t registry)⟩

/-- A loop that has moved someone ends by rebuilding the lists; one that has
not leaves them exact. -/
theorem Migrating.membership {moved : Prop} [Decidable moved] (migrating : Migrating s t moved)
    (m : s.Membership) : (if moved then t.rebuildSettlementAgents else t).Membership := by
  split
  · exact migrating.registered.rebuildSettlementAgents
  · exact m.settled (migrating.settled ‹_›)

end Moves

/-! ## Arrivals -/

section Arrivals

variable {s t u : Simulation} {a : Agent}

theorem appendAgent_agentAt (a : Agent) (s : Simulation) (p : AgentRef) :
    (s.appendAgent a).agentAt p = if p = s.nextAgentRef then a else s.agentAt p := by
  simp [appendAgent, Function.update_apply]

@[simp] theorem appendAgent_agents (a : Agent) (s : Simulation) :
    (s.appendAgent a).agents = s.agents ++ [s.nextAgentRef] := rfl

theorem appendAgent_settlementAgents (a : Agent) (s : Simulation) (k : ℕ) :
    (s.appendAgent a).settlementAgents k =
      if a.homeSettID = some k then s.settlementAgents k ++ [s.nextAgentRef]
      else s.settlementAgents k := by
  unfold appendAgent
  cases home : a.homeSettID with
  | none => simp
  | some k' =>
    by_cases same : k = k'
    · subst same; simp
    · simp [Function.update_of_ne same, Ne.symm same]

theorem Registered.agentAt_appendAgent (reg : s.Registered) {p : AgentRef} (member : p ∈ s.agents) :
    (s.appendAgent a).agentAt p = s.agentAt p := by
  rw [Simulation.appendAgent_agentAt, if_neg (reg.agents_below p member).ne]

theorem Registered.appendAgent_residents (reg : s.Registered) (k : ℕ) :
    (s.appendAgent a).residents k =
      s.residents k ++ if a.alive = true ∧ a.homeSettID = some k then [s.nextAgentRef] else [] := by
  unfold residents
  rw [appendAgent_agents, List.filter_append]
  congr 1
  · apply List.filter_congr
    intro p member
    rw [reg.agentAt_appendAgent member]
  · simp only [Simulation.appendAgent_agentAt, if_true, List.filter_cons, List.filter_nil]
    split_ifs <;> simp_all

theorem Listed.appendAgent_aliveListed (reg : s.Registered) (listed : s.Listed)
    (alive : a.alive = true) (k : ℕ) :
    (s.appendAgent a).aliveListed k =
      s.aliveListed k ++ if a.homeSettID = some k then [s.nextAgentRef] else [] := by
  have old : ∀ p ∈ s.settlementAgents k, ((s.appendAgent a).agentAt p).alive = (s.agentAt p).alive :=
    fun p member => by rw [reg.agentAt_appendAgent (listed.listed_agents k p member)]
  unfold aliveListed
  rw [appendAgent_settlementAgents]
  split
  · rw [List.filter_append, List.filter_congr old]
    simp [Simulation.appendAgent_agentAt, alive]
  · rw [List.filter_congr old, List.append_nil]

theorem Registered.appendAgent (reg : s.Registered)
    (homed : a.alive = true → ∃ k q, a.homeSettID = some k ∧ s.settlementIndex k = some q)
    (fresh : ∀ p ∈ s.agents, (s.agentAt p).id ≠ a.id)
    (issued : ∀ sp, s.spawner = some sp → a.id < sp.nextID) : (s.appendAgent a).Registered := by
  have newRef : s.nextAgentRef ∉ s.agents := fun member => (reg.agents_below _ member).false
  have cases : ∀ p ∈ (s.appendAgent a).agents,
      (p ∈ s.agents ∧ (s.appendAgent a).agentAt p = s.agentAt p) ∨
        (p = s.nextAgentRef ∧ (s.appendAgent a).agentAt p = a) := by
    intro p member
    rcases List.mem_append.mp member with old | new
    · exact .inl ⟨old, reg.agentAt_appendAgent old⟩
    · rw [List.mem_singleton] at new
      subst new
      exact .inr ⟨rfl, by simp [Simulation.appendAgent_agentAt]⟩
  refine ⟨?_, ?_, ?_, ?_, reg.settlements_nodup, reg.settlements_below, reg.index_sound,
    reg.index_complete, ?_⟩
  · exact reg.agents_nodup.append (List.nodup_singleton _) (List.disjoint_singleton.mpr newRef)
  · intro p member
    rcases List.mem_append.mp member with old | new
    · exact (reg.agents_below p old).trans (Nat.lt_succ_self _)
    · rw [List.mem_singleton] at new
      exact new ▸ Nat.lt_succ_self _
  · intro p₁ member₁ p₂ member₂ same
    rcases cases p₁ member₁ with ⟨old₁, at₁⟩ | ⟨rfl, at₁⟩ <;>
      rcases cases p₂ member₂ with ⟨old₂, at₂⟩ | ⟨rfl, at₂⟩
    · rw [at₁, at₂] at same
      exact reg.ids_distinct p₁ old₁ p₂ old₂ same
    · rw [at₁, at₂] at same
      exact absurd same (fresh p₁ old₁)
    · rw [at₁, at₂] at same
      exact absurd same.symm (fresh p₂ old₂)
    · rfl
  · intro sp spawned p member
    rcases cases p member with ⟨old, atP⟩ | ⟨_, atP⟩ <;> rw [atP]
    · exact reg.ids_fresh sp spawned p old
    · exact issued sp spawned
  · intro p member alive
    rcases cases p member with ⟨old, atP⟩ | ⟨_, atP⟩ <;> rw [atP] at alive ⊢
    · exact reg.home_indexed p old alive
    · exact homed alive

theorem Listed.appendAgent (reg : s.Registered) (listed : s.Listed) (alive : a.alive = true) :
    (s.appendAgent a).Listed := by
  have newRef : s.nextAgentRef ∉ s.agents := fun member => (reg.agents_below _ member).false
  refine ⟨?_, ?_, ?_⟩
  · intro k p member
    rw [appendAgent_settlementAgents] at member
    split at member
    · rcases List.mem_append.mp member with old | new
      · exact List.mem_append_left _ (listed.listed_agents k p old)
      · exact List.mem_append_right _ new
    · exact List.mem_append_left _ (listed.listed_agents k p member)
  · intro k p
    simp only [listed.appendAgent_aliveListed reg alive, reg.appendAgent_residents, alive, true_and,
      List.mem_append, listed.exact k p]
  · intro k
    rw [listed.appendAgent_aliveListed reg alive]
    refine (listed.listed_once k).append (by split <;> simp) ?_
    split
    · refine List.disjoint_singleton.mpr fun member => newRef ?_
      exact listed.listed_agents k _ (mem_aliveListed.mp member).1
    · exact List.disjoint_nil_right _

/-- `after` is `before` with `count` alive agents registered at home `k`: the
index stays registered and exact, the settlements are untouched, and only `k`
has more residents, by `count`. -/
structure Admitted (before after : Simulation) (k count : ℕ) : Prop where
  registered : after.Registered
  listed : after.Listed
  settlements : after.settlements = before.settlements
  settlementAt : after.settlementAt = before.settlementAt
  others : ∀ k', k' ≠ k → (after.residents k').length = (before.residents k').length
  residents : (after.residents k).length = (before.residents k).length + count

theorem Admitted.refl (reg : s.Registered) (listed : s.Listed) (k : ℕ) : Admitted s s k 0 :=
  ⟨reg, listed, rfl, rfl, fun _ _ => rfl, rfl⟩

theorem Admitted.trans {k m n : ℕ} (first : Admitted s t k m) (second : Admitted t u k n) :
    Admitted s u k (m + n) :=
  ⟨second.registered, second.listed, second.settlements.trans first.settlements,
    second.settlementAt.trans first.settlementAt,
    fun k' other => (second.others k' other).trans (first.others k' other),
    by rw [second.residents, first.residents, Nat.add_assoc]⟩

theorem Admitted.registry {k n : ℕ} (admitted : Admitted s t k n) (registry : Registry) :
    Admitted s { t with registry := registry } k n :=
  ⟨admitted.registered.settled (settled_registry t registry),
    admitted.listed.settled (settled_registry t registry), admitted.settlements,
    admitted.settlementAt, admitted.others, admitted.residents⟩

/-- One alive newcomer with a fresh ID and an indexed home. -/
theorem admitted_appendAgent (reg : s.Registered) (listed : s.Listed) {k : ℕ}
    (alive : a.alive = true) (home : a.homeSettID = some k)
    (indexed : ∃ q, s.settlementIndex k = some q)
    (fresh : ∀ p ∈ s.agents, (s.agentAt p).id ≠ a.id)
    (issued : ∀ sp, s.spawner = some sp → a.id < sp.nextID) :
    Admitted s (s.appendAgent a) k 1 := by
  refine ⟨reg.appendAgent (fun _ => ⟨k, indexed.choose, home, indexed.choose_spec⟩) fresh issued,
    listed.appendAgent reg alive, rfl, rfl, ?_, ?_⟩
  · intro k' other
    rw [reg.appendAgent_residents, home, alive]
    simp [Ne.symm other]
  · rw [reg.appendAgent_residents, home, alive]
    simp

/-- `enter` registers an agent by `appendAgent`, after changing at most what
neither the index nor the IDs read (`addAgent` assigns a faction). -/
def Admits (enter : Simulation → Agent → Simulation) : Prop :=
  ∀ t a, ∃ a', enter t a = t.appendAgent a' ∧ a'.id = a.id ∧ a'.alive = a.alive ∧
    a'.homeSettID = a.homeSettID

theorem admits_appendAgent : Admits fun t a => t.appendAgent a :=
  fun _ a => ⟨a, rfl, rfl, rfl, rfl⟩

theorem admits_addAgent (factionFor : Agent → GovernanceType → ℕ) :
    Admits fun t a => t.addAgent factionFor a := by
  intro t a
  refine ⟨_, rfl, ?_, ?_, ?_⟩ <;> split_ifs <;> rfl

/-- A loop admitting newcomers with the consecutive IDs `base, base + 1, …`,
all alive at home `k`, into a state whose IDs are below `base`, under a
spawner that has issued them all. -/
theorem admitted_foldl {enter : Simulation → Agent → Simulation} (admits : Admits enter) {k : ℕ} :
    ∀ (newcomers : List Agent) (base : ℕ) (t : Simulation), t.Registered → t.Listed →
      newcomers.map Agent.id = List.range' base newcomers.length →
      (∀ a ∈ newcomers, a.alive = true ∧ a.homeSettID = some k) →
      (∃ q, t.settlementIndex k = some q) →
      (∀ p ∈ t.agents, (t.agentAt p).id < base) →
      (∀ sp, t.spawner = some sp → base + newcomers.length ≤ sp.nextID) →
      Admitted t (newcomers.foldl enter t) k newcomers.length
  | [], _, t, reg, listed, _, _, _, _, _ => Admitted.refl reg listed k
  | a :: rest, base, t, reg, listed, ids, homes, indexed, below, issued => by
    obtain ⟨a', admitted, sameId, sameAlive, sameHome⟩ := admits t a
    simp only [List.map_cons, List.length_cons, List.range'_succ, List.cons.injEq] at ids
    have first : Admitted t (enter t a) k 1 := by
      rw [admitted]
      refine admitted_appendAgent reg listed ((homes a List.mem_cons_self).1 ▸ sameAlive)
        ((homes a List.mem_cons_self).2 ▸ sameHome) indexed ?_ ?_
      · intro p member
        rw [sameId, ids.1]
        exact (below p member).ne
      · intro sp spawned
        have enough := issued sp spawned
        simp only [List.length_cons] at enough
        have issuedBase : base < sp.nextID := by omega
        rw [sameId, ids.1]
        exact issuedBase
    have later := admitted_foldl admits rest (base + 1) (enter t a) first.registered first.listed
      ids.2 (fun b member => homes b (List.mem_cons_of_mem a member))
      (by rw [admitted]; exact indexed) ?_ ?_
    · rw [List.foldl_cons, List.length_cons, Nat.add_comm]
      exact first.trans later
    · intro p member
      rw [admitted] at member ⊢
      rcases List.mem_append.mp member with old | new
      · rw [reg.agentAt_appendAgent old]
        exact (below p old).trans (Nat.lt_succ_self _)
      · rw [List.mem_singleton] at new
        subst new
        simp [Simulation.appendAgent_agentAt, sameId, ids.1]
    · intro sp spawned
      rw [admitted] at spawned
      have := issued sp spawned
      simp only [List.length_cons] at this
      omega

/-- What the spawner's loop of `SpawnPopulation` hands out: one alive agent per
draw, at home `k`, with the IDs from the spawner's next on, and the spawner
moved past them. -/
theorem spawnPopulation_spec (sp : Spawner) (draws : List Agent) (k : ℕ) :
    (sp.spawnPopulation draws k).2 = ⟨sp.nextID + draws.length⟩ ∧
      (sp.spawnPopulation draws k).1.map Agent.id = List.range' sp.nextID draws.length ∧
      (∀ a ∈ (sp.spawnPopulation draws k).1, a.alive = true ∧ a.homeSettID = some k) := by
  -- the loop from any list already spawned
  suffices loop : ∀ (draws : List Agent) (spawned : List Agent) (sp : Spawner),
      ∃ fresh, draws.foldl (fun (acc : List Agent × Spawner) traits =>
          (acc.1 ++ [(acc.2.spawnOne traits k).1], (acc.2.spawnOne traits k).2)) (spawned, sp) =
        (spawned ++ fresh, ⟨sp.nextID + draws.length⟩) ∧
        fresh.map Agent.id = List.range' sp.nextID draws.length ∧
        ∀ a ∈ fresh, a.alive = true ∧ a.homeSettID = some k by
    obtain ⟨fresh, run, ids, homes⟩ := loop draws [] sp
    unfold Spawner.spawnPopulation
    rw [run]
    exact ⟨rfl, ids, homes⟩
  intro draws
  induction draws with
  | nil => intro spawned sp; exact ⟨[], by simp, rfl, by simp⟩
  | cons traits rest ih =>
    intro spawned sp
    obtain ⟨fresh, run, ids, homes⟩ := ih (spawned ++ [(sp.spawnOne traits k).1])
      (sp.spawnOne traits k).2
    refine ⟨(sp.spawnOne traits k).1 :: fresh, ?_, ?_, ?_⟩
    · rw [List.foldl_cons, run]
      simp [Spawner.spawnOne, Nat.add_assoc, Nat.add_comm 1]
    · simp only [List.map_cons, ids, List.length_cons, List.range'_succ]
      rfl
    · intro a member
      rcases List.mem_cons.mp member with rfl | later
      · exact ⟨rfl, rfl⟩
      · exact homes a later

/-- The spawner moved forward keeps the IDs fresh. -/
theorem Registered.withSpawner (reg : s.Registered) {sp : Spawner} (current : s.spawner = some sp)
    (sp' : Spawner) (grows : sp.nextID ≤ sp'.nextID) : ({ s with spawner := some sp' } : Simulation).Registered := by
  refine ⟨reg.agents_nodup, reg.agents_below, reg.ids_distinct, ?_, reg.settlements_nodup,
    reg.settlements_below, reg.index_sound, reg.index_complete, reg.home_indexed⟩
  intro sp'' spawned p member
  cases spawned
  exact (reg.ids_fresh sp current p member).trans_le grows

/-- A population write that keeps the settlement's `ID` keeps the registration. -/
theorem Registered.modifySettlement (reg : s.Registered) (q : SettRef) {change : Settlement → Settlement}
    (keepsId : (change (s.settlementAt q)).id = (s.settlementAt q).id) :
    (s.modifySettlement q change).Registered := by
  have sameId : ∀ q', ((s.modifySettlement q change).settlementAt q').id = (s.settlementAt q').id := by
    intro q'
    by_cases hq : q' = q
    · subst hq; simp [modifySettlement_settlementAt_apply, keepsId]
    · simp [modifySettlement_settlementAt_apply, hq]
  refine ⟨reg.agents_nodup, reg.agents_below, reg.ids_distinct, reg.ids_fresh, reg.settlements_nodup,
    reg.settlements_below, ?_, ?_, reg.home_indexed⟩
  · intro k q' indexed
    rw [sameId]
    exact reg.index_sound k q' indexed
  · intro q' member
    rw [modifySettlement_settlementIndex, sameId]
    exact reg.index_complete q' member

theorem Listed.modifySettlement (listed : s.Listed) (q : SettRef) (change : Settlement → Settlement) :
    (s.modifySettlement q change).Listed :=
  ⟨listed.listed_agents, listed.exact, listed.listed_once⟩

/-- The arrivals end by writing the home's population: enough of it to cover
its residents, old and new, makes the membership whole again. -/
theorem Admitted.membership {k n : ℕ} (admitted : Admitted s t k n) (m : s.Membership) {q : SettRef}
    (listed : q ∈ s.settlements) (home : (s.settlementAt q).id = k) {change : Settlement → Settlement}
    (keepsId : (change (t.settlementAt q)).id = (t.settlementAt q).id)
    (enough : (s.residents k).length + n ≤ (change (t.settlementAt q)).population) :
    (t.modifySettlement q change).Membership := by
  refine ⟨admitted.registered.modifySettlement q keepsId, admitted.listed.modifySettlement q change, ?_⟩
  intro q' member
  rw [modifySettlement_settlements, admitted.settlements] at member
  rw [modifySettlement_settlementAt_apply]
  split
  · -- the home: its residents grew by the newcomers
    rename_i here
    subst here
    rw [residents_modifySettlement, keepsId, admitted.settlementAt, home, admitted.residents]
    rw [admitted.settlementAt] at enough
    exact enough
  · rename_i other
    have otherID : (s.settlementAt q').id ≠ k := fun same =>
      other (m.settlement_eq_of_id member listed (same.trans home.symm))
    rw [residents_modifySettlement, admitted.settlementAt, admitted.others _ otherID]
    exact m.covered q' member

/-- A birth at a listed settlement keeps the membership exact. -/
theorem Membership.bearChild (m : s.Membership) (factionFor : Agent → GovernanceType → ℕ)
    (traits : Agent) {q : SettRef} (listed : q ∈ s.settlements) :
    (bearChild factionFor traits q s).Membership := by
  unfold Simulation.bearChild
  cases spawned : s.spawner with
  | none => exact m
  | some sp =>
    dsimp only
    have started := m.toRegistered.withSpawner spawned
      (sp.spawnChild traits (s.settlementAt q).id).2 (Nat.le_succ sp.nextID)
    obtain ⟨child, added, sameId, sameAlive, sameHome⟩ := admits_addAgent factionFor
      { s with spawner := some (sp.spawnChild traits (s.settlementAt q).id).2 }
      (sp.spawnChild traits (s.settlementAt q).id).1
    beta_reduce at added
    have admitted : Admitted s
        ({ s with spawner := some (sp.spawnChild traits (s.settlementAt q).id).2 }.addAgent
          factionFor (sp.spawnChild traits (s.settlementAt q).id).1) (s.settlementAt q).id 1 := by
      rw [added]
      have one := admitted_appendAgent started (m.toListed.congr rfl rfl rfl) (show child.alive = true from sameAlive)
        (show child.homeSettID = some (s.settlementAt q).id from sameHome) (m.indexed listed)
        (fun p member => by rw [sameId]; exact (m.ids_fresh sp spawned p member).ne)
        (fun sp' current => by
          cases current; rw [sameId]; exact Nat.lt_succ_self _)
      exact ⟨one.registered, one.listed, one.settlements, one.settlementAt, one.others,
        one.residents⟩
    have enough := Nat.add_le_add_right (m.covered q listed) 1
    rw [← admitted.settlementAt] at enough
    exact (admitted.registry _).membership m listed rfl rfl enough

/-- The spawner's newcomers for a listed settlement, admitted one by one after
the spawner has moved past them. -/
theorem Membership.admitted_spawnPopulation (m : s.Membership) {enter : Simulation → Agent → Simulation}
    (admits : Admits enter) {sp : Spawner} (spawned : s.spawner = some sp) (draws : List Agent)
    {q : SettRef} (listed : q ∈ s.settlements) :
    Admitted s ((sp.spawnPopulation draws (s.settlementAt q).id).1.foldl enter
        { s with spawner := some (sp.spawnPopulation draws (s.settlementAt q).id).2 })
      (s.settlementAt q).id draws.length := by
  obtain ⟨next, ids, homes⟩ := spawnPopulation_spec sp draws (s.settlementAt q).id
  have count : (sp.spawnPopulation draws (s.settlementAt q).id).1.length = draws.length := by
    rw [← List.length_map Agent.id, ids, List.length_range']
  have started := m.toRegistered.withSpawner spawned (sp.spawnPopulation draws (s.settlementAt q).id).2
    (by rw [next]; exact Nat.le_add_right _ _)
  have admitted := admitted_foldl admits _ sp.nextID _ started (m.toListed.congr rfl rfl rfl)
    (by rw [count]; exact ids) homes (m.indexed listed) (fun p member => m.ids_fresh sp spawned p member)
    (fun sp' current => by cases current; rw [next, count])
  rw [count] at admitted
  exact ⟨admitted.registered, admitted.listed, admitted.settlements, admitted.settlementAt,
    admitted.others, admitted.residents⟩

/-- The refugees of `processAntiCollapse` at a listed settlement keep the
membership exact: the population is set to the alive listed, who are the
residents, plus the newcomers. -/
theorem Membership.admitRefugees (m : s.Membership) (factionFor : Agent → GovernanceType → ℕ)
    (draws : List Agent) {q : SettRef} (listed : q ∈ s.settlements) :
    (admitRefugees factionFor draws q s).Membership := by
  unfold Simulation.admitRefugees
  cases spawned : s.spawner with
  | none => exact m
  | some sp =>
    dsimp only
    have admitted := m.admitted_spawnPopulation (admits_addAgent factionFor) spawned draws listed
    refine admitted.membership m listed rfl rfl ?_
    rw [m.aliveListed_length]

/-- The admin spawn keeps the membership exact. -/
theorem Membership.spawnImmigrants (m : s.Membership) (name : String) (draws : List Agent) :
    (spawnImmigrants name draws s).Membership := by
  unfold Simulation.spawnImmigrants
  split
  · rename_i found sp located spawned
    have listed := findSettlementByName_mem located
    have admitted := m.admitted_spawnPopulation admits_appendAgent spawned draws listed
    refine admitted.membership m listed rfl rfl ?_
    dsimp only
    rw [admitted.settlementAt]
    exact Nat.add_le_add_right (m.covered found listed) draws.length
  · exact m

end Arrivals

/-! ## Compacting the dead -/

/-- `compactDeadAgents` keeps the membership exact: the alive keep their
records, and the rebuild lists them. -/
theorem Membership.compactDeadAgents {s : Simulation} (m : s.Membership) :
    s.compactDeadAgents.Membership := by
  unfold Simulation.compactDeadAgents
  dsimp only
  split
  · exact m
  · apply Registered.rebuildSettlementAgents
    -- relationships are pruned without touching an ID, a home or a flag
    refine Registered.settled ?_ (settled_foldl _ (fun t p => settled_modifyAgent t p rfl rfl id) _ _)
    have kept : ∀ p ∈ s.agents.filter (fun p => (s.agentAt p).alive), p ∈ s.agents :=
      fun p member => List.mem_of_mem_filter member
    refine ⟨m.agents_nodup.filter _, fun p member => m.agents_below p (kept p member), ?_, ?_,
      m.settlements_nodup, m.settlements_below, m.index_sound, m.index_complete, ?_⟩
    · intro p₁ member₁ p₂ member₂ same
      exact m.ids_distinct p₁ (kept p₁ member₁) p₂ (kept p₂ member₂) same
    · intro sp spawned p member
      exact m.ids_fresh sp spawned p (kept p member)
    · intro p member alive
      exact m.home_indexed p (kept p member) alive

end Simulation

end MiniWorld.Engine
