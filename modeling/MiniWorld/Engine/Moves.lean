import MiniWorld.Engine.Residents
import MiniWorld.Index.Members

/-! # Every path that moves homes or settlements keeps the index exact

The paths of `Migration` in three groups:

* the rebuilding migrations (`processViabilityCheck`,
  `processSeasonalMigration`, `processResourceMigration`, the Tier-2
  `relocate`, the oracle's `guideMigration` and `ConsolidateSettlement`) move
  agents only to settlements of `Settlements`, so they stay `Migrating`, and
  end with a rebuild exactly when someone moved;
* the overmass diaspora updates the lists by hand: the emigrants, distinct
  alive residents of the source, leave its list by ID and join the cascade
  target's list or a founded settlement's new one, and the populations move
  with them (`Membership.cascadeMigrate`, `Membership.foundDaughter`);
* abandonment zeroes the population of a settlement with no one alive, and
  compaction drops settlements of population zero, who have no residents left
  to be stranded.
-/

namespace MiniWorld.Engine

open MiniWorld.Agents MiniWorld.Index MiniWorld.Run

namespace Simulation

/-! ## Where the moves go -/

section Targets

variable {s : Simulation}

/-- The nearest-settlement scan finds a listed settlement. -/
theorem nearestSettlement_mem {source : Settlement} {maxDist bestDist : ℕ}
    {eligible : Settlement → Bool} {q : SettRef}
    (found : s.nearestSettlement source maxDist bestDist eligible = some q) : q ∈ s.settlements := by
  refine foldl_invariant (fun best : Option SettRef × ℕ => ∀ q, best.1 = some q → q ∈ s.settlements)
    _ s.settlements _ ?_ ?_ q found
  · intro q' member best holds
    dsimp only
    split_ifs
    · exact holds
    · intro r picked
      cases picked
      exact member
    · exact holds
  · intro r picked
    cases picked

theorem findNearestViableSettlement_mem {source : Settlement} {maxDist : ℕ} {q : SettRef}
    (found : s.findNearestViableSettlement source maxDist = some q) : q ∈ s.settlements :=
  nearestSettlement_mem found

theorem findResourceSettlement_mem {resourcesAt : HexCoord → Resource → ℚ} {source : Settlement}
    {res : Resource} {maxDist : ℕ} {q : SettRef}
    (found : s.findResourceSettlement resourcesAt source res maxDist = some q) :
    q ∈ s.settlements :=
  nearestSettlement_mem found

end Targets

/-! ## The migrations that rebuild -/

section Rebuilding

variable {s : Simulation}

theorem Migrating.viabilityCheck {acc : Simulation × Bool} (migrating : Migrating s acc.1 (acc.2 = true))
    (q : SettRef) : Migrating s (viabilityCheck acc q).1 ((viabilityCheck acc q).2 = true) := by
  unfold Simulation.viabilityCheck
  dsimp only
  split_ifs
  · -- a second non-viable week with someone alive: the alive listed move
    have counted := migrating.registry
      { acc.1.registry with
        nonViableWeeks := acc.1.registry.nonViableWeeks.insert (acc.1.settlementAt q).id
          ((acc.1.registry.nonViableWeeks.lookup (acc.1.settlementAt q).id).getD 0 + 1) }
    split
    · exact counted
    · rename_i target found
      have listed : target ∈ s.settlements := by
        rw [← migrating.settlements]
        exact findNearestViableSettlement_mem found
      refine foldl_invariant (fun acc : Simulation × Bool => Migrating s acc.1 (acc.2 = true)) _ _ _
        ?_ counted
      intro p _ acc' moving
      split
      · exact moving.move listed p rfl
      · exact moving
  · exact migrating.registry _
  · exact migrating.registry _

theorem Membership.processViabilityCheck (m : s.Membership) : s.processViabilityCheck.Membership := by
  unfold Simulation.processViabilityCheck
  refine Migrating.membership ?_ m
  exact foldl_invariant (fun acc : Simulation × Bool => Migrating s acc.1 (acc.2 = true)) _ _ _
    (fun q _ acc moving => moving.viabilityCheck q) (Migrating.refl m.toRegistered _)

theorem Migrating.seasonalMigrants {acc : Simulation × Bool} (migrating : Migrating s acc.1 (acc.2 = true))
    {best : SettRef} (listed : best ∈ s.settlements) (wellbeing : Agent → Wellbeing) (aliveCount : ℕ)
    (sett : Settlement) (p : AgentRef) :
    Migrating s (seasonalMigrants wellbeing best aliveCount sett acc p).1
      ((seasonalMigrants wellbeing best aliveCount sett acc p).2 = true) := by
  unfold Simulation.seasonalMigrants
  dsimp only
  split_ifs
  · exact migrating
  · -- a tiny settlement's agents go to the nearest viable settlement, else to the best
    refine migrating.move ?_ p rfl
    cases found : acc.1.findNearestViableSettlement sett 5 with
    | none => exact listed
    | some target =>
      rw [← migrating.settlements]
      exact findNearestViableSettlement_mem found
  · exact migrating
  · exact migrating.move listed p rfl

theorem Membership.processSeasonalMigration (m : s.Membership) (capacityAt : HexCoord → ℚ)
    (wellbeing : Agent → Wellbeing) : (s.processSeasonalMigration capacityAt wellbeing).Membership := by
  unfold Simulation.processSeasonalMigration
  dsimp only
  split_ifs
  · exact m
  · split
    · exact m
    · rename_i best found
      have listed := (m.index_sound _ best found).1
      refine Migrating.membership ?_ m
      refine foldl_invariant (fun acc : Simulation × Bool => Migrating s acc.1 (acc.2 = true)) _ _ _
        ?_ (Migrating.refl m.toRegistered _)
      intro q _ acc moving
      split
      · exact moving
      · exact foldl_invariant (fun acc : Simulation × Bool => Migrating s acc.1 (acc.2 = true)) _ _ _
          (fun p _ acc' moving' => moving'.seasonalMigrants listed wellbeing _ _ p) moving

theorem Migrating.resourceMigrants {acc : Simulation × Bool × ℕ}
    (migrating : Migrating s acc.1 (acc.2.1 = true)) (resourcesAt : HexCoord → Resource → ℚ)
    (sett : Settlement) (maxMigrate : ℕ) (p : AgentRef) :
    Migrating s (resourceMigrants resourcesAt sett maxMigrate acc p).1
      ((resourceMigrants resourcesAt sett maxMigrate acc p).2.1 = true) := by
  unfold Simulation.resourceMigrants
  dsimp only
  split_ifs
  · exact migrating
  · split
    · exact migrating
    · split
      · exact migrating
      · rename_i target found
        refine migrating.move ?_ p rfl
        rw [← migrating.settlements]
        -- the nearest within five hexes, else within ten
        rcases Option.or_eq_some_iff.mp found with near | ⟨_, far⟩
        · exact findResourceSettlement_mem near
        · exact findResourceSettlement_mem far

theorem Migrating.resourceMigration {acc : Simulation × Bool} (migrating : Migrating s acc.1 (acc.2 = true))
    (resourcesAt : HexCoord → Resource → ℚ) (lastWorkTick : Agent → ℕ) (tick settID : ℕ) :
    Migrating s (resourceMigration resourcesAt lastWorkTick tick acc settID).1
      ((resourceMigration resourcesAt lastWorkTick tick acc settID).2 = true) := by
  unfold Simulation.resourceMigration
  dsimp only
  split
  · exact migrating
  · split_ifs
    · exact migrating
    -- at most a tenth of the producers, and at least one
    all_goals
      exact foldl_invariant (fun acc : Simulation × Bool × ℕ => Migrating s acc.1 (acc.2.1 = true))
        _ _ _ (fun p _ acc' moving => moving.resourceMigrants resourcesAt _ _ p) migrating

theorem Membership.processResourceMigration (m : s.Membership) (resourcesAt : HexCoord → Resource → ℚ)
    (lastWorkTick : Agent → ℕ) (keys : List ℕ) (tick : ℕ) :
    (s.processResourceMigration resourcesAt lastWorkTick keys tick).Membership := by
  unfold Simulation.processResourceMigration
  refine Migrating.membership ?_ m
  exact foldl_invariant (fun acc : Simulation × Bool => Migrating s acc.1 (acc.2 = true)) _ _ _
    (fun settID _ acc moving => moving.resourceMigration resourcesAt lastWorkTick tick settID)
    (Migrating.refl m.toRegistered _)

theorem Membership.relocate (m : s.Membership) (target : String) (p : AgentRef) :
    (s.relocate target p).Membership := by
  unfold Simulation.relocate
  split
  · exact m
  · rename_i q found
    exact (m.toRegistered.moveHome (m.indexed (findSettlementByName_mem found)) p).rebuildSettlementAgents

theorem Migrating.guideCandidate {acc : Simulation × ℕ} (migrating : Migrating s acc.1 (acc.2 > 0))
    {target : SettRef} (listed : target ∈ s.settlements) (wellbeing : Agent → Wellbeing)
    (oracleID : AgentID) (c : AgentRef) :
    Migrating s (guideCandidate wellbeing oracleID target acc c).1
      ((guideCandidate wellbeing oracleID target acc c).2 > 0) := by
  unfold Simulation.guideCandidate
  dsimp only
  split_ifs
  · exact migrating
  · exact migrating
  · exact migrating
  · exact migrating
  · exact migrating.move listed c (Nat.succ_pos _)

theorem Membership.guideMigration (m : s.Membership) (wellbeing : Agent → Wellbeing) (target : String)
    (oracle : AgentRef) : (s.guideMigration wellbeing target oracle).Membership := by
  unfold Simulation.guideMigration
  dsimp only
  split
  · exact m
  · split
    · exact m
    · rename_i t found
      refine Migrating.membership ?_ m
      exact foldl_invariant (fun acc : Simulation × ℕ => Migrating s acc.1 (acc.2 > 0)) _ _ _
        (fun c _ acc moving => moving.guideCandidate (findSettlementByName_mem found) wellbeing _ c)
        (Migrating.refl m.toRegistered _)

/-- `ConsolidateSettlement` succeeds only after moving someone, and then
rebuilds. -/
theorem Membership.consolidateSettlement (m : s.Membership) {name : String} {count : ℕ}
    {t : Simulation} (done : s.consolidateSettlement name count = .ok t) : t.Membership := by
  unfold Simulation.consolidateSettlement at done
  split at done
  · cases done
  · dsimp only at done
    split at done
    · cases done
    · rename_i target near
      have listed := nearestSettlement_mem near
      -- the error branch closes itself; the success branch rebuilds
      split_ifs at done
      · simp only [Except.ok.injEq] at done
        subst done
        apply Registered.rebuildSettlementAgents
        refine (foldl_invariant (fun acc : Simulation × ℕ => Migrating s acc.1 (acc.2 > 0)) _ _ _ ?_
          (Migrating.refl m.toRegistered _)).registered
        intro p _ acc moving
        split_ifs
        · exact moving
        · exact moving
        · exact moving.move listed p (Nat.succ_pos _)

end Rebuilding

/-! ## Moving a group of agents -/

section Moving

variable {s : Simulation}

/-- A loop of `moveHome` to one key rewrites the homes of the movers, and
nothing else. -/
theorem moveHomes_eq (k : ℕ) : ∀ (movers : List AgentRef) (s : Simulation),
    movers.foldl (moveHome k) s =
      { s with agentAt := fun p =>
          if p ∈ movers then { s.agentAt p with homeSettID := some k } else s.agentAt p } :=
  fun movers s => @foldl_modifyAgent (fun a => { a with homeSettID := some k }) (fun _ => rfl) movers s

@[simp] theorem moveHomes_agents (k : ℕ) (movers : List AgentRef) (s : Simulation) :
    (movers.foldl (moveHome k) s).agents = s.agents := by
  rw [moveHomes_eq]

@[simp] theorem moveHomes_settlements (k : ℕ) (movers : List AgentRef) (s : Simulation) :
    (movers.foldl (moveHome k) s).settlements = s.settlements := by
  rw [moveHomes_eq]

@[simp] theorem moveHomes_settlementAt (k : ℕ) (movers : List AgentRef) (s : Simulation) :
    (movers.foldl (moveHome k) s).settlementAt = s.settlementAt := by
  rw [moveHomes_eq]

@[simp] theorem moveHomes_settlementAgents (k : ℕ) (movers : List AgentRef) (s : Simulation) :
    (movers.foldl (moveHome k) s).settlementAgents = s.settlementAgents := by
  rw [moveHomes_eq]

theorem moveHomes_agentAt (k : ℕ) (movers : List AgentRef) (s : Simulation) (p : AgentRef) :
    (movers.foldl (moveHome k) s).agentAt p =
      if p ∈ movers then { s.agentAt p with homeSettID := some k } else s.agentAt p := by
  rw [moveHomes_eq]

@[simp] theorem moveHomes_id (k : ℕ) (movers : List AgentRef) (s : Simulation) (p : AgentRef) :
    ((movers.foldl (moveHome k) s).agentAt p).id = (s.agentAt p).id := by
  rw [moveHomes_agentAt]; split <;> rfl

@[simp] theorem moveHomes_alive (k : ℕ) (movers : List AgentRef) (s : Simulation) (p : AgentRef) :
    ((movers.foldl (moveHome k) s).agentAt p).alive = (s.agentAt p).alive := by
  rw [moveHomes_agentAt]; split <;> rfl

/-- Moving agents to a key of the index keeps the registration. -/
theorem Registered.moveHomes (reg : s.Registered) {k : ℕ} (indexed : ∃ q, s.settlementIndex k = some q)
    (movers : List AgentRef) : (movers.foldl (Simulation.moveHome k) s).Registered := by
  induction movers generalizing s with
  | nil => exact reg
  | cons p rest ih => exact ih (reg.moveHome indexed p) indexed

/-- Distinct alive residents of `k`, leaving it. -/
structure Emigrants (s : Simulation) (emigrants : List AgentRef) (k : ℕ) : Prop where
  nodup : emigrants.Nodup
  resident : ∀ p ∈ emigrants, p ∈ s.residents k

variable {E : List AgentRef} {kf : ℕ}

theorem Membership.emigrants (m : s.Membership) {k : ℕ} (leaving : E.Sublist (s.aliveListed k)) :
    Emigrants s E k :=
  ⟨(m.listed_once k).sublist leaving, fun p member => (m.exact k p).mp (leaving.subset member)⟩

theorem Emigrants.not_mem (em : Emigrants s E kf) {k : ℕ} {p : AgentRef}
    (resident : p ∈ s.residents k) (other : k ≠ kf) : p ∉ E := fun member =>
  other (Option.some_inj.mp ((mem_residents.mp resident).2.2.symm.trans
    (mem_residents.mp (em.resident p member)).2.2))

/-- After the move the emigrants live at `kt`, and everyone else where they did. -/
theorem Emigrants.mem_residents_moveHomes (em : Emigrants s E kf) (kt k : ℕ) (p : AgentRef) :
    p ∈ (E.foldl (moveHome kt) s).residents k ↔ (p ∈ s.residents k ∧ p ∉ E) ∨ (p ∈ E ∧ kt = k) := by
  simp only [mem_residents, moveHomes_agents, moveHomes_agentAt]
  by_cases leaving : p ∈ E
  · have resident := mem_residents.mp (em.resident p leaving)
    simp [leaving, resident.1, resident.2.1]
  · simp [leaving]

/-- How many residents each key has after the move: the source loses the
emigrants and the target gains them. -/
theorem Emigrants.residents_moveHomes_length (em : Emigrants s E kf) (reg : s.Registered) (kt k : ℕ) :
    ((E.foldl (moveHome kt) s).residents k).length + (if k = kf then E.length else 0) =
      (s.residents k).length + (if k = kt then E.length else 0) := by
  have distinct : ((E.foldl (moveHome kt) s).residents k).Nodup := by
    unfold residents
    rw [moveHomes_agents]
    exact reg.agents_nodup.filter _
  have members := em.mem_residents_moveHomes kt k
  by_cases atTarget : k = kt <;> by_cases atSource : k = kf
  · -- the target is the source: nobody's residence changes
    subst atTarget atSource
    have same : ∀ p, p ∈ (E.foldl (moveHome k) s).residents k ↔ p ∈ s.residents k := by
      intro p
      rw [members]
      by_cases leaving : p ∈ E
      · simp [leaving, em.resident p leaving]
      · simp [leaving]
    simp only [if_true]
    rw [((List.perm_ext_iff_of_nodup distinct (reg.residents_nodup k)).mpr same).length_eq]
  · -- the target gains the emigrants
    subst atTarget
    simp only [if_true, atSource, if_false, Nat.add_zero]
    refine length_eq_add_of_mem_iff distinct (reg.residents_nodup k) em.nodup
      (fun p resident => em.not_mem resident atSource) fun p => ?_
    rw [members]
    by_cases leaving : p ∈ E
    · simp [leaving]
    · simp [leaving]
  · -- the source loses them
    subst atSource
    simp only [if_true, atTarget, if_false, Nat.add_zero]
    have kept : ∀ p, p ∈ (E.foldl (moveHome kt) s).residents k ↔
        p ∈ (s.residents k).filter fun p => p ∉ E := by
      intro p
      rw [members, List.mem_filter]
      simp [Ne.symm atTarget]
    rw [((List.perm_ext_iff_of_nodup distinct ((reg.residents_nodup k).filter _)).mpr kept).length_eq]
    exact length_filter_not_mem_add (reg.residents_nodup k) em.nodup em.resident
  · -- elsewhere nothing changes
    simp only [atTarget, atSource, if_false, Nat.add_zero]
    have same : ∀ p, p ∈ (E.foldl (moveHome kt) s).residents k ↔ p ∈ s.residents k := by
      intro p
      rw [members]
      constructor
      · rintro (⟨resident, _⟩ | ⟨_, atKey⟩)
        · exact resident
        · exact absurd atKey.symm atTarget
      · intro resident
        exact .inl ⟨resident, em.not_mem resident atSource⟩
    rw [((List.perm_ext_iff_of_nodup distinct (reg.residents_nodup k)).mpr same).length_eq]

/-- Lists whose alive members are the old ones without the emigrants, and the
emigrants under their new home, are exact after the move. -/
theorem Membership.listed_of_moved (m : s.Membership) (em : Emigrants s E kf) {kt : ℕ} {w : Simulation}
    (agents : w.agents = s.agents) (agentAt : w.agentAt = (E.foldl (moveHome kt) s).agentAt)
    (listedAgents : ∀ k, ∀ p ∈ w.settlementAgents k, p ∈ s.agents)
    (members : ∀ k p, p ∈ w.aliveListed k ↔ (p ∈ s.aliveListed k ∧ p ∉ E) ∨ (p ∈ E ∧ kt = k))
    (once : ∀ k, (w.aliveListed k).Nodup) : w.Listed := by
  have residents : w.residents = (E.foldl (moveHome kt) s).residents := by
    funext k
    simp only [Simulation.residents, agents, agentAt, moveHomes_agents]
  refine ⟨fun k p listed => agents ▸ listedAgents k p listed, ?_, once⟩
  intro k p
  rw [members, residents, em.mem_residents_moveHomes, m.exact]

/-- Lists whose alive members are the old ones without the emigrants, followed
under the new home by the emigrants, are exact after the move. -/
theorem Membership.listed_of_aliveListed (m : s.Membership) (em : Emigrants s E kf) {kt : ℕ}
    {w : Simulation} (agents : w.agents = s.agents) (agentAt : w.agentAt = (E.foldl (moveHome kt) s).agentAt)
    (listedAgents : ∀ k, ∀ p ∈ w.settlementAgents k, p ∈ s.agents)
    (alive : ∀ k, w.aliveListed k = (s.aliveListed k).filter (fun p => p ∉ E) ++ if k = kt then E else []) :
    w.Listed := by
  refine m.listed_of_moved em agents agentAt listedAgents (fun k p => ?_) (fun k => ?_)
  · rw [alive, List.mem_append, List.mem_filter]
    by_cases atTarget : k = kt
    · simp [atTarget]
    · simp [atTarget, Ne.symm atTarget]
  · rw [alive]
    refine ((m.listed_once k).filter _).append ?_ fun p kept arriving => ?_
    · split_ifs
      · exact em.nodup
      · exact List.nodup_nil
    · -- the old members kept are not emigrants
      have staying := (List.mem_filter.mp kept).2
      split_ifs at arriving
      · simp [arriving] at staying
      · simp at arriving

end Moving

section Cascade

variable {s : Simulation} {source target : SettRef} {E L : List AgentRef}

/-- The registration reads the slices, the records' IDs and homes, the
spawner and the allocators, and nothing else. -/
theorem Registered.congr {t : Simulation} (reg : s.Registered) (agents : t.agents = s.agents)
    (agentAt : t.agentAt = s.agentAt) (spawner : t.spawner = s.spawner)
    (nextAgentRef : t.nextAgentRef = s.nextAgentRef) (settlements : t.settlements = s.settlements)
    (nextSettRef : t.nextSettRef = s.nextSettRef) (settlementIndex : t.settlementIndex = s.settlementIndex)
    (settlementID : ∀ q, (t.settlementAt q).id = (s.settlementAt q).id) : t.Registered where
  agents_nodup := agents ▸ reg.agents_nodup
  agents_below p member := by
    rw [nextAgentRef]; rw [agents] at member; exact reg.agents_below p member
  ids_distinct p member p' member' same := by
    rw [agents] at member member'; rw [agentAt] at same
    exact reg.ids_distinct p member p' member' same
  ids_fresh sp spawned p member := by
    rw [spawner] at spawned; rw [agents] at member; rw [agentAt]
    exact reg.ids_fresh sp spawned p member
  settlements_nodup := settlements ▸ reg.settlements_nodup
  settlements_below q member := by
    rw [nextSettRef]; rw [settlements] at member; exact reg.settlements_below q member
  index_sound k q indexed := by
    rw [settlementIndex] at indexed; rw [settlements, settlementID]
    exact reg.index_sound k q indexed
  index_complete q member := by
    rw [settlements] at member; rw [settlementIndex, settlementID]
    exact reg.index_complete q member
  home_indexed p member alive := by
    rw [agents] at member; rw [agentAt] at alive ⊢; rw [settlementIndex]
    exact reg.home_indexed p member alive

/-- The emigrants leave a list of `Agents` by ID exactly when they leave it by
reference: IDs are distinct. -/
theorem Membership.filter_ids (m : s.Membership) {kf : ℕ} (em : Emigrants s E kf) (k : ℕ) :
    (s.settlementAgents k).filter (fun p => (s.agentAt p).id ∉ E.map fun e => (s.agentAt e).id) =
      (s.settlementAgents k).filter fun p => p ∉ E := by
  apply List.filter_congr
  intro p listed
  have inAgents := m.listed_agents k p listed
  simp only [List.mem_map, decide_eq_decide]
  constructor
  · intro notById member
    exact notById ⟨p, member, rfl⟩
  · rintro notMember ⟨e, member, same⟩
    have : e = p := m.ids_distinct e (mem_residents.mp (em.resident e member)).1 p inAgents same
    exact notMember (this ▸ member)

variable (s source target E L)

theorem cascadeMigrate_agents : (s.cascadeMigrate source target E L).agents = s.agents := by
  simp [cascadeMigrate]

theorem cascadeMigrate_agentAt :
    (s.cascadeMigrate source target E L).agentAt =
      (E.foldl (moveHome (s.settlementAt target).id) s).agentAt := by
  simp [cascadeMigrate]

theorem cascadeMigrate_settlements : (s.cascadeMigrate source target E L).settlements = s.settlements := by
  simp [cascadeMigrate, modifySettlement]

/-- The source's list loses the emigrants by ID, and the target's gains them
at its end. -/
theorem cascadeMigrate_settlementAgents :
    (s.cascadeMigrate source target E L).settlementAgents =
      Function.update
        (Function.update s.settlementAgents (s.settlementAt source).id
          (L.filter fun p => (s.agentAt p).id ∉ E.map fun e => (s.agentAt e).id))
        (s.settlementAt target).id
        (Function.update s.settlementAgents (s.settlementAt source).id
          (L.filter fun p => (s.agentAt p).id ∉ E.map fun e => (s.agentAt e).id)
          (s.settlementAt target).id ++ E) := by
  simp [cascadeMigrate]

/-- The settlement records are those of the two population writes. -/
theorem cascadeMigrate_settlementAt :
    (s.cascadeMigrate source target E L).settlementAt =
      ((s.modifySettlement source fun t => { t with population := t.population - E.length }).modifySettlement
        target fun t => { t with population := t.population + E.length }).settlementAt := by
  simp [cascadeMigrate, modifySettlement]

theorem cascadeMigrate_id (q : SettRef) :
    ((s.cascadeMigrate source target E L).settlementAt q).id = (s.settlementAt q).id := by
  simp only [cascadeMigrate_settlementAt, modifySettlement_settlementAt_apply]
  split_ifs <;> subst_vars <;> rfl

theorem cascadeMigrate_registered (reg : (E.foldl (moveHome (s.settlementAt target).id) s).Registered) :
    (s.cascadeMigrate source target E L).Registered :=
  reg.congr (by simp [cascadeMigrate_agents]) (cascadeMigrate_agentAt s source target E L)
    (by simp [cascadeMigrate, modifySettlement]) (by simp [cascadeMigrate, modifySettlement])
    (by simp [cascadeMigrate, modifySettlement]) (by simp [cascadeMigrate, modifySettlement])
    (by simp [cascadeMigrate, modifySettlement]) (fun q => by simp [cascadeMigrate_id])

variable {s source target E L}

/-- `cascadeMigrate` of emigrants picked from the source's alive list to a
listed target keeps the membership exact. -/
theorem Membership.cascadeMigrate (m : s.Membership) {q target : SettRef} (source : q ∈ s.settlements)
    (listedTarget : target ∈ s.settlements)
    (leaving : E.Sublist (s.aliveListed (s.settlementAt q).id)) :
    (s.cascadeMigrate q target E (s.settlementAgents (s.settlementAt q).id)).Membership := by
  have em := m.emigrants leaving
  have elsewhere : ∀ k, k ≠ (s.settlementAt q).id → ∀ p ∈ s.aliveListed k, p ∉ E :=
    fun k other p listed => em.not_mem ((m.exact k p).mp listed) other
  have emigrantListed : ∀ p ∈ E, p ∈ s.settlementAgents (s.settlementAt q).id ∧
      (s.agentAt p).alive = true := fun p member => mem_aliveListed.mp (leaving.subset member)
  have lists := cascadeMigrate_settlementAgents s q target E (s.settlementAgents (s.settlementAt q).id)
  rw [m.filter_ids em] at lists
  have alive : ∀ p, ((s.cascadeMigrate q target E
      (s.settlementAgents (s.settlementAt q).id)).agentAt p).alive = (s.agentAt p).alive := by
    intro p; rw [cascadeMigrate_agentAt, moveHomes_alive]
  refine ⟨cascadeMigrate_registered s q target E _
    (m.toRegistered.moveHomes (m.indexed listedTarget) E), ?_, ?_⟩
  · refine m.listed_of_moved em (cascadeMigrate_agents ..) (cascadeMigrate_agentAt ..) ?_ ?_ ?_
    · -- every list is made of old lists and emigrants
      intro k p listed
      have fromList : ∀ k', p ∈ s.settlementAgents k' → p ∈ s.agents := fun k' => m.listed_agents k' p
      have fromRemaining : ∀ k', p ∈ (s.settlementAgents k').filter (fun p => p ∉ E) →
          p ∈ s.agents := fun k' member => fromList k' (List.mem_of_mem_filter member)
      have fromEmigrants : p ∈ E → p ∈ s.agents := fun leavingP =>
        fromList _ (emigrantListed p leavingP).1
      simp only [lists, Function.update_apply] at listed
      split_ifs at listed
      all_goals
        first
        | exact fromList _ listed
        | exact fromRemaining _ listed
        | rcases List.mem_append.mp listed with listed | leavingP
          · first
            | exact fromList _ listed
            | exact fromRemaining _ listed
          · exact fromEmigrants leavingP
    · intro k p
      simp only [mem_aliveListed, lists, alive, Function.update_apply]
      by_cases leavingP : p ∈ E
      · -- an emigrant is listed, alive, under the target only
        obtain ⟨_, aliveP⟩ := emigrantListed p leavingP
        by_cases atTarget : k = (s.settlementAt target).id
        · simp [atTarget, leavingP, aliveP]
        · have away : ¬(s.settlementAt target).id = k := fun same => atTarget same.symm
          by_cases atSource : k = (s.settlementAt q).id
          · subst atSource
            simp [atTarget, leavingP, away]
          · have notHere := elsewhere k atSource p
            simp only [mem_aliveListed] at notHere
            simp only [atTarget, atSource, if_false, leavingP, aliveP, away, and_true, not_true,
              and_false, false_or, iff_false]
            exact fun listed => notHere ⟨listed, aliveP⟩ leavingP
      · simp only [leavingP, not_false_eq_true, and_true, false_and, or_false]
        split_ifs <;> simp_all
    · intro k
      have filtered : (s.cascadeMigrate q target E (s.settlementAgents (s.settlementAt q).id)).aliveListed k =
          ((s.cascadeMigrate q target E
            (s.settlementAgents (s.settlementAt q).id)).settlementAgents k).filter
            fun p => (s.agentAt p).alive := by
        unfold aliveListed
        exact List.filter_congr fun p _ => alive p
      have remaining : ∀ k', (((s.settlementAgents k').filter fun p => p ∉ E).filter
          fun p => (s.agentAt p).alive).Nodup := fun k' =>
        (m.listed_once k').sublist (List.filter_sublist.filter _)
      have emigrantsAlive : E.filter (fun p => (s.agentAt p).alive) = E :=
        List.filter_eq_self.mpr fun p member => (emigrantListed p member).2
      rw [filtered, lists]
      simp only [Function.update_apply]
      split_ifs with atTarget atSource atSource'
      · -- the target is the source: its remaining alive, then the emigrants
        rw [List.filter_append, emigrantsAlive]
        refine (remaining _).append em.nodup fun p kept leavingP => ?_
        have notLeaving := (List.mem_filter.mp (List.mem_filter.mp kept).1).2
        simp [leavingP] at notLeaving
      · -- the target's alive, then the emigrants
        rw [List.filter_append, emigrantsAlive]
        exact (m.listed_once _).append em.nodup fun p listed leavingP =>
          elsewhere _ atSource p listed leavingP
      · exact remaining _
      · exact m.listed_once k
  · -- the populations move with the emigrants
    intro q' member
    rw [cascadeMigrate_settlements] at member
    have residentsSame : (s.cascadeMigrate q target E
        (s.settlementAgents (s.settlementAt q).id)).residents =
        (E.foldl (moveHome (s.settlementAt target).id) s).residents := by
      funext k
      simp only [Simulation.residents, cascadeMigrate_agents, cascadeMigrate_agentAt, moveHomes_agents]
    have count := em.residents_moveHomes_length m.toRegistered (s.settlementAt target).id
      (s.settlementAt q').id
    have emigrantsFit : E.length ≤ (s.residents (s.settlementAt q).id).length :=
      (List.subperm_of_subset em.nodup em.resident).length_le
    have coversSource := m.covered q source
    have coversTarget := m.covered target listedTarget
    have covers := m.covered q' member
    rw [residentsSame, cascadeMigrate_id, cascadeMigrate_settlementAt]
    simp only [modifySettlement_settlementAt_apply]
    by_cases atTarget : q' = target
    · subst atTarget
      by_cases atSource : q' = q
      · -- a cascade into itself: the population is restored
        subst atSource
        simp only [if_true] at count ⊢
        omega
      · have apart : (s.settlementAt q').id ≠ (s.settlementAt q).id := fun same =>
          atSource (m.settlement_eq_of_id member source same)
        simp only [if_true, atSource, if_false, apart] at count ⊢
        omega
    · have apartTarget : (s.settlementAt q').id ≠ (s.settlementAt target).id := fun same =>
        atTarget (m.settlement_eq_of_id member listedTarget same)
      by_cases atSource : q' = q
      · subst atSource
        simp only [atTarget, if_false, if_true, apartTarget] at count ⊢
        omega
      · have apartSource : (s.settlementAt q').id ≠ (s.settlementAt q).id := fun same =>
          atSource (m.settlement_eq_of_id member source same)
        simp only [atTarget, atSource, if_false, apartTarget, apartSource] at count ⊢
        omega

end Cascade


end Simulation

end MiniWorld.Engine
