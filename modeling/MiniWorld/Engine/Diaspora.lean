import MiniWorld.Engine.Moves

/-! # Membership through a diaspora and an abandonment

`processSettlementOvermass` sends a share of an overmassed settlement's alive
agents away: to a neighbour with room (`cascadeMigrate`, in `Moves`), or to a
daughter settlement founded for them (`foundDaughter`), which registers a new
record under a fresh `ID` and rebuilds the `SettlementNeighbors` cache the rest
of the pass reads.  The pass keeps `Membership`, and keeps the cache's entries
among the listed settlements, which is what makes a cascade's target a listed
one.

`processSettlementAbandonment` zeroes the population of every settlement left
with no one alive, and `compactAbandonedSettlements` drops the records of
population zero whose hex is gone; both keep `Membership`, the second because
`Covered` says a settlement of population zero has no residents.
-/

namespace MiniWorld.Engine

open MiniWorld.Agents MiniWorld.Index MiniWorld.Run

namespace Simulation

section Founding

variable {s : Simulation}

/-- `maxSettlementID` is at least the `ID` of every listed settlement. -/
theorem le_maxSettlementID {q : SettRef} (listed : q ∈ s.settlements) :
    (s.settlementAt q).id ≤ s.maxSettlementID := by
  -- the running maximum only grows, and passes every ID it reads
  have grows : ∀ (qs : List SettRef) (start : ℕ),
      start ≤ qs.foldl (fun maxID q =>
        if (s.settlementAt q).id > maxID then (s.settlementAt q).id else maxID) start ∧
      ∀ q ∈ qs, (s.settlementAt q).id ≤ qs.foldl (fun maxID q =>
        if (s.settlementAt q).id > maxID then (s.settlementAt q).id else maxID) start := by
    intro qs
    induction qs with
    | nil => simp
    | cons first rest ih =>
      intro start
      obtain ⟨atLeast, each⟩ :=
        ih (if (s.settlementAt first).id > start then (s.settlementAt first).id else start)
      refine ⟨le_trans (by split_ifs <;> omega) atLeast, fun q' member => ?_⟩
      rcases List.mem_cons.mp member with rfl | later
      · exact le_trans (by split_ifs <;> omega) atLeast
      · exact each q' later
  exact (grows s.settlements 0).2 q listed

theorem id_ne_maxSettlementID_succ {q : SettRef} (listed : q ∈ s.settlements) :
    (s.settlementAt q).id ≠ s.maxSettlementID + 1 := by
  have := le_maxSettlementID listed
  omega

/-- The founding's `ID` is no key of a sound index. -/
theorem Registered.index_fresh (reg : s.Registered) : s.settlementIndex (s.maxSettlementID + 1) = none := by
  cases indexed : s.settlementIndex (s.maxSettlementID + 1) with
  | none => rfl
  | some q =>
    obtain ⟨listed, sameId⟩ := reg.index_sound _ q indexed
    exact absurd sameId (id_ne_maxSettlementID_succ listed)

/-- Nobody alive lives under the founding's `ID`: every alive home is a key. -/
theorem Registered.residents_fresh (reg : s.Registered) : s.residents (s.maxSettlementID + 1) = [] := by
  refine List.eq_nil_iff_forall_not_mem.mpr fun p resident => ?_
  obtain ⟨member, alive, home⟩ := mem_residents.mp resident
  obtain ⟨k, q, home', indexed⟩ := reg.home_indexed p member alive
  rw [home, Option.some_inj] at home'
  rw [← home', reg.index_fresh] at indexed
  cases indexed

theorem Membership.aliveListed_fresh (m : s.Membership) : s.aliveListed (s.maxSettlementID + 1) = [] :=
  List.eq_nil_iff_forall_not_mem.mpr fun p listed => by
    have resident := (m.exact _ p).mp listed
    rw [m.residents_fresh] at resident
    exact List.not_mem_nil resident

theorem foldl_modifyAgent_home (k : ℕ) (movers : List AgentRef) (t : Simulation) :
    movers.foldl (fun t p => t.modifyAgent p fun a => { a with homeSettID := some k }) t =
      movers.foldl (moveHome k) t := rfl

/-- Registering a record under an `ID` above every listed one, at the next
reference, with its `ID` indexed, keeps the registration; the founders then
move to a key of the index. -/
theorem Registered.foundSettlement (reg : s.Registered) (coord : HexCoord) (founders : List AgentRef)
    (treasury : ℕ) (gov : GovernanceType) : (s.foundSettlement coord founders treasury gov).1.Registered := by
  simp only [Simulation.foundSettlement, foldl_modifyAgent_home]
  -- the claims write the map only
  rw [claimHexesForSettlement_eq]
  -- a listed reference is below the new one, so the new record leaves it alone
  have below : ∀ q ∈ s.settlements, q ≠ s.nextSettRef := fun q listed same =>
    Nat.lt_irrefl _ (same ▸ reg.settlements_below q listed)
  apply Registered.moveHomes _ ⟨s.nextSettRef, by simp⟩
  constructor
  all_goals dsimp only
  case agents_nodup => exact reg.agents_nodup
  case agents_below => exact reg.agents_below
  case ids_distinct => exact reg.ids_distinct
  case ids_fresh => exact reg.ids_fresh
  case settlements_nodup =>
    exact reg.settlements_nodup.append (List.nodup_singleton _) fun q listed fresh =>
      below q listed (List.mem_singleton.mp fresh)
  case settlements_below =>
    intro q listed
    rcases List.mem_append.mp listed with old | fresh
    · exact Nat.lt_succ_of_lt (reg.settlements_below q old)
    · rw [List.mem_singleton.mp fresh]; exact Nat.lt_succ_self _
  case index_sound =>
    intro k q indexed
    by_cases atNew : k = s.maxSettlementID + 1
    · subst atNew
      simp only [Function.update_self, Option.some_inj] at indexed
      subst indexed
      simp
    · rw [Function.update_of_ne atNew] at indexed
      obtain ⟨listed, sameId⟩ := reg.index_sound k q indexed
      simp [listed, Function.update_of_ne (below q listed), sameId]
  case index_complete =>
    intro q listed
    rcases List.mem_append.mp listed with old | fresh
    · simp only [Function.update_of_ne (below q old)]
      rw [Function.update_of_ne (id_ne_maxSettlementID_succ old)]
      exact reg.index_complete q old
    · rw [List.mem_singleton.mp fresh]
      simp
  case home_indexed =>
    intro p member alive
    obtain ⟨k, q, home, indexed⟩ := reg.home_indexed p member alive
    by_cases atNew : k = s.maxSettlementID + 1
    · exact ⟨k, s.nextSettRef, home, by simp [atNew]⟩
    · exact ⟨k, q, home, by rw [Function.update_of_ne atNew]; exact indexed⟩

end Founding

/-! ## The neighbour cache -/

section Neighbors

/-- Every entry of the cache is one of the settlements `S`. -/
def NeighborsListed (neighbors : ℕ → Option (List SettRef)) (S : List SettRef) : Prop :=
  ∀ k ns, neighbors k = some ns → ∀ n ∈ ns, n ∈ S

variable {neighbors : ℕ → Option (List SettRef)} {S : List SettRef}

theorem NeighborsListed.addNeighbor (listed : NeighborsListed neighbors S) (k : ℕ) {q : SettRef}
    (member : q ∈ S) : NeighborsListed (addNeighbor neighbors k q) S := by
  intro k' ns entry n inEntry
  unfold Simulation.addNeighbor at entry
  by_cases atKey : k' = k
  · subst atKey
    simp only [Function.update_self, Option.some_inj] at entry
    subst entry
    rcases List.mem_append.mp inEntry with old | new
    · cases existing : neighbors k' with
      | none => simp [existing] at old
      | some ns' =>
        rw [existing, Option.getD_some] at old
        exact listed k' ns' existing n old
    · rw [List.mem_singleton.mp new]; exact member
  · rw [Function.update_of_ne atKey] at entry
    exact listed k' ns entry n inEntry

/-- The pair loop adds only settlements of the list it runs over. -/
theorem neighborPairs_listed (s : Simulation) :
    ∀ (l : List SettRef) (neighbors : ℕ → Option (List SettRef)), l ⊆ S →
      NeighborsListed neighbors S → NeighborsListed (s.neighborPairs l neighbors) S
  | [], _, _, listed => listed
  | a :: later, neighbors, inside, listed => by
    have laterInside : later ⊆ S := fun n member => inside (List.mem_cons_of_mem a member)
    apply neighborPairs_listed s later _ laterInside
    split_ifs
    · exact listed
    · -- each pair lists the later settlement under the first and the first under it
      refine foldl_invariant (fun neighbors => NeighborsListed neighbors S) _ later neighbors ?_ listed
      intro b member neighbors' kept
      dsimp only
      split_ifs
      · exact kept
      · exact (kept.addNeighbor _ (laterInside member)).addNeighbor _ (inside List.mem_cons_self)
      · exact kept

theorem buildSettlementNeighbors_listed (s : Simulation) :
    NeighborsListed s.buildSettlementNeighbors s.settlements :=
  neighborPairs_listed s s.settlements _ (List.Subset.refl _) fun _ _ none => by cases none

/-- A cascade target is read from the cache. -/
theorem findCascadeTarget_listed (listed : NeighborsListed neighbors S) {capacityAt : HexCoord → ℚ}
    {s : Simulation} {source : Settlement} {target : SettRef}
    (found : findCascadeTarget capacityAt neighbors s source = some target) : target ∈ S := by
  unfold findCascadeTarget at found
  split at found
  · cases found
  · rename_i ns entry
    -- the best so far is always one of the entry's neighbours
    have best := foldl_invariant (fun best : Option SettRef × ℚ => ∀ n, best.1 = some n → n ∈ ns)
      (fun (best : Option SettRef × ℚ) n =>
        if (s.settlementAt n).population = 0 then best
        else if (s.settlementCarryingCapacity capacityAt (s.settlementAt n).id).2 ≥ best.2 then best
        else (some n, (s.settlementCarryingCapacity capacityAt (s.settlementAt n).id).2))
      ns (none, 1) (fun n member best kept => by
        split_ifs
        · exact kept
        · exact kept
        · intro n' chosen
          cases chosen
          exact member)
      (fun _ none => by cases none)
    exact listed _ ns entry target (best target found)

end Neighbors

/-! ## Settling a daughter -/

section Settling

variable (t : Simulation) (q : SettRef) (site : HexCoord) (E L : List AgentRef) (treasury : ℕ)
  (gov : GovernanceType)

theorem settleDaughter_agents : (t.settleDaughter q site E L treasury gov).1.agents = t.agents := by
  simp [settleDaughter, Simulation.foundSettlement, foldl_modifyAgent_home]

/-- The emigrants now live under the new `ID`. -/
theorem settleDaughter_agentAt :
    (t.settleDaughter q site E L treasury gov).1.agentAt =
      (E.foldl (moveHome (t.maxSettlementID + 1)) t).agentAt := by
  simp only [settleDaughter, Simulation.foundSettlement, foldl_modifyAgent_home, moveHomes_eq,
    modifySettlement_agentAt, claimHexesForSettlement_agentAt]

theorem foundSettlement_settlements :
    (t.foundSettlement site E treasury gov).1.settlements = t.settlements ++ [t.nextSettRef] := by
  simp [Simulation.foundSettlement, foldl_modifyAgent_home]

theorem settleDaughter_settlements :
    (t.settleDaughter q site E L treasury gov).1.settlements = t.settlements ++ [t.nextSettRef] :=
  foundSettlement_settlements t site E treasury gov

theorem settleDaughter_neighbors :
    NeighborsListed (t.settleDaughter q site E L treasury gov).2
      (t.settleDaughter q site E L treasury gov).1.settlements := by
  rw [settleDaughter_settlements, ← foundSettlement_settlements t site E treasury gov]
  exact buildSettlementNeighbors_listed _

/-- The new `ID` lists the emigrants, and the source's list loses them by ID. -/
theorem settleDaughter_settlementAgents (fresh : q ≠ t.nextSettRef) :
    (t.settleDaughter q site E L treasury gov).1.settlementAgents =
      Function.update (Function.update t.settlementAgents (t.maxSettlementID + 1) E) (t.settlementAt q).id
        (L.filter fun p => (t.agentAt p).id ∉ E.map fun e => (t.agentAt e).id) := by
  simp [settleDaughter, Simulation.foundSettlement, foldl_modifyAgent_home, modifySettlement, fresh]

theorem settleDaughter_id (q' : SettRef) :
    ((t.settleDaughter q site E L treasury gov).1.settlementAt q').id =
      if q' = t.nextSettRef then t.maxSettlementID + 1 else (t.settlementAt q').id := by
  simp only [settleDaughter, Simulation.foundSettlement, foldl_modifyAgent_home, moveHomes_settlementAt,
    modifySettlement_settlementAt_apply]
  split_ifs <;> simp_all

/-- The daughter starts with the emigrants as its population, and the source
loses as many. -/
theorem settleDaughter_population (fresh : q ≠ t.nextSettRef) (q' : SettRef) :
    ((t.settleDaughter q site E L treasury gov).1.settlementAt q').population =
      if q' = t.nextSettRef then E.length
      else if q' = q then (t.settlementAt q).population - E.length
      else (t.settlementAt q').population := by
  simp only [settleDaughter, Simulation.foundSettlement, foldl_modifyAgent_home, moveHomes_settlementAt,
    modifySettlement_settlementAt_apply]
  split_ifs <;> simp_all

theorem settleDaughter_registered (reg : t.Registered) :
    (t.settleDaughter q site E L treasury gov).1.Registered :=
  (reg.foundSettlement site E treasury gov).congr rfl rfl rfl rfl rfl rfl rfl fun q' => by
    simp only [settleDaughter, modifySettlement_settlementAt_apply]
    split_ifs <;> subst_vars <;> rfl

variable {t q site E L treasury gov}

/-- Settling a daughter of emigrants picked from a listed source's alive list
keeps the membership exact. -/
theorem Membership.settleDaughter (m : t.Membership) (source : q ∈ t.settlements)
    (leaving : E.Sublist (t.aliveListed (t.settlementAt q).id)) :
    (t.settleDaughter q site E (t.settlementAgents (t.settlementAt q).id) treasury gov).1.Membership := by
  have em := m.emigrants leaving
  have fresh : q ≠ t.nextSettRef := fun same =>
    Nat.lt_irrefl _ (same ▸ m.settlements_below q source)
  have apart : (t.settlementAt q).id ≠ t.maxSettlementID + 1 := id_ne_maxSettlementID_succ source
  have elsewhere : ∀ k, k ≠ (t.settlementAt q).id → ∀ p ∈ t.aliveListed k, p ∉ E :=
    fun k other p listed => em.not_mem ((m.exact k p).mp listed) other
  have emigrantListed : ∀ p ∈ E, p ∈ t.settlementAgents (t.settlementAt q).id ∧
      (t.agentAt p).alive = true := fun p member => mem_aliveListed.mp (leaving.subset member)
  have lists := settleDaughter_settlementAgents t q site E (t.settlementAgents (t.settlementAt q).id)
    treasury gov fresh
  rw [m.filter_ids em] at lists
  refine ⟨settleDaughter_registered t q site E _ treasury gov m.toRegistered, ?_, ?_⟩
  · refine m.listed_of_aliveListed em (settleDaughter_agents ..) (settleDaughter_agentAt ..) ?_ ?_
    · -- every list is an old list, part of one, or the emigrants
      intro k p listed
      rw [lists, Function.update_apply, Function.update_apply] at listed
      split_ifs at listed
      · exact m.listed_agents _ p (List.mem_of_mem_filter listed)
      · exact m.listed_agents _ p (emigrantListed p listed).1
      · exact m.listed_agents k p listed
    · intro k
      have alive : (t.settleDaughter q site E (t.settlementAgents (t.settlementAt q).id) treasury gov).1.aliveListed k =
          ((t.settleDaughter q site E (t.settlementAgents (t.settlementAt q).id) treasury gov).1.settlementAgents k).filter
            fun p => (t.agentAt p).alive := by
        simp only [aliveListed, settleDaughter_agentAt, moveHomes_alive]
      rw [alive, lists, Function.update_apply, Function.update_apply]
      split_ifs with atSource atNew atNew
      · exact absurd (atSource.symm.trans atNew) apart
      · -- the source keeps its alive members but the emigrants
        subst atSource
        rw [List.append_nil, aliveListed, List.filter_filter, List.filter_filter]
        exact List.filter_congr fun p _ => Bool.and_comm ..
      · -- the daughter lists the emigrants, all alive
        subst atNew
        rw [m.aliveListed_fresh, List.filter_nil, List.nil_append]
        exact List.filter_eq_self.mpr fun p member => (emigrantListed p member).2
      · rw [List.append_nil]
        exact (List.filter_eq_self.mpr fun p listed => by
          simpa using elsewhere k atSource p listed).symm
  · -- the populations move with the emigrants
    intro q' member
    have residentsSame : (t.settleDaughter q site E (t.settlementAgents (t.settlementAt q).id) treasury gov).1.residents =
        (E.foldl (moveHome (t.maxSettlementID + 1)) t).residents := by
      funext k
      simp only [Simulation.residents, settleDaughter_agents, settleDaughter_agentAt, moveHomes_agents]
    rw [residentsSame, settleDaughter_id, settleDaughter_population _ _ _ _ _ _ _ fresh]
    rw [settleDaughter_settlements] at member
    split_ifs with atNew atSource
    · -- the daughter's residents are the emigrants
      have count := em.residents_moveHomes_length m.toRegistered (t.maxSettlementID + 1)
        (t.maxSettlementID + 1)
      simp only [Ne.symm apart, if_false, if_true, m.residents_fresh, List.length_nil] at count
      omega
    · subst atSource
      have count := em.residents_moveHomes_length m.toRegistered (t.maxSettlementID + 1)
        (t.settlementAt q').id
      have covers := m.covered q' source
      simp only [apart, if_false, if_true] at count
      omega
    · have old : q' ∈ t.settlements := by
        rcases List.mem_append.mp member with old | new
        · exact old
        · exact absurd (List.mem_singleton.mp new) atNew
      have other : (t.settlementAt q').id ≠ (t.settlementAt q).id := fun same =>
        atSource (m.settlement_eq_of_id old source same)
      have count := em.residents_moveHomes_length m.toRegistered (t.maxSettlementID + 1)
        (t.settlementAt q').id
      have covers := m.covered q' old
      simp only [other, id_ne_maxSettlementID_succ old, if_false] at count
      omega

end Settling

/-! ## Founding a daughter -/

section Daughter

variable {s : Simulation} {q : SettRef} {E : List AgentRef}

/-- The pooling only debits wealth: it is settled and keeps every `Alive` flag. -/
theorem poolWealth_settled (E : List AgentRef) (s : Simulation) :
    Settled s (poolWealth E s).1 ∧ ∀ p, ((poolWealth E s).1.agentAt p).alive = (s.agentAt p).alive := by
  refine foldl_invariant (fun acc : Simulation × ℕ =>
      Settled s acc.1 ∧ ∀ p, (acc.1.agentAt p).alive = (s.agentAt p).alive) _ E (s, 0) ?_
    ⟨Settled.refl s, fun _ => rfl⟩
  rintro e - ⟨pooled, total⟩ ⟨kept, alive⟩
  dsimp only at kept alive ⊢
  refine ⟨kept.trans (settled_modifyAgent pooled e rfl rfl fun alive => alive), fun p => ?_⟩
  simp only [debitAgent, modifyAgent_agentAt]
  split_ifs with atE
  · subst atE; exact alive p
  · exact alive p

/-- A founding from a listed settlement, of emigrants picked from its alive
list, keeps the membership exact. -/
theorem Membership.foundDaughter (m : s.Membership) (source : q ∈ s.settlements) (site : HexCoord)
    (leaving : E.Sublist (s.aliveListed (s.settlementAt q).id)) :
    (s.foundDaughter q site E (s.settlementAgents (s.settlementAt q).id)).1.Membership := by
  obtain ⟨pooledSettled, pooledAlive⟩ := poolWealth_settled E s
  have lists : (poolWealth E s).1.settlementAgents (((poolWealth E s).1).settlementAt q).id =
      s.settlementAgents (s.settlementAt q).id := by
    rw [pooledSettled.settlementAgents, pooledSettled.settlementID]
  have stillLeaving : E.Sublist ((poolWealth E s).1.aliveListed ((poolWealth E s).1.settlementAt q).id) := by
    simp only [aliveListed, pooledAlive]
    rw [lists]
    exact leaving
  have founded : ((poolWealth E s).1.settleDaughter q site E
      ((poolWealth E s).1.settlementAgents ((poolWealth E s).1.settlementAt q).id) (poolWealth E s).2
      (s.settlementAt q).governance).1.Membership :=
    (m.settled pooledSettled).settleDaughter (pooledSettled.settlements ▸ source) stillLeaving
  rw [lists] at founded
  exact founded

end Daughter


/-! ## The overmass pass -/

section Overmass

variable {capacityAt : HexCoord → ℚ}

/-- The emigrants are picked in order from the alive list. -/
theorem selectEmigrants_sublist (s : Simulation) (count : ℕ) (alive : List AgentRef) :
    (s.selectEmigrants count alive).Sublist alive := by
  -- what is picked after a prefix is a sublist of the prefix and the rest
  have picks : ∀ (rest picked before : List AgentRef), picked.Sublist before →
      (rest.foldl (fun emigrants p =>
        if emigrants.length ≥ count then emigrants
        else if (s.agentAt p).age < 50 ∧ (s.agentAt p).role ≠ .leader then emigrants ++ [p]
        else emigrants) picked).Sublist (before ++ rest) := by
    intro rest
    induction rest with
    | nil => intro picked before sub; simpa using sub
    | cons p rest ih =>
      intro picked before sub
      rw [List.foldl_cons, show before ++ p :: rest = (before ++ [p]) ++ rest by simp]
      apply ih
      split_ifs
      · exact sub.trans (List.sublist_append_left before [p])
      · exact sub.append (List.Sublist.refl [p])
      · exact sub.trans (List.sublist_append_left before [p])
  unfold Simulation.selectEmigrants
  exact picks alive [] [] List.Sublist.slnil

/-- What the overmass pass keeps of its accumulator: the membership, every
settlement it started with, and a cache of listed settlements. -/
structure Overmass (start : Simulation) (acc : Simulation × (ℕ → Option (List SettRef))) : Prop where
  membership : acc.1.Membership
  settlements : start.settlements ⊆ acc.1.settlements
  neighbors : NeighborsListed acc.2 acc.1.settlements

/-- One settlement of the pass: a cascade to a cached neighbour or a founding. -/
theorem Overmass.overmassSettlement {start : Simulation} {acc : Simulation × (ℕ → Option (List SettRef))}
    (kept : Overmass start acc) {q : SettRef} (source : q ∈ start.settlements) :
    Overmass start (overmassSettlement capacityAt acc q) := by
  obtain ⟨m, grows, cache⟩ := kept
  have listed : q ∈ acc.1.settlements := grows source
  have leaving : ∀ count, (acc.1.selectEmigrants count
      ((acc.1.settlementAgents (acc.1.settlementAt q).id).filter fun p => (acc.1.agentAt p).alive)).Sublist
        (acc.1.aliveListed (acc.1.settlementAt q).id) := fun count =>
    selectEmigrants_sublist acc.1 count _
  unfold Simulation.overmassSettlement
  dsimp only
  split_ifs
  · exact ⟨m, grows, cache⟩
  · exact ⟨m, grows, cache⟩
  · exact ⟨m, grows, cache⟩
  · split
    · -- no founding site: the cascade, if the cache names a target
      split
      · exact ⟨m, grows, cache⟩
      · rename_i target found
        have targetListed := findCascadeTarget_listed cache found
        refine ⟨m.cascadeMigrate listed targetListed (leaving _), ?_, ?_⟩
        · rw [cascadeMigrate_settlements]; exact grows
        · rw [cascadeMigrate_settlements]; exact cache
    · -- a founding: one more settlement, and the cache rebuilt
      rename_i site _ _
      refine ⟨m.foundDaughter listed site (leaving _), ?_, settleDaughter_neighbors _ _ _ _ _ _ _⟩
      rw [foundDaughter, settleDaughter_settlements, (poolWealth_settled _ acc.1).1.settlements]
      exact fun q' member => List.mem_append_left _ (grows member)

/-- `processSettlementOvermass` keeps the membership exact, from a cache of
listed settlements. -/
theorem Membership.processSettlementOvermass {s : Simulation} (m : s.Membership)
    {neighbors : ℕ → Option (List SettRef)} (cache : NeighborsListed neighbors s.settlements) :
    (s.processSettlementOvermass capacityAt neighbors).Membership := by
  unfold Simulation.processSettlementOvermass
  split
  · exact m
  · exact (foldl_invariant (Overmass s) (overmassSettlement capacityAt) s.settlements (s, neighbors)
      (fun q source acc kept => kept.overmassSettlement source)
      ⟨m, List.Subset.refl _, cache⟩).membership

end Overmass

/-! ## Abandonment -/

section Abandonment

variable {s t : Simulation}

theorem settled_hexAt (s : Simulation) (hexAt : HexCoord → Option Hex) : Settled s { s with hexAt := hexAt } :=
  ⟨List.Perm.refl _, rfl, fun _ => rfl, fun _ => rfl, fun _ alive => alive, rfl, rfl, rfl, rfl,
    rfl, fun _ => rfl, fun _ => rfl⟩

/-- Sharing out a treasury writes treasuries only. -/
theorem settled_redistributeTreasury (slice : SliceSort (ℕ × SettRef)) (s : Simulation) (q : SettRef) :
    Settled s (s.redistributeTreasury slice q) := by
  unfold Simulation.redistributeTreasury
  dsimp only
  split
  · exact Settled.refl s
  · have credit : ∀ t n amount, Settled t (t.creditSettlement n amount) :=
      fun t n amount => settled_modifySettlement t n rfl rfl
    exact ((settled_foldl _ (fun t n => credit t n _) _ s).trans (credit _ _ _)).trans
      (settled_modifySettlement _ q rfl rfl)

/-- A settled step lists no one alive where no one alive was listed. -/
theorem Settled.aliveListed_eq_nil (kept : Settled s t) {k : ℕ} (empty : s.aliveListed k = []) :
    t.aliveListed k = [] :=
  List.eq_nil_iff_forall_not_mem.mpr fun p listed => by
    obtain ⟨member, alive⟩ := mem_aliveListed.mp listed
    have before : p ∈ s.aliveListed k :=
      mem_aliveListed.mpr ⟨kept.settlementAgents ▸ member, kept.alive p alive⟩
    rw [empty] at before
    exact List.not_mem_nil before

/-- Zeroing the population of a settlement with nobody alive listed, after a
settled step, keeps the membership exact: it has no residents left to cover. -/
theorem Membership.vacate (m : s.Membership) (kept : Settled s t) (q : SettRef)
    (empty : (s.aliveListed (s.settlementAt q).id).length = 0) :
    (t.modifySettlement q fun t => { t with population := 0 }).Membership := by
  have m' := m.settled kept
  have nobody : (t.residents (t.settlementAt q).id).length = 0 := by
    rw [← m'.aliveListed_length, kept.settlementID, kept.aliveListed_eq_nil (List.eq_nil_of_length_eq_zero empty)]
    rfl
  refine ⟨m'.toRegistered.modifySettlement q rfl, m'.toListed.modifySettlement q _, ?_⟩
  intro q' member
  rw [residents_modifySettlement, modifySettlement_settlementAt_apply]
  split
  · rename_i here
    subst here
    exact nobody.le
  · exact m'.covered q' member

theorem Membership.abandonSettlement (m : s.Membership) (slice : SliceSort (ℕ × SettRef)) (q : SettRef) :
    (s.abandonSettlement slice q).Membership := by
  unfold Simulation.abandonSettlement
  dsimp only
  split_ifs with skip empty due shared
  · exact m
  · -- nobody alive: the treasury is shared out, the hex cleared, the population zeroed
    exact m.vacate ((settled_registry s _).trans ((settled_redistributeTreasury _ _ q).trans
      (settled_hexAt _ _))) q empty
  · exact m.vacate ((settled_registry s _).trans (settled_hexAt _ _)) q empty
  · exact m.settled (settled_registry s _)
  · exact m.settled (settled_registry s _)

theorem Membership.processSettlementAbandonment (m : s.Membership) (slice : SliceSort (ℕ × SettRef)) :
    (s.processSettlementAbandonment slice).Membership :=
  foldl_invariant Membership (Simulation.abandonSettlement slice) s.settlements s
    (fun q _ _ kept => kept.abandonSettlement slice q) m

end Abandonment

/-! ## Compaction -/

section Compaction

variable {s : Simulation}

/-- A compactable settlement has no residents: its population is zero. -/
theorem Membership.residents_compactable (m : s.Membership) {q : SettRef} (listed : q ∈ s.settlements)
    (compactable : s.isCompactable q = true) : s.residents (s.settlementAt q).id = [] := by
  have zero : (s.settlementAt q).population = 0 := by
    simp only [isCompactable, Bool.and_eq_true, beq_iff_eq] at compactable
    exact compactable.1
  exact List.eq_nil_of_length_eq_zero (Nat.le_zero.mp (zero ▸ m.covered q listed))

/-- `compactAbandonedSettlements` keeps the membership exact: the dropped
records had no one alive at home, and the rebuilt index finds the rest. -/
theorem Membership.compactAbandonedSettlements (m : s.Membership) :
    s.compactAbandonedSettlements.Membership := by
  unfold Simulation.compactAbandonedSettlements
  dsimp only
  split_ifs with nothing
  · exact m
  have removedEmpty : ∀ k ∈ (s.settlements.filter s.isCompactable).map (fun q => (s.settlementAt q).id),
      s.residents k = [] := by
    intro k member
    obtain ⟨q, removed, rfl⟩ := List.mem_map.mp member
    obtain ⟨listed, compactable⟩ := List.mem_filter.mp removed
    exact m.residents_compactable listed compactable
  have activeListed : ∀ q ∈ s.settlements.filter (fun q => !s.isCompactable q), q ∈ s.settlements :=
    fun q member => List.mem_of_mem_filter member
  have distinct : ((s.settlements.filter fun q => !s.isCompactable q).map fun q => (s.settlementAt q).id).Nodup :=
    (m.settlements_nodup.filter _).map_on fun q member q' member' same =>
      m.settlement_eq_of_id (activeListed q member) (activeListed q' member') same
  refine ⟨⟨m.agents_nodup, m.agents_below, m.ids_distinct, m.ids_fresh, m.settlements_nodup.filter _,
    fun q member => m.settlements_below q (activeListed q member), ?_, ?_, ?_⟩, ⟨?_, ?_, ?_⟩, ?_⟩
  · intro k q indexed
    exact buildIndex_sound _ indexed
  · intro q member
    exact buildIndex_complete _ distinct member
  · -- an alive agent's home stays: a dropped record had no residents
    intro p member alive
    obtain ⟨k, q, home, indexed⟩ := m.home_indexed p member alive
    obtain ⟨listed, rfl⟩ := m.index_sound k q indexed
    refine ⟨_, q, home, buildIndex_complete _ distinct (List.mem_filter.mpr ⟨listed, ?_⟩)⟩
    cases compactable : s.isCompactable q
    · rfl
    · have resident : p ∈ s.residents (s.settlementAt q).id := mem_residents.mpr ⟨member, alive, home⟩
      rw [m.residents_compactable listed compactable] at resident
      exact absurd resident List.not_mem_nil
  · intro k p listed
    change p ∈ (if k ∈ _ then [] else s.settlementAgents k) at listed
    split_ifs at listed
    · exact absurd listed List.not_mem_nil
    · exact m.listed_agents k p listed
  · intro k p
    change p ∈ (if k ∈ _ then [] else s.settlementAgents k).filter (fun p => (s.agentAt p).alive) ↔
      p ∈ s.residents k
    split_ifs with gone
    · rw [removedEmpty k gone]
      simp
    · exact m.exact k p
  · intro k
    change ((if k ∈ _ then [] else s.settlementAgents k).filter fun p => (s.agentAt p).alive).Nodup
    split_ifs
    · exact List.nodup_nil
    · exact m.listed_once k
  · intro q member
    exact m.covered q (activeListed q member)

end Compaction

end Simulation

end MiniWorld.Engine
