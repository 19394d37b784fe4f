import MiniWorld.Engine.Diaspora

/-! # The crowns of a diaspora

`processSettlementOvermass` is the one crown-moving pass that changes the
settlement set.  A founding pools a third of each emigrant's purse into the
treasury of a settlement registered at a fresh reference under a fresh `ID`; a
cascade moves homes and lists and no crown.  `Conserves before after` says that
`after` is wired and holds the money supply of `before`, whatever slices it has
gained; it is what the pass keeps (`processSettlementOvermass_conserves`).

The founding's reference is `nextSettRef`, above every listed one, so the new
treasury is counted once and no listed one is overwritten; its `ID` is above
every listed `ID`, so the index entry it writes replaces none.  A cascade's
target is read from the `SettlementNeighbors` cache, whose entries are listed
settlements (`NeighborsListed`), so the emigrants' new home is indexed.
-/

namespace MiniWorld.Engine

open MiniWorld.Agents MiniWorld.Ledger MiniWorld.Run

namespace Simulation

/-- `after` is wired and holds the money supply of `before`; its slices may
have grown. -/
structure Conserves (before after : Simulation) : Prop where
  wired : after.Wired
  money : after.moneySupply = before.moneySupply

section Conserving

variable {s t u : Simulation}

theorem Conserves.refl (wired : s.Wired) : Conserves s s := ⟨wired, rfl⟩

theorem Conserves.trans (first : Conserves s t) (second : Conserves t u) : Conserves s u :=
  ⟨second.wired, second.money.trans first.money⟩

theorem Keeps.conserves (kept : Keeps s t) : Conserves s t := ⟨kept.wired, kept.money⟩

end Conserving

/-! ## Wiring through new homes, lists and records -/

section Wiring

variable {s : Simulation}

/-- The next reference is no listed settlement's. -/
theorem Wired.ne_nextSettRef (wired : s.Wired) {q : SettRef} (listed : q ∈ s.settlements) :
    q ≠ s.nextSettRef :=
  Nat.ne_of_lt (wired.settlements_below q listed)

/-- A state that differs from a wired one in its lists and in what the wiring
does not read is wired once the alive members of its lists are agents of
`Agents`. -/
theorem Wired.relist {t : Simulation} (wired : s.Wired) (agents : t.agents = s.agents)
    (agentAt : t.agentAt = s.agentAt) (factions : t.factions = s.factions)
    (settlements : t.settlements = s.settlements) (nextSettRef : t.nextSettRef = s.nextSettRef)
    (settlementIndex : t.settlementIndex = s.settlementIndex)
    (settlementID : ∀ q, (t.settlementAt q).id = (s.settlementAt q).id)
    (listed : ∀ k p, p ∈ t.settlementAgents k → (t.agentAt p).alive → p ∈ t.agents) : t.Wired where
  agents_nodup := agents ▸ wired.agents_nodup
  settlements_nodup := settlements ▸ wired.settlements_nodup
  factions_nodup := factions ▸ wired.factions_nodup
  listed_mem := listed
  index_sound k q indexed := by
    rw [settlementIndex] at indexed; rw [settlements, settlementID]
    exact wired.index_sound k q indexed
  index_complete q member := by
    rw [settlements] at member; rw [settlementIndex, settlementID]
    exact wired.index_complete q member
  home_indexed p member alive := by
    rw [agents] at member; rw [agentAt] at alive ⊢; rw [settlementIndex]
    exact wired.home_indexed p member alive
  settlements_below q member := by
    rw [nextSettRef]; rw [settlements] at member
    exact wired.settlements_below q member

/-- Moving one agent to a key of the index keeps the wiring. -/
theorem Wired.moveHome (wired : s.Wired) {k : ℕ} (indexed : ∃ q, s.settlementIndex k = some q)
    (p : AgentRef) : (s.moveHome k p).Wired := by
  have sameAlive : ∀ p', ((s.moveHome k p).agentAt p').alive = (s.agentAt p').alive := by
    intro p'; rw [moveHome_agentAt]; split_ifs with here <;> simp [here]
  refine ⟨wired.agents_nodup, wired.settlements_nodup, wired.factions_nodup, ?_, wired.index_sound,
    wired.index_complete, ?_, wired.settlements_below⟩
  · intro k' p' listed alive
    rw [sameAlive] at alive
    exact wired.listed_mem k' p' listed alive
  · intro p' member alive
    rw [sameAlive] at alive
    by_cases here : p' = p
    · -- the moved agent's new home is the indexed key
      obtain ⟨q, found⟩ := indexed
      exact ⟨k, q, by simp [moveHome_agentAt, here], found⟩
    · rw [moveHome_agentAt, if_neg here]
      exact wired.home_indexed p' member alive

theorem Wired.moveHomes (wired : s.Wired) {k : ℕ} (indexed : ∃ q, s.settlementIndex k = some q)
    (movers : List AgentRef) : (movers.foldl (Simulation.moveHome k) s).Wired := by
  induction movers generalizing s with
  | nil => exact wired
  | cons p rest ih => exact ih (wired.moveHome indexed p) indexed

@[simp] theorem moneySupply_moveHomes (k : ℕ) (movers : List AgentRef) (s : Simulation) :
    (movers.foldl (moveHome k) s).moneySupply = s.moneySupply := by
  induction movers generalizing s with
  | nil => rfl
  | cons p rest ih =>
    rw [List.foldl_cons, ih]
    exact moneySupply_modifyAgent_of_wealth rfl rfl

variable {E : List AgentRef}

/-- Registering the founding's record at the next reference, under an `ID`
above every listed one, keeps the wiring when the founders are agents of
`Agents`; they then move to the new key. -/
theorem Wired.foundSettlement (wired : s.Wired) (founders : ∀ p ∈ E, p ∈ s.agents) (coord : HexCoord)
    (treasury : ℕ) (gov : GovernanceType) : (s.foundSettlement coord E treasury gov).1.Wired := by
  simp only [Simulation.foundSettlement, foldl_modifyAgent_home]
  -- the claims write the map only
  rw [claimHexesForSettlement_eq]
  -- a listed reference is below the new one, so the new record leaves it alone
  have below : ∀ q ∈ s.settlements, q ≠ s.nextSettRef := fun q listed => wired.ne_nextSettRef listed
  apply Wired.moveHomes _ ⟨s.nextSettRef, by simp⟩
  constructor
  all_goals dsimp only
  case agents_nodup => exact wired.agents_nodup
  case factions_nodup => exact wired.factions_nodup
  case settlements_nodup =>
    exact wired.settlements_nodup.append (List.nodup_singleton _) fun q listed fresh =>
      below q listed (List.mem_singleton.mp fresh)
  case settlements_below =>
    intro q listed
    rcases List.mem_append.mp listed with old | fresh
    · exact Nat.lt_succ_of_lt (wired.settlements_below q old)
    · rw [List.mem_singleton.mp fresh]; exact Nat.lt_succ_self _
  case listed_mem =>
    intro k p listed alive
    by_cases atNew : k = s.maxSettlementID + 1
    · subst atNew
      rw [Function.update_self] at listed
      exact founders p listed
    · rw [Function.update_of_ne atNew] at listed
      exact wired.listed_mem k p listed alive
  case index_sound =>
    intro k q indexed
    by_cases atNew : k = s.maxSettlementID + 1
    · subst atNew
      simp only [Function.update_self, Option.some_inj] at indexed
      subst indexed
      simp
    · rw [Function.update_of_ne atNew] at indexed
      obtain ⟨listed, sameId⟩ := wired.index_sound k q indexed
      simp [listed, Function.update_of_ne (below q listed), sameId]
  case index_complete =>
    intro q listed
    rcases List.mem_append.mp listed with old | fresh
    · simp only [Function.update_of_ne (below q old)]
      rw [Function.update_of_ne (id_ne_maxSettlementID_succ old)]
      exact wired.index_complete q old
    · rw [List.mem_singleton.mp fresh]
      simp
  case home_indexed =>
    intro p member alive
    obtain ⟨k, q, home, indexed⟩ := wired.home_indexed p member alive
    by_cases atNew : k = s.maxSettlementID + 1
    · exact ⟨k, s.nextSettRef, home, by simp [atNew]⟩
    · exact ⟨k, q, home, by rw [Function.update_of_ne atNew]; exact indexed⟩

/-- The founding adds its treasury to the money supply: the new record sits
at a reference no listed settlement has. -/
theorem moneySupply_foundSettlement (wired : s.Wired) (coord : HexCoord) (treasury : ℕ)
    (gov : GovernanceType) :
    (s.foundSettlement coord E treasury gov).1.moneySupply = s.moneySupply + treasury := by
  have old : ∀ (record : Settlement), total s.settlements
      (fun q => (Function.update s.settlementAt s.nextSettRef record q).treasury) = s.settlementMoney :=
    fun record => total_congr fun q listed => by rw [Function.update_of_ne (wired.ne_nextSettRef listed)]
  simp only [Simulation.foundSettlement, foldl_modifyAgent_home, moneySupply_moveHomes]
  rw [claimHexesForSettlement_eq]
  simp only [moneySupply, agentMoney, settlementMoney, factionMoney, total_append, old, total_cons,
    total_nil, Function.update_self]
  omega

end Wiring

/-! ## A founding -/

section Founding

variable {s t : Simulation} {E L : List AgentRef}

/-- The pooling moves a third of each emigrant's purse out of the count, and the
pool is what left it. -/
theorem poolWealth_moves (wired : s.Wired) (emigrants : ∀ e ∈ E, e ∈ s.agents ∧ (s.agentAt e).alive) :
    CrownsOnly s (poolWealth E s).1 ∧ (poolWealth E s).1.moneySupply + (poolWealth E s).2 = s.moneySupply := by
  refine foldl_invariant (fun acc : Simulation × ℕ =>
      CrownsOnly s acc.1 ∧ acc.1.moneySupply + acc.2 = s.moneySupply) _ E (s, 0) ?_
    ⟨CrownsOnly.refl s, by simp⟩
  rintro e member ⟨pooled, total⟩ ⟨change, money⟩
  dsimp only at change money ⊢
  obtain ⟨listed, alive⟩ := emigrants e member
  have debited := moneySupply_debitAgent (change.wired wired).agents_nodup (change.agents ▸ listed)
    ((change.alive e).trans alive) (Nat.div_le_self (pooled.agentAt e).wealth 3)
  exact ⟨change.trans (crownsOnly_debitAgent pooled e _), by omega⟩

variable (q : SettRef) (site : HexCoord) (treasury : ℕ) (gov : GovernanceType)

/-- Settling the daughter adds the pool to the money supply and keeps the
wiring, when the emigrants and the alive members of the source's list are
agents of `Agents`. -/
theorem settleDaughter_conserves (wired : t.Wired) (source : q ∈ t.settlements)
    (founders : ∀ p ∈ E, p ∈ t.agents) (stayers : ∀ p ∈ L, (t.agentAt p).alive → p ∈ t.agents) :
    (t.settleDaughter q site E L treasury gov).1.Wired ∧
      (t.settleDaughter q site E L treasury gov).1.moneySupply = t.moneySupply + treasury := by
  have founded := wired.foundSettlement founders site treasury gov
  have fresh := wired.ne_nextSettRef source
  refine ⟨founded.relist rfl rfl rfl rfl rfl rfl (fun q' => ?_) ?_, ?_⟩
  · simp only [settleDaughter, modifySettlement_settlementAt_apply]
    split_ifs <;> subst_vars <;> rfl
  · -- the source keeps part of its list, the daughter lists the emigrants
    intro k p listed alive
    rw [settleDaughter_agentAt, moveHomes_alive] at alive
    rw [settleDaughter_settlementAgents _ _ _ _ _ _ _ fresh, Function.update_apply,
      Function.update_apply] at listed
    rw [settleDaughter_agents]
    split_ifs at listed
    · exact stayers p (List.mem_of_mem_filter listed) alive
    · exact founders p listed
    · exact wired.listed_mem k p listed alive
  · -- the lists and the source's population hold no crowns
    have reduced : ((t.foundSettlement site E treasury gov).1.modifySettlement q
        fun sett => { sett with population := sett.population - E.length }).moneySupply =
          (t.foundSettlement site E treasury gov).1.moneySupply :=
      moneySupply_modifySettlement_of_treasury rfl
    exact reduced.trans (moneySupply_foundSettlement wired site treasury gov)

variable {q site}

/-- A founding keeps the money supply: the pool leaves the emigrants' purses
and becomes the daughter's treasury. -/
theorem foundDaughter_conserves (wired : s.Wired) (source : q ∈ s.settlements)
    (emigrants : ∀ e ∈ E, e ∈ s.agents ∧ (s.agentAt e).alive)
    (stayers : ∀ p ∈ L, (s.agentAt p).alive → p ∈ s.agents) :
    Conserves s (s.foundDaughter q site E L).1 := by
  obtain ⟨pooled, pooledMoney⟩ := poolWealth_moves wired emigrants
  obtain ⟨settledWired, settledMoney⟩ := settleDaughter_conserves q site (poolWealth E s).2
    (s.settlementAt q).governance (pooled.wired wired) (pooled.settlements ▸ source)
    (fun p member => pooled.agents ▸ (emigrants p member).1)
    (fun p member alive => pooled.agents ▸ stayers p member ((pooled.alive p).symm.trans alive))
  refine ⟨settledWired, ?_⟩
  unfold foundDaughter
  rw [settledMoney]
  exact pooledMoney

/-- A cascade moves homes and lists only; its target is listed, so the new
home is indexed. -/
theorem cascadeMigrate_conserves (wired : s.Wired) {target : SettRef} (listedTarget : target ∈ s.settlements)
    (emigrants : ∀ e ∈ E, e ∈ s.agents) (stayers : ∀ p ∈ L, (s.agentAt p).alive → p ∈ s.agents) :
    Conserves s (s.cascadeMigrate q target E L) := by
  have moved := wired.moveHomes ⟨target, wired.index_complete target listedTarget⟩ E
  refine ⟨moved.relist (by rw [cascadeMigrate_agents, moveHomes_agents]) (cascadeMigrate_agentAt ..)
    rfl rfl rfl rfl (fun q' => ?_) ?_, ?_⟩
  · rw [cascadeMigrate_id, moveHomes_settlementAt]
  · -- the target's list gains the emigrants, the source's keeps part of its own
    intro k p listed alive
    rw [cascadeMigrate_agentAt, moveHomes_alive] at alive
    simp only [cascadeMigrate_settlementAgents, Function.update_apply] at listed
    rw [cascadeMigrate_agents]
    split_ifs at listed
    · rcases List.mem_append.mp listed with stayed | arrived
      · exact stayers p (List.mem_of_mem_filter stayed) alive
      · exact emigrants p arrived
    · rcases List.mem_append.mp listed with stayed | arrived
      · exact wired.listed_mem _ p stayed alive
      · exact emigrants p arrived
    · exact stayers p (List.mem_of_mem_filter listed) alive
    · exact wired.listed_mem k p listed alive
  · unfold cascadeMigrate
    extract_lets targetID homed emigrantIDs remaining left joined emptied
    exact (moneySupply_modifySettlement_of_treasury (by rfl)).trans
      ((moneySupply_modifySettlement_of_treasury (by rfl)).trans (moneySupply_moveHomes _ E s))

end Founding

/-! ## The overmass pass -/

section Overmass

variable {capacityAt : HexCoord → ℚ}

/-- What the overmass pass keeps of its accumulator for the money supply: the
wiring and the money of the start, every settlement it started with, and a
cache of listed settlements. -/
structure OvermassFunds (start : Simulation) (acc : Simulation × (ℕ → Option (List SettRef))) : Prop where
  conserves : Conserves start acc.1
  settlements : start.settlements ⊆ acc.1.settlements
  neighbors : NeighborsListed acc.2 acc.1.settlements

/-- One settlement of the pass: a cascade to a cached neighbour or a founding,
of emigrants picked from the alive members of the source's list. -/
theorem OvermassFunds.overmassSettlement {start : Simulation} {acc : Simulation × (ℕ → Option (List SettRef))}
    (kept : OvermassFunds start acc) {q : SettRef} (source : q ∈ start.settlements) :
    OvermassFunds start (overmassSettlement capacityAt acc q) := by
  have wired := kept.conserves.wired
  have listed : q ∈ acc.1.settlements := kept.settlements source
  -- the emigrants are alive members of a list, so agents of `Agents`
  have leaving : ∀ count, ∀ e ∈ acc.1.selectEmigrants count
      ((acc.1.settlementAgents (acc.1.settlementAt q).id).filter fun p => (acc.1.agentAt p).alive),
        e ∈ acc.1.agents ∧ (acc.1.agentAt e).alive := by
    intro count e picked
    obtain ⟨member, alive⟩ := List.mem_filter.mp ((selectEmigrants_sublist acc.1 count _).subset picked)
    exact ⟨wired.listed_mem _ e member alive, alive⟩
  have stayers : ∀ p ∈ acc.1.settlementAgents (acc.1.settlementAt q).id, (acc.1.agentAt p).alive →
      p ∈ acc.1.agents := fun p member alive => wired.listed_mem _ p member alive
  unfold Simulation.overmassSettlement
  dsimp only
  split_ifs
  · exact kept
  · exact kept
  · exact kept
  · split
    · -- no founding site: the cascade, if the cache names a target
      split
      · exact kept
      · rename_i target found
        refine ⟨kept.conserves.trans (cascadeMigrate_conserves wired
          (findCascadeTarget_listed kept.neighbors found) (fun e picked => (leaving _ e picked).1) stayers),
          ?_, ?_⟩
        · rw [cascadeMigrate_settlements]; exact kept.settlements
        · rw [cascadeMigrate_settlements]; exact kept.neighbors
    · -- a founding: one more settlement, and the cache rebuilt
      rename_i site _ _
      refine ⟨kept.conserves.trans (foundDaughter_conserves wired listed (leaving _) stayers), ?_,
        settleDaughter_neighbors _ _ _ _ _ _ _⟩
      rw [foundDaughter, settleDaughter_settlements, (poolWealth_settled _ acc.1).1.settlements]
      exact fun q' member => List.mem_append_left _ (kept.settlements member)

/-- `processSettlementOvermass` keeps the money supply and the wiring, from a
cache of listed settlements. -/
theorem processSettlementOvermass_conserves {s : Simulation} (wired : s.Wired)
    {neighbors : ℕ → Option (List SettRef)} (cache : NeighborsListed neighbors s.settlements) :
    Conserves s (s.processSettlementOvermass capacityAt neighbors) := by
  unfold Simulation.processSettlementOvermass
  split
  · exact Conserves.refl wired
  · exact (foldl_invariant (OvermassFunds s) (overmassSettlement capacityAt) s.settlements (s, neighbors)
      (fun q source acc kept => kept.overmassSettlement source)
      ⟨Conserves.refl wired, List.Subset.refl _, cache⟩).conserves

end Overmass

end Simulation

end MiniWorld.Engine
