import MiniWorld.Engine.Simulation
import MiniWorld.Run.Invariant

/-! # Steps that only move crowns

`Keeps before after` says that `after` is wired, holds the money supply of
`before`, and has the same `Agents`, `Settlements` and `Factions` slices.  Every
crown-moving step of the engine is shown to relate its input and output by
`Keeps`; loops over the settlements inherit it from their bodies by
`keeps_foldl_settlements`.
-/

namespace MiniWorld.Engine

open MiniWorld.Agents MiniWorld.Run

namespace Simulation

/-- `after` keeps the wiring, the money supply and the slices of `before`. -/
structure Keeps (before after : Simulation) : Prop where
  wired : after.Wired
  money : after.moneySupply = before.moneySupply
  agents : after.agents = before.agents
  settlements : after.settlements = before.settlements
  factions : after.factions = before.factions

theorem Keeps.refl {s : Simulation} (wired : s.Wired) : Keeps s s :=
  ⟨wired, rfl, rfl, rfl, rfl⟩

theorem Keeps.trans {first second third : Simulation} (head : Keeps first second)
    (tail : Keeps second third) : Keeps first third :=
  ⟨tail.wired, tail.money.trans head.money, tail.agents.trans head.agents,
    tail.settlements.trans head.settlements, tail.factions.trans head.factions⟩

/-- A loop over `Settlements` keeps the money supply when each iteration does
for a listed settlement. -/
theorem keeps_foldl_settlements {s : Simulation} (body : Simulation → SettRef → Simulation)
    (each : ∀ t q, t.Wired → q ∈ t.settlements → Keeps t (body t q)) (wired : s.Wired) :
    Keeps s (s.settlements.foldl body s) := by
  apply foldl_invariant (fun t => Keeps s t) body s.settlements s _ (Keeps.refl wired)
  intro q member t kept
  exact kept.trans (each t q kept.wired (kept.settlements ▸ member))

/-! ## States that differ by crowns only -/

/-- `after` differs from `before` in balances and per-agent data only: the
slices, the index maps, every agent's `Alive` and `HomeSettID` and every
settlement's `ID` are those of `before`. -/
structure CrownsOnly (before after : Simulation) : Prop where
  agents : after.agents = before.agents
  settlements : after.settlements = before.settlements
  factions : after.factions = before.factions
  settlementIndex : after.settlementIndex = before.settlementIndex
  settlementAgents : after.settlementAgents = before.settlementAgents
  alive : ∀ p, (after.agentAt p).alive = (before.agentAt p).alive
  home : ∀ p, (after.agentAt p).homeSettID = (before.agentAt p).homeSettID
  id : ∀ q, (after.settlementAt q).id = (before.settlementAt q).id
  nextSettRef : after.nextSettRef = before.nextSettRef

theorem CrownsOnly.refl (s : Simulation) : CrownsOnly s s :=
  ⟨rfl, rfl, rfl, rfl, rfl, fun _ => rfl, fun _ => rfl, fun _ => rfl, rfl⟩

theorem CrownsOnly.trans {first second third : Simulation} (head : CrownsOnly first second)
    (tail : CrownsOnly second third) : CrownsOnly first third :=
  ⟨tail.agents.trans head.agents, tail.settlements.trans head.settlements,
    tail.factions.trans head.factions, tail.settlementIndex.trans head.settlementIndex,
    tail.settlementAgents.trans head.settlementAgents,
    fun p => (tail.alive p).trans (head.alive p), fun p => (tail.home p).trans (head.home p),
    fun q => (tail.id q).trans (head.id q), tail.nextSettRef.trans head.nextSettRef⟩

/-- The wiring depends on nothing a crown-only change touches. -/
theorem CrownsOnly.wired {before after : Simulation} (change : CrownsOnly before after)
    (wired : before.Wired) : after.Wired := by
  refine ⟨change.agents ▸ wired.agents_nodup, change.settlements ▸ wired.settlements_nodup,
    change.factions ▸ wired.factions_nodup, ?_, ?_, ?_, ?_, ?_⟩
  · intro k p listed alive
    rw [change.settlementAgents] at listed
    rw [change.alive] at alive
    exact change.agents ▸ wired.listed_mem k p listed alive
  · intro k q indexed
    rw [change.settlementIndex] at indexed
    rw [change.id, change.settlements]
    exact wired.index_sound k q indexed
  · intro q member
    rw [change.settlements] at member
    rw [change.id, change.settlementIndex]
    exact wired.index_complete q member
  · intro p member alive
    rw [change.agents] at member
    rw [change.alive] at alive
    rw [change.home, change.settlementIndex]
    exact wired.home_indexed p member alive
  · intro q member
    rw [change.settlements] at member
    rw [change.nextSettRef]
    exact wired.settlements_below q member

theorem CrownsOnly.keeps {before after : Simulation} (change : CrownsOnly before after)
    (wired : before.Wired) (money : after.moneySupply = before.moneySupply) : Keeps before after :=
  ⟨change.wired wired, money, change.agents, change.settlements, change.factions⟩

theorem crownsOnly_modifyAgent (s : Simulation) (p : AgentRef) {change : Agent → Agent}
    (keepsAlive : (change (s.agentAt p)).alive = (s.agentAt p).alive)
    (keepsHome : (change (s.agentAt p)).homeSettID = (s.agentAt p).homeSettID) :
    CrownsOnly s (s.modifyAgent p change) := by
  refine ⟨rfl, rfl, rfl, rfl, rfl, ?_, ?_, fun _ => rfl, rfl⟩
  · intro p'
    by_cases hp : p' = p
    · subst hp; simp [keepsAlive]
    · simp [modifyAgent_agentAt, hp]
  · intro p'
    by_cases hp : p' = p
    · subst hp; simp [keepsHome]
    · simp [modifyAgent_agentAt, hp]

theorem crownsOnly_modifySettlement (s : Simulation) (q : SettRef) {change : Settlement → Settlement}
    (keepsId : (change (s.settlementAt q)).id = (s.settlementAt q).id) :
    CrownsOnly s (s.modifySettlement q change) := by
  refine ⟨rfl, rfl, rfl, rfl, rfl, fun _ => rfl, fun _ => rfl, ?_, rfl⟩
  intro q'
  by_cases hq : q' = q
  · subst hq; simp [modifySettlement_settlementAt_apply, keepsId]
  · simp [modifySettlement_settlementAt_apply, hq]

theorem crownsOnly_modifyFaction (s : Simulation) (f : FactionRef) (change : Faction → Faction) :
    CrownsOnly s (s.modifyFaction f change) :=
  ⟨rfl, rfl, rfl, rfl, rfl, fun _ => rfl, fun _ => rfl, fun _ => rfl, rfl⟩

theorem crownsOnly_debitAgent (s : Simulation) (p : AgentRef) (amount : ℕ) :
    CrownsOnly s (s.debitAgent p amount) := crownsOnly_modifyAgent s p rfl rfl

theorem crownsOnly_creditAgent (s : Simulation) (p : AgentRef) (amount : ℕ) :
    CrownsOnly s (s.creditAgent p amount) := crownsOnly_modifyAgent s p rfl rfl

theorem crownsOnly_debitSettlement (s : Simulation) (q : SettRef) (amount : ℕ) :
    CrownsOnly s (s.debitSettlement q amount) := crownsOnly_modifySettlement s q rfl

theorem crownsOnly_creditSettlement (s : Simulation) (q : SettRef) (amount : ℕ) :
    CrownsOnly s (s.creditSettlement q amount) := crownsOnly_modifySettlement s q rfl

theorem crownsOnly_debitFaction (s : Simulation) (f : FactionRef) (amount : ℕ) :
    CrownsOnly s (s.debitFaction f amount) := crownsOnly_modifyFaction s f _

theorem crownsOnly_creditFaction (s : Simulation) (f : FactionRef) (amount : ℕ) :
    CrownsOnly s (s.creditFaction f amount) := crownsOnly_modifyFaction s f _

/-- Every alive agent of `members` is in `Agents`: what a loop over a
`SettlementAgents` list needs to move an agent's crowns. -/
def AliveListed (s : Simulation) (members : List AgentRef) : Prop :=
  ∀ p ∈ members, (s.agentAt p).alive → p ∈ s.agents

theorem Wired.aliveListed {s : Simulation} (wired : s.Wired) (k : ℕ) :
    s.AliveListed (s.settlementAgents k) :=
  fun p listed alive => wired.listed_mem k p listed alive

theorem AliveListed.tail {s : Simulation} {p : AgentRef} {rest : List AgentRef}
    (listed : s.AliveListed (p :: rest)) : s.AliveListed rest :=
  fun p' member alive => listed p' (List.mem_cons_of_mem p member) alive

theorem AliveListed.head {s : Simulation} {p : AgentRef} {rest : List AgentRef}
    (listed : s.AliveListed (p :: rest)) (alive : (s.agentAt p).alive) : p ∈ s.agents :=
  listed p List.mem_cons_self alive

theorem CrownsOnly.aliveListed {before after : Simulation} (change : CrownsOnly before after)
    {members : List AgentRef} (listed : before.AliveListed members) : after.AliveListed members := by
  intro p member alive
  rw [change.agents]
  exact listed p member ((change.alive p) ▸ alive)

variable {s : Simulation}

/-! ## Accounts

Most flows take crowns out of one balance and put them into another: a purse,
a settlement treasury or a faction treasury.  `Account` names the three, so a
flow between any two is one `transfer` with one conservation lemma. -/

/-- Where crowns are held. -/
inductive Account where
  | agent (p : AgentRef)
  | settlement (q : SettRef)
  | faction (f : FactionRef)

/-- The crowns an account holds. -/
def balance (s : Simulation) : Account → ℕ
  | .agent p => (s.agentAt p).wealth
  | .settlement q => (s.settlementAt q).treasury
  | .faction f => (s.factionAt f).treasury

/-- An account the money supply counts: an alive agent of `Agents`, a
settlement of `Settlements`, a faction of `Factions`. -/
def Counted (s : Simulation) : Account → Prop
  | .agent p => p ∈ s.agents ∧ (s.agentAt p).alive
  | .settlement q => q ∈ s.settlements
  | .faction f => f ∈ s.factions

/-- Take crowns out of an account. -/
def debit (s : Simulation) : Account → ℕ → Simulation
  | .agent p, amount => s.debitAgent p amount
  | .settlement q, amount => s.debitSettlement q amount
  | .faction f, amount => s.debitFaction f amount

/-- Put crowns into an account. -/
def credit (s : Simulation) : Account → ℕ → Simulation
  | .agent p, amount => s.creditAgent p amount
  | .settlement q, amount => s.creditSettlement q amount
  | .faction f, amount => s.creditFaction f amount

theorem crownsOnly_debit (s : Simulation) (account : Account) (amount : ℕ) :
    CrownsOnly s (s.debit account amount) := by
  cases account with
  | agent p => exact crownsOnly_debitAgent s p amount
  | settlement q => exact crownsOnly_debitSettlement s q amount
  | faction f => exact crownsOnly_debitFaction s f amount

theorem crownsOnly_credit (s : Simulation) (account : Account) (amount : ℕ) :
    CrownsOnly s (s.credit account amount) := by
  cases account with
  | agent p => exact crownsOnly_creditAgent s p amount
  | settlement q => exact crownsOnly_creditSettlement s q amount
  | faction f => exact crownsOnly_creditFaction s f amount

theorem CrownsOnly.counted {before after : Simulation} (change : CrownsOnly before after)
    {account : Account} (counted : before.Counted account) : after.Counted account := by
  cases account with
  | agent p => exact ⟨change.agents ▸ counted.1, (change.alive p).symm ▸ counted.2⟩
  | settlement q => exact (change.settlements ▸ counted : q ∈ after.settlements)
  | faction f => exact (change.factions ▸ counted : f ∈ after.factions)

theorem moneySupply_debit {account : Account} (wired : s.Wired) (counted : s.Counted account)
    {amount : ℕ} (covered : amount ≤ s.balance account) :
    (s.debit account amount).moneySupply + amount = s.moneySupply := by
  cases account with
  | agent p => exact moneySupply_debitAgent wired.agents_nodup counted.1 counted.2 covered
  | settlement q => exact moneySupply_debitSettlement wired.settlements_nodup counted covered
  | faction f => exact moneySupply_debitFaction wired.factions_nodup counted covered

theorem moneySupply_credit {account : Account} (wired : s.Wired) (counted : s.Counted account)
    (amount : ℕ) : (s.credit account amount).moneySupply = s.moneySupply + amount := by
  cases account with
  | agent p => exact moneySupply_creditAgent wired.agents_nodup counted.1 counted.2 amount
  | settlement q => exact moneySupply_creditSettlement wired.settlements_nodup counted amount
  | faction f => exact moneySupply_creditFaction wired.factions_nodup counted amount

/-- A covered transfer between two counted accounts keeps the money supply; it
changes crowns only. -/
theorem transfer_keeps {source target : Account} (wired : s.Wired) (fromCounted : s.Counted source)
    (toCounted : s.Counted target) {amount : ℕ} (covered : amount ≤ s.balance source) :
    Keeps s ((s.debit source amount).credit target amount) ∧
      CrownsOnly s ((s.debit source amount).credit target amount) := by
  have debited := crownsOnly_debit s source amount
  have change := debited.trans (crownsOnly_credit (s.debit source amount) target amount)
  have taken := moneySupply_debit wired fromCounted covered
  have given := moneySupply_credit (debited.wired wired) (debited.counted toCounted) amount
  exact ⟨change.keeps wired (by omega), change⟩

/-! ## Writes that move no crowns -/

/-- A write to an agent that keeps its `Wealth`, `Alive` and `HomeSettID`
moves no crowns. -/
theorem keeps_modifyAgent {s : Simulation} (wired : s.Wired) (p : AgentRef) {change : Agent → Agent}
    (keepsWealth : ∀ a, (change a).wealth = a.wealth) (keepsAlive : ∀ a, (change a).alive = a.alive)
    (keepsHome : ∀ a, (change a).homeSettID = a.homeSettID) : Keeps s (s.modifyAgent p change) :=
  (crownsOnly_modifyAgent s p (keepsAlive _) (keepsHome _)).keeps wired
    (moneySupply_modifyAgent_of_wealth (keepsWealth _) (keepsAlive _))

/-- A write to an agent's needs only. -/
def bumpNeeds (s : Simulation) (p : AgentRef) (bump : NeedsState → NeedsState) : Simulation :=
  s.modifyAgent p fun a => { a with needs := bump a.needs }

theorem crownsOnly_bumpNeeds (s : Simulation) (p : AgentRef) (bump : NeedsState → NeedsState) :
    CrownsOnly s (s.bumpNeeds p bump) := crownsOnly_modifyAgent s p rfl rfl

@[simp] theorem moneySupply_bumpNeeds (s : Simulation) (p : AgentRef)
    (bump : NeedsState → NeedsState) : (s.bumpNeeds p bump).moneySupply = s.moneySupply :=
  moneySupply_modifyAgent_of_wealth rfl rfl

@[simp] theorem bumpNeeds_settlementAt (s : Simulation) (p : AgentRef)
    (bump : NeedsState → NeedsState) : (s.bumpNeeds p bump).settlementAt = s.settlementAt := rfl

theorem crownsOnly_addInventory (s : Simulation) (p : AgentRef) (good : GoodType) (delta : ℤ) :
    CrownsOnly s (s.addInventory p good delta) := crownsOnly_modifyAgent s p rfl rfl

@[simp] theorem moneySupply_addInventory (s : Simulation) (p : AgentRef) (good : GoodType)
    (delta : ℤ) : (s.addInventory p good delta).moneySupply = s.moneySupply :=
  moneySupply_modifyAgent_of_wealth rfl rfl

/-- The settlement an alive agent's `HomeSettID` names is a listed one. -/
theorem Wired.home_settlement {p : AgentRef} (wired : s.Wired) (listed : p ∈ s.agents)
    (alive : (s.agentAt p).alive) :
    ∃ k q, (s.agentAt p).homeSettID = some k ∧ s.settlementIndex k = some q ∧
      q ∈ s.settlements := by
  obtain ⟨k, q, home, indexed⟩ := wired.home_indexed p listed alive
  exact ⟨k, q, home, indexed, (wired.index_sound k q indexed).1⟩

end Simulation

end MiniWorld.Engine
