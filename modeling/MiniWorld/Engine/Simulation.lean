import MiniWorld.Agents.Soul
import MiniWorld.Ledger.Total
import Mathlib.Data.List.AList

/-! # The simulation state (`internal/engine/simulation.go`, `internal/social`)

Go's `Simulation` holds pointers: `Agents []*agents.Agent`, the index maps
`AgentIndex`, `SettlementIndex`, `SettlementAgents`, and `Factions []*Faction`
all alias the same records, and every engine function mutates a record through
whichever pointer it holds.  The model keeps that aliasing explicit: records
live in heaps (`agentAt`, `settlementAt`, `factionAt`) addressed by references,
and the slices and maps hold references.  A write through any alias is a
`Function.update` of the heap.  `totalWealth` and `totalPopulation` are
`Stats.TotalWealth` and `Stats.TotalPopulation`, the alive agents' wealth and
number recorded by the last `updateStats`; `Stats.Deaths` and the other
counters the persistence registry saves are in `registry`.

The money supply of the closed economy is the `Ledger.total` of alive agents'
`Wealth`, settlement `Treasury` and faction `Treasury`.
-/

namespace MiniWorld.Engine

open MiniWorld.Agents MiniWorld.Ledger

/-- A `*agents.Agent`: the heap address of an agent record. -/
abbrev AgentRef := ℕ

/-- A `*social.Settlement`. -/
abbrev SettRef := ℕ

/-- A `*social.Faction`. -/
abbrev FactionRef := ℕ

inductive GovernanceType where
  | monarchy | council | merchantRepublic | commune
  deriving DecidableEq, Repr, Inhabited

structure MarketEntry where
  supply : ℚ
  demand : ℚ
  price : ℚ
  basePrice : ℚ
  deriving Inhabited

/-- `economy.Market`: the entries map, one per good present, and the trade
statistics of the last resolution. -/
structure Market where
  entries : GoodType → Option MarketEntry
  tradeCount : ℤ
  mostTradedGood : GoodType
  deriving Inhabited

structure HexCoord where
  q : ℤ
  r : ℤ
  deriving DecidableEq, Repr, Inhabited

def hexNeighborDirections : List HexCoord :=
  [⟨1, 0⟩, ⟨1, -1⟩, ⟨0, -1⟩, ⟨-1, 0⟩, ⟨-1, 1⟩, ⟨0, 1⟩]

def HexCoord.neighbors (h : HexCoord) : List HexCoord :=
  hexNeighborDirections.map fun dir => ⟨h.q + dir.q, h.r + dir.r⟩

inductive Terrain where
  | plains | forest | mountain | coast | river | desert | swamp | tundra | ocean
  deriving DecidableEq, Repr, Inhabited

/-- `world.Hex`, with the fields the modelled code reads; `claimedBy` is the
settlement `ID` that holds the hex's land. -/
structure Hex where
  terrain : Terrain
  settlementID : Option ℕ
  claimedBy : Option ℕ := none
  deriving Inhabited

/-- `world.ResourceType`: the ten resources of a hex, by their `iota` index. -/
abbrev ResourceType := Fin 10

def resourceGrain : ResourceType := 0

def resourceTimber : ResourceType := 1

def resourceIronOre : ResourceType := 2

def resourceStone : ResourceType := 3

def resourceFish : ResourceType := 4

def resourceHerbs : ResourceType := 5

def resourceGems : ResourceType := 6

def resourceFurs : ResourceType := 7

def resourceCoal : ResourceType := 8

def resourceExotics : ResourceType := 9

/-- The land of a hex: the fields of `world.Hex` that production and crop
failure read and write. -/
structure HexLand where
  resources : ResourceType → ℚ
  health : ℚ
  lastExtractedTick : ℕ
  irrigationLevel : ℕ
  deriving Inhabited

/-- `agents.Spawner`: the next agent ID it issues. -/
structure Spawner where
  nextID : AgentID
  deriving Inhabited

/-- A Go map: distinct keys, looked up by key; its iteration order is not
specified. -/
abbrev GoMap (κ ν : Type) := AList fun _ : κ => ν

/-- `SettRelKey`: a settlement pair. -/
structure SettRelKey where
  a : ℕ
  b : ℕ
  deriving DecidableEq, Repr, Inhabited

structure SettlementRelation where
  sentiment : ℚ
  trade : ℚ

structure TradeRoute where
  level : ℕ
  name : String
  sustainedWeeks : ℤ
  dormantWeeks : ℤ
  weeklyTrade : ℚ

/-- `Agreement`; `type` is the `AgreementType` (`0` is none). -/
structure Agreement where
  type : ℕ
  sustainedWeeks : ℤ
  formedAtTick : ℕ

structure PeaceTreaty where
  remainingWeeks : ℤ
  raidCount : ℤ
  formedAtTick : ℕ

/-- The fields of `Simulation` that the persistence registry of
`world_state.go` carries across a restart. -/
structure Registry where
  nonViableWeeks : GoMap ℕ ℤ
  abandonedWeeks : GoMap ℕ ℤ
  relations : GoMap SettRelKey SettlementRelation
  tradeRoutes : GoMap SettRelKey TradeRoute
  tradeTracker : GoMap SettRelKey ℚ
  agreements : GoMap SettRelKey Agreement
  peaceTreaties : GoMap SettRelKey PeaceTreaty
  raidCounts : GoMap SettRelKey ℤ
  births : ℤ
  tradeVolume : ℕ
  deaths : ℤ
  heatStreakHours : ℤ
  lastNewspaperContent : String
  liberatedSpiritsPool : ℤ

/-- The registry fields of a fresh `NewSimulation`: empty maps, zero counters,
no newspaper. -/
def Registry.fresh : Registry :=
  { nonViableWeeks := ∅, abandonedWeeks := ∅, relations := ∅, tradeRoutes := ∅,
    tradeTracker := ∅, agreements := ∅, peaceTreaties := ∅, raidCounts := ∅, births := 0,
    tradeVolume := 0, deaths := 0, heatStreakHours := 0, lastNewspaperContent := "",
    liberatedSpiritsPool := 0 }

/-- `social.Settlement`, with the fields the modelled code reads. -/
structure Settlement where
  id : ℕ
  name : String
  position : HexCoord
  population : ℕ
  governance : GovernanceType
  leaderID : Option ℕ
  taxRate : ℚ
  treasury : ℕ
  governanceScore : ℚ
  marketLevel : ℕ
  roadLevel : ℕ
  wallLevel : ℕ
  cultureOpenness : ℚ
  cultureTradition : ℚ := 0
  cultureMilitarism : ℚ := 0
  market : Option Market
  deriving Inhabited

/-- `social.Faction`, with the fields the modelled code reads. -/
structure Faction where
  id : ℕ
  name : String
  treasury : ℕ
  influence : GoMap ℕ ℚ := ∅
  deriving Inhabited

/-- `engine.Simulation`.  Three fields are not Go fields: `nextAgentRef` and
`nextSettRef` are the allocators of agent and settlement records (a new record
never aliases an old one), and `inheritLog` is instrumentation, the agents
passed to `inheritWealth`, most recent first.  `hexAt` is `WorldMap.Get`, and
`landAt` the land of each hex. -/
structure Simulation where
  agentAt : AgentRef → Agent
  agents : List AgentRef
  nextAgentRef : AgentRef
  agentIndex : AgentID → Option AgentRef
  settlementAt : SettRef → Settlement
  settlements : List SettRef
  settlementIndex : ℕ → Option SettRef
  settlementAgents : ℕ → List AgentRef
  nextSettRef : SettRef
  factionAt : FactionRef → Faction
  factions : List FactionRef
  hexAt : HexCoord → Option Hex
  spawner : Option Spawner
  registry : Registry
  lastTick : ℕ
  currentSeason : ℕ
  totalWealth : ℕ
  totalPopulation : ℕ
  inheritLog : List AgentRef
  landAt : HexCoord → HexLand := fun _ => default

namespace Simulation

/-! ## The money supply -/

/-- An agent's crowns count only while it is alive. -/
def liquidWealth (agent : Agent) : ℕ := if agent.alive then agent.wealth else 0

/-- Crowns held by alive agents. -/
def agentMoney (s : Simulation) : ℕ := total s.agents fun p => liquidWealth (s.agentAt p)

/-- Crowns held in settlement treasuries. -/
def settlementMoney (s : Simulation) : ℕ := total s.settlements fun q => (s.settlementAt q).treasury

/-- Crowns held in faction treasuries. -/
def factionMoney (s : Simulation) : ℕ := total s.factions fun f => (s.factionAt f).treasury

/-- The money supply of the closed economy. -/
def moneySupply (s : Simulation) : ℕ := s.agentMoney + s.settlementMoney + s.factionMoney

/-! ## Writes through a pointer -/

/-- A write through an agent pointer: `a.Field = ...`. -/
def modifyAgent (s : Simulation) (p : AgentRef) (change : Agent → Agent) : Simulation :=
  { s with agentAt := Function.update s.agentAt p (change (s.agentAt p)) }

/-- A write through a settlement pointer. -/
def modifySettlement (s : Simulation) (q : SettRef) (change : Settlement → Settlement) :
    Simulation :=
  { s with settlementAt := Function.update s.settlementAt q (change (s.settlementAt q)) }

/-- A write through a faction pointer. -/
def modifyFaction (s : Simulation) (f : FactionRef) (change : Faction → Faction) :
    Simulation :=
  { s with factionAt := Function.update s.factionAt f (change (s.factionAt f)) }

/-- `a.Wealth -= amount`. -/
def debitAgent (s : Simulation) (p : AgentRef) (amount : ℕ) : Simulation :=
  s.modifyAgent p fun a => { a with wealth := a.wealth - amount }

/-- `a.Wealth += amount`. -/
def creditAgent (s : Simulation) (p : AgentRef) (amount : ℕ) : Simulation :=
  s.modifyAgent p fun a => { a with wealth := a.wealth + amount }

/-- `sett.Treasury -= amount`. -/
def debitSettlement (s : Simulation) (q : SettRef) (amount : ℕ) : Simulation :=
  s.modifySettlement q fun t => { t with treasury := t.treasury - amount }

/-- `sett.Treasury += amount`. -/
def creditSettlement (s : Simulation) (q : SettRef) (amount : ℕ) : Simulation :=
  s.modifySettlement q fun t => { t with treasury := t.treasury + amount }

/-- `f.Treasury -= amount`. -/
def debitFaction (s : Simulation) (f : FactionRef) (amount : ℕ) : Simulation :=
  s.modifyFaction f fun t => { t with treasury := t.treasury - amount }

/-- `f.Treasury += amount`. -/
def creditFaction (s : Simulation) (f : FactionRef) (amount : ℕ) : Simulation :=
  s.modifyFaction f fun t => { t with treasury := t.treasury + amount }

/-- `a.Inventory[good] += delta`. -/
def addInventory (s : Simulation) (p : AgentRef) (good : GoodType) (delta : ℤ) : Simulation :=
  s.modifyAgent p fun a =>
    { a with inventory := Function.update a.inventory good (a.inventory good + delta) }

/-! ## What a write leaves alone -/

section Frames

variable (s : Simulation) (p : AgentRef) (q : SettRef) (f : FactionRef)

@[simp] theorem modifyAgent_agents (change) : (s.modifyAgent p change).agents = s.agents := rfl
@[simp] theorem modifyAgent_settlements (change) :
    (s.modifyAgent p change).settlements = s.settlements := rfl
@[simp] theorem modifyAgent_settlementAt (change) :
    (s.modifyAgent p change).settlementAt = s.settlementAt := rfl
@[simp] theorem modifyAgent_settlementIndex (change) :
    (s.modifyAgent p change).settlementIndex = s.settlementIndex := rfl
@[simp] theorem modifyAgent_settlementAgents (change) :
    (s.modifyAgent p change).settlementAgents = s.settlementAgents := rfl
@[simp] theorem modifyAgent_factions (change) : (s.modifyAgent p change).factions = s.factions := rfl
@[simp] theorem modifyAgent_factionAt (change) :
    (s.modifyAgent p change).factionAt = s.factionAt := rfl
@[simp] theorem modifyAgent_registry (change) :
    (s.modifyAgent p change).registry = s.registry := rfl
@[simp] theorem modifyAgent_inheritLog (change) :
    (s.modifyAgent p change).inheritLog = s.inheritLog := rfl
@[simp] theorem modifyAgent_agentIndex (change) :
    (s.modifyAgent p change).agentIndex = s.agentIndex := rfl

theorem modifyAgent_agentAt (change) (p' : AgentRef) :
    (s.modifyAgent p change).agentAt p' = if p' = p then change (s.agentAt p) else s.agentAt p' := by
  simp [modifyAgent, Function.update_apply]

@[simp] theorem modifyAgent_agentAt_self (change) :
    (s.modifyAgent p change).agentAt p = change (s.agentAt p) := by
  simp [modifyAgent]

/-- A loop writing `change` through every pointer of a list, when a second write of it changes
nothing: the records of the list are changed once, nothing else is. -/
theorem foldl_modifyAgent {change : Agent → Agent} (idem : ∀ a, change (change a) = change a) :
    ∀ (refs : List AgentRef) (t : Simulation),
      refs.foldl (fun t p => t.modifyAgent p change) t =
        { t with agentAt := fun p => if p ∈ refs then change (t.agentAt p) else t.agentAt p }
  | [], t => by simp
  | head :: rest, t => by
    rw [List.foldl_cons, foldl_modifyAgent idem rest]
    simp only [modifyAgent, Simulation.mk.injEq, and_true]
    funext p
    by_cases here : p = head
    · -- a pointer listed again is written again, to the same record
      subst here
      by_cases again : p ∈ rest <;> simp [again, idem]
    · simp [here]

@[simp] theorem modifySettlement_agents (change) :
    (s.modifySettlement q change).agents = s.agents := rfl
@[simp] theorem modifySettlement_agentAt (change) :
    (s.modifySettlement q change).agentAt = s.agentAt := rfl
@[simp] theorem modifySettlement_settlements (change) :
    (s.modifySettlement q change).settlements = s.settlements := rfl
@[simp] theorem modifySettlement_settlementIndex (change) :
    (s.modifySettlement q change).settlementIndex = s.settlementIndex := rfl
@[simp] theorem modifySettlement_settlementAgents (change) :
    (s.modifySettlement q change).settlementAgents = s.settlementAgents := rfl
@[simp] theorem modifySettlement_factions (change) :
    (s.modifySettlement q change).factions = s.factions := rfl
@[simp] theorem modifySettlement_factionAt (change) :
    (s.modifySettlement q change).factionAt = s.factionAt := rfl
@[simp] theorem modifySettlement_registry (change) :
    (s.modifySettlement q change).registry = s.registry := rfl
@[simp] theorem modifySettlement_inheritLog (change) :
    (s.modifySettlement q change).inheritLog = s.inheritLog := rfl

theorem modifySettlement_settlementAt_apply (change) (q' : SettRef) :
    (s.modifySettlement q change).settlementAt q' =
      if q' = q then change (s.settlementAt q) else s.settlementAt q' := by
  simp [modifySettlement, Function.update_apply]

@[simp] theorem modifyFaction_agents (change) : (s.modifyFaction f change).agents = s.agents := rfl
@[simp] theorem modifyFaction_agentAt (change) :
    (s.modifyFaction f change).agentAt = s.agentAt := rfl
@[simp] theorem modifyFaction_settlements (change) :
    (s.modifyFaction f change).settlements = s.settlements := rfl
@[simp] theorem modifyFaction_settlementAt (change) :
    (s.modifyFaction f change).settlementAt = s.settlementAt := rfl
@[simp] theorem modifyFaction_settlementIndex (change) :
    (s.modifyFaction f change).settlementIndex = s.settlementIndex := rfl
@[simp] theorem modifyFaction_settlementAgents (change) :
    (s.modifyFaction f change).settlementAgents = s.settlementAgents := rfl
@[simp] theorem modifyFaction_factions (change) :
    (s.modifyFaction f change).factions = s.factions := rfl

theorem modifyFaction_factionAt_apply (change) (f' : FactionRef) :
    (s.modifyFaction f change).factionAt f' =
      if f' = f then change (s.factionAt f) else s.factionAt f' := by
  simp [modifyFaction, Function.update_apply]

end Frames

/-! ## How a write moves the money supply -/

section Money

variable {s : Simulation}

/-- Rewriting one listed agent moves the agent money by the difference of its
liquid wealth. -/
theorem agentMoney_modifyAgent {p : AgentRef} (distinct : s.agents.Nodup) (listed : p ∈ s.agents)
    (change : Agent → Agent) :
    (s.modifyAgent p change).agentMoney + liquidWealth (s.agentAt p) =
      s.agentMoney + liquidWealth (change (s.agentAt p)) := by
  have moved := total_update_add distinct listed (fun p => liquidWealth (s.agentAt p))
    (liquidWealth (change (s.agentAt p)))
  have same : (fun p' => liquidWealth ((s.modifyAgent p change).agentAt p')) =
      Function.update (fun p => liquidWealth (s.agentAt p)) p
        (liquidWealth (change (s.agentAt p))) := by
    funext p'
    by_cases hp : p' = p <;> simp [modifyAgent_agentAt, hp]
  unfold agentMoney
  rw [modifyAgent_agents, same]
  exact moved

theorem settlementMoney_modifySettlement {q : SettRef} (distinct : s.settlements.Nodup)
    (listed : q ∈ s.settlements) (change : Settlement → Settlement) :
    (s.modifySettlement q change).settlementMoney + (s.settlementAt q).treasury =
      s.settlementMoney + (change (s.settlementAt q)).treasury := by
  have moved := total_update_add distinct listed (fun q => (s.settlementAt q).treasury)
    (change (s.settlementAt q)).treasury
  have same : (fun q' => ((s.modifySettlement q change).settlementAt q').treasury) =
      Function.update (fun q => (s.settlementAt q).treasury) q
        (change (s.settlementAt q)).treasury := by
    funext q'
    by_cases hq : q' = q <;> simp [modifySettlement_settlementAt_apply, hq]
  unfold settlementMoney
  rw [modifySettlement_settlements, same]
  exact moved

theorem factionMoney_modifyFaction {f : FactionRef} (distinct : s.factions.Nodup)
    (listed : f ∈ s.factions) (change : Faction → Faction) :
    (s.modifyFaction f change).factionMoney + (s.factionAt f).treasury =
      s.factionMoney + (change (s.factionAt f)).treasury := by
  have moved := total_update_add distinct listed (fun f => (s.factionAt f).treasury)
    (change (s.factionAt f)).treasury
  have same : (fun f' => ((s.modifyFaction f change).factionAt f').treasury) =
      Function.update (fun f => (s.factionAt f).treasury) f (change (s.factionAt f)).treasury := by
    funext f'
    by_cases hf : f' = f <;> simp [modifyFaction_factionAt_apply, hf]
  unfold factionMoney
  rw [modifyFaction_factions, same]
  exact moved

theorem moneySupply_debitAgent {p : AgentRef} (distinct : s.agents.Nodup) (listed : p ∈ s.agents)
    (alive : (s.agentAt p).alive) {amount : ℕ} (covered : amount ≤ (s.agentAt p).wealth) :
    (s.debitAgent p amount).moneySupply + amount = s.moneySupply := by
  have moved := agentMoney_modifyAgent distinct listed
    (fun a => { a with wealth := a.wealth - amount })
  simp only [liquidWealth, alive, ite_true] at moved
  simp only [moneySupply, debitAgent, settlementMoney, factionMoney, modifyAgent_settlements,
    modifyAgent_settlementAt, modifyAgent_factions, modifyAgent_factionAt]
  omega

theorem moneySupply_creditAgent {p : AgentRef} (distinct : s.agents.Nodup) (listed : p ∈ s.agents)
    (alive : (s.agentAt p).alive) (amount : ℕ) :
    (s.creditAgent p amount).moneySupply = s.moneySupply + amount := by
  have moved := agentMoney_modifyAgent distinct listed
    (fun a => { a with wealth := a.wealth + amount })
  simp only [liquidWealth, alive, ite_true] at moved
  simp only [moneySupply, creditAgent, settlementMoney, factionMoney, modifyAgent_settlements,
    modifyAgent_settlementAt, modifyAgent_factions, modifyAgent_factionAt]
  omega

theorem moneySupply_debitSettlement {q : SettRef} (distinct : s.settlements.Nodup)
    (listed : q ∈ s.settlements) {amount : ℕ} (covered : amount ≤ (s.settlementAt q).treasury) :
    (s.debitSettlement q amount).moneySupply + amount = s.moneySupply := by
  have moved := settlementMoney_modifySettlement distinct listed
    (fun t => { t with treasury := t.treasury - amount })
  simp only [moneySupply, debitSettlement, agentMoney, factionMoney, modifySettlement_agents,
    modifySettlement_agentAt, modifySettlement_factions, modifySettlement_factionAt]
  simp only at moved
  omega

theorem moneySupply_creditSettlement {q : SettRef} (distinct : s.settlements.Nodup)
    (listed : q ∈ s.settlements) (amount : ℕ) :
    (s.creditSettlement q amount).moneySupply = s.moneySupply + amount := by
  have moved := settlementMoney_modifySettlement distinct listed
    (fun t => { t with treasury := t.treasury + amount })
  simp only [moneySupply, creditSettlement, agentMoney, factionMoney, modifySettlement_agents,
    modifySettlement_agentAt, modifySettlement_factions, modifySettlement_factionAt]
  simp only at moved
  omega

theorem moneySupply_debitFaction {f : FactionRef} (distinct : s.factions.Nodup)
    (listed : f ∈ s.factions) {amount : ℕ} (covered : amount ≤ (s.factionAt f).treasury) :
    (s.debitFaction f amount).moneySupply + amount = s.moneySupply := by
  have moved := factionMoney_modifyFaction distinct listed
    (fun t => { t with treasury := t.treasury - amount })
  simp only [moneySupply, debitFaction, agentMoney, settlementMoney, modifyFaction_agents,
    modifyFaction_agentAt, modifyFaction_settlements, modifyFaction_settlementAt]
  simp only at moved
  omega

theorem moneySupply_creditFaction {f : FactionRef} (distinct : s.factions.Nodup)
    (listed : f ∈ s.factions) (amount : ℕ) :
    (s.creditFaction f amount).moneySupply = s.moneySupply + amount := by
  have moved := factionMoney_modifyFaction distinct listed
    (fun t => { t with treasury := t.treasury + amount })
  simp only [moneySupply, creditFaction, agentMoney, settlementMoney, modifyFaction_agents,
    modifyFaction_agentAt, modifyFaction_settlements, modifyFaction_settlementAt]
  simp only at moved
  omega

/-- A write that keeps an agent's `Wealth` and `Alive` keeps the money supply. -/
theorem moneySupply_modifyAgent_of_wealth {p : AgentRef} {change : Agent → Agent}
    (keepsWealth : (change (s.agentAt p)).wealth = (s.agentAt p).wealth)
    (keepsAlive : (change (s.agentAt p)).alive = (s.agentAt p).alive) :
    (s.modifyAgent p change).moneySupply = s.moneySupply := by
  have same : ∀ p' ∈ s.agents, liquidWealth ((s.modifyAgent p change).agentAt p') =
      liquidWealth (s.agentAt p') := by
    intro p' _
    by_cases hp : p' = p
    · subst hp; simp [liquidWealth, keepsWealth, keepsAlive]
    · simp [modifyAgent_agentAt, hp]
  simp only [moneySupply, agentMoney, settlementMoney, factionMoney, modifyAgent_agents,
    modifyAgent_settlements, modifyAgent_settlementAt, modifyAgent_factions, modifyAgent_factionAt,
    total_congr same]

/-- A write that keeps a settlement's `Treasury` keeps the money supply. -/
theorem moneySupply_modifySettlement_of_treasury {q : SettRef} {change : Settlement → Settlement}
    (keepsTreasury : (change (s.settlementAt q)).treasury = (s.settlementAt q).treasury) :
    (s.modifySettlement q change).moneySupply = s.moneySupply := by
  have same : ∀ q' ∈ s.settlements, ((s.modifySettlement q change).settlementAt q').treasury =
      (s.settlementAt q').treasury := by
    intro q' _
    by_cases hq : q' = q
    · subst hq; simp [modifySettlement_settlementAt_apply, keepsTreasury]
    · simp [modifySettlement_settlementAt_apply, hq]
  simp only [moneySupply, agentMoney, settlementMoney, factionMoney, modifySettlement_agents,
    modifySettlement_agentAt, modifySettlement_settlements, modifySettlement_factions,
    modifySettlement_factionAt, total_congr same]

end Money

/-! ## The wiring the crown-moving steps rely on -/

/-- The consistency of the indexes in a state reachable from a generated or
loaded world, as far as moving crowns needs it: the slices hold no pointer
twice, every alive agent listed in `SettlementAgents` is in `Agents`,
`SettlementIndex` agrees with `Settlements`, and every alive agent's
`HomeSettID` is a key of `SettlementIndex`. -/
structure Wired (s : Simulation) : Prop where
  agents_nodup : s.agents.Nodup
  settlements_nodup : s.settlements.Nodup
  factions_nodup : s.factions.Nodup
  listed_mem : ∀ k p, p ∈ s.settlementAgents k → (s.agentAt p).alive → p ∈ s.agents
  index_sound : ∀ k q, s.settlementIndex k = some q → q ∈ s.settlements ∧ (s.settlementAt q).id = k
  index_complete : ∀ q ∈ s.settlements, s.settlementIndex (s.settlementAt q).id = some q
  home_indexed : ∀ p ∈ s.agents, (s.agentAt p).alive →
    ∃ k q, (s.agentAt p).homeSettID = some k ∧ s.settlementIndex k = some q
  settlements_below : ∀ q ∈ s.settlements, q < s.nextSettRef

section Wiring

variable {s : Simulation}

/-- A write that keeps an agent's `Alive` and `HomeSettID` keeps the wiring. -/
theorem Wired.modifyAgent (wired : s.Wired) (p : AgentRef) {change : Agent → Agent}
    (keepsAlive : (change (s.agentAt p)).alive = (s.agentAt p).alive)
    (keepsHome : (change (s.agentAt p)).homeSettID = (s.agentAt p).homeSettID) :
    (s.modifyAgent p change).Wired := by
  have sameAlive : ∀ p', ((s.modifyAgent p change).agentAt p').alive = (s.agentAt p').alive := by
    intro p'
    by_cases hp : p' = p
    · subst hp; simp [keepsAlive]
    · simp [modifyAgent_agentAt, hp]
  have sameHome : ∀ p', ((s.modifyAgent p change).agentAt p').homeSettID =
      (s.agentAt p').homeSettID := by
    intro p'
    by_cases hp : p' = p
    · subst hp; simp [keepsHome]
    · simp [modifyAgent_agentAt, hp]
  refine ⟨wired.agents_nodup, wired.settlements_nodup, wired.factions_nodup, ?_, ?_, ?_, ?_,
    wired.settlements_below⟩
  · intro k p' listed alive
    exact wired.listed_mem k p' listed ((sameAlive p').symm ▸ alive)
  · exact wired.index_sound
  · exact wired.index_complete
  · intro p' member alive
    rw [sameHome]
    exact wired.home_indexed p' member ((sameAlive p').symm ▸ alive)

/-- A write that keeps a settlement's `ID` keeps the wiring. -/
theorem Wired.modifySettlement (wired : s.Wired) (q : SettRef) {change : Settlement → Settlement}
    (keepsId : (change (s.settlementAt q)).id = (s.settlementAt q).id) :
    (s.modifySettlement q change).Wired := by
  have sameId : ∀ q', ((s.modifySettlement q change).settlementAt q').id = (s.settlementAt q').id := by
    intro q'
    by_cases hq : q' = q
    · subst hq; simp [modifySettlement_settlementAt_apply, keepsId]
    · simp [modifySettlement_settlementAt_apply, hq]
  refine ⟨wired.agents_nodup, wired.settlements_nodup, wired.factions_nodup, wired.listed_mem,
    ?_, ?_, wired.home_indexed, wired.settlements_below⟩
  · intro k q' indexed
    rw [sameId]
    exact wired.index_sound k q' indexed
  · intro q' member
    rw [modifySettlement_settlementIndex, sameId]
    exact wired.index_complete q' member

theorem Wired.modifyFaction (wired : s.Wired) (f : FactionRef) (change : Faction → Faction) :
    (s.modifyFaction f change).Wired :=
  ⟨wired.agents_nodup, wired.settlements_nodup, wired.factions_nodup, wired.listed_mem,
    wired.index_sound, wired.index_complete, wired.home_indexed, wired.settlements_below⟩

theorem Wired.debitAgent (wired : s.Wired) (p : AgentRef) (amount : ℕ) :
    (s.debitAgent p amount).Wired := wired.modifyAgent p rfl rfl

theorem Wired.creditAgent (wired : s.Wired) (p : AgentRef) (amount : ℕ) :
    (s.creditAgent p amount).Wired := wired.modifyAgent p rfl rfl

theorem Wired.debitSettlement (wired : s.Wired) (q : SettRef) (amount : ℕ) :
    (s.debitSettlement q amount).Wired := wired.modifySettlement q rfl

theorem Wired.creditSettlement (wired : s.Wired) (q : SettRef) (amount : ℕ) :
    (s.creditSettlement q amount).Wired := wired.modifySettlement q rfl

theorem Wired.debitFaction (wired : s.Wired) (f : FactionRef) (amount : ℕ) :
    (s.debitFaction f amount).Wired := wired.modifyFaction f _

theorem Wired.creditFaction (wired : s.Wired) (f : FactionRef) (amount : ℕ) :
    (s.creditFaction f amount).Wired := wired.modifyFaction f _

end Wiring

/-! ## Reading balances after a write -/

section Reads

variable (s : Simulation)

@[simp] theorem debitAgent_wealth (p : AgentRef) (amount : ℕ) (p' : AgentRef) :
    ((s.debitAgent p amount).agentAt p').wealth =
      if p' = p then (s.agentAt p).wealth - amount else (s.agentAt p').wealth := by
  by_cases hp : p' = p <;> simp [debitAgent, modifyAgent_agentAt, hp]

@[simp] theorem creditAgent_wealth (p : AgentRef) (amount : ℕ) (p' : AgentRef) :
    ((s.creditAgent p amount).agentAt p').wealth =
      if p' = p then (s.agentAt p).wealth + amount else (s.agentAt p').wealth := by
  by_cases hp : p' = p <;> simp [creditAgent, modifyAgent_agentAt, hp]

@[simp] theorem debitAgent_alive (p : AgentRef) (amount : ℕ) (p' : AgentRef) :
    ((s.debitAgent p amount).agentAt p').alive = (s.agentAt p').alive := by
  by_cases hp : p' = p <;> simp [debitAgent, modifyAgent_agentAt, hp]

@[simp] theorem creditAgent_alive (p : AgentRef) (amount : ℕ) (p' : AgentRef) :
    ((s.creditAgent p amount).agentAt p').alive = (s.agentAt p').alive := by
  by_cases hp : p' = p <;> simp [creditAgent, modifyAgent_agentAt, hp]

@[simp] theorem debitSettlement_treasury (q : SettRef) (amount : ℕ) (q' : SettRef) :
    ((s.debitSettlement q amount).settlementAt q').treasury =
      if q' = q then (s.settlementAt q).treasury - amount else (s.settlementAt q').treasury := by
  by_cases hq : q' = q <;> simp [debitSettlement, modifySettlement_settlementAt_apply, hq]

@[simp] theorem creditSettlement_treasury (q : SettRef) (amount : ℕ) (q' : SettRef) :
    ((s.creditSettlement q amount).settlementAt q').treasury =
      if q' = q then (s.settlementAt q).treasury + amount else (s.settlementAt q').treasury := by
  by_cases hq : q' = q <;> simp [creditSettlement, modifySettlement_settlementAt_apply, hq]

@[simp] theorem creditAgent_settlementAt (p : AgentRef) (amount : ℕ) :
    (s.creditAgent p amount).settlementAt = s.settlementAt := rfl

@[simp] theorem debitAgent_settlementAt (p : AgentRef) (amount : ℕ) :
    (s.debitAgent p amount).settlementAt = s.settlementAt := rfl

@[simp] theorem debitAgent_settlementIndex (p : AgentRef) (amount : ℕ) :
    (s.debitAgent p amount).settlementIndex = s.settlementIndex := rfl

@[simp] theorem creditSettlement_agentAt (q : SettRef) (amount : ℕ) :
    (s.creditSettlement q amount).agentAt = s.agentAt := rfl

end Reads

end Simulation

end MiniWorld.Engine
