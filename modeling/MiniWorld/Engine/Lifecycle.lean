import MiniWorld.Engine.Money
import Mathlib

/-! # Founding and compacting settlements (`internal/engine/settlement_lifecycle.go`)

`foundSettlement` (lines 276–337) registers a new settlement record: a fresh
`ID`, its market, its entries in `Settlements`, `SettlementIndex` and
`SettlementAgents`, its hex, and the founders' `HomeSettID`.
`compactAbandonedSettlements` (lines 533–566) drops from `Settlements` every
settlement with no population whose hex no longer names it, deletes three of
the maps keyed by its ID, and rebuilds `SettlementIndex`.

The new ID is one more than the largest ID in `Settlements`, not a counter.
Once compaction has removed the settlement with the largest ID, the next
founding hands out that ID again, to a record that inherits whatever the
maps compaction leaves alone still hold under it.

Not modelled here: the hex claims of `claimHexesForSettlement`, the founders'
`Position` and the occupation rebalancing of `rebalanceDaughterFounders` (it
reads hex resources); the neighbour index `BuildSettlementNeighbors` rebuilds
after a founding is in `Migration`.
-/

namespace MiniWorld.Engine

open MiniWorld.Agents

/-- The base prices of `economy.NewMarket`, by good index. -/
def basePrice (good : GoodType) : ℚ :=
  match good.val with
  | 0 => 2 | 1 => 3 | 2 => 4 | 3 => 3 | 4 => 2 | 5 => 5 | 6 => 15 | 7 => 6
  | 8 => 4 | 9 => 20 | 10 => 10 | 11 => 15 | 12 => 8 | 13 => 12 | _ => 25

/-- `economy.NewMarket`: every good listed at its base price, supply and
demand one. -/
def newMarket : Market :=
  { entries := fun good => some ⟨1, 1, basePrice good, basePrice good⟩,
    tradeCount := 0, mostTradedGood := goodGrain }

/-- The name prefixes of `generateSettlementName`. -/
def settlementPrefixes : List String :=
  ["Iron", "Green", "Ash", "Stone", "Mill", "Cross", "Black",
    "Silver", "Red", "White", "Dark", "Bright", "High", "Low",
    "Old", "New", "Far", "Deep", "Long", "Broad", "Gold", "Frost",
    "Storm", "Thorn", "Elm", "Oak", "Pine", "Copper", "River"]

/-- The name suffixes of `generateSettlementName`. -/
def settlementSuffixes : List String :=
  ["haven", "ford", "hollow", "wick", "bridge", "gate", "keep",
    "stead", "wood", "field", "dale", "crest", "vale", "port",
    "town", "bury", "marsh", "well", "brook", "cliff", "moor",
    "ridge", "watch", "fall", "rest", "point", "reach", "helm"]

/-- The index `int(tick + uint64(i)*step) % n` of the `i`-th probe, as Go computes it: the sum
wraps at `2^64`, `int` reads it in two's complement, and `%` truncates toward zero. -/
def probeIndex (tick i step n : ℕ) : ℤ :=
  let sum : ℕ := (tick + i * step) % 2 ^ 64
  let asInt : ℤ := if sum < 2 ^ 63 then (sum : ℤ) else (sum : ℤ) - 2 ^ 64
  asInt.tmod n

/-- The `i`-th name `generateSettlementName` tries at a tick, `prefixes[pi] + suffixes[si]` at the
indices Go computes; `none` when one of them is negative, where the slice read panics. -/
def candidateName (tick i : ℕ) : Option String :=
  let pi := probeIndex tick i 17 settlementPrefixes.length
  let si := probeIndex tick i 31 settlementSuffixes.length
  if pi < 0 ∨ si < 0 then none
  else some (settlementPrefixes.getD pi.toNat "" ++ settlementSuffixes.getD si.toNat "")

/-- The loop of `generateSettlementName` over the probes `probes`: the first candidate not in
`existing`, `none` at a panic, and `Settlement-<tick>` once the probes run out. -/
def probeNames (existing : List String) (tick : ℕ) : List ℕ → Option String
  | [] => some ("Settlement-" ++ toString tick)
  | i :: rest =>
    match candidateName tick i with
    | none => none
    | some name => if existing.contains name then probeNames existing tick rest else some name

namespace Simulation

/-- `generateSettlementName`: the first of a thousand candidates not in use, else
`Settlement-<tick>`; `none` where Go panics. -/
def generateSettlementName (s : Simulation) : Option String :=
  probeNames (s.settlements.map fun q => (s.settlementAt q).name) s.lastTick (List.range 1000)

/-- The largest `ID` in `Settlements`, `0` when there is none. -/
def maxSettlementID (s : Simulation) : ℕ :=
  s.settlements.foldl (fun maxID q =>
    if (s.settlementAt q).id > maxID then (s.settlementAt q).id else maxID) 0

/-- `claimHex` of `claimHexesForSettlement`: a hex on the map that is not
ocean and that nobody holds is claimed for `settID`. -/
def claimHex (settID : ℕ) (hexAt : HexCoord → Option Hex) (coord : HexCoord) : HexCoord → Option Hex :=
  match hexAt coord with
  | none => hexAt
  | some hex =>
    if hex.terrain = .ocean then hexAt
    else if hex.claimedBy.isNone then Function.update hexAt coord (some { hex with claimedBy := some settID })
    else hexAt

/-- `claimHexesForSettlement` (`land_governance.go`): the settlement's own hex,
then its six neighbours, each claimed when free.  The count it returns is
only logged. -/
def claimHexesForSettlement (s : Simulation) (settID : ℕ) : Simulation :=
  match s.settlementIndex settID with
  | none => s
  | some q =>
    let position := (s.settlementAt q).position
    { s with hexAt := (position :: position.neighbors).foldl (claimHex settID) s.hexAt }

/-- `releaseSettlementClaims`: every hex the settlement holds is freed. -/
def releaseSettlementClaims (s : Simulation) (settID : ℕ) : Simulation :=
  { s with hexAt := fun coord => (s.hexAt coord).map fun hex =>
      if hex.claimedBy = some settID then { hex with claimedBy := none } else hex }

section Claims

variable (s : Simulation) (settID : ℕ)

theorem claimHexesForSettlement_eq : s.claimHexesForSettlement settID = { s with hexAt := (s.claimHexesForSettlement settID).hexAt } := by
  unfold claimHexesForSettlement
  split <;> rfl

@[simp] theorem claimHexesForSettlement_agentAt : (s.claimHexesForSettlement settID).agentAt = s.agentAt := by
  rw [claimHexesForSettlement_eq]
@[simp] theorem claimHexesForSettlement_agents : (s.claimHexesForSettlement settID).agents = s.agents := by
  rw [claimHexesForSettlement_eq]
@[simp] theorem claimHexesForSettlement_settlementAt :
    (s.claimHexesForSettlement settID).settlementAt = s.settlementAt := by
  rw [claimHexesForSettlement_eq]
@[simp] theorem claimHexesForSettlement_settlements :
    (s.claimHexesForSettlement settID).settlements = s.settlements := by
  rw [claimHexesForSettlement_eq]
@[simp] theorem claimHexesForSettlement_settlementIndex :
    (s.claimHexesForSettlement settID).settlementIndex = s.settlementIndex := by
  rw [claimHexesForSettlement_eq]
@[simp] theorem claimHexesForSettlement_settlementAgents :
    (s.claimHexesForSettlement settID).settlementAgents = s.settlementAgents := by
  rw [claimHexesForSettlement_eq]
@[simp] theorem claimHexesForSettlement_nextSettRef :
    (s.claimHexesForSettlement settID).nextSettRef = s.nextSettRef := by
  rw [claimHexesForSettlement_eq]
@[simp] theorem claimHexesForSettlement_registry :
    (s.claimHexesForSettlement settID).registry = s.registry := by
  rw [claimHexesForSettlement_eq]

end Claims

/-- `foundSettlement`: the state with the new settlement registered, its hexes
claimed, and the reference of its record. -/
def foundSettlement (s : Simulation) (coord : HexCoord) (founders : List AgentRef)
    (treasury : ℕ) (parentGov : GovernanceType) : Simulation × SettRef :=
  let newID := s.maxSettlementID + 1
  let newSett : Settlement :=
    -- at a tick where `generateSettlementName` panics Go founds nothing; no run of Go reaches
    -- the record the model names `""` there
    { id := newID, name := s.generateSettlementName.getD "", position := coord,
      population := founders.length, governance := parentGov, leaderID := none,
      taxRate := 0.10, treasury := treasury, governanceScore := 0.5, marketLevel := 1,
      roadLevel := 0, wallLevel := 0, cultureOpenness := 0.3, market := some newMarket }
  let ref := s.nextSettRef
  let registered : Simulation :=
    { s with
      settlementAt := Function.update s.settlementAt ref newSett
      settlements := s.settlements ++ [ref]
      nextSettRef := ref + 1
      settlementIndex := Function.update s.settlementIndex newID (some ref)
      hexAt :=
        match s.hexAt coord with
        | none => s.hexAt
        | some hex => Function.update s.hexAt coord (some { hex with settlementID := some newID })
      settlementAgents := Function.update s.settlementAgents newID founders }
  (founders.foldl (fun t p => t.modifyAgent p fun a => { a with homeSettID := some newID })
    (registered.claimHexesForSettlement newID), ref)

/-- Whether compaction drops a settlement: no population, and its hex is gone
or no longer names a settlement. -/
def isCompactable (s : Simulation) (q : SettRef) : Bool :=
  (s.settlementAt q).population == 0 &&
    match s.hexAt (s.settlementAt q).position with
    | none => true
    | some hex => hex.settlementID.isNone

/-- `SettlementIndex` rebuilt from a list of records; a later record wins. -/
def buildSettlementIndex (s : Simulation) (refs : List SettRef) : ℕ → Option SettRef :=
  refs.foldl (fun index q => Function.update index (s.settlementAt q).id (some q)) fun _ => none

def compactAbandonedSettlements (s : Simulation) : Simulation :=
  let removed := s.settlements.filter s.isCompactable
  if removed.length = 0 then s
  else
    let active := s.settlements.filter fun q => !s.isCompactable q
    let removedIDs := removed.map fun q => (s.settlementAt q).id
    { s with
      settlements := active
      settlementIndex := buildSettlementIndex s active
      settlementAgents := fun k => if k ∈ removedIDs then [] else s.settlementAgents k
      registry :=
        { s.registry with
          abandonedWeeks := removedIDs.foldl (fun m k => m.erase k) s.registry.abandonedWeeks
          nonViableWeeks := removedIDs.foldl (fun m k => m.erase k) s.registry.nonViableWeeks } }

/-! ## The ID a founding hands out -/

theorem foundSettlement_ref (s : Simulation) (coord : HexCoord) (founders : List AgentRef)
    (treasury : ℕ) (parentGov : GovernanceType) :
    (s.foundSettlement coord founders treasury parentGov).2 = s.nextSettRef := rfl

theorem foldl_modifyAgent_settlementAt (change : AgentRef → Agent → Agent) :
    ∀ (founders : List AgentRef) (t : Simulation),
      (founders.foldl (fun t p => t.modifyAgent p (change p)) t).settlementAt = t.settlementAt
  | [], _ => rfl
  | p :: rest, t => by
    rw [List.foldl_cons, foldl_modifyAgent_settlementAt change rest]
    rfl

/-- The founded settlement's `ID` is one more than the largest `ID` listed
before it: it depends on the settlements present, not on those ever present. -/
theorem foundSettlement_id (s : Simulation) (coord : HexCoord) (founders : List AgentRef)
    (treasury : ℕ) (parentGov : GovernanceType) :
    let founded := s.foundSettlement coord founders treasury parentGov
    (founded.1.settlementAt founded.2).id = s.maxSettlementID + 1 := by
  simp only [foundSettlement, foldl_modifyAgent_settlementAt (fun _ a =>
    { a with homeSettID := some (s.maxSettlementID + 1) }), claimHexesForSettlement_settlementAt,
    Function.update_self]

/-- Two settlements, IDs 1 and 2; the second has been abandoned: no
population, and its hex no longer names it. -/
def emptiedHamlet : Simulation where
  agentAt := fun _ => default
  agents := []
  nextAgentRef := 0
  agentIndex := fun _ => none
  settlementAt := fun q =>
    if q = 0 then { (default : Settlement) with id := 1, population := 40, position := ⟨0, 0⟩ }
    else { (default : Settlement) with id := 2, population := 0, position := ⟨4, 0⟩ }
  settlements := [0, 1]
  settlementIndex := fun k => if k = 1 then some 0 else if k = 2 then some 1 else none
  settlementAgents := fun _ => []
  nextSettRef := 2
  factionAt := fun _ => default
  factions := []
  hexAt := fun c => if c = ⟨0, 0⟩ then some ⟨.plains, some 1, none⟩ else some ⟨.plains, none, none⟩
  spawner := some ⟨1⟩
  registry := Registry.fresh
  lastTick := 0
  currentSeason := 0
  totalWealth := 0
  totalPopulation := 0
  inheritLog := []

/-- Compaction removes settlement 2, and the next founding is given ID 2 again. -/
theorem foundSettlement_reuses_removed_id :
    1 ∈ emptiedHamlet.settlements ∧
      1 ∉ (compactAbandonedSettlements emptiedHamlet).settlements ∧
      ((foundSettlement (compactAbandonedSettlements emptiedHamlet) ⟨4, 1⟩ [] 0 .monarchy).1.settlementAt
        (compactAbandonedSettlements emptiedHamlet).nextSettRef).id =
        (emptiedHamlet.settlementAt 1).id := by
  refine ⟨by decide, by decide, ?_⟩
  -- the founding takes one more than the largest ID left, which the compaction lowered
  have founded := foundSettlement_id (compactAbandonedSettlements emptiedHamlet) ⟨4, 1⟩ [] 0 .monarchy
  dsimp only at founded
  rw [foundSettlement_ref] at founded
  rw [founded]
  decide

end Simulation

end MiniWorld.Engine
