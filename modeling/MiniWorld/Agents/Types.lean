import Mathlib.Data.Rat.Defs
import Mathlib.Data.Fin.Basic

/-! # The agent data model (`internal/agents/types.go`, `soul.go`, `needs.go`)

An `Agent` carries the fields that the modelled engine code reads and writes.
Go's unsigned counters (`Wealth`, `ConsignmentDebt`, `TravelTicksLeft`, `Age`)
are natural numbers, `GoodInventory` (`[NumGoods]int`) is a function from the
fifteen goods to integers, and float32 fields are rationals.  Fields that no
modelled function reads (position, memories, wellbeing, biography data) are left
out; the five skills of `SkillSet` are fields of their own.
-/

namespace MiniWorld.Agents

/-- `AgentID` (uint64). -/
abbrev AgentID := ℕ

inductive Occupation where
  | farmer | miner | crafter | merchant | soldier
  | scholar | alchemist | laborer | fisher | hunter
  deriving DecidableEq, Repr, Inhabited

inductive SocialRole where
  | commoner | merchant | soldier | noble | leader | outlaw | scholar
  deriving DecidableEq, Repr, Inhabited

inductive CognitionTier where
  | tier0 | tier1 | tier2
  deriving DecidableEq, Repr, Inhabited

/-- `StateOfBeing`, the coherence band of a soul. -/
inductive StateOfBeing where
  | embodied | centered | liberated
  deriving DecidableEq, Repr, Inhabited

/-- `GoodType`: the `NumGoods = 15` tradeable goods, by their `iota` index. -/
abbrev GoodType := Fin 15

def goodGrain : GoodType := 0

def goodTimber : GoodType := 1

def goodIronOre : GoodType := 2

def goodStone : GoodType := 3

def goodFish : GoodType := 4

def goodHerbs : GoodType := 5

def goodGems : GoodType := 6

def goodFurs : GoodType := 7

def goodCoal : GoodType := 8

def goodExotics : GoodType := 9

def goodTools : GoodType := 10

def goodWeapons : GoodType := 11

def goodClothing : GoodType := 12

def goodMedicine : GoodType := 13

def goodLuxuries : GoodType := 14

/-- `GoodInventory` (`[NumGoods]int`). -/
abbrev GoodInventory := GoodType → ℤ

/-- `GoodInventory.IsEmpty`: every quantity is zero. -/
def GoodInventory.isEmpty (inventory : GoodInventory) : Bool :=
  decide (∀ good, inventory good = 0)

/-- `NeedsState`: the five Maslow registers, each in `[0, 1]` after clamping. -/
structure NeedsState where
  survival : ℚ
  safety : ℚ
  belonging : ℚ
  esteem : ℚ
  purpose : ℚ
  deriving Inhabited

/-- The parts of `AgentSoul` the model reads: the master variable and its band. -/
structure AgentSoul where
  cittaCoherence : ℚ
  state : StateOfBeing
  deriving Inhabited

/-- `Relationship`: a social bond towards the agent `targetID`. -/
structure Relationship where
  targetID : AgentID
  sentiment : ℚ
  trust : ℚ := 0
  deriving Inhabited

structure Agent where
  id : AgentID
  name : String
  age : ℕ
  health : ℚ
  homeSettID : Option ℕ
  occupation : Occupation
  inventory : GoodInventory
  wealth : ℕ
  tradeSkill : ℚ
  combatSkill : ℚ
  farmingSkill : ℚ
  miningSkill : ℚ
  craftingSkill : ℚ
  factionID : Option ℕ
  role : SocialRole
  tier : CognitionTier
  soul : AgentSoul
  needs : NeedsState
  tradeDestSett : Option ℕ
  tradeCargo : GoodInventory
  travelTicksLeft : ℕ
  consignmentDebt : ℕ
  tradePreferredDest : Option ℕ
  productionProgress : ℚ
  lastWorkTick : ℕ
  alive : Bool
  relationships : List Relationship := []
  deriving Inhabited

end MiniWorld.Agents
