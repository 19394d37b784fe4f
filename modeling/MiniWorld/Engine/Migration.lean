import MiniWorld.Engine.Merchant
import MiniWorld.Engine.Deaths
import Mathlib

/-! # Homes, arrivals and settlement passes (`settlement_lifecycle.go`, `perpetuation.go`,
`population.go`, `intervention.go`, `cognition.go`, `simulation.go` lines 1505–1571,
`internal/api/server.go` lines 2490–2525)

Every writer of `HomeSettID`, of `Agents` and of the settlement set, with the
index maintenance each does:

* arrivals — `addAgent` (births and refugees) and the admin `spawn` case append
  the new agent to `Agents`, `AgentIndex` and its home's `SettlementAgents`;
* rebuilds — `processViabilityCheck`, `processSeasonalMigration`,
  `processResourceMigration`, the Tier-2 `relocate`, the oracle's
  `guide_migration` and `ConsolidateSettlement` move homes and then call
  `rebuildSettlementAgents`; `compactDeadAgents` drops the dead and rebuilds;
* incremental updates — `processSettlementOvermass` removes its emigrants from
  their old list by ID and either founds a settlement for them or appends them
  to a cascade target's list;
* `processSettlementAbandonment` empties settlements with no one alive and
  hands their treasury to the nearest active ones, and
  `compactAbandonedSettlements` drops them.

What these passes read that the model does not track comes in as parameters:
the land capacity behind `SettlementCarryingCapacity`, hex resources, the
`Wellbeing` registers, `LastWorkTick`, the `SettlementNeighbors` cache a pass
starts with (`buildSettlementNeighbors` is how it is built, and a founding
rebuilds it), the order of Go map iteration, the spawner's random draws and
`factionForAgent` (it reads the soul's class).
-/

namespace MiniWorld.Engine

open MiniWorld.Agents MiniWorld.Phi
open MiniWorld.Run (SliceSort)

/-- The two `WellbeingState` registers the migrations read. -/
structure Wellbeing where
  satisfaction : ℚ
  effectiveMood : ℚ

/-- `world.ResourceType`, as far as producers work it. -/
inductive Resource where
  | grain | ironOre | stone | fish | furs | herbs
  deriving DecidableEq, Repr

/-- `occupationResource`: the resource a producer works. -/
def occupationResource : Occupation → Option Resource
  | .farmer => some .grain
  | .miner => some .ironOre
  | .fisher => some .fish
  | .hunter => some .furs
  | .laborer => some .stone
  | .alchemist => some .herbs
  | _ => none

/-- `math.Round` to an `int`: half away from zero. -/
noncomputable def goRound (x : ℝ) : ℤ := if x < 0 then -⌊-x + 0.5⌋ else ⌊x + 0.5⌋

/-- `Settlement.IsOvermassed`: the population beyond `Being` times the
settlement's capacity, which is its infrastructure capacity or, when smaller
and known, the capacity of its land. -/
def Settlement.isOvermassed (sett : Settlement) (hexCap : ℚ) : Bool :=
  let baseCap : ℚ := 100 + sett.marketLevel * 50 + sett.roadLevel * 25 + sett.wallLevel * 25
  let infraCap := baseCap * sett.governanceScore * totality
  let effectiveCap := if hexCap > 0 ∧ hexCap < infraCap then hexCap else infraCap
  decide ((sett.population : ℚ) > effectiveCap * being)

/-- `Spawner.spawnOne`, with its random draws given as `traits` (name, age,
health, occupation, skills, wealth, soul and needs): the next ID, a home, alive. -/
def Spawner.spawnOne (sp : Spawner) (traits : Agent) (settlementID : ℕ) : Agent × Spawner :=
  ({ id := sp.nextID, name := traits.name, age := traits.age, health := traits.health,
     homeSettID := some settlementID, occupation := traits.occupation, inventory := fun _ => 0,
     wealth := traits.wealth, tradeSkill := traits.tradeSkill, combatSkill := traits.combatSkill,
     farmingSkill := traits.farmingSkill, miningSkill := traits.miningSkill,
     craftingSkill := traits.craftingSkill, factionID := none, role := .commoner, tier := .tier0, soul := traits.soul,
     needs := traits.needs, tradeDestSett := none, tradeCargo := fun _ => 0,
     travelTicksLeft := 0, consignmentDebt := 0, tradePreferredDest := none, productionProgress := 0,
     lastWorkTick := 0, alive := true },
    ⟨sp.nextID + 1⟩)

/-- `Spawner.SpawnChild`: a newborn, of age zero, full health, no wealth and
the needs of a baby. -/
def Spawner.spawnChild (sp : Spawner) (traits : Agent) (settlementID : ℕ) : Agent × Spawner :=
  let newborn : Agent := { traits with
    age := 0
    health := 1
    wealth := 0
    needs := { survival := 0.8, safety := 0.7, belonging := 0.8, esteem := 0.1, purpose := 0.1 } }
  sp.spawnOne newborn settlementID

/-- `Spawner.SpawnPopulation`: one agent per draw, in order. -/
def Spawner.spawnPopulation (sp : Spawner) (draws : List Agent) (settlementID : ℕ) :
    List Agent × Spawner :=
  draws.foldl (fun (acc : List Agent × Spawner) traits =>
    let spawned := acc.2.spawnOne traits settlementID
    (acc.1 ++ [spawned.1], spawned.2)) ([], sp)

namespace Simulation

/-! ## Reading the settlements -/

/-- The alive agents of a `SettlementAgents` list. -/
def aliveListed (s : Simulation) (k : ℕ) : List AgentRef :=
  (s.settlementAgents k).filter fun p => (s.agentAt p).alive

/-- `findSettlementByName`: the first settlement of that name. -/
def findSettlementByName (s : Simulation) (name : String) : Option SettRef :=
  s.settlements.find? fun q => (s.settlementAt q).name = name

/-- The scan of `findNearestViableSettlement`, `findResourceSettlement` and
`ConsolidateSettlement`: the first settlement, other than `source`, passing
`eligible` at the smallest distance not above `maxDist`, starting from the
distance bound `bestDist`. -/
def nearestSettlement (s : Simulation) (source : Settlement) (maxDist bestDist : ℕ)
    (eligible : Settlement → Bool) : Option SettRef :=
  (s.settlements.foldl (fun (best : Option SettRef × ℕ) q =>
    let sett := s.settlementAt q
    if sett.id = source.id ∨ eligible sett = false then best
    else
      let dist := distance source.position sett.position
      if dist ≤ maxDist ∧ dist < best.2 then (some q, dist) else best) (none, bestDist)).1

/-- `findNearestViableSettlement`: population at least fifty. -/
def findNearestViableSettlement (s : Simulation) (source : Settlement) (maxDist : ℕ) :
    Option SettRef :=
  s.nearestSettlement source maxDist (maxDist + 1) fun sett => decide (sett.population ≥ 50)

/-- `settlementHasResource`: a unit or more of the resource on the
settlement's hex or a neighbour; `resourcesAt` is `hex.Resources`. -/
def settlementHasResource (resourcesAt : HexCoord → Resource → ℚ) (s : Simulation)
    (sett : Settlement) (res : Resource) : Bool :=
  let check := fun coord => (s.hexAt coord).isSome && decide (resourcesAt coord res ≥ 1)
  check sett.position || sett.position.neighbors.any check

/-- `findResourceSettlement`: population at least twenty-five, and the resource
at hand. -/
def findResourceSettlement (resourcesAt : HexCoord → Resource → ℚ) (s : Simulation)
    (source : Settlement) (res : Resource) (maxDist : ℕ) : Option SettRef :=
  s.nearestSettlement source maxDist (maxDist + 1) fun sett =>
    decide (sett.population ≥ 25) && s.settlementHasResource resourcesAt sett res

/-- `SettlementCarryingCapacity`: the capacity of the settlement's land,
`capacityAt` (hex resources, health and irrigation), and the population
pressure on it; zero for an unknown settlement or a hex off the map. -/
def settlementCarryingCapacity (capacityAt : HexCoord → ℚ) (s : Simulation) (settID : ℕ) :
    ℚ × ℚ :=
  match s.settlementIndex settID with
  | none => (0, 0)
  | some q =>
    let sett := s.settlementAt q
    match s.hexAt sett.position with
    | none => (0, 0)
    | some _ =>
      let capacity := capacityAt sett.position
      (capacity, if capacity > 0 then sett.population / capacity else 0)

/-- `nearestActiveSettlements`: the `n` settlements with people closest to
`source`, sorted by `sort.Slice`, which may order equal distances either way. -/
def nearestActiveSettlements (slice : SliceSort (ℕ × SettRef)) (s : Simulation) (source : HexCoord) (n : ℕ) :
    List SettRef :=
  let candidates := (s.settlements.filter fun q => (s.settlementAt q).population > 0).map
    fun q => (distance source (s.settlementAt q).position, q)
  ((slice.sort (fun c => (c.1 : ℚ)) candidates).take n).map Prod.snd

/-! ## Writing the indexes -/

/-- `a.HomeSettID = &newID` (with `a.Position = ...` and `reassignIfMismatched`,
which no longer does anything). -/
def moveHome (k : ℕ) (s : Simulation) (p : AgentRef) : Simulation :=
  s.modifyAgent p fun a => { a with homeSettID := some k }

/-- `updateSettlementPopulations`: every settlement's `Population` is the
number of alive agents in its list. -/
def updateSettlementPopulations (s : Simulation) : Simulation :=
  s.settlements.foldl (fun s q =>
    s.modifySettlement q fun sett => { sett with population := (s.aliveListed sett.id).length }) s

/-- `rebuildSettlementAgents`: every alive agent with a home, in `Agents`
order, in its home's list; then the populations. -/
def rebuildSettlementAgents (s : Simulation) : Simulation :=
  updateSettlementPopulations
    { s with settlementAgents := fun k =>
        s.agents.filter fun p => (s.agentAt p).alive ∧ (s.agentAt p).homeSettID = some k }

/-- `compactDeadAgents`: with someone dead, `Agents` keeps the alive, `AgentIndex`
is rebuilt from them, relationships to agents no longer indexed are pruned,
and the lists are rebuilt. -/
def compactDeadAgents (s : Simulation) : Simulation :=
  let alive := s.agents.filter fun p => (s.agentAt p).alive
  let removed := (s.agents.filter fun p => !(s.agentAt p).alive).length
  if removed = 0 then s
  else
    let newIndex := Index.buildIndex (fun p => (s.agentAt p).id) alive
    let s := { s with agents := alive, agentIndex := newIndex }
    let s := alive.foldl (fun s p => s.modifyAgent p fun a =>
      { a with relationships := a.relationships.filter fun r => (newIndex r.targetID).isSome }) s
    s.rebuildSettlementAgents

/-- A new agent record registered: allocated, appended to `Agents`, indexed by
ID and appended to its home's list; the common part of `addAgent` and the
admin `spawn`. -/
def appendAgent (a : Agent) (s : Simulation) : Simulation :=
  let p := s.nextAgentRef
  { s with
    agentAt := Function.update s.agentAt p a
    agents := s.agents ++ [p]
    nextAgentRef := p + 1
    agentIndex := Function.update s.agentIndex a.id (some p)
    settlementAgents :=
      match a.homeSettID with
      | some k => Function.update s.settlementAgents k (s.settlementAgents k ++ [p])
      | none => s.settlementAgents }

/-- `addAgent`: the agent registered, and one without a faction given
`factionFor a gov` unless that is zero, `gov` the governance of its home
(`GovCommune` without one); `factionFor` is `factionForAgent`. -/
def addAgent (factionFor : Agent → GovernanceType → ℕ) (a : Agent) (s : Simulation) : Simulation :=
  let gov := match a.homeSettID.bind s.settlementIndex with
    | some q => (s.settlementAt q).governance
    | none => .commune
  let a := if a.factionID = none ∧ factionFor a gov > 0 then
      { a with factionID := some (factionFor a gov) }
    else a
  s.appendAgent a

/-! ## Arrivals -/

/-- One birth of `processBirths` at the settlement `q`: the spawner's child,
added, counted, and `Population` raised. -/
def bearChild (factionFor : Agent → GovernanceType → ℕ) (traits : Agent) (q : SettRef)
    (s : Simulation) : Simulation :=
  match s.spawner with
  | none => s
  | some sp =>
    let spawned := sp.spawnChild traits (s.settlementAt q).id
    let s := { s with spawner := some spawned.2 }.addAgent factionFor spawned.1
    let s := { s with registry := { s.registry with births := s.registry.births + 1 } }
    s.modifySettlement q fun t => { t with population := t.population + 1 }

/-- The refugees of `processAntiCollapse` at the settlement `q`: one per draw,
added, and `Population` set to the alive listed plus the newcomers. -/
def admitRefugees (factionFor : Agent → GovernanceType → ℕ) (draws : List Agent) (q : SettRef)
    (s : Simulation) : Simulation :=
  match s.spawner with
  | none => s
  | some sp =>
    let aliveCount := (s.aliveListed (s.settlementAt q).id).length
    let spawned := sp.spawnPopulation draws (s.settlementAt q).id
    let s := spawned.1.foldl (fun s r => s.addAgent factionFor r) { s with spawner := some spawned.2 }
    s.modifySettlement q fun t => { t with population := aliveCount + draws.length }

/-- The writes of the admin `spawn` case once its checks pass: immigrants for
the first settlement of that name, appended without a faction, and its
`Population` raised by their number. -/
def spawnImmigrants (name : String) (draws : List Agent) (s : Simulation) : Simulation :=
  match s.findSettlementByName name, s.spawner with
  | some found, some sp =>
    let spawned := sp.spawnPopulation draws (s.settlementAt found).id
    let s := spawned.1.foldl (fun s a => s.appendAgent a) { s with spawner := some spawned.2 }
    s.modifySettlement found fun t => { t with population := t.population + draws.length }
  | _, _ => s

/-! ## Migrations that rebuild -/

/-- One settlement of `processViabilityCheck`: a settlement under twenty-five
alive counts a non-viable week, and after two of them its alive agents move to
the nearest viable settlement within eight hexes; at twenty-five or more the
count is cleared.  The flag records whether anyone moved. -/
def viabilityCheck (acc : Simulation × Bool) (q : SettRef) : Simulation × Bool :=
  let s := acc.1
  let sett := s.settlementAt q
  let aliveCount := (s.aliveListed sett.id).length
  if aliveCount < 25 then
    let weeks := (s.registry.nonViableWeeks.lookup sett.id).getD 0 + 1
    let s := { s with registry :=
      { s.registry with nonViableWeeks := s.registry.nonViableWeeks.insert sett.id weeks } }
    if weeks ≥ 2 ∧ aliveCount > 0 then
      match s.findNearestViableSettlement sett 8 with
      | none => (s, acc.2)
      | some target =>
        (s.settlementAgents sett.id).foldl (fun (acc : Simulation × Bool) p =>
          if (acc.1.agentAt p).alive then (acc.1.moveHome (acc.1.settlementAt target).id p, true)
          else acc) (s, acc.2)
    else (s, acc.2)
  else
    ({ s with registry :=
      { s.registry with nonViableWeeks := s.registry.nonViableWeeks.erase sett.id } }, acc.2)

def processViabilityCheck (s : Simulation) : Simulation :=
  let checked := s.settlements.foldl viabilityCheck (s, false)
  if checked.2 then checked.1.rebuildSettlementAgents else checked.1

/-- The global target of `processSeasonalMigration`: the ID of the settlement
with people of best treasury per head over population pressure (at least one),
`0` for none. -/
def seasonalBest (capacityAt : HexCoord → ℚ) (s : Simulation) : ℕ :=
  (s.settlements.foldl (fun (best : ℕ × ℚ) q =>
    let sett := s.settlementAt q
    let aliveCount := (s.aliveListed sett.id).length
    if aliveCount = 0 then best
    else
      let prosperity : ℚ := sett.treasury / (aliveCount + 1)
      let pp := (s.settlementCarryingCapacity capacityAt sett.id).2
      let score := prosperity / (if pp < 1 then 1 else pp)
      if score > best.2 then (sett.id, score) else best) (0, 0)).1

/-- The desperate agents of one settlement in `processSeasonalMigration`: in a
tiny settlement (under twenty-five alive at the start) those not satisfied,
who go to the nearest viable settlement within five hexes when there is one;
elsewhere those of mood at most `-0.3` and `Survival` at most `0.3`.
`aliveCount` is the settlement's count taken before anyone moved. -/
def seasonalMigrants (wellbeing : Agent → Wellbeing) (best : SettRef) (aliveCount : ℕ)
    (sett : Settlement) (acc : Simulation × Bool) (p : AgentRef) : Simulation × Bool :=
  let s := acc.1
  let a := s.agentAt p
  let isTiny := aliveCount > 0 ∧ aliveCount < 25
  let stays :=
    if isTiny then !a.alive || decide ((wellbeing a).satisfaction > 0)
    else !a.alive || decide ((wellbeing a).effectiveMood > -0.3) || decide (a.needs.survival > 0.3)
  if stays then acc
  else
    let target := if isTiny then (s.findNearestViableSettlement sett 5).getD best else best
    (s.moveHome (s.settlementAt target).id p, true)

def processSeasonalMigration (capacityAt : HexCoord → ℚ) (wellbeing : Agent → Wellbeing)
    (s : Simulation) : Simulation :=
  let bestSettID := s.seasonalBest capacityAt
  if bestSettID = 0 then s
  else
    match s.settlementIndex bestSettID with
    | none => s
    | some best =>
      let moved := s.settlements.foldl (fun (acc : Simulation × Bool) q =>
        let sett := s.settlementAt q
        if sett.id = bestSettID then acc
        else (acc.1.settlementAgents sett.id).foldl
          (seasonalMigrants wellbeing best (s.aliveListed sett.id).length sett) acc) (s, false)
      if moved.2 then moved.1.rebuildSettlementAgents else moved.1

/-- The idle producers of one list in `processResourceMigration` move, at most
a tenth of its alive producers (at least one), to the nearest settlement with
their resource within five hexes, else ten. -/
def resourceMigrants (resourcesAt : HexCoord → Resource → ℚ) (sett : Settlement)
    (maxMigrate : ℕ) (acc : Simulation × Bool × ℕ) (p : AgentRef) : Simulation × Bool × ℕ :=
  let s := acc.1
  if acc.2.2 ≥ maxMigrate then acc
  else
    match occupationResource (s.agentAt p).occupation with
    | none => acc
    | some res =>
      let target := (s.findResourceSettlement resourcesAt sett res 5).or
        (s.findResourceSettlement resourcesAt sett res 10)
      match target with
      | none => acc
      | some target => (s.moveHome (s.settlementAt target).id p, true, acc.2.2 + 1)

/-- One list of `processResourceMigration`, for a key of `SettlementIndex`:
`lastWorkTick` is `a.LastWorkTick`. -/
def resourceMigration (resourcesAt : HexCoord → Resource → ℚ) (lastWorkTick : Agent → ℕ)
    (tick : ℕ) (acc : Simulation × Bool) (settID : ℕ) : Simulation × Bool :=
  let s := acc.1
  match s.settlementIndex settID with
  | none => acc
  | some q =>
    let sett := s.settlementAt q
    let settAgents := s.settlementAgents settID
    let idleProducers := settAgents.filter fun p =>
      let a := s.agentAt p
      match occupationResource a.occupation with
      | none => false
      | some res => a.alive && decide (tick - lastWorkTick a ≥ ticksPerSimDay * 14) &&
          !s.settlementHasResource resourcesAt sett res
    if idleProducers = [] then acc
    else
      let producerCount := (settAgents.filter fun p =>
        (s.agentAt p).alive && (occupationResource (s.agentAt p).occupation).isSome).length
      let maxMigrate := if producerCount / 10 < 1 then 1 else producerCount / 10
      let moved := idleProducers.foldl (resourceMigrants resourcesAt sett maxMigrate) (s, acc.2, 0)
      (moved.1, moved.2.1)

/-- `processResourceMigration`; `keys` is the order the range over
`SettlementAgents` visits its keys in. -/
def processResourceMigration (resourcesAt : HexCoord → Resource → ℚ) (lastWorkTick : Agent → ℕ)
    (keys : List ℕ) (tick : ℕ) (s : Simulation) : Simulation :=
  let moved := keys.foldl (resourceMigration resourcesAt lastWorkTick tick) (s, false)
  if moved.2 then moved.1.rebuildSettlementAgents else moved.1

/-- The `relocate` decision of a Tier-2 agent: home to the first settlement of
that name, and the lists rebuilt at once. -/
def relocate (target : String) (s : Simulation) (p : AgentRef) : Simulation :=
  match s.findSettlementByName target with
  | none => s
  | some q => (s.moveHome (s.settlementAt q).id p).rebuildSettlementAgents

/-- One candidate of the oracle's `guide_migration`: an alive, dissatisfied
producer other than the oracle, while fewer than ten have been guided. -/
def guideCandidate (wellbeing : Agent → Wellbeing) (oracleID : AgentID) (target : SettRef)
    (acc : Simulation × ℕ) (c : AgentRef) : Simulation × ℕ :=
  let s := acc.1
  let candidate := s.agentAt c
  if acc.2 ≥ 10 then acc
  else if !candidate.alive || candidate.id == oracleID then acc
  else if (wellbeing candidate).satisfaction ≥ 0 then acc
  else if (occupationResource candidate.occupation).isNone then acc
  else (s.moveHome (s.settlementAt target).id c, acc.2 + 1)

/-- The oracle's `guide_migration` vision: up to ten of its neighbours go to
the first settlement of the vision's target name. -/
def guideMigration (wellbeing : Agent → Wellbeing) (target : String) (s : Simulation)
    (oracle : AgentRef) : Simulation :=
  let a := s.agentAt oracle
  match a.homeSettID with
  | none => s
  | some home =>
    match s.findSettlementByName target with
    | none => s
    | some t =>
      let guided := (s.settlementAgents home).foldl (guideCandidate wellbeing a.id t) (s, 0)
      if guided.2 > 0 then guided.1.rebuildSettlementAgents else guided.1

/-- `ConsolidateSettlement`: up to `count` alive agents of the named
settlement move to the nearest settlement of fifty or more within eight
hexes, and the lists are rebuilt; the errors are the source's. -/
def consolidateSettlement (name : String) (count : ℕ) (s : Simulation) : Except String Simulation :=
  match s.findSettlementByName name with
  | none => .error ("settlement " ++ name.quote ++ " not found")
  | some source =>
    let sett := s.settlementAt source
    match s.nearestSettlement sett 8 999 fun t => decide (t.population ≥ 50) with
    | none => .error ("no viable target settlement found near " ++ name.quote)
    | some target =>
      let moved := (s.settlementAgents sett.id).foldl (fun (acc : Simulation × ℕ) p =>
        if acc.2 ≥ count then acc
        else if !(acc.1.agentAt p).alive then acc
        else (acc.1.moveHome (acc.1.settlementAt target).id p, acc.2 + 1)) (s, 0)
      if moved.2 = 0 then .error ("no alive agents to move from " ++ name.quote)
      else .ok moved.1.rebuildSettlementAgents

/-! ## Overmass and abandonment -/

/-- The founding sites of the diaspora: hexes three to five out in six
golden-angle directions, on the map, unsettled, and of habitable terrain. -/
noncomputable def goldenAngleCandidates (s : Simulation) (position : HexCoord) : List HexCoord :=
  (List.range 6).flatMap fun i => (List.range' 3 3).filterMap fun dist =>
    let angle : ℝ := 2.0 * Real.pi * matter * i
    let coord : HexCoord :=
      ⟨position.q + goRound (dist * Real.cos angle), position.r + goRound (dist * Real.sin angle)⟩
    (s.hexAt coord).elim none fun hex =>
      if hex.settlementID.isNone ∧
          hex.terrain ∈ [Terrain.plains, .forest, .coast, .river, .mountain] then some coord
      else none

/-- The emigrants of a diaspora: the first alive agents younger than fifty and
not leaders, up to `emigrantCount`. -/
def selectEmigrants (s : Simulation) (emigrantCount : ℕ) (aliveAgents : List AgentRef) :
    List AgentRef :=
  aliveAgents.foldl (fun emigrants p =>
    if emigrants.length ≥ emigrantCount then emigrants
    else if (s.agentAt p).age < 50 ∧ (s.agentAt p).role ≠ .leader then emigrants ++ [p]
    else emigrants) []

/-- The emigrants' pool for the new treasury: a third of each one's wealth. -/
def poolWealth (emigrants : List AgentRef) (s : Simulation) : Simulation × ℕ :=
  emigrants.foldl (fun (acc : Simulation × ℕ) p =>
    let contribution := (acc.1.agentAt p).wealth / 3
    (acc.1.debitAgent p contribution, acc.2 + contribution)) (s, 0)

/-- `neighbors[k] = append(neighbors[k], q)`. -/
def addNeighbor (neighbors : ℕ → Option (List SettRef)) (k : ℕ) (q : SettRef) :
    ℕ → Option (List SettRef) :=
  Function.update neighbors k (some ((neighbors k).getD [] ++ [q]))

/-- The pair loop of `BuildSettlementNeighbors` from the settlement `a` on: a
populated `a` against every later populated settlement within ten hexes, each
listed under the other's `ID`, then the later ones among themselves. -/
def neighborPairs (s : Simulation) : List SettRef → (ℕ → Option (List SettRef)) →
    ℕ → Option (List SettRef)
  | [], neighbors => neighbors
  | a :: later, neighbors =>
    let sa := s.settlementAt a
    let neighbors := if sa.population = 0 then neighbors
      else later.foldl (fun neighbors b =>
        let sb := s.settlementAt b
        if sb.population = 0 then neighbors
        else if distance sa.position sb.position ≤ 10 then
          addNeighbor (addNeighbor neighbors sa.id b) sb.id a
        else neighbors) neighbors
    neighborPairs s later neighbors

/-- `BuildSettlementNeighbors`: the `SettlementNeighbors` cache; a settlement
with no populated settlement within ten hexes has no entry. -/
def buildSettlementNeighbors (s : Simulation) : ℕ → Option (List SettRef) :=
  s.neighborPairs s.settlements fun _ => none

/-- `findCascadeTarget`: among the settlement's `SettlementNeighbors`, the
populated one of lowest population pressure below one. -/
def findCascadeTarget (capacityAt : HexCoord → ℚ) (neighborsOf : ℕ → Option (List SettRef))
    (s : Simulation) (source : Settlement) : Option SettRef :=
  match neighborsOf source.id with
  | none => none
  | some neighbors =>
    (neighbors.foldl (fun (best : Option SettRef × ℚ) n =>
      if (s.settlementAt n).population = 0 then best
      else
        let pp := (s.settlementCarryingCapacity capacityAt (s.settlementAt n).id).2
        if pp ≥ best.2 then best else (some n, pp)) (none, 1)).1

/-- `cascadeMigrate`: the emigrants move home to `target`, leave the source's
list by ID and join the end of the target's, and the populations follow. -/
def cascadeMigrate (s : Simulation) (source target : SettRef) (emigrants settAgents : List AgentRef) :
    Simulation :=
  let targetID := (s.settlementAt target).id
  let s := emigrants.foldl (moveHome targetID) s
  let emigrantIDs := emigrants.map fun p => (s.agentAt p).id
  let remaining := settAgents.filter fun p => (s.agentAt p).id ∉ emigrantIDs
  let s := { s with
    settlementAgents := Function.update s.settlementAgents (s.settlementAt source).id remaining }
  let s := { s with
    settlementAgents :=
      Function.update s.settlementAgents targetID (s.settlementAgents targetID ++ emigrants) }
  let s := s.modifySettlement source fun t => { t with population := t.population - emigrants.length }
  s.modifySettlement target fun t => { t with population := t.population + emigrants.length }

/-- A diaspora's settling once its pool `treasury` is collected: the settlement
is founded, which rebuilds `SettlementNeighbors`, and the source loses the
emigrants from its population and, by ID, from its list.  The new state comes
with the rebuilt cache. -/
def settleDaughter (s : Simulation) (q : SettRef) (site : HexCoord) (emigrants settAgents : List AgentRef)
    (treasury : ℕ) (parentGov : GovernanceType) : Simulation × (ℕ → Option (List SettRef)) :=
  let founded := s.foundSettlement site emigrants treasury parentGov
  let neighbors := founded.1.buildSettlementNeighbors
  let s := founded.1.modifySettlement q fun t => { t with population := t.population - emigrants.length }
  let emigrantIDs := emigrants.map fun p => (s.agentAt p).id
  ({ s with
    settlementAgents := Function.update s.settlementAgents (s.settlementAt q).id
      (settAgents.filter fun p => (s.agentAt p).id ∉ emigrantIDs) }, neighbors)

/-- The founding of a diaspora: the emigrants pool a third of their wealth and
settle at the first site, under the source's governance. -/
def foundDaughter (s : Simulation) (q : SettRef) (site : HexCoord) (emigrants settAgents : List AgentRef) :
    Simulation × (ℕ → Option (List SettRef)) :=
  let pooled := poolWealth emigrants s
  pooled.1.settleDaughter q site emigrants settAgents pooled.2 (s.settlementAt q).governance

/-- One settlement of `processSettlementOvermass`, with the `SettlementNeighbors`
cache as it stands: an overmassed settlement of twenty or more alive sends
about `Agnosis` of them, at least twenty-five, to found a settlement, or, with
no founding site, to its cascade target. -/
noncomputable def overmassSettlement (capacityAt : HexCoord → ℚ)
    (acc : Simulation × (ℕ → Option (List SettRef))) (q : SettRef) :
    Simulation × (ℕ → Option (List SettRef)) :=
  let s := acc.1
  let sett := s.settlementAt q
  if !sett.isOvermassed (s.settlementCarryingCapacity capacityAt sett.id).1 then acc
  else
    let settAgents := s.settlementAgents sett.id
    let aliveAgents := settAgents.filter fun p => (s.agentAt p).alive
    if aliveAgents.length < 20 then acc
    else
      let emigrantCount := ⌊(aliveAgents.length : ℚ) * agnosis⌋₊
      if emigrantCount < 25 then acc
      else
        let emigrants := s.selectEmigrants emigrantCount aliveAgents
        match s.goldenAngleCandidates sett.position with
        | [] =>
          match s.findCascadeTarget capacityAt acc.2 sett with
          | none => acc
          | some target => (s.cascadeMigrate q target emigrants settAgents, acc.2)
        | site :: _ => s.foundDaughter q site emigrants settAgents

/-- `processSettlementOvermass`, over the settlements present when it starts;
`neighbors` is the `SettlementNeighbors` cache it starts with. -/
noncomputable def processSettlementOvermass (capacityAt : HexCoord → ℚ)
    (neighbors : ℕ → Option (List SettRef)) (s : Simulation) : Simulation :=
  match s.spawner with
  | none => s
  | some _ => (s.settlements.foldl (overmassSettlement capacityAt) (s, neighbors)).1

/-- The treasury of an abandoned settlement shared among the nearest active
ones, the remainder of the division to the nearest; the source's treasury is
read again after the shares, as Go does, before it is zeroed. -/
def redistributeTreasury (slice : SliceSort (ℕ × SettRef)) (s : Simulation) (q : SettRef) : Simulation :=
  let sett := s.settlementAt q
  let nearest := s.nearestActiveSettlements slice sett.position 3
  match nearest with
  | [] => s
  | first :: _ =>
    let share := sett.treasury / nearest.length
    let s := nearest.foldl (fun s n => s.creditSettlement n share) s
    let remainder := (s.settlementAt q).treasury - share * nearest.length
    let s := s.creditSettlement first remainder
    s.modifySettlement q fun t => { t with treasury := 0 }

/-- One settlement of `processSettlementAbandonment`: one that is not already
abandoned and has no one alive counts an abandoned week and is abandoned:
treasury shared out, claims released, hex cleared, population zero; one with people alive has
its count cleared. -/
def abandonSettlement (slice : SliceSort (ℕ × SettRef)) (s : Simulation) (q : SettRef) : Simulation :=
  let sett := s.settlementAt q
  let hexCleared := match s.hexAt sett.position with
    | none => true
    | some hex => hex.settlementID.isNone
  if sett.population = 0 ∧ hexCleared = true then s
  else if (s.aliveListed sett.id).length = 0 then
    let weeks := (s.registry.abandonedWeeks.lookup sett.id).getD 0 + 1
    let s := { s with registry :=
      { s.registry with abandonedWeeks := s.registry.abandonedWeeks.insert sett.id weeks } }
    if weeks ≥ 1 then
      let s := if sett.treasury > 0 then s.redistributeTreasury slice q else s
      let s := s.releaseSettlementClaims sett.id
      let s := { s with hexAt := match s.hexAt sett.position with
        | none => s.hexAt
        | some hex => Function.update s.hexAt sett.position (some { hex with settlementID := none }) }
      s.modifySettlement q fun t => { t with population := 0 }
    else s
  else
    { s with registry :=
      { s.registry with abandonedWeeks := s.registry.abandonedWeeks.erase sett.id } }

def processSettlementAbandonment (slice : SliceSort (ℕ × SettRef)) (s : Simulation) : Simulation :=
  s.settlements.foldl (abandonSettlement slice) s

end Simulation

end MiniWorld.Engine
