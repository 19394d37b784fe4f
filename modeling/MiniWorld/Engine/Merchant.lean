import MiniWorld.Engine.Market
import MiniWorld.Engine.Setup
import MiniWorld.Engine.Tick

/-! # Merchant trade (`internal/engine/market.go` lines 761–1292)

Every hour `resolveMerchantTrade` walks the settlements and, in each, the
merchants listed in `SettlementAgents`.  A merchant on the road counts down its
travel time; one that has arrived with cargo sells it at the destination
(`sellMerchantCargo`: the destination treasury pays per unit, or a resident
buyer pays and the settlement takes a fee, and Tier-2 merchants there take a
commission) and repays its consignment debt to the home treasury.  A merchant at
home with twenty crowns or more scouts the neighbours for the best margin, buys
up to five units, provisions food for the road and leaves.

Each unit bought is paid from the merchant's purse into the home treasury, or,
once the purse is short, fronted by the home treasury as consignment:
`sett.Treasury -= buyPrice` and `a.ConsignmentDebt += buyPrice`.  That branch
credits no one.  The debt is a receivable, not money, so each fronted unit
takes its price out of the money supply (`consignmentWorld_loses_consigned`).

The neighbour indexes `SettlementTradeNeighbors` and `SettlementNeighbors` are
parameters, as is the iteration order of the home market's entries.  The
Tier-2 memories the function writes are not modelled.
-/

namespace MiniWorld.Engine

open MiniWorld.Agents MiniWorld.Phi MiniWorld.Run

/-! ## Routes (`internal/world/hex.go`, `market.go` lines 993–1072) -/

/-- `HexCoord.S`, the third cube coordinate. -/
def HexCoord.s (h : HexCoord) : ℤ := -h.q - h.r

/-- `world.Distance`: the largest difference of the three cube coordinates. -/
def distance (a b : HexCoord) : ℕ :=
  max (max (a.q - b.q).natAbs (a.r - b.r).natAbs) (a.s - b.s).natAbs

theorem eq_of_distance_eq_zero {a b : HexCoord} (zero : distance a b = 0) : a = b := by
  simp only [distance, Nat.max_eq_zero_iff, Int.natAbs_eq_zero, sub_eq_zero] at zero
  obtain ⟨⟨sameQ, sameR⟩, -⟩ := zero
  cases a
  cases b
  simp_all

/-- `terrainMoveCost`: the ticks to cross one hex. -/
def terrainMoveCost : Terrain → ℕ
  | .plains => 6
  | .forest => 8
  | .mountain => 12
  | .coast => 6
  | .river => 3
  | .desert => 8
  | .swamp => 10
  | .tundra => 8
  | .ocean => 999

/-- The cost of entering a hex: its terrain's, or `6` off the map. -/
def enterCost (hexAt : HexCoord → Option Hex) (coord : HexCoord) : ℕ :=
  match hexAt coord with
  | some hex => terrainMoveCost hex.terrain
  | none => 6

/-- One step of `routeCost`: of the neighbours, the first strictly closer to
the target than everything before it, or `cur` itself when none is closer. -/
def stepToward (cur target : HexCoord) : HexCoord :=
  (cur.neighbors.foldl (fun (best : HexCoord × ℕ) n =>
    if distance n target < best.2 then (n, distance n target) else best)
    (cur, distance cur target)).1

/-- The loop of `routeCost` from `cur` with the cost so far; it stops at the
target, or when no neighbour is closer. -/
def routeCostLoop (hexAt : HexCoord → Option Hex) (target : HexCoord) :
    ℕ → HexCoord → ℕ → ℕ
  | 0, _, cost => cost
  | fuel + 1, cur, cost =>
    if cur = target then cost
    else
      let best := stepToward cur target
      if best = cur then cost
      else routeCostLoop hexAt target fuel best (cost + enterCost hexAt best)

/-- `routeCost`: the loop given as many rounds as the distance, which is all it
can take (`routeCostLoop_fuel`). -/
def routeCost (hexAt : HexCoord → Option Hex) (origin target : HexCoord) : ℕ :=
  routeCostLoop hexAt target (distance origin target) origin 0

/-- A step of `routeCost` that moves gets strictly closer. -/
theorem stepToward_closer (cur target : HexCoord) (moved : stepToward cur target ≠ cur) :
    distance (stepToward cur target) target < distance cur target := by
  -- the fold keeps: the pair's distance is its hex's, and it is below the start
  -- unless the hex is still `cur`
  have kept := foldl_invariant
    (fun best : HexCoord × ℕ => best.2 = distance best.1 target ∧
      (best.1 = cur ∨ best.2 < distance cur target))
    (fun best n => if distance n target < best.2 then (n, distance n target) else best)
    cur.neighbors (cur, distance cur target)
    (fun n _ best ⟨atBest, closer⟩ => by
      split_ifs with better
      · refine ⟨rfl, .inr ?_⟩
        rcases closer with stayed | below
        · rwa [atBest, stayed] at better
        · omega
      · exact ⟨atBest, closer⟩)
    ⟨rfl, .inl rfl⟩
  obtain ⟨atBest, stayed | closer⟩ := kept
  · exact absurd stayed moved
  · unfold stepToward
    omega

/-- Rounds beyond the distance change nothing: by then the loop has stopped. -/
theorem routeCostLoop_fuel (hexAt : HexCoord → Option Hex) (target : HexCoord) :
    ∀ (fuel extra : ℕ) (cur : HexCoord) (cost : ℕ), distance cur target ≤ fuel →
      routeCostLoop hexAt target (fuel + extra) cur cost = routeCostLoop hexAt target fuel cur cost
  | 0, 0, _, _, _ => rfl
  | 0, extra + 1, cur, cost, near => by
    have arrived : cur = target := eq_of_distance_eq_zero (Nat.le_zero.mp near)
    simp [routeCostLoop, arrived]
  | fuel + 1, extra, cur, cost, near => by
    rw [Nat.add_right_comm]
    simp only [routeCostLoop]
    split_ifs with arrived stuck
    · rfl
    · rfl
    · exact routeCostLoop_fuel hexAt target fuel extra _ _
        (by have := stepToward_closer cur target stuck; omega)

/-- `roadAdjustedCost`: each road level takes a tenth of `Agnosis` off the
cost, down to six ticks. -/
def roadAdjustedCost (baseCost roadLevel : ℕ) : ℕ :=
  if roadLevel = 0 then baseCost
  else
    let adjusted := ⌊(baseCost : ℚ) * (1 - roadLevel * agnosis * 0.1)⌋₊
    if adjusted < 6 then 6 else adjusted

/-! ## Relations between settlements (`relations.go`, `peace.go`, `trade_routes.go`) -/

/-- `settRelKey`: the pair of IDs, the smaller first. -/
def settRelKey (a b : ℕ) : SettRelKey := if a > b then ⟨b, a⟩ else ⟨a, b⟩

def embargoSentiment : ℚ := -0.382

namespace Simulation

/-- `IsEmbargoed`: the pair's sentiment is below `embargoSentiment`. -/
def isEmbargoed (s : Simulation) (a b : ℕ) : Bool :=
  match s.registry.relations.lookup (settRelKey a b) with
  | none => false
  | some rel => rel.sentiment < embargoSentiment

/-- `GetRouteBonus`: the travel discount and the margin bonus of an established
trade route, `(1, 0)` without one. -/
def getRouteBonus (s : Simulation) (a b : ℕ) : ℚ × ℚ :=
  match s.registry.tradeRoutes.lookup (settRelKey a b) with
  | none => (1, 0)
  | some route =>
    if route.level = 0 then (1, 0)
    else (1 - route.level * agnosis * 0.1, route.level * agnosis * 0.05)

/-- `RecordInterSettlementTrade`: one more trade between two settlements. -/
def recordInterSettlementTrade (s : Simulation) (source dest : ℕ) : Simulation :=
  if source = dest then s
  else
    let key := settRelKey source dest
    { s with
      registry := { s.registry with
        tradeTracker := s.registry.tradeTracker.insert key
          ((s.registry.tradeTracker.lookup key).getD 0 + 1) } }

/-! ## Selling at the destination (`sellMerchantCargo`, `findDirectBuyer`, `tier2Commission`) -/

/-- The tests `findDirectBuyer` puts to a resident: alive, able to pay without
spending more than `Agnosis` of its wealth, and in need of the good. -/
def wantsGood (buyer : Agent) (good : GoodType) (price : ℕ) : Bool :=
  buyer.alive && price ≤ buyer.wealth && price ≤ ⌊(buyer.wealth : ℚ) * agnosis⌋₊ &&
    if good = goodGrain ∨ good = goodFish then buyer.needs.survival ≤ matter
    else buyer.inventory good < 2

/-- `findDirectBuyer`: the first resident of the settlement who wants the good. -/
def findDirectBuyer (s : Simulation) (good : GoodType) (price settID : ℕ) : Option AgentRef :=
  (s.settlementAgents settID).find? fun p => wantsGood (s.agentAt p) good price

/-- The settlement's fee on a direct sale, a tenth of `Agnosis` of the price and
at least one crown. -/
def directSaleFee (unitPrice : ℕ) : ℕ :=
  let fee := ⌊(unitPrice : ℚ) * agnosis * 0.1⌋₊
  if fee < 1 then 1 else fee

/-- The unit loop of `sellMerchantCargo` for one good: the destination treasury
pays while it can, then a resident buyer pays and the settlement takes its fee;
the loop stops when no one buys.  The revenue is accumulated. -/
def sellUnits (p : AgentRef) (d : SettRef) (good : GoodType) (unitPrice : ℕ) :
    ℕ → Simulation × ℕ → Simulation × ℕ
  | 0, acc => acc
  | n + 1, (s, revenue) =>
    if unitPrice ≤ (s.settlementAt d).treasury then
      sellUnits p d good unitPrice n
        ((s.debitSettlement d unitPrice).creditAgent p unitPrice, revenue + unitPrice)
    else
      match s.findDirectBuyer good unitPrice (s.settlementAt d).id with
      | none => (s, revenue)
      | some buyer =>
        let fee := directSaleFee unitPrice
        sellUnits p d good unitPrice n
          (((s.debitAgent buyer unitPrice).creditAgent p (unitPrice - fee)).creditSettlement d fee,
            revenue + (unitPrice - fee))

/-- The loop of `sellMerchantCargo` over the cargo, good by good in index order. -/
def sellCargo (p : AgentRef) (d : SettRef) (market : Market) :
    List GoodType → Simulation × ℕ → Simulation × ℕ
  | [], acc => acc
  | good :: rest, (s, revenue) =>
    match market.entries good with
    | none => sellCargo p d market rest (s, revenue)
    | some entry =>
      let qty := (s.agentAt p).tradeCargo good
      if qty ≤ 0 then sellCargo p d market rest (s, revenue)
      else sellCargo p d market rest (sellUnits p d good (crownPrice entry.price) qty.toNat (s, revenue))

/-- The needs a completed sale lifts. -/
def tradeNeeds (n : NeedsState) : NeedsState :=
  { n with safety := n.safety + 0.008, esteem := n.esteem + 0.012,
           belonging := n.belonging + 0.004, purpose := n.purpose + 0.004,
           survival := n.survival + agnosis * 0.05 }

/-- The loop of `tier2Commission` over the destination's residents, with the
commission paid so far: each alive Tier-2 merchant other than the seller takes
its share of the revenue, within the cap and the seller's purse. -/
def commissionLoop (seller : AgentRef) (revenue maxTotal : ℕ) :
    List AgentRef → Simulation × ℕ → Simulation × ℕ
  | [], acc => acc
  | p :: rest, (s, totalPaid) =>
    let a := s.agentAt p
    if a.tier ≠ .tier2 ∨ a.occupation ≠ .merchant then
      commissionLoop seller revenue maxTotal rest (s, totalPaid)
    else if ¬a.alive ∨ a.id = (s.agentAt seller).id then
      commissionLoop seller revenue maxTotal rest (s, totalPaid)
    else
      let share := ⌊(revenue : ℚ) * agnosis * 0.1 * (1 + a.soul.cittaCoherence)⌋₊
      if share = 0 then commissionLoop seller revenue maxTotal rest (s, totalPaid)
      else
        let capped := if totalPaid + share > maxTotal then maxTotal - totalPaid else share
        let commission :=
          if capped > (s.agentAt seller).wealth then (s.agentAt seller).wealth else capped
        if commission = 0 then (s, totalPaid)
        else
          let paid := (s.debitAgent seller commission).creditAgent p commission
          if totalPaid + commission ≥ maxTotal then (paid, totalPaid + commission)
          else commissionLoop seller revenue maxTotal rest (paid, totalPaid + commission)

/-- `tier2Commission`: at most `Agnosis` of the revenue, rounded, goes to the
Tier-2 merchants of the destination. -/
def tier2Commission (s : Simulation) (seller : AgentRef) (d : SettRef) (revenue : ℕ) :
    Simulation :=
  let maxTotal := ⌊(revenue : ℚ) * agnosis + 0.5⌋₊
  if maxTotal = 0 then s
  else (commissionLoop seller revenue maxTotal (s.settlementAgents (s.settlementAt d).id) (s, 0)).1

def sellMerchantCargo (s : Simulation) (p : AgentRef) (d : SettRef) (market : Market) :
    Simulation :=
  let sold := sellCargo p d market inventoryGoods (s, 0)
  if sold.2 > 0 then
    (sold.1.modifyAgent p fun a => { a with needs := tradeNeeds a.needs }).tier2Commission p d sold.2
  else sold.1

/-! ## One merchant's hour -/

/-- A merchant that has arrived with cargo: the sale at the destination, when
it is indexed and has a market, then the repayment of the consignment debt
into the home treasury, then the cargo and destination cleared. -/
def arrive (s : Simulation) (q : SettRef) (p : AgentRef) (destID : ℕ) : Simulation :=
  let sold :=
    match s.settlementIndex destID with
    | none => s
    | some d =>
      match (s.settlementAt d).market with
      | none => s
      | some market =>
        let traded := s.sellMerchantCargo p d market
        let counted := { traded with
          registry := { traded.registry with tradeVolume := traded.registry.tradeVolume + 1 } }
        match (counted.agentAt p).homeSettID with
        | none => counted
        | some home => counted.recordInterSettlementTrade home (counted.settlementAt d).id
  let repaid :=
    if (sold.agentAt p).consignmentDebt > 0 then
      let repay := min (sold.agentAt p).consignmentDebt (sold.agentAt p).wealth
      ((sold.debitAgent p repay).creditSettlement q repay).modifyAgent p fun a =>
        { a with consignmentDebt := a.consignmentDebt - repay }
    else sold
  repaid.modifyAgent p fun a => { a with tradeDestSett := none, tradeCargo := fun _ => 0 }

/-- The margin a merchant expects for a good at a neighbour: the price gap over
the home price, weighted by `Being`, the two settlements' openness and an
established route, and by `Being` again for a scouted destination. -/
def effectiveMargin (s : Simulation) (sett neighbor : Settlement) (a : Agent)
    (homePrice destPrice : ℚ) : ℚ :=
  let opennessMod := 1 + (sett.cultureOpenness + neighbor.cultureOpenness) * 0.5 * agnosis * 0.2
  let margin := (destPrice - homePrice) / homePrice
  let effective := margin * being * opennessMod * (1 + (s.getRouteBonus sett.id neighbor.id).2)
  if a.tradePreferredDest = some neighbor.id then effective * being else effective

/-- One good of the scouting loop: the best opportunity so far, replaced by a
strictly better margin above `Psyche`. -/
def scoutGood (s : Simulation) (sett : Settlement) (home : Market) (a : Agent) (neighbor : SettRef)
    (best : ℚ × Option (GoodType × SettRef)) (good : GoodType) : ℚ × Option (GoodType × SettRef) :=
  match home.entries good, (s.settlementAt neighbor).market.bind (·.entries good) with
  | some homeEntry, some destEntry =>
    if homeEntry.price < 1 then best
    else
      let margin := effectiveMargin s sett (s.settlementAt neighbor) a homeEntry.price destEntry.price
      if margin > psyche ∧ margin > best.1 then (margin, some (good, neighbor)) else best
  | _, _ => best

/-- One neighbour of the scouting loop, skipped under embargo. -/
def scoutNeighbor (s : Simulation) (sett : Settlement) (home : Market) (a : Agent)
    (goodOrder : List GoodType) (best : ℚ × Option (GoodType × SettRef)) (neighbor : SettRef) :
    ℚ × Option (GoodType × SettRef) :=
  if s.isEmbargoed sett.id (s.settlementAt neighbor).id then best
  else goodOrder.foldl (scoutGood s sett home a neighbor) best

/-- The scouting: the best good and destination over the neighbours. -/
def scout (s : Simulation) (sett : Settlement) (home : Market) (a : Agent)
    (goodOrder : List GoodType) (neighbors : List SettRef) : Option (GoodType × SettRef) :=
  (neighbors.foldl (scoutNeighbor s sett home a goodOrder) (0, none)).2

/-- The travel time to a destination: the road-adjusted route cost, discounted
by an established route, at least six ticks. -/
def travelTicks (s : Simulation) (sett dest : Settlement) : ℕ :=
  let baseCost := roadAdjustedCost (routeCost s.hexAt sett.position dest.position) sett.roadLevel
  let ticks := ⌊(baseCost : ℚ) * (s.getRouteBonus sett.id dest.id).1⌋₊
  if ticks < 6 then 6 else ticks

/-- The net profitability check: five units' price gap must beat the food for
the journey, two crowns a meal. -/
def profitable (s : Simulation) (sett : Settlement) (home : Market) (good : GoodType) (d : SettRef) :
    Bool :=
  let homePrice := ((home.entries good).map (·.price)).getD 0
  let destPrice := (((s.settlementAt d).market.bind (·.entries good)).map (·.price)).getD 0
  let foodCost : ℚ := ((travelTicks s sett (s.settlementAt d) / ticksPerSimHour + 2 : ℕ) : ℚ) * 2
  ¬(destPrice - homePrice) * 5 ≤ foodCost

/-- The buy loop: up to five units, each paid from the merchant's purse into
the home treasury, or else fronted by the home treasury as consignment debt;
it stops when neither can pay.  Returns the state and the units bought. -/
def buyLoop (p : AgentRef) (q : SettRef) (buyPrice : ℕ) : ℕ → Simulation × ℕ → Simulation × ℕ
  | 0, acc => acc
  | n + 1, (s, qty) =>
    if buyPrice ≤ (s.agentAt p).wealth then
      buyLoop p q buyPrice n ((s.debitAgent p buyPrice).creditSettlement q buyPrice, qty + 1)
    else if buyPrice ≤ (s.settlementAt q).treasury then
      buyLoop p q buyPrice n
        ((s.debitSettlement q buyPrice).modifyAgent p fun a =>
          { a with consignmentDebt := a.consignmentDebt + buyPrice }, qty + 1)
    else (s, qty)

/-- One meal for the road: grain, else fish, the first the home market lists
that the merchant can pay, paid into the home treasury. -/
def buyMeal (p : AgentRef) (q : SettRef) (market : Market) :
    List GoodType → Simulation → Option Simulation
  | [], _ => none
  | foodGood :: rest, s =>
    match market.entries foodGood with
    | none => buyMeal p q market rest s
    | some entry =>
      if crownPrice entry.price ≤ (s.agentAt p).wealth then
        some (((s.debitAgent p (crownPrice entry.price)).creditSettlement q
          (crownPrice entry.price)).addInventory p foodGood 1)
      else buyMeal p q market rest s

/-- The provisioning loop: a meal at a time, until enough or none can be bought. -/
def provisionLoop (p : AgentRef) (q : SettRef) (market : Market) : ℕ → Simulation → Simulation
  | 0, s => s
  | n + 1, s =>
    match buyMeal p q market [goodGrain, goodFish] s with
    | none => s
    | some fed => provisionLoop p q market n fed

/-- Buying the cargo and leaving: the buy loop at the home price, then, if
anything was bought, the cargo loaded, food provisioned and the travel time set
(`uint16`). -/
def depart (s : Simulation) (q : SettRef) (home : Market) (p : AgentRef) (good : GoodType)
    (d : SettRef) : Simulation :=
  let buyPrice := crownPrice (((home.entries good).map (·.price)).getD 0)
  let bought := buyLoop p q buyPrice 5 (s, 0)
  if bought.2 = 0 then bought.1
  else
    let destID := (bought.1.settlementAt d).id
    let loaded := bought.1.modifyAgent p fun a =>
      { a with tradeDestSett := some destID,
               tradeCargo := Function.update a.tradeCargo good (a.tradeCargo good + bought.2) }
    let travelCost := travelTicks loaded (loaded.settlementAt q) (loaded.settlementAt d)
    let currentFood := (loaded.agentAt p).inventory goodGrain + (loaded.agentAt p).inventory goodFish
    let mealsNeeded := travelCost / ticksPerSimHour + 2
    let provisioned := provisionLoop p q home ((mealsNeeded : ℤ) - currentFood).toNat loaded
    provisioned.modifyAgent p fun a => { a with travelTicksLeft := travelCost % 65536 }

/-- A merchant at home: below twenty crowns it stays; otherwise it scouts,
forgets its scouted destination, and leaves on a profitable trip. -/
def tradeTrip (goodOrder : List GoodType) (q : SettRef) (home : Market)
    (neighbors : List SettRef) (s : Simulation) (p : AgentRef) : Simulation :=
  if (s.agentAt p).wealth < 20 then s
  else
    let sett := s.settlementAt q
    let best := s.scout sett home (s.agentAt p) goodOrder neighbors
    let cleared := s.modifyAgent p fun a => { a with tradePreferredDest := none }
    match best with
    | none => cleared
    | some (good, d) => if cleared.profitable sett home good d then cleared.depart q home p good d
      else cleared

/-- The body of the merchant loop, for one resident of the settlement. -/
def merchantHour (goodOrder : List GoodType) (q : SettRef) (home : Market)
    (neighbors : List SettRef) (s : Simulation) (p : AgentRef) : Simulation :=
  let a := s.agentAt p
  if !a.alive || a.occupation != .merchant then s
  else if a.travelTicksLeft > 0 then
    s.modifyAgent p fun a => { a with
      travelTicksLeft :=
        if a.travelTicksLeft ≤ ticksPerSimHour then 0 else a.travelTicksLeft - ticksPerSimHour }
  else
    match a.tradeDestSett, a.tradeCargo.isEmpty with
    | some destID, false => s.arrive q p destID
    | _, _ => tradeTrip goodOrder q home neighbors s p

/-- One settlement of `resolveMerchantTrade`: a settlement with a surplus good
scouts its wide neighbours that have a market, the others their trade
neighbours; with none, its merchants stay. -/
def merchantSettlement (tradeNeighbors wideNeighbors : ℕ → List SettRef)
    (goodOrder : List GoodType) (s : Simulation) (q : SettRef) : Simulation :=
  let sett := s.settlementAt q
  match sett.market with
  | none => s
  | some home =>
    let popThreshold := (sett.population : ℚ) * being
    let hasSurplus := inventoryGoods.any fun good =>
      match home.entries good with
      | some e => decide (e.supply > popThreshold ∧ e.supply > 100)
      | none => false
    let neighbors :=
      if hasSurplus then (wideNeighbors sett.id).filter fun n => (s.settlementAt n).market.isSome
      else tradeNeighbors sett.id
    if neighbors = [] then s
    else (s.settlementAgents sett.id).foldl (merchantHour goodOrder q home neighbors) s

def resolveMerchantTrade (tradeNeighbors wideNeighbors : ℕ → List SettRef)
    (goodOrder : List GoodType) (s : Simulation) : Simulation :=
  s.settlements.foldl (merchantSettlement tradeNeighbors wideNeighbors goodOrder) s

/-- The merchant of `consignmentWorld`. -/
def consignmentMerchants : List Agent :=
  [{ (default : Agent) with
    id := 1, homeSettID := some 1, occupation := .merchant, wealth := 20, alive := true }]

/-- The settlements of `consignmentWorld`: IDs 1 and 2, two hexes apart. -/
def consignmentSettlements : List Settlement :=
  [{ (default : Settlement) with id := 1, position := ⟨0, 0⟩, population := 1, treasury := 100 },
    { (default : Settlement) with id := 2, position := ⟨2, 0⟩ }]

/-- A generated world where settlement 2 pays 40 for gems that cost 15 at
settlement 1, whose treasury holds 100 crowns and whose one resident, a
merchant, 20. -/
def consignmentWorld : Simulation :=
  (newSimulation (fun _ => none) consignmentMerchants consignmentSettlements).modifyMarket 1
    fun m => m.modifyEntry goodGems fun e => { e with price := 40 }

theorem consignmentWorld_wired : consignmentWorld.Wired := by
  have generated : (newSimulation (fun _ => none) consignmentMerchants consignmentSettlements).Wired :=
    newSimulation_wired _ (by decide) fun a listed _ => by
      simp only [consignmentMerchants, List.mem_singleton] at listed
      subst listed
      exact ⟨1, rfl, by decide⟩
  exact (crownsOnly_modifyMarket _ 1 _).wired generated

/-- The merchant buys one unit of gems from its purse and four on consignment,
then two meals: the hour ends with 60 crowns fewer in the world, the 60 the
merchant owes. -/
theorem consignmentWorld_loses_consigned :
    consignmentWorld.Wired ∧
      (resolveMerchantTrade (fun k => if k = 1 then [1] else if k = 2 then [0] else [])
          (fun _ => []) inventoryGoods consignmentWorld).moneySupply + 60 =
        consignmentWorld.moneySupply ∧
      ((resolveMerchantTrade (fun k => if k = 1 then [1] else if k = 2 then [0] else [])
          (fun _ => []) inventoryGoods consignmentWorld).agentAt 0).consignmentDebt = 60 := by
  refine ⟨consignmentWorld_wired, ?_, ?_⟩ <;> decide +kernel

/-! ## What a sale delivers -/

/-- Every agent holds the same goods after as before. -/
def GoodsKept (before after : Simulation) : Prop :=
  ∀ q, (after.agentAt q).inventory = (before.agentAt q).inventory

theorem GoodsKept.trans {first second third : Simulation} (head : GoodsKept first second)
    (tail : GoodsKept second third) : GoodsKept first third :=
  fun q => (tail q).trans (head q)

theorem goodsKept_modifyAgent (s : Simulation) (p : AgentRef) {change : Agent → Agent}
    (keeps : (change (s.agentAt p)).inventory = (s.agentAt p).inventory) :
    GoodsKept s (s.modifyAgent p change) := by
  intro q
  by_cases same : q = p
  · subst same
    simp [keeps]
  · simp [modifyAgent_agentAt, same]

theorem goodsKept_debitAgent (s : Simulation) (p : AgentRef) (amount : ℕ) :
    GoodsKept s (s.debitAgent p amount) := goodsKept_modifyAgent s p rfl

theorem goodsKept_creditAgent (s : Simulation) (p : AgentRef) (amount : ℕ) :
    GoodsKept s (s.creditAgent p amount) := goodsKept_modifyAgent s p rfl

theorem goodsKept_debitSettlement (s : Simulation) (q : SettRef) (amount : ℕ) :
    GoodsKept s (s.debitSettlement q amount) := fun _ => rfl

theorem goodsKept_creditSettlement (s : Simulation) (q : SettRef) (amount : ℕ) :
    GoodsKept s (s.creditSettlement q amount) := fun _ => rfl

/-- Neither path of the unit loop moves goods: the treasury path and the
direct path both only move crowns. -/
theorem sellUnits_goodsKept (p : AgentRef) (d : SettRef) (good : GoodType) (unitPrice : ℕ) :
    ∀ n (acc : Simulation × ℕ), GoodsKept acc.1 (sellUnits p d good unitPrice n acc).1
  | 0, _ => fun _ => rfl
  | n + 1, (s, revenue) => by
    unfold sellUnits
    split
    · exact ((goodsKept_debitSettlement _ _ _).trans (goodsKept_creditAgent _ _ _)).trans
        (sellUnits_goodsKept p d good unitPrice n _)
    · split
      · exact fun _ => rfl
      · exact (((goodsKept_debitAgent _ _ _).trans (goodsKept_creditAgent _ _ _)).trans
          (goodsKept_creditSettlement _ _ _)).trans (sellUnits_goodsKept p d good unitPrice n _)

theorem sellCargo_goodsKept (p : AgentRef) (d : SettRef) (market : Market) :
    ∀ (goods : List GoodType) (acc : Simulation × ℕ), GoodsKept acc.1 (sellCargo p d market goods acc).1
  | [], _ => fun _ => rfl
  | good :: rest, (s, revenue) => by
    unfold sellCargo
    split
    · exact sellCargo_goodsKept p d market rest _
    · dsimp only
      split
      · exact sellCargo_goodsKept p d market rest _
      · exact (sellUnits_goodsKept p d good _ _ (s, revenue)).trans
          (sellCargo_goodsKept p d market rest _)

theorem commissionLoop_goodsKept (seller : AgentRef) (revenue maxTotal : ℕ) :
    ∀ (members : List AgentRef) (acc : Simulation × ℕ),
      GoodsKept acc.1 (commissionLoop seller revenue maxTotal members acc).1
  | [], _ => fun _ => rfl
  | p :: rest, (s, totalPaid) => by
    have later := commissionLoop_goodsKept seller revenue maxTotal rest
    unfold commissionLoop
    dsimp only
    split_ifs
    any_goals exact later _
    any_goals exact fun _ => rfl
    all_goals first
      | exact (goodsKept_debitAgent _ _ _).trans (goodsKept_creditAgent _ _ _)
      | exact ((goodsKept_debitAgent _ _ _).trans (goodsKept_creditAgent _ _ _)).trans (later _)

theorem tier2Commission_goodsKept (s : Simulation) (seller : AgentRef) (d : SettRef) (revenue : ℕ) :
    GoodsKept s (s.tier2Commission seller d revenue) := by
  unfold tier2Commission
  dsimp only
  split
  · exact fun _ => rfl
  · exact commissionLoop_goodsKept seller revenue _ _ (s, 0)

/-- `sellMerchantCargo` leaves every agent's goods as they were: the direct
buyers pay and receive nothing. -/
theorem sellMerchantCargo_inventory (s : Simulation) (p : AgentRef) (d : SettRef) (market : Market)
    (q : AgentRef) : ((s.sellMerchantCargo p d market).agentAt q).inventory = (s.agentAt q).inventory := by
  have sold := sellCargo_goodsKept p d market inventoryGoods (s, 0)
  unfold sellMerchantCargo
  dsimp only
  split
  · exact ((sold.trans (goodsKept_modifyAgent _ p rfl)).trans (tier2Commission_goodsKept _ p d _)) q
  · exact sold q

theorem findDirectBuyer_wants {s : Simulation} {good : GoodType} {price settID : ℕ} {buyer : AgentRef}
    (found : s.findDirectBuyer good price settID = some buyer) :
    wantsGood (s.agentAt buyer) good price = true := by
  unfold findDirectBuyer at found
  have chosen := List.find?_some found
  exact chosen

/-- One unit sold through `findDirectBuyer` debits the buyer the unit price and
hands it nothing: its goods are those it had. -/
theorem direct_sale_delivers_nothing (s : Simulation) (p : AgentRef) (d : SettRef) (good : GoodType)
    (unitPrice n revenue : ℕ) (buyer : AgentRef) (short : (s.settlementAt d).treasury < unitPrice)
    (found : s.findDirectBuyer good unitPrice (s.settlementAt d).id = some buyer) (apart : buyer ≠ p) :
    ∃ sold, sellUnits p d good unitPrice (n + 1) (s, revenue) =
        sellUnits p d good unitPrice n (sold, revenue + (unitPrice - directSaleFee unitPrice)) ∧
      (sold.agentAt buyer).wealth + unitPrice = (s.agentAt buyer).wealth ∧
      (sold.agentAt buyer).inventory = (s.agentAt buyer).inventory := by
  have affordable : unitPrice ≤ (s.agentAt buyer).wealth := by
    have wants := findDirectBuyer_wants found
    simp only [wantsGood, Bool.and_eq_true, decide_eq_true_eq] at wants
    obtain ⟨⟨⟨-, covered⟩, -⟩, -⟩ := wants
    exact covered
  refine ⟨((s.debitAgent buyer unitPrice).creditAgent p (unitPrice - directSaleFee unitPrice)).creditSettlement
      d (directSaleFee unitPrice), ?_, ?_, ?_⟩
  · rw [sellUnits, if_neg (by omega), found]
  · simp [creditSettlement, creditAgent, debitAgent, modifyAgent_agentAt, apart]
    omega
  · simp [creditSettlement, creditAgent, debitAgent, modifyAgent_agentAt, apart]

/-- A trader (reference 0) at settlement 1, whose treasury is empty, and one
resident there (reference 1) with 100 crowns and no tools. -/
def marketDayWorld : Simulation :=
  newSimulation (fun _ => none)
    [{ (default : Agent) with id := 1, homeSettID := some 2, occupation := .merchant, alive := true },
      { (default : Agent) with id := 2, homeSettID := some 1, wealth := 100, alive := true }]
    [{ (default : Settlement) with id := 1, population := 1 }]

theorem marketDay_buyer_pays_for_nothing :
    ∃ sold, sellUnits 0 0 goodTools 10 1 (marketDayWorld, 0) =
        sellUnits 0 0 goodTools 10 0 (sold, 0 + (10 - directSaleFee 10)) ∧
      (sold.agentAt 1).wealth + 10 = (marketDayWorld.agentAt 1).wealth ∧
      (sold.agentAt 1).inventory = (marketDayWorld.agentAt 1).inventory :=
  direct_sale_delivers_nothing marketDayWorld 0 0 goodTools 10 0 0 1 (by decide)
    (by decide +kernel) (by decide)

end Simulation

end MiniWorld.Engine
