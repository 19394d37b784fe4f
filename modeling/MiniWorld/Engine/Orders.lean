import MiniWorld.Engine.Simulation
import MiniWorld.Phi.Constants
import MiniWorld.Run.Unstable

/-! # What agents bring to the settlement market (`internal/engine/market.go`, lines 284–419)

The pure half of market resolution: how much of each good an agent keeps
(`surplusThreshold`), which goods it asks for (`demandedGoods`,
`crafterRecipeDemand`), the seasonal price modifier (`SeasonalMarketMod`,
`seasons.go`), `MarketEntry.ResolvePrice` (`internal/economy/goods.go`), and the
order books built from them at the start of `resolveSettlementMarket`.

Go's map iteration visits `market.Entries` in an unspecified order; only the
matching pass depends on it, and `resolveSettlementMarket` takes that order as
a parameter.  The order books are built by walking `settAgents` and, for each
agent, the inventory in index order, exactly as the source appends.  They are
sorted with `sort.Slice`, which is not stable: the sort is a parameter too, any
`SliceSort`, so that orders of equal price may come out in any order.
-/

namespace MiniWorld.Engine

open MiniWorld.Agents MiniWorld.Phi MiniWorld.Run

/-! ## Thresholds and demand -/

/-- How many of a good an agent keeps before selling. -/
def surplusThreshold (a : Agent) (good : GoodType) : ℤ :=
  if good = goodGrain ∨ good = goodFish then
    if a.occupation = .farmer ∨ a.occupation = .fisher then 3 else 2
  else if good = goodIronOre ∨ good = goodTimber then
    if a.occupation = .crafter then 5 else 1
  else if good = goodHerbs then
    if a.occupation = .alchemist then 4 else 1
  else if good = goodTools ∨ good = goodWeapons then 1
  else 1

/-- The quantity of a good an agent holds above its threshold (`surplus`). -/
def surplus (a : Agent) (good : GoodType) : ℤ := a.inventory good - surplusThreshold a good

/-- A crafting recipe of `crafterRecipeDemand`: two materials and how many of each. -/
structure Recipe where
  mat1 : GoodType
  need1 : ℤ
  mat2 : GoodType
  need2 : ℤ

/-- Tools, weapons, clothing and luxuries, in the source's order. -/
def crafterRecipes : List Recipe :=
  [⟨goodIronOre, 2, goodTimber, 1⟩, ⟨goodIronOre, 2, goodCoal, 1⟩,
    ⟨goodFurs, 2, goodTools, 1⟩, ⟨goodGems, 2, goodTools, 1⟩]

/-- How much of a recipe's materials the crafter already holds, each capped at
what the recipe needs. -/
def recipeScore (a : Agent) (r : Recipe) : ℤ :=
  min (a.inventory r.mat1) r.need1 + min (a.inventory r.mat2) r.need2

/-- The first recipe of highest score: `bestScore` starts at `-1` and
`bestIdx` at `0`, and only a strictly greater score replaces the best. -/
def bestRecipe (a : Agent) : Recipe :=
  (crafterRecipes.foldl
    (fun (best : ℤ × Recipe) r => if recipeScore a r > best.1 then (recipeScore a r, r) else best)
    (-1, ⟨goodIronOre, 2, goodTimber, 1⟩)).2

/-- `crafterRecipeDemand`: the missing materials of the best recipe. -/
def crafterRecipeDemand (a : Agent) : List GoodType :=
  let r := bestRecipe a
  (if a.inventory r.mat1 < r.need1 then [r.mat1] else []) ++
    (if a.inventory r.mat2 < r.need2 then [r.mat2] else [])

/-- Whether a food is priced above three times its base at the market. -/
def foodExpensive (market : Option Market) (good : GoodType) : Bool :=
  match market with
  | none => false
  | some m =>
    match m.entries good with
    | none => false
    | some e => decide (e.price > e.basePrice * 3)

/-- `demandedGoods`: food (price-sensitive), a crafter's recipe materials, an
alchemist's herbs and exotics, a scholar's herbs, and tools for everyone. -/
def demandedGoods (a : Agent) (market : Option Market) : List GoodType :=
  let food := a.inventory goodGrain + a.inventory goodFish
  let foodNeeds :=
    if food < 3 then
      let grainExpensive := foodExpensive market goodGrain
      let fishExpensive := foodExpensive market goodFish
      if grainExpensive && !fishExpensive then [goodFish]
      else if fishExpensive && !grainExpensive then [goodGrain]
      else [goodGrain, goodFish]
    else []
  let crafterNeeds := if a.occupation = .crafter then crafterRecipeDemand a else []
  let alchemistNeeds :=
    if a.occupation = .alchemist then
      (if a.inventory goodHerbs < 2 then [goodHerbs] else []) ++
        (if a.inventory goodExotics < 2 then [goodExotics] else [])
    else []
  let scholarNeeds :=
    if a.occupation = .scholar ∧ a.inventory goodHerbs < 1 then [goodHerbs] else []
  let toolNeeds := if a.inventory goodTools < 1 then [goodTools] else []
  foodNeeds ++ crafterNeeds ++ alchemistNeeds ++ scholarNeeds ++ toolNeeds

/-! ## Prices -/

/-- `SeasonalMarketMod` (`seasons.go`): seasons are `0` spring, `1` summer,
`2` autumn, `3` winter. -/
def seasonalMarketMod (season : ℕ) (good : GoodType) : ℚ :=
  match season with
  | 3 =>
    if good = goodGrain ∨ good = goodFish then 1.5
    else if good = goodFurs then 1.8
    else if good = goodHerbs then 1.4
    else 1.1
  | 0 =>
    if good = goodGrain ∨ good = goodFish then 1.2
    else if good = goodHerbs then 0.8
    else 1.0
  | 1 =>
    if good = goodHerbs then 0.7
    else if good = goodFurs then 0.7
    else 1.0
  | 2 =>
    if good = goodGrain then 0.7
    else if good = goodFish then 0.8
    else if good = goodHerbs then 0.9
    else 1.0
  | _ => 1.0

/-- `MarketEntry.ResolvePrice`: base price times demand over supply (supply
floored at `Agnosis`) and the two modifiers, clamped to
`[BasePrice·Agnosis, BasePrice·Totality]`. -/
def resolvePrice (e : MarketEntry) (seasonalMod regionalMod : ℚ) : ℚ :=
  let supply := if e.supply < agnosis then agnosis else e.supply
  let price := e.basePrice * (e.demand / supply) * seasonalMod * regionalMod
  let floor := e.basePrice * agnosis
  let ceiling := e.basePrice * totality
  let price := if price < floor then floor else price
  if price > ceiling then ceiling else price

/-! ## Supply, demand and reference prices -/

/-- The alive agents of a `settAgents` list. -/
def aliveMembers (s : Simulation) (settAgents : List AgentRef) : List AgentRef :=
  settAgents.filter fun p => (s.agentAt p).alive

/-- The aggregated supply of a good: the positive surpluses of the alive agents. -/
def marketSupply (s : Simulation) (settAgents : List AgentRef) (good : GoodType) : ℚ :=
  ((aliveMembers s settAgents).map fun p => ((max (surplus (s.agentAt p) good) 0 : ℤ) : ℚ)).sum

/-- The aggregated demand of a good: one for each time it is demanded. -/
def marketDemand (s : Simulation) (settAgents : List AgentRef) (market : Market)
    (good : GoodType) : ℚ :=
  ((aliveMembers s settAgents).map fun p =>
    (((demandedGoods (s.agentAt p) (some market)).count good : ℕ) : ℚ)).sum

/-- `supplyFloor`: one per hundred residents, at least one. -/
def supplyFloor (sett : Settlement) : ℚ :=
  let supplyFloor : ℚ := ((sett.population / 100 : ℕ) : ℚ)
  if supplyFloor < 1 then 1 else supplyFloor

/-- The floors of the reference-price pass, written back to the entry. -/
def floorEntry (floor : ℚ) (e : MarketEntry) : MarketEntry :=
  { e with supply := if e.supply < floor then floor else e.supply,
           demand := if e.demand < 1 then 1 else e.demand }

/-- The market after the aggregation pass and the floors of the reference-price
pass, with `TradeCount` reset. -/
def tallyMarket (s : Simulation) (sett : Settlement) (settAgents : List AgentRef)
    (market : Market) : Market :=
  { market with
    entries := fun good => (market.entries good).map fun e =>
      floorEntry (supplyFloor sett)
        { e with supply := marketSupply s settAgents good,
                 demand := marketDemand s settAgents market good }
    tradeCount := 0 }

/-- `marketMod`: each market level compresses prices by `Agnosis·0.05`. -/
def marketMod (sett : Settlement) : ℚ := 1 / (1 + (sett.marketLevel : ℚ) * agnosis * 0.05)

/-- `refPrices`: a reference price for every good the market lists. -/
def refPrices (season : ℕ) (sett : Settlement) (market : Market) (good : GoodType) : Option ℚ :=
  (market.entries good).map fun e => resolvePrice e (seasonalMarketMod season good) (marketMod sett)

/-! ## Order books -/

structure Order where
  agent : AgentRef
  good : GoodType
  quantity : ℤ
  price : ℚ
  isSell : Bool

/-- The goods in inventory order. -/
def inventoryGoods : List GoodType := List.finRange 15

/-- An agent's sell orders: its surplus of each listed good, asking the
reference price times `Matter`. -/
def agentSellOrders (s : Simulation) (ref : GoodType → Option ℚ) (p : AgentRef) : List Order :=
  inventoryGoods.filterMap fun good =>
    if surplus (s.agentAt p) good ≤ 0 then none
    else (ref good).map fun price =>
      ⟨p, good, surplus (s.agentAt p) good, price * matter, true⟩

/-- An agent's buy orders: one unit of each demanded listed good, bidding the
reference price times `Being`. -/
def agentBuyOrders (s : Simulation) (ref : GoodType → Option ℚ) (market : Market) (p : AgentRef) :
    List Order :=
  (demandedGoods (s.agentAt p) (some market)).filterMap fun good =>
    (ref good).map fun price => ⟨p, good, 1, price * being, false⟩

def sellOrders (s : Simulation) (ref : GoodType → Option ℚ) (settAgents : List AgentRef) :
    List Order :=
  (aliveMembers s settAgents).flatMap (agentSellOrders s ref)

def buyOrders (s : Simulation) (ref : GoodType → Option ℚ) (market : Market)
    (settAgents : List AgentRef) : List Order :=
  (aliveMembers s settAgents).flatMap (agentBuyOrders s ref market)

/-- The sell orders of one good, ascending by price. -/
def sortedSells (slice : SliceSort Order) (orders : List Order) (good : GoodType) : List Order :=
  slice.sort (fun o => o.price) (orders.filter fun o => o.good == good)

/-- The buy orders of one good, descending by price. -/
def sortedBuys (slice : SliceSort Order) (orders : List Order) (good : GoodType) : List Order :=
  slice.sort (fun o => -o.price) (orders.filter fun o => o.good == good)

/-! ## Who is in the books -/

theorem mem_aliveMembers {s : Simulation} {settAgents : List AgentRef} {p : AgentRef} :
    p ∈ aliveMembers s settAgents ↔ p ∈ settAgents ∧ (s.agentAt p).alive := by
  simp [aliveMembers]

theorem agent_of_mem_sellOrders {s : Simulation} {ref : GoodType → Option ℚ}
    {settAgents : List AgentRef} {o : Order} (member : o ∈ sellOrders s ref settAgents) :
    o.agent ∈ aliveMembers s settAgents := by
  obtain ⟨p, listed, made⟩ := List.mem_flatMap.mp member
  simp only [agentSellOrders, List.mem_filterMap] at made
  obtain ⟨good, _, built⟩ := made
  split_ifs at built
  obtain ⟨price, _, rfl⟩ := Option.map_eq_some_iff.mp built
  exact listed

theorem agent_of_mem_buyOrders {s : Simulation} {ref : GoodType → Option ℚ} {market : Market}
    {settAgents : List AgentRef} {o : Order} (member : o ∈ buyOrders s ref market settAgents) :
    o.agent ∈ aliveMembers s settAgents := by
  obtain ⟨p, listed, made⟩ := List.mem_flatMap.mp member
  simp only [agentBuyOrders, List.mem_filterMap] at made
  obtain ⟨good, _, built⟩ := made
  obtain ⟨price, _, rfl⟩ := Option.map_eq_some_iff.mp built
  exact listed

theorem mem_of_mem_sortedSells {slice : SliceSort Order} {orders : List Order} {good : GoodType} {o : Order}
    (member : o ∈ sortedSells slice orders good) : o ∈ orders :=
  List.mem_of_mem_filter (slice.mem_sort.mp member)

theorem mem_of_mem_sortedBuys {slice : SliceSort Order} {orders : List Order} {good : GoodType} {o : Order}
    (member : o ∈ sortedBuys slice orders good) : o ∈ orders :=
  List.mem_of_mem_filter (slice.mem_sort.mp member)

end MiniWorld.Engine
