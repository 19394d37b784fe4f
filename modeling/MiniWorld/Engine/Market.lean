import MiniWorld.Engine.Orders
import MiniWorld.Engine.Money
import Mathlib

/-! # Market resolution (`internal/engine/market.go`)

`resolveSettlementMarket` (lines 38–282) tallies supply and demand, prices
every listed good, builds the order books (`Engine.Orders`) and then, good by
good, runs the two-pointer matching loop: sells ascending, buys descending,
one buy order consumed per iteration, the sell order only when its
`sellRemain` is used up, each unit paid at the seller's ask rounded to crowns.
`resolveBuyFood` (lines 704–757) and `tier2MarketSell` (lines 1238–1292) are
the direct sales between one agent and its settlement's treasury.

Every unit of the matching loop moves `clearCrowns` from an alive buyer to an
alive seller, and only when the buyer holds them (or they are zero); food and
Tier-2 sales are covered transfers between an alive agent and a listed
treasury.  So each of these keeps the money supply.
-/

namespace MiniWorld.Engine

open MiniWorld.Agents MiniWorld.Phi
open MiniWorld.Run (SliceSort)

/-- `entry.Field = ...` on the entry of one good, when the market lists it. -/
def Market.modifyEntry (m : Market) (good : GoodType) (change : MarketEntry → MarketEntry) :
    Market :=
  { m with entries := Function.update m.entries good ((m.entries good).map change) }

namespace Simulation

/-! ## Writes to a settlement's market -/

/-- A write through `sett.Market`, when the settlement has a market. -/
def modifyMarket (s : Simulation) (q : SettRef) (change : Market → Market) : Simulation :=
  s.modifySettlement q fun t => { t with market := t.market.map change }

theorem crownsOnly_modifyMarket (s : Simulation) (q : SettRef) (change : Market → Market) :
    CrownsOnly s (s.modifyMarket q change) := crownsOnly_modifySettlement s q rfl

@[simp] theorem moneySupply_modifyMarket (s : Simulation) (q : SettRef) (change : Market → Market) :
    (s.modifyMarket q change).moneySupply = s.moneySupply :=
  moneySupply_modifySettlement_of_treasury rfl

/-! ## The matching loop -/

/-- One unit changing hands at `clearCrowns`. -/
def tradeUnit (good : GoodType) (buyer seller : AgentRef) (clearCrowns : ℕ) (s : Simulation) :
    Simulation :=
  (((s.debitAgent buyer clearCrowns).creditAgent seller clearCrowns).addInventory buyer good 1)
    |>.addInventory seller good (-1)

/-- The unit loop: up to `tradeQty` units, stopping at the first the buyer
cannot pay; returns the state and the number of units traded. -/
def unitLoop (good : GoodType) (buyer seller : AgentRef) (clearCrowns : ℕ) :
    ℕ → Simulation → Simulation × ℕ
  | 0, s => (s, 0)
  | n + 1, s =>
    if clearCrowns > 0 ∧ (s.agentAt buyer).wealth < clearCrowns then (s, 0)
    else
      let rest := unitLoop good buyer seller clearCrowns n (tradeUnit good buyer seller clearCrowns s)
      (rest.1, rest.2 + 1)

/-- `sellRemain` after the sell pointer advances: the next order's quantity,
or the old value when the sells are used up (the loop then ends). -/
def nextSellRemain : List Order → ℤ → ℤ
  | [], sellRemain => sellRemain
  | next :: _, _ => next.quantity

/-- The two-pointer loop of one good over the sells from `si` on and the buys
from `bi` on.  Each iteration consumes one buy order, and the sell order only
when `sellRemain` drops to zero.  Returns the state, `totalTraded` and
`totalRevenue`. -/
def matchLoop (good : GoodType) :
    Simulation → ℕ → ℕ → List Order → ℤ → List Order → Simulation × ℕ × ℕ
  | s, totalTraded, totalRevenue, [], _, _ => (s, totalTraded, totalRevenue)
  | s, totalTraded, totalRevenue, _ :: _, _, [] => (s, totalTraded, totalRevenue)
  | s, totalTraded, totalRevenue, sell :: sells, sellRemain, buy :: buys =>
    if sell.price > buy.price then (s, totalTraded, totalRevenue)
    else
      let clearCrowns := ⌊sell.price + 0.5⌋₊
      let tradeQty := min buy.quantity sellRemain
      let traded := unitLoop good buy.agent sell.agent clearCrowns tradeQty.toNat s
      let sellRemain := sellRemain - traded.2
      if sellRemain ≤ 0 then
        matchLoop good traded.1 (totalTraded + traded.2) (totalRevenue + traded.2 * clearCrowns)
          sells (nextSellRemain sells sellRemain) buys
      else
        matchLoop good traded.1 (totalTraded + traded.2) (totalRevenue + traded.2 * clearCrowns)
          (sell :: sells) sellRemain buys

/-- The price after a good traded: 70% of the old price and 30% of the average
clearing price, clamped to `[BasePrice·Agnosis, BasePrice·Totality]`. -/
def clearingBlend (totalTraded totalRevenue : ℕ) (e : MarketEntry) : MarketEntry :=
  let avgClear : ℚ := (totalRevenue : ℚ) / totalTraded
  let blended := e.price * 0.7 + avgClear * 0.3
  let floor := e.basePrice * agnosis
  let ceiling := e.basePrice * totality
  let blended := if blended < floor then floor else blended
  { e with price := if blended > ceiling then ceiling else blended }

/-- The bookkeeping after a good's matching: the price blend when anything
traded, `TradeCount`, and `MostTradedGood` when this good traded most so far. -/
def recordTrades (q : SettRef) (good : GoodType) (totalTraded totalRevenue : ℕ) (s : Simulation)
    (maxTraded : ℕ) : Simulation × ℕ :=
  let s := if totalTraded > 0 then
      s.modifyMarket q fun m => m.modifyEntry good (clearingBlend totalTraded totalRevenue)
    else s
  let s := s.modifyMarket q fun m => { m with tradeCount := m.tradeCount + totalTraded }
  if totalTraded > maxTraded then
    (s.modifyMarket q fun m => { m with mostTradedGood := good }, totalTraded)
  else (s, maxTraded)

/-- One iteration of the matching pass over `market.Entries`, with `maxTraded`. -/
def matchGood (slice : SliceSort Order) (q : SettRef) (sellOrders buyOrders : List Order)
    (acc : Simulation × ℕ) (good : GoodType) : Simulation × ℕ :=
  let sells := sortedSells slice sellOrders good
  let buys := sortedBuys slice buyOrders good
  if sells.length = 0 ∨ buys.length = 0 then acc
  else
    let matched := matchLoop good acc.1 0 0 sells (nextSellRemain sells 0) buys
    recordTrades q good matched.2.1 matched.2.2 matched.1 acc.2

/-- The matching pass, visiting the goods in `goodOrder`: the keys of
`market.Entries` in the order Go's map iteration happens to take. -/
def matchOrders (slice : SliceSort Order) (q : SettRef) (goodOrder : List GoodType)
    (sellOrders buyOrders : List Order) (s : Simulation) : Simulation :=
  (goodOrder.foldl (matchGood slice q sellOrders buyOrders) (s, 0)).1

/-- The surplus price decay: a good oversupplied past `Population·Being` (and
past 100) loses `Agnosis·1%` of its price, down to its floor. -/
def surplusDecay (popThreshold : ℚ) (e : MarketEntry) : MarketEntry :=
  if e.supply > popThreshold ∧ e.supply > 100 then
    let floor := e.basePrice * agnosis
    if e.price > floor then
      let price := e.price - e.price * agnosis * 0.01
      { e with price := if price < floor then floor else price }
    else e
  else e

def resolveSettlementMarket (slice : SliceSort Order) (goodOrder : List GoodType) (season : ℕ)
    (s : Simulation) (q : SettRef) (settAgents : List AgentRef) : Simulation :=
  match (s.settlementAt q).market with
  | none => s
  | some market =>
    let sett := s.settlementAt q
    let market := tallyMarket s sett settAgents market
    let ref := refPrices season sett market
    let sells := sellOrders s ref settAgents
    let buys := buyOrders s ref market settAgents
    let tallied := s.modifySettlement q fun t => { t with market := some market }
    let matched := matchOrders slice q goodOrder sells buys tallied
    let popThreshold := (sett.population : ℚ) * being
    matched.modifyMarket q fun m =>
      { m with entries := fun good => (m.entries good).map (surplusDecay popThreshold) }

/-- `resolveMarkets`: every settlement with residents, in `Settlements` order. -/
def resolveMarkets (slice : SliceSort Order) (goodOrder : SettRef → List GoodType) (s : Simulation) :
    Simulation :=
  s.settlements.foldl (fun t q =>
    let settAgents := t.settlementAgents (t.settlementAt q).id
    if settAgents.length = 0 then t
    else resolveSettlementMarket slice (goodOrder q) t.currentSeason t q settAgents) s

/-! ### Conservation -/

/-- Every order belongs to an alive agent of `Agents`. -/
def OrdersCounted (s : Simulation) (orders : List Order) : Prop :=
  ∀ o ∈ orders, s.Counted (.agent o.agent)

theorem CrownsOnly.ordersCounted {before after : Simulation} (change : CrownsOnly before after)
    {orders : List Order} (counted : before.OrdersCounted orders) : after.OrdersCounted orders :=
  fun o member => change.counted (counted o member)

theorem OrdersCounted.tail {s : Simulation} {o : Order} {orders : List Order}
    (counted : s.OrdersCounted (o :: orders)) : s.OrdersCounted orders :=
  fun o' member => counted o' (List.mem_cons_of_mem o member)

theorem OrdersCounted.sortedSells {s : Simulation} {orders : List Order}
    (counted : s.OrdersCounted orders) (slice : SliceSort Order) (good : GoodType) :
    s.OrdersCounted (MiniWorld.Engine.sortedSells slice orders good) :=
  fun o member => counted o (mem_of_mem_sortedSells member)

theorem OrdersCounted.sortedBuys {s : Simulation} {orders : List Order}
    (counted : s.OrdersCounted orders) (slice : SliceSort Order) (good : GoodType) :
    s.OrdersCounted (MiniWorld.Engine.sortedBuys slice orders good) :=
  fun o member => counted o (mem_of_mem_sortedBuys member)

theorem ordersCounted_of_aliveMembers {s : Simulation} {settAgents : List AgentRef}
    {orders : List Order} (listed : s.AliveListed settAgents)
    (placed : ∀ o ∈ orders, o.agent ∈ aliveMembers s settAgents) : s.OrdersCounted orders := by
  intro o member
  obtain ⟨inList, alive⟩ := mem_aliveMembers.mp (placed o member)
  exact ⟨listed o.agent inList alive, alive⟩

/-- A unit moves `clearCrowns` from the buyer to the seller, and goods between
them. -/
theorem tradeUnit_keeps (good : GoodType) {s : Simulation} {buyer seller : AgentRef}
    {clearCrowns : ℕ} (wired : s.Wired) (buyerCounted : s.Counted (.agent buyer))
    (sellerCounted : s.Counted (.agent seller)) (covered : clearCrowns ≤ (s.agentAt buyer).wealth) :
    Keeps s (tradeUnit good buyer seller clearCrowns s) ∧
      CrownsOnly s (tradeUnit good buyer seller clearCrowns s) := by
  obtain ⟨paid, paidChange⟩ := transfer_keeps wired buyerCounted sellerCounted covered
  have stocked := (crownsOnly_addInventory
    ((s.debitAgent buyer clearCrowns).creditAgent seller clearCrowns) buyer good 1).trans
    (crownsOnly_addInventory _ seller good (-1))
  exact ⟨paid.trans (stocked.keeps paid.wired (by simp only [moneySupply_addInventory])),
    paidChange.trans stocked⟩

/-- The unit loop pays only what the buyer holds: its `break` guards every
debit of a positive price. -/
theorem unitLoop_keeps (good : GoodType) (buyer seller : AgentRef) (clearCrowns : ℕ) :
    ∀ (n : ℕ) (s : Simulation), s.Wired → s.Counted (.agent buyer) → s.Counted (.agent seller) →
      Keeps s (unitLoop good buyer seller clearCrowns n s).1 ∧
        CrownsOnly s (unitLoop good buyer seller clearCrowns n s).1
  | 0, s, wired, _, _ => ⟨Keeps.refl wired, CrownsOnly.refl s⟩
  | n + 1, s, wired, buyerCounted, sellerCounted => by
    unfold unitLoop
    split_ifs with cannotPay
    · exact ⟨Keeps.refl wired, CrownsOnly.refl s⟩
    · have covered : clearCrowns ≤ (s.agentAt buyer).wealth := by omega
      obtain ⟨kept, change⟩ := tradeUnit_keeps good wired buyerCounted sellerCounted covered
      obtain ⟨restKept, restChange⟩ := unitLoop_keeps good buyer seller clearCrowns n _ kept.wired
        (change.counted buyerCounted) (change.counted sellerCounted)
      exact ⟨kept.trans restKept, change.trans restChange⟩

/-- The matching loop of one good keeps the money supply, whatever the order of
the books: the induction is on the buy orders, which every iteration consumes. -/
theorem matchLoop_keeps (good : GoodType) :
    ∀ (sells : List Order) (sellRemain : ℤ) (buys : List Order) (s : Simulation)
      (totalTraded totalRevenue : ℕ), s.Wired → s.OrdersCounted sells → s.OrdersCounted buys →
      Keeps s (matchLoop good s totalTraded totalRevenue sells sellRemain buys).1 ∧
        CrownsOnly s (matchLoop good s totalTraded totalRevenue sells sellRemain buys).1
  | [], _, _, s, _, _, wired, _, _ => by
    simp only [matchLoop]
    exact ⟨Keeps.refl wired, CrownsOnly.refl s⟩
  | _ :: _, _, [], s, _, _, wired, _, _ => by
    simp only [matchLoop]
    exact ⟨Keeps.refl wired, CrownsOnly.refl s⟩
  | sell :: sells, sellRemain, buy :: buys, s, totalTraded, totalRevenue, wired, sellsCounted,
      buysCounted => by
    unfold matchLoop
    dsimp only
    have sellerCounted := sellsCounted sell List.mem_cons_self
    have buyerCounted := buysCounted buy List.mem_cons_self
    obtain ⟨kept, change⟩ := unitLoop_keeps good buy.agent sell.agent ⌊sell.price + 0.5⌋₊
      (min buy.quantity sellRemain).toNat s wired buyerCounted sellerCounted
    have restBuys := (change.ordersCounted buysCounted).tail
    split_ifs with crossed exhausted
    · exact ⟨Keeps.refl wired, CrownsOnly.refl s⟩
    · -- the sell order is used up: the sell pointer advances
      obtain ⟨restKept, restChange⟩ := matchLoop_keeps good sells _ buys _ _ _ kept.wired
        (change.ordersCounted sellsCounted).tail restBuys
      exact ⟨kept.trans restKept, change.trans restChange⟩
    · obtain ⟨restKept, restChange⟩ := matchLoop_keeps good (sell :: sells) _ buys _ _ _ kept.wired
        (change.ordersCounted sellsCounted) restBuys
      exact ⟨kept.trans restKept, change.trans restChange⟩

theorem recordTrades_keeps {s : Simulation} (q : SettRef) (good : GoodType)
    (totalTraded totalRevenue maxTraded : ℕ) (wired : s.Wired) :
    Keeps s (recordTrades q good totalTraded totalRevenue s maxTraded).1 ∧
      CrownsOnly s (recordTrades q good totalTraded totalRevenue s maxTraded).1 := by
  have blended : Keeps s (if totalTraded > 0 then
        s.modifyMarket q fun m => m.modifyEntry good (clearingBlend totalTraded totalRevenue)
      else s) ∧ CrownsOnly s (if totalTraded > 0 then
        s.modifyMarket q fun m => m.modifyEntry good (clearingBlend totalTraded totalRevenue)
      else s) := by
    split_ifs
    · have change := crownsOnly_modifyMarket s q fun m =>
        m.modifyEntry good (clearingBlend totalTraded totalRevenue)
      exact ⟨change.keeps wired (moneySupply_modifyMarket _ _ _), change⟩
    · exact ⟨Keeps.refl wired, CrownsOnly.refl s⟩
  obtain ⟨kept, change⟩ := blended
  unfold recordTrades
  dsimp only
  set blendedState := (if totalTraded > 0 then
      s.modifyMarket q fun m => m.modifyEntry good (clearingBlend totalTraded totalRevenue)
    else s)
  have counted := crownsOnly_modifyMarket blendedState q fun m =>
    { m with tradeCount := m.tradeCount + totalTraded }
  have countedKept := kept.trans (counted.keeps kept.wired (moneySupply_modifyMarket _ _ _))
  split_ifs
  · have most := crownsOnly_modifyMarket (blendedState.modifyMarket q fun m =>
      { m with tradeCount := m.tradeCount + totalTraded }) q fun m => { m with mostTradedGood := good }
    exact ⟨countedKept.trans (most.keeps countedKept.wired (moneySupply_modifyMarket _ _ _)),
      (change.trans counted).trans most⟩
  · exact ⟨countedKept, change.trans counted⟩

/-- The matching pass keeps the money supply, in every order of the goods. -/
theorem matchOrders_keeps {s : Simulation} (slice : SliceSort Order) (q : SettRef) (goodOrder : List GoodType)
    {sellOrders buyOrders : List Order} (wired : s.Wired) (sellsCounted : s.OrdersCounted sellOrders)
    (buysCounted : s.OrdersCounted buyOrders) :
    Keeps s (matchOrders slice q goodOrder sellOrders buyOrders s) ∧
      CrownsOnly s (matchOrders slice q goodOrder sellOrders buyOrders s) := by
  apply MiniWorld.Run.foldl_invariant (fun acc => Keeps s acc.1 ∧ CrownsOnly s acc.1)
    (matchGood slice q sellOrders buyOrders) goodOrder (s, 0) _ ⟨Keeps.refl wired, CrownsOnly.refl s⟩
  rintro good - ⟨t, maxTraded⟩ ⟨kept, change⟩
  unfold matchGood
  dsimp only
  split_ifs
  · exact ⟨kept, change⟩
  · obtain ⟨matchedKept, matchedChange⟩ := matchLoop_keeps good _ _ _ t 0 0 kept.wired
      ((change.ordersCounted sellsCounted).sortedSells slice good)
      ((change.ordersCounted buysCounted).sortedBuys slice good)
    obtain ⟨recordedKept, recordedChange⟩ := recordTrades_keeps q good _ _ maxTraded
      matchedKept.wired
    exact ⟨(kept.trans matchedKept).trans recordedKept,
      (change.trans matchedChange).trans recordedChange⟩

/-- `resolveSettlementMarket` keeps the money supply when the alive agents it
is given are in `Agents`. -/
theorem resolveSettlementMarket_keeps {s : Simulation} (slice : SliceSort Order) (goodOrder : List GoodType)
    (season : ℕ) {q : SettRef} {settAgents : List AgentRef} (wired : s.Wired) (listed : s.AliveListed settAgents) :
    Keeps s (resolveSettlementMarket slice goodOrder season s q settAgents) := by
  unfold resolveSettlementMarket
  split
  · exact Keeps.refl wired
  · rename_i market _
    dsimp only
    set tallied := tallyMarket s (s.settlementAt q) settAgents market
    set ref := refPrices season (s.settlementAt q) tallied
    have tallyChange :=
      @crownsOnly_modifySettlement s q (fun t => { t with market := some tallied }) rfl
    have tallyKept : Keeps s (s.modifySettlement q fun t => { t with market := some tallied }) :=
      tallyChange.keeps wired (moneySupply_modifySettlement_of_treasury rfl)
    have sellsCounted : s.OrdersCounted (sellOrders s ref settAgents) :=
      ordersCounted_of_aliveMembers listed fun _ member => agent_of_mem_sellOrders member
    have buysCounted : s.OrdersCounted (buyOrders s ref tallied settAgents) :=
      ordersCounted_of_aliveMembers listed fun _ member => agent_of_mem_buyOrders member
    obtain ⟨matchedKept, -⟩ := matchOrders_keeps slice q goodOrder tallyKept.wired
      (tallyChange.ordersCounted sellsCounted) (tallyChange.ordersCounted buysCounted)
    have decayed := crownsOnly_modifyMarket
      (matchOrders slice q goodOrder (sellOrders s ref settAgents) (buyOrders s ref tallied settAgents)
        (s.modifySettlement q fun t => { t with market := some tallied })) q fun m =>
      { m with entries := fun good =>
          (m.entries good).map (surplusDecay ((s.settlementAt q).population * being)) }
    exact (tallyKept.trans matchedKept).trans
      (decayed.keeps matchedKept.wired (moneySupply_modifyMarket _ _ _))

theorem resolveMarkets_keeps {s : Simulation} (slice : SliceSort Order) (goodOrder : SettRef → List GoodType)
    (wired : s.Wired) : Keeps s (resolveMarkets slice goodOrder s) := by
  apply keeps_foldl_settlements _ _ wired
  intro t q tWired _
  dsimp only
  split_ifs
  · exact Keeps.refl tWired
  · exact resolveSettlementMarket_keeps _ _ _ tWired (tWired.aliveListed _)

/-! ## `resolveBuyFood` -/

/-- Foraging: one grain and a survival bump. -/
def forage (s : Simulation) (p : AgentRef) : Simulation :=
  (s.addInventory p goodGrain 1).bumpNeeds p fun n => { n with survival := n.survival + 0.05 }

/-- The cheaper of grain and fish at a market and its price; grain wins a tie,
and the price stays `0` when neither is listed. -/
def cheapestFood (market : Market) : GoodType × ℚ :=
  [goodGrain, goodFish].foldl (fun (best : GoodType × ℚ) good =>
    match market.entries good with
    | none => best
    | some e => if best.2 = 0 ∨ e.price < best.2 then (good, e.price) else best) (goodGrain, 0)

/-- A market price in whole crowns, `uint64(price + 0.5)` floored at one: what
a food unit, a merchant's cargo unit or a meal for the road costs. -/
def crownPrice (price : ℚ) : ℕ :=
  let cost := ⌊price + 0.5⌋₊
  if cost < 1 then 1 else cost

/-- The needs bump of a purchase. -/
def boughtFoodNeeds (n : NeedsState) : NeedsState :=
  { n with survival := n.survival + 0.02, safety := n.safety + 0.003,
           belonging := n.belonging + 0.001, purpose := n.purpose + 0.001 }

/-- `resolveBuyFood`: buy a unit of the cheapest food from the home
settlement, or forage when there is no market or the agent cannot pay. -/
def resolveBuyFood (s : Simulation) (p : AgentRef) : Simulation :=
  match (s.agentAt p).homeSettID with
  | none => s.forage p
  | some k =>
    match s.settlementIndex k with
    | none => s.forage p
    | some q =>
      match (s.settlementAt q).market with
      | none => s.forage p
      | some market =>
        let best := cheapestFood market
        let cost := crownPrice best.2
        if (s.agentAt p).wealth ≥ cost then
          (((s.debitAgent p cost).creditSettlement q cost).addInventory p best.1 1).bumpNeeds p
            boughtFoodNeeds
        else
          (s.addInventory p goodGrain 1).bumpNeeds p fun n =>
            { n with survival := n.survival + 0.05, belonging := n.belonging + 0.001 }

theorem keeps_addInventory_bumpNeeds {s : Simulation} (wired : s.Wired) (p : AgentRef)
    (good : GoodType) (delta : ℤ) (bump : NeedsState → NeedsState) :
    Keeps s ((s.addInventory p good delta).bumpNeeds p bump) ∧
      CrownsOnly s ((s.addInventory p good delta).bumpNeeds p bump) := by
  have change := (crownsOnly_addInventory s p good delta).trans
    (crownsOnly_bumpNeeds (s.addInventory p good delta) p bump)
  exact ⟨change.keeps wired (by simp only [moneySupply_bumpNeeds, moneySupply_addInventory]), change⟩

/-- A purchase is a covered transfer from an alive agent to its home treasury. -/
theorem resolveBuyFood_keeps {s : Simulation} {p : AgentRef} (wired : s.Wired)
    (listed : p ∈ s.agents) (alive : (s.agentAt p).alive) : Keeps s (s.resolveBuyFood p) := by
  unfold resolveBuyFood
  split
  · exact (keeps_addInventory_bumpNeeds wired p goodGrain 1 _).1
  · rename_i k _
    split
    · exact (keeps_addInventory_bumpNeeds wired p goodGrain 1 _).1
    · rename_i q indexed
      split
      · exact (keeps_addInventory_bumpNeeds wired p goodGrain 1 _).1
      · rename_i market _
        dsimp only
        split_ifs with affords
        · have buyer : s.Counted (.agent p) := ⟨listed, alive⟩
          have home : s.Counted (.settlement q) := (wired.index_sound k q indexed).1
          obtain ⟨paid, paidChange⟩ := transfer_keeps wired buyer home affords
          exact paid.trans (keeps_addInventory_bumpNeeds paid.wired p _ 1 boughtFoodNeeds).1
        · exact (keeps_addInventory_bumpNeeds wired p goodGrain 1 _).1

/-! ## `tier2MarketSell` -/

/-- The agent's most valuable surplus good at a market: the first good of
strictly greatest `surplus·Price`, with its surplus and price; surplus `0`
when no listed good is in surplus at a positive value. -/
def bestSurplus (a : Agent) (market : Market) : GoodType × ℤ × ℚ :=
  (inventoryGoods.foldl (fun (best : ℚ × GoodType × ℤ × ℚ) good =>
    if surplus a good ≤ 0 then best
    else
      (market.entries good).elim best fun e =>
        let value := (surplus a good : ℚ) * e.price
        if value > best.1 then (value, good, surplus a good, e.price) else best)
    (0, goodGrain, 0, 0)).2

/-- `skillBonus`: `1 + Trade·Agnosis`, capped at `Being`. -/
def skillBonus (a : Agent) : ℚ :=
  let bonus := 1 + a.tradeSkill * agnosis
  if bonus > being then being else bonus

/-- The price of one unit sold to the treasury, rounded, at least one crown. -/
def tier2UnitPrice (price bonus : ℚ) : ℕ :=
  let unitPrice := ⌊price * bonus + 0.5⌋₊
  if unitPrice < 1 then 1 else unitPrice

/-- The sale loop of `tier2MarketSell`: up to `bestQty` units, stopping when the
treasury cannot pay. -/
def saleLoop (p : AgentRef) (q : SettRef) (good : GoodType) (unitPrice : ℕ) :
    ℕ → Simulation → Simulation
  | 0, s => s
  | n + 1, s =>
    if (s.settlementAt q).treasury < unitPrice then s
    else
      saleLoop p q good unitPrice n
        (((s.debitSettlement q unitPrice).creditAgent p unitPrice).addInventory p good (-1))

/-- `tier2MarketSell`: sell the most valuable surplus good to the settlement
treasury, then a trade-skill gain. -/
def tier2MarketSell (s : Simulation) (p : AgentRef) (q : SettRef) : Simulation :=
  match (s.settlementAt q).market with
  | none => s
  | some market =>
    let best := bestSurplus (s.agentAt p) market
    if best.2.1 = 0 then s
    else
      let unitPrice := tier2UnitPrice best.2.2 (skillBonus (s.agentAt p))
      let sold := saleLoop p q best.1 unitPrice best.2.1.toNat s
      sold.modifyAgent p fun a => { a with tradeSkill := a.tradeSkill + 0.005 }

/-- The `trade` action of a Tier-2 decision or an oracle vision: sell to the
home settlement, when `HomeSettID` is indexed. -/
def tier2Trade (s : Simulation) (p : AgentRef) : Simulation :=
  match (s.agentAt p).homeSettID with
  | none => s
  | some k =>
    match s.settlementIndex k with
    | none => s
    | some q => s.tier2MarketSell p q

theorem saleLoop_keeps (p : AgentRef) (q : SettRef) (good : GoodType) (unitPrice : ℕ) :
    ∀ (n : ℕ) (s : Simulation), s.Wired → s.Counted (.agent p) → s.Counted (.settlement q) →
      Keeps s (saleLoop p q good unitPrice n s) ∧ CrownsOnly s (saleLoop p q good unitPrice n s)
  | 0, s, wired, _, _ => ⟨Keeps.refl wired, CrownsOnly.refl s⟩
  | n + 1, s, wired, seller, treasury => by
    unfold saleLoop
    split_ifs with short
    · exact ⟨Keeps.refl wired, CrownsOnly.refl s⟩
    · obtain ⟨paid, paidChange⟩ := transfer_keeps wired treasury seller (Nat.le_of_not_lt short)
      have handed := crownsOnly_addInventory
        ((s.debitSettlement q unitPrice).creditAgent p unitPrice) p good (-1)
      have kept := paid.trans (handed.keeps paid.wired (moneySupply_addInventory _ _ _ _))
      have change := paidChange.trans handed
      obtain ⟨restKept, restChange⟩ := saleLoop_keeps p q good unitPrice n _ kept.wired
        (change.counted seller) (change.counted treasury)
      exact ⟨kept.trans restKept, change.trans restChange⟩

/-- A Tier-2 sale is paid by a listed treasury, unit by unit, only while it can. -/
theorem tier2MarketSell_keeps {s : Simulation} {p : AgentRef} {q : SettRef} (wired : s.Wired)
    (listed : p ∈ s.agents) (alive : (s.agentAt p).alive) (member : q ∈ s.settlements) :
    Keeps s (s.tier2MarketSell p q) := by
  unfold tier2MarketSell
  split
  · exact Keeps.refl wired
  · rename_i market _
    dsimp only
    split_ifs
    · exact Keeps.refl wired
    · set best := bestSurplus (s.agentAt p) market
      obtain ⟨sold, -⟩ := saleLoop_keeps p q best.1 (tier2UnitPrice best.2.2 (skillBonus (s.agentAt p)))
        best.2.1.toNat s wired ⟨listed, alive⟩ member
      exact sold.trans (keeps_modifyAgent sold.wired p (fun _ => rfl) (fun _ => rfl) (fun _ => rfl))

theorem tier2Trade_keeps {s : Simulation} {p : AgentRef} (wired : s.Wired) (listed : p ∈ s.agents)
    (alive : (s.agentAt p).alive) : Keeps s (s.tier2Trade p) := by
  unfold tier2Trade
  split
  · exact Keeps.refl wired
  · rename_i k _
    split
    · exact Keeps.refl wired
    · rename_i q indexed
      exact tier2MarketSell_keeps wired listed alive (wired.index_sound k q indexed).1

end Simulation

end MiniWorld.Engine
