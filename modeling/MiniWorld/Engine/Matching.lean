import MiniWorld.Engine.Market
import MiniWorld.Engine.Setup
import MiniWorld.Ledger.Trades
import Mathlib.Algebra.BigOperators.Ring.Finset

/-! # What order matching does to the agents (`internal/engine/market.go`, lines 38–263)

`resolveSettlementMarket` changes agents only through the unit loop of its
matching pass: a unit moves one good from the seller to the buyer and
`clearCrowns` the other way, and only when the buyer holds them.  So the
whole pass is described by the ledger of its units (`Ledger.Trade`):
`Exchanged` says that every agent's purse and stock moved by exactly its side
of the ledger.  The matching loop adds what the books allow: every buy order
takes at most one unit, in book order (`Matched.buyers`), and a seller sells at
most what its orders offer (`Matched.sellers`).

`TradeCount` is reset when the books are built, so after the pass it is the
number of units of this pass, not the old count plus them.
-/

namespace MiniWorld.Engine

open MiniWorld.Agents MiniWorld.Ledger MiniWorld.Phi
open MiniWorld.Run (SliceSort)

namespace Simulation

/-! ## Exchanges -/

/-- `after` differs from `before` in agents' purses and stocks by exactly the
flows of `log`, and in no other agent. -/
structure Exchanged (before after : Simulation) (log : List (Trade AgentRef GoodType)) : Prop where
  wealth : ∀ p, (after.agentAt p).wealth + paid log p = (before.agentAt p).wealth + earned log p
  inventory : ∀ p good,
    (after.agentAt p).inventory good + sold log p good = (before.agentAt p).inventory good + bought log p good
  untouched : ∀ p, (∀ u ∈ log, u.buyer ≠ p ∧ u.seller ≠ p) → after.agentAt p = before.agentAt p

theorem Exchanged.refl (s : Simulation) : Exchanged s s [] where
  wealth _ := rfl
  inventory _ _ := rfl
  untouched _ _ := rfl

theorem Exchanged.trans {first second third : Simulation} {early late : List (Trade AgentRef GoodType)}
    (before : Exchanged first second early) (after : Exchanged second third late) :
    Exchanged first third (early ++ late) where
  wealth p := by
    have earlyMoved := before.wealth p
    have lateMoved := after.wealth p
    rw [paid_append, earned_append]
    omega
  inventory p good := by
    have earlyMoved := before.inventory p good
    have lateMoved := after.inventory p good
    rw [sold_append, bought_append]
    push_cast
    omega
  untouched p away :=
    (after.untouched p fun u member => away u (List.mem_append_right early member)).trans
      (before.untouched p fun u member => away u (List.mem_append_left late member))

/-- Only the agents count: a write elsewhere keeps an exchange. -/
theorem Exchanged.congr {before after after' : Simulation} {log : List (Trade AgentRef GoodType)}
    (exchanged : Exchanged before after log) (same : after'.agentAt = after.agentAt) :
    Exchanged before after' log where
  wealth p := by rw [same]; exact exchanged.wealth p
  inventory p good := by rw [same]; exact exchanged.inventory p good
  untouched p away := by rw [same]; exact exchanged.untouched p away

/-! ## One unit -/

@[simp] theorem addInventory_wealth (s : Simulation) (p : AgentRef) (good : GoodType) (delta : ℤ)
    (p' : AgentRef) : ((s.addInventory p good delta).agentAt p').wealth = (s.agentAt p').wealth := by
  by_cases same : p' = p <;> simp [addInventory, modifyAgent_agentAt, same]

theorem addInventory_inventory (s : Simulation) (p : AgentRef) (good : GoodType) (delta : ℤ)
    (p' : AgentRef) (good' : GoodType) :
    ((s.addInventory p good delta).agentAt p').inventory good' =
      (s.agentAt p').inventory good' + if p' = p ∧ good' = good then delta else 0 := by
  by_cases same : p' = p
  · subst same
    by_cases sameGood : good' = good
    · subst sameGood
      simp [addInventory]
    · simp [addInventory, sameGood]
  · simp [addInventory, modifyAgent_agentAt, same]

@[simp] theorem debitAgent_inventory (s : Simulation) (p : AgentRef) (amount : ℕ) (p' : AgentRef) :
    ((s.debitAgent p amount).agentAt p').inventory = (s.agentAt p').inventory := by
  by_cases same : p' = p <;> simp [debitAgent, modifyAgent_agentAt, same]

@[simp] theorem creditAgent_inventory (s : Simulation) (p : AgentRef) (amount : ℕ) (p' : AgentRef) :
    ((s.creditAgent p amount).agentAt p').inventory = (s.agentAt p').inventory := by
  by_cases same : p' = p <;> simp [creditAgent, modifyAgent_agentAt, same]

/-- A unit the buyer can pay for is one entry of the ledger. -/
theorem tradeUnit_exchanged (good : GoodType) (buyer seller : AgentRef) (clearCrowns : ℕ)
    (s : Simulation) (covered : clearCrowns ≤ (s.agentAt buyer).wealth) :
    Exchanged s (tradeUnit good buyer seller clearCrowns s) [⟨good, buyer, seller, clearCrowns⟩] where
  wealth p := by
    simp only [tradeUnit, addInventory_wealth, creditAgent_wealth, debitAgent_wealth, paid, earned,
      flow_cons, flow_nil]
    -- the buyer and the seller may be one agent: four cases
    by_cases atBuyer : p = buyer
    · subst atBuyer
      by_cases atSeller : p = seller
      · subst atSeller
        simp only [if_true]
        omega
      · simp only [atSeller, Ne.symm atSeller, if_true, if_false]
        omega
    · by_cases atSeller : p = seller
      · subst atSeller
        simp [atBuyer, Ne.symm atBuyer]
      · simp [atBuyer, atSeller, Ne.symm atBuyer, Ne.symm atSeller]
  inventory p good' := by
    simp only [tradeUnit, addInventory_inventory, creditAgent_inventory, debitAgent_inventory, sold,
      bought, flow_cons, flow_nil]
    by_cases sameGood : good' = good
    · subst sameGood
      by_cases atBuyer : p = buyer
      · subst atBuyer
        by_cases atSeller : p = seller
        · subst atSeller
          simp only [and_self, if_true]
          omega
        · simp [atSeller, Ne.symm atSeller]
      · by_cases atSeller : p = seller
        · subst atSeller
          simp [atBuyer, Ne.symm atBuyer]
        · simp [atBuyer, atSeller, Ne.symm atBuyer, Ne.symm atSeller]
    · simp [sameGood, Ne.symm sameGood]
  untouched p away := by
    obtain ⟨notBuyer, notSeller⟩ := away _ List.mem_cons_self
    simp [tradeUnit, addInventory, creditAgent, debitAgent, modifyAgent_agentAt, Ne.symm notBuyer,
      Ne.symm notSeller]

/-! ## The unit loop -/

theorem unitLoop_le (good : GoodType) (buyer seller : AgentRef) (clearCrowns : ℕ) :
    ∀ (n : ℕ) (s : Simulation), (unitLoop good buyer seller clearCrowns n s).2 ≤ n
  | 0, _ => le_rfl
  | n + 1, s => by
    unfold unitLoop
    split_ifs
    · exact Nat.zero_le _
    · have rest := unitLoop_le good buyer seller clearCrowns n
        (tradeUnit good buyer seller clearCrowns s)
      simp only
      omega

/-- The unit loop trades its units one after another, each paid for: the
`break` stops it before the first unit the buyer cannot pay. -/
theorem unitLoop_exchanged (good : GoodType) (buyer seller : AgentRef) (clearCrowns : ℕ) :
    ∀ (n : ℕ) (s : Simulation),
      Exchanged s (unitLoop good buyer seller clearCrowns n s).1
          (List.replicate (unitLoop good buyer seller clearCrowns n s).2 ⟨good, buyer, seller, clearCrowns⟩) ∧
        (unitLoop good buyer seller clearCrowns n s).1.settlementAt = s.settlementAt
  | 0, s => ⟨Exchanged.refl s, rfl⟩
  | n + 1, s => by
    unfold unitLoop
    split_ifs with cannotPay
    · exact ⟨Exchanged.refl s, rfl⟩
    · have covered : clearCrowns ≤ (s.agentAt buyer).wealth := by omega
      obtain ⟨rest, restSettlements⟩ :=
        unitLoop_exchanged good buyer seller clearCrowns n (tradeUnit good buyer seller clearCrowns s)
      refine ⟨?_, restSettlements⟩
      rw [List.replicate_succ, ← List.singleton_append]
      exact (tradeUnit_exchanged good buyer seller clearCrowns s covered).trans rest

/-! ## The matching loop -/

/-- The quantities that `p`'s orders in a sell book offer. -/
def offered (p : AgentRef) (sells : List Order) : ℕ :=
  ((sells.filter fun o => o.agent = p).map fun o => o.quantity.toNat).sum

/-- What the sell pointer can still sell of `p`'s goods: the rest `sellRemain`
of the current order when that order is `p`'s, and `p`'s later orders. -/
def sellCapacity (p : AgentRef) (sellRemain : ℤ) : List Order → ℕ
  | [] => 0
  | sell :: sells => (if sell.agent = p then sellRemain.toNat else 0) + offered p sells

@[simp] theorem offered_nil (p : AgentRef) : offered p [] = 0 := rfl

theorem offered_cons (p : AgentRef) (o : Order) (sells : List Order) :
    offered p (o :: sells) = (if o.agent = p then o.quantity.toNat else 0) + offered p sells := by
  by_cases mine : o.agent = p
  · simp [offered, mine]
  · simp [offered, mine]

/-- When the sell pointer advances, the next order is offered whole. -/
theorem sellCapacity_nextSellRemain (p : AgentRef) (sellRemain : ℤ) :
    ∀ sells, sellCapacity p (nextSellRemain sells sellRemain) sells = offered p sells
  | [] => rfl
  | o :: sells => by rw [nextSellRemain, sellCapacity, offered_cons]

/-- What a run of the matching loop of one good did: the units it traded, all
of that good, each buy order taking at most one of them in book order, and no
seller selling more than the book still offers of its goods. -/
structure Matched (good : GoodType) (sells : List Order) (sellRemain : ℤ) (buys : List Order)
    (before after : Simulation) (log : List (Trade AgentRef GoodType)) : Prop where
  exchanged : Exchanged before after log
  settlementAt : after.settlementAt = before.settlementAt
  goods : ∀ u ∈ log, u.good = good
  buyers : (log.map Trade.buyer).Sublist (buys.map Order.agent)
  sellers : ∀ p, sold log p good ≤ sellCapacity p sellRemain sells

theorem Matched.refl (good : GoodType) (sells : List Order) (sellRemain : ℤ) (buys : List Order)
    (s : Simulation) : Matched good sells sellRemain buys s s [] where
  exchanged := Exchanged.refl s
  settlementAt := rfl
  goods _ member := absurd member List.not_mem_nil
  buyers := List.nil_sublist _
  sellers _ := Nat.zero_le _

/-- One iteration of the matching loop, `k` units between the current orders,
followed by the rest of the loop. -/
theorem Matched.iteration {good : GoodType} {sell buy : Order} {sells sells' buys : List Order}
    {sellRemain sellRemain' : ℤ} {s traded after : Simulation} {k clearCrowns : ℕ}
    {rest : List (Trade AgentRef GoodType)}
    (units : Exchanged s traded (List.replicate k ⟨good, buy.agent, sell.agent, clearCrowns⟩))
    (unitsSettlements : traded.settlementAt = s.settlementAt) (one : k ≤ 1)
    (restMatched : Matched good sells' sellRemain' buys traded after rest)
    (capacity : ∀ p, (if sell.agent = p then k else 0) + sellCapacity p sellRemain' sells' ≤
      sellCapacity p sellRemain (sell :: sells)) :
    Matched good (sell :: sells) sellRemain (buy :: buys) s after
      (List.replicate k ⟨good, buy.agent, sell.agent, clearCrowns⟩ ++ rest) where
  exchanged := units.trans restMatched.exchanged
  settlementAt := restMatched.settlementAt.trans unitsSettlements
  goods u member := by
    rcases List.mem_append.mp member with ofUnits | ofRest
    · rw [List.eq_of_mem_replicate ofUnits]
    · exact restMatched.goods u ofRest
  buyers := by
    rw [List.map_append, List.map_replicate, List.map_cons]
    -- the buy order takes no unit or one
    rcases Nat.le_one_iff_eq_zero_or_eq_one.mp one with rfl | rfl
    · exact restMatched.buyers.cons buy.agent
    · exact restMatched.buyers.cons_cons buy.agent
  sellers p := by
    have restSold := restMatched.sellers p
    have unitsSold : sold (List.replicate k ⟨good, buy.agent, sell.agent, clearCrowns⟩) p good =
        if sell.agent = p then k else 0 := by
      simp [sold]
    rw [sold_append, unitsSold]
    exact (Nat.add_le_add_left restSold _).trans (capacity p)

/-- The matching loop of one good, in terms of its units: the induction follows
the loop, whose every iteration consumes a buy order. -/
theorem matchLoop_matched (good : GoodType) :
    ∀ (sells : List Order) (sellRemain : ℤ) (buys : List Order) (s : Simulation)
      (totalTraded totalRevenue : ℕ), (∀ b ∈ buys, b.quantity ≤ 1) →
      ∃ log, Matched good sells sellRemain buys s
          (matchLoop good s totalTraded totalRevenue sells sellRemain buys).1 log ∧
        (matchLoop good s totalTraded totalRevenue sells sellRemain buys).2.1 = totalTraded + log.length
  | [], sellRemain, buys, s, totalTraded, _, _ => by
    simp only [matchLoop]
    exact ⟨[], Matched.refl good [] sellRemain buys s, rfl⟩
  | sell :: sells, sellRemain, [], s, totalTraded, _, _ => by
    simp only [matchLoop]
    exact ⟨[], Matched.refl good (sell :: sells) sellRemain [] s, rfl⟩
  | sell :: sells, sellRemain, buy :: buys, s, totalTraded, totalRevenue, single => by
    unfold matchLoop
    dsimp only
    have restSingle : ∀ b ∈ buys, b.quantity ≤ 1 := fun b member => single b (List.mem_cons_of_mem buy member)
    have fewUnits := unitLoop_le good buy.agent sell.agent ⌊sell.price + 0.5⌋₊
      (min buy.quantity sellRemain).toNat s
    have one : (unitLoop good buy.agent sell.agent ⌊sell.price + 0.5⌋₊
        (min buy.quantity sellRemain).toNat s).2 ≤ 1 := by
      have buyOne := single buy List.mem_cons_self
      omega
    obtain ⟨units, unitsSettlements⟩ := unitLoop_exchanged good buy.agent sell.agent ⌊sell.price + 0.5⌋₊
      (min buy.quantity sellRemain).toNat s
    split_ifs with crossed exhausted
    · exact ⟨[], Matched.refl good _ sellRemain _ s, rfl⟩
    · -- the sell order is used up: the rest of the loop starts at the next one
      obtain ⟨rest, restMatched, restCount⟩ := matchLoop_matched good sells _ buys _ _ _ restSingle
      refine ⟨_, Matched.iteration units unitsSettlements one restMatched ?_, ?_⟩
      · intro p
        rw [sellCapacity_nextSellRemain, sellCapacity]
        split_ifs <;> omega
      · rw [restCount, List.length_append, List.length_replicate]
        omega
    · obtain ⟨rest, restMatched, restCount⟩ := matchLoop_matched good (sell :: sells) _ buys _ _ _
        restSingle
      refine ⟨_, Matched.iteration units unitsSettlements one restMatched ?_, ?_⟩
      · intro p
        simp only [sellCapacity]
        split_ifs <;> omega
      · rw [restCount, List.length_append, List.length_replicate]
        omega

/-! ## The matching pass -/

theorem recordTrades_agentAt (q : SettRef) (good : GoodType) (totalTraded totalRevenue : ℕ)
    (s : Simulation) (maxTraded : ℕ) :
    (recordTrades q good totalTraded totalRevenue s maxTraded).1.agentAt = s.agentAt := by
  unfold recordTrades
  split_ifs <;> rfl

/-- `market.TradeCount += totalTraded`, whatever else the bookkeeping writes. -/
theorem recordTrades_tradeCount (q : SettRef) (good : GoodType) (totalTraded totalRevenue : ℕ)
    (s : Simulation) (maxTraded : ℕ) :
    ((recordTrades q good totalTraded totalRevenue s maxTraded).1.settlementAt q).market.map
        Market.tradeCount =
      ((s.settlementAt q).market.map Market.tradeCount).map (· + (totalTraded : ℤ)) := by
  unfold recordTrades
  cases market : (s.settlementAt q).market with
  | none => split_ifs <;> simp [modifyMarket, modifySettlement_settlementAt_apply, market]
  | some m => split_ifs <;> simp [modifyMarket, modifySettlement_settlementAt_apply, market, Market.modifyEntry]

/-- What the matching pass did against the books it was given: an exchange by
its units, no buyer taking more units of a good than it has buy orders for it,
no seller selling more than its sell orders offer, and `TradeCount` grown by
the units. -/
structure Cleared (slice : SliceSort Order) (q : SettRef) (sellOrders buyOrders : List Order) (before after : Simulation)
    (log : List (Trade AgentRef GoodType)) : Prop where
  exchanged : Exchanged before after log
  buyers : ∀ p good, bought log p good ≤ ((sortedBuys slice buyOrders good).map Order.agent).count p
  sellers : ∀ p good, sold log p good ≤ offered p (sortedSells slice sellOrders good)
  tradeCount : (after.settlementAt q).market.map Market.tradeCount =
    ((before.settlementAt q).market.map Market.tradeCount).map (· + (log.length : ℤ))

theorem Cleared.refl (slice : SliceSort Order) (q : SettRef) (sellOrders buyOrders : List Order) (s : Simulation) :
    Cleared slice q sellOrders buyOrders s s [] where
  exchanged := Exchanged.refl s
  buyers _ _ := Nat.zero_le _
  sellers _ _ := Nat.zero_le _
  tradeCount := by cases (s.settlementAt q).market <;> simp

/-- A good's matching followed by the matching of other goods. -/
theorem Cleared.append {slice : SliceSort Order} {q : SettRef} {sellOrders buyOrders : List Order} {first second third : Simulation}
    {early late : List (Trade AgentRef GoodType)} {good : GoodType}
    (before : Cleared slice q sellOrders buyOrders first second early) (goods : ∀ u ∈ early, u.good = good)
    (after : Cleared slice q sellOrders buyOrders second third late) (others : ∀ u ∈ late, u.good ≠ good) :
    Cleared slice q sellOrders buyOrders first third (early ++ late) where
  exchanged := before.exchanged.trans after.exchanged
  buyers p good' := by
    rw [bought_append]
    by_cases same : good' = good
    · subst same
      rw [bought_eq_zero others, Nat.add_zero]
      exact before.buyers p good'
    · rw [bought_eq_zero (fun u member => (goods u member).trans_ne (Ne.symm same)), Nat.zero_add]
      exact after.buyers p good'
  sellers p good' := by
    rw [sold_append]
    by_cases same : good' = good
    · subst same
      rw [sold_eq_zero others, Nat.add_zero]
      exact before.sellers p good'
    · rw [sold_eq_zero (fun u member => (goods u member).trans_ne (Ne.symm same)), Nat.zero_add]
      exact after.sellers p good'
  tradeCount := by
    rw [after.tradeCount, before.tradeCount, Option.map_map, List.length_append]
    congr 1
    funext count
    simp only [Function.comp_apply]
    push_cast
    omega

/-- One good of the matching pass: skipped, or its matching loop and then the
bookkeeping. -/
theorem matchGood_cleared (slice : SliceSort Order) (q : SettRef) (sellOrders buyOrders : List Order)
    (single : ∀ b ∈ buyOrders, b.quantity ≤ 1) (acc : Simulation × ℕ) (good : GoodType) :
    ∃ log, Cleared slice q sellOrders buyOrders acc.1 (matchGood slice q sellOrders buyOrders acc good).1 log ∧
      ∀ u ∈ log, u.good = good := by
  unfold matchGood
  dsimp only
  split_ifs with empty
  · exact ⟨[], Cleared.refl slice q sellOrders buyOrders acc.1, fun _ member => absurd member List.not_mem_nil⟩
  · have sortedSingle : ∀ b ∈ sortedBuys slice buyOrders good, b.quantity ≤ 1 :=
      fun b member => single b (mem_of_mem_sortedBuys member)
    obtain ⟨log, matched, count⟩ := matchLoop_matched good (sortedSells slice sellOrders good)
      (nextSellRemain (sortedSells slice sellOrders good) 0) (sortedBuys slice buyOrders good) acc.1 0 0 sortedSingle
    refine ⟨log, ⟨matched.exchanged.congr (recordTrades_agentAt ..), ?_, ?_, ?_⟩, matched.goods⟩
    · intro p good'
      by_cases same : good' = good
      · subst same
        rw [bought_eq_count matched.goods]
        exact matched.buyers.count_le p
      · rw [bought_eq_zero (fun u member => (matched.goods u member).trans_ne (Ne.symm same))]
        exact Nat.zero_le _
    · intro p good'
      by_cases same : good' = good
      · subst same
        have bound := matched.sellers p
        rwa [sellCapacity_nextSellRemain] at bound
      · rw [sold_eq_zero (fun u member => (matched.goods u member).trans_ne (Ne.symm same))]
        exact Nat.zero_le _
    · rw [recordTrades_tradeCount, matched.settlementAt, count, Nat.zero_add]

/-- The matching pass over the goods in `goodOrder`, the keys of
`market.Entries`: the induction is on those keys, and each good's units are
apart from the later goods' because no key comes twice. -/
theorem matchOrders_cleared (slice : SliceSort Order) (q : SettRef) (sellOrders buyOrders : List Order)
    (single : ∀ b ∈ buyOrders, b.quantity ≤ 1) :
    ∀ (goodOrder : List GoodType) (acc : Simulation × ℕ), goodOrder.Nodup →
      ∃ log, Cleared slice q sellOrders buyOrders acc.1 (goodOrder.foldl (matchGood slice q sellOrders buyOrders) acc).1
          log ∧ ∀ u ∈ log, u.good ∈ goodOrder
  | [], acc, _ => ⟨[], Cleared.refl slice q sellOrders buyOrders acc.1, fun _ member => absurd member List.not_mem_nil⟩
  | good :: goods, acc, keys => by
    obtain ⟨fresh, restKeys⟩ := List.nodup_cons.mp keys
    obtain ⟨early, first, earlyGoods⟩ := matchGood_cleared slice q sellOrders buyOrders single acc good
    obtain ⟨late, rest, lateGoods⟩ := matchOrders_cleared slice q sellOrders buyOrders single goods _ restKeys
    have others : ∀ u ∈ late, u.good ≠ good := fun u member same => fresh (same ▸ lateGoods u member)
    refine ⟨early ++ late, first.append earlyGoods rest others, ?_⟩
    intro u member
    rcases List.mem_append.mp member with ofEarly | ofLate
    · exact List.mem_cons.mpr (Or.inl (earlyGoods u ofEarly))
    · exact List.mem_cons_of_mem good (lateGoods u ofLate)

/-! ## The books -/

/-- A book built agent by agent holds, of one agent's orders, exactly the ones
it put in, when the agents are distinct. -/
theorem filter_flatMap_owned {α β : Type*} [DecidableEq α] {agents : List α} (distinct : agents.Nodup)
    (orders : α → List β) (owner : β → α) (owned : ∀ a, ∀ o ∈ orders a, owner o = a) (p : α) :
    (agents.flatMap orders).filter (fun o => owner o == p) = if p ∈ agents then orders p else [] := by
  induction agents with
  | nil => simp
  | cons a rest inductionHypothesis =>
    obtain ⟨fresh, restDistinct⟩ := List.nodup_cons.mp distinct
    rw [List.flatMap_cons, List.filter_append, inductionHypothesis restDistinct]
    by_cases same : a = p
    · subst same
      have mine : (orders a).filter (fun o => owner o == a) = orders a :=
        List.filter_eq_self.mpr fun o member => by simp [owned a o member]
      simp [mine, fresh]
    · have others : (orders a).filter (fun o => owner o == p) = [] :=
        List.filter_eq_nil_iff.mpr fun o member => by simp [owned a o member, same]
      simp [others, Ne.symm same]

theorem agent_of_mem_agentBuyOrders {s : Simulation} {ref : GoodType → Option ℚ} {market : Market}
    {p : AgentRef} {o : Order} (member : o ∈ agentBuyOrders s ref market p) : o.agent = p := by
  simp only [agentBuyOrders, List.mem_filterMap] at member
  obtain ⟨good, _, built⟩ := member
  obtain ⟨price, _, rfl⟩ := Option.map_eq_some_iff.mp built
  rfl

theorem agent_of_mem_agentSellOrders {s : Simulation} {ref : GoodType → Option ℚ} {p : AgentRef}
    {o : Order} (member : o ∈ agentSellOrders s ref p) : o.agent = p := by
  simp only [agentSellOrders, List.mem_filterMap] at member
  obtain ⟨good, _, built⟩ := member
  split_ifs at built
  obtain ⟨price, _, rfl⟩ := Option.map_eq_some_iff.mp built
  rfl

theorem quantity_of_mem_buyOrders {s : Simulation} {ref : GoodType → Option ℚ} {market : Market}
    {settAgents : List AgentRef} {o : Order} (member : o ∈ buyOrders s ref market settAgents) :
    o.quantity = 1 := by
  obtain ⟨p, _, made⟩ := List.mem_flatMap.mp member
  simp only [agentBuyOrders, List.mem_filterMap] at made
  obtain ⟨good, _, built⟩ := made
  obtain ⟨price, _, rfl⟩ := Option.map_eq_some_iff.mp built
  rfl

/-- One buy order per demanded occurrence of a good, when the market lists it. -/
theorem length_filter_agentBuyOrders (ref : GoodType → Option ℚ) (p : AgentRef) (good : GoodType) :
    ∀ goods : List GoodType,
      ((goods.filterMap fun g => (ref g).map fun price => (⟨p, g, 1, price * being, false⟩ : Order)).filter
          fun o => o.good == good).length ≤ goods.count good
  | [] => by simp
  | g :: goods => by
    have rest := length_filter_agentBuyOrders ref p good goods
    by_cases same : g = good
    · subst same
      cases listed : ref g with
      | none => simp [listed]; omega
      | some price => simp [listed, rest]
    · cases listed : ref g with
      | none => simp [listed, same, rest]
      | some price => simp [listed, same, rest]

/-- A buy book holds at most as many orders of an agent for a good as the agent
demands it, when the agent is listed once. -/
theorem count_sortedBuys_le (slice : SliceSort Order) (s : Simulation) (ref : GoodType → Option ℚ) (market : Market)
    (settAgents : List AgentRef) (distinct : (aliveMembers s settAgents).Nodup) (p : AgentRef)
    (good : GoodType) :
    ((sortedBuys slice (buyOrders s ref market settAgents) good).map Order.agent).count p ≤
      (demandedGoods (s.agentAt p) (some market)).count good := by
  have sorted : (sortedBuys slice (buyOrders s ref market settAgents) good).Perm
      ((buyOrders s ref market settAgents).filter fun o => o.good == good) := slice.perm _ _
  rw [(sorted.map Order.agent).count_eq, List.count_eq_countP, List.countP_map, List.countP_eq_length_filter,
    List.filter_filter]
  have owned := filter_flatMap_owned distinct (agentBuyOrders s ref market) Order.agent
    (fun _ _ member => agent_of_mem_agentBuyOrders member) p
  -- the orders of `p` for the good are those of `p`'s own list for it
  have reordered : (buyOrders s ref market settAgents).filter
        (fun o => ((· == p) ∘ Order.agent) o && o.good == good) =
      ((buyOrders s ref market settAgents).filter fun o => o.agent == p).filter fun o => o.good == good := by
    rw [List.filter_filter]
    congr 1
    funext o
    simp [Bool.and_comm]
  rw [reordered]
  unfold buyOrders at owned ⊢
  rw [owned]
  split_ifs
  · exact length_filter_agentBuyOrders ref p good _
  · simp

end Simulation

/-- The sell orders of one good in an agent's list: one, of its surplus, for
each time the good occurs. -/
theorem sum_filter_agentSellOrders (a : Agent) (ref : GoodType → Option ℚ) (p : AgentRef)
    (good : GoodType) :
    ∀ goods : List GoodType,
      (((goods.filterMap fun g => if surplus a g ≤ 0 then none else
          (ref g).map fun price => (⟨p, g, surplus a g, price * matter, true⟩ : Order)).filter
            fun o => o.good == good).map fun o => o.quantity.toNat).sum ≤
        goods.count good * (surplus a good).toNat
  | [] => by simp
  | g :: goods => by
    have rest := sum_filter_agentSellOrders a ref p good goods
    by_cases same : g = good
    · subst same
      rw [List.count_cons_self, Nat.succ_mul]
      by_cases none_ : surplus a g ≤ 0
      · simp only [List.filterMap_cons, none_, if_true]
        omega
      · cases listed : ref g with
        | none => simp only [List.filterMap_cons, none_, if_false, listed, Option.map_none]; omega
        | some price => simp [none_, listed]; omega
    · by_cases none_ : surplus a g ≤ 0
      · simp [none_, same, rest]
      · cases listed : ref g with
        | none => simp [none_, listed, same, rest]
        | some price =>
          simp [none_, listed, same, rest]

namespace Simulation

/-- What an agent listed once offers of a good is at most its surplus. -/
theorem offered_sortedSells_le (slice : SliceSort Order) (s : Simulation) (ref : GoodType → Option ℚ) (settAgents : List AgentRef)
    (distinct : (aliveMembers s settAgents).Nodup) (p : AgentRef) (good : GoodType) :
    offered p (sortedSells slice (sellOrders s ref settAgents) good) ≤ (surplus (s.agentAt p) good).toNat := by
  have sorted : (sortedSells slice (sellOrders s ref settAgents) good).Perm
      ((sellOrders s ref settAgents).filter fun o => o.good == good) := slice.perm _ _
  have owned := filter_flatMap_owned distinct (agentSellOrders s ref) Order.agent
    (fun _ _ member => agent_of_mem_agentSellOrders member) p
  unfold offered
  rw [((sorted.filter _).map _).sum_eq, List.filter_filter]
  have reordered : (sellOrders s ref settAgents).filter
        (fun o => decide (o.agent = p) && o.good == good) =
      ((sellOrders s ref settAgents).filter fun o => o.agent == p).filter fun o => o.good == good := by
    rw [List.filter_filter]
    congr 1
    funext o
    by_cases mine : o.agent = p <;> simp [mine, Bool.and_comm]
  rw [reordered]
  unfold sellOrders at owned ⊢
  rw [owned]
  split_ifs
  · have bound := sum_filter_agentSellOrders (s.agentAt p) ref p good inventoryGoods
    have once : inventoryGoods.count good = 1 :=
      List.count_eq_one_of_mem (List.nodup_finRange 15) (List.mem_finRange good)
    rw [once, Nat.one_mul] at bound
    exact bound
  · simp

theorem sortedSells_of_pairwise {orders : List Order} {good : GoodType}
    (sorted : (orders.filter fun o => o.good == good).Pairwise fun a b => a.price ≤ b.price) :
    sortedSells SliceSort.merge orders good = orders.filter fun o => o.good == good :=
  SliceSort.merge_sort_of_pairwise sorted

theorem sortedBuys_of_pairwise {orders : List Order} {good : GoodType}
    (sorted : (orders.filter fun o => o.good == good).Pairwise fun a b => -a.price ≤ -b.price) :
    sortedBuys SliceSort.merge orders good = orders.filter fun o => o.good == good :=
  SliceSort.merge_sort_of_pairwise sorted

theorem mem_aliveMembers_of_count_sortedBuys {slice : SliceSort Order} {s : Simulation} {ref : GoodType → Option ℚ}
    {market : Market} {settAgents : List AgentRef} {p : AgentRef} {good : GoodType}
    (ordered : 0 < ((sortedBuys slice (buyOrders s ref market settAgents) good).map Order.agent).count p) :
    p ∈ aliveMembers s settAgents := by
  obtain ⟨o, member, rfl⟩ := List.mem_map.mp (List.count_pos_iff.mp ordered)
  exact agent_of_mem_buyOrders (mem_of_mem_sortedBuys member)

theorem mem_aliveMembers_of_offered {slice : SliceSort Order} {s : Simulation} {ref : GoodType → Option ℚ}
    {settAgents : List AgentRef} {p : AgentRef} {good : GoodType}
    (offers : 0 < offered p (sortedSells slice (sellOrders s ref settAgents) good)) :
    p ∈ aliveMembers s settAgents := by
  unfold offered at offers
  cases mine : (sortedSells slice (sellOrders s ref settAgents) good).filter fun o => o.agent = p with
  | nil => simp [mine] at offers
  | cons o rest =>
    have listed : o ∈ (sortedSells slice (sellOrders s ref settAgents) good).filter fun o => o.agent = p := by
      rw [mine]
      exact List.mem_cons_self
    obtain ⟨inBook, owner⟩ := List.mem_filter.mp listed
    rw [← of_decide_eq_true owner]
    exact agent_of_mem_sellOrders (mem_of_mem_sortedSells inBook)

/-- The aggregation pass writes supply and demand only, so what an agent
demands is read off the same prices before and after it. -/
theorem demandedGoods_tallyMarket (a : Agent) (s : Simulation) (sett : Settlement)
    (settAgents : List AgentRef) (market : Market) :
    demandedGoods a (some (tallyMarket s sett settAgents market)) = demandedGoods a (some market) := by
  have samePrices : ∀ good, foodExpensive (some (tallyMarket s sett settAgents market)) good =
      foodExpensive (some market) good := by
    intro good
    unfold foodExpensive tallyMarket
    cases entry : market.entries good <;> simp [entry, floorEntry]
  simp only [demandedGoods, samePrices]

theorem modifyMarket_tradeCount (s : Simulation) (q : SettRef) (change : Market → Market)
    (keeps : ∀ m, (change m).tradeCount = m.tradeCount) :
    ((s.modifyMarket q change).settlementAt q).market.map Market.tradeCount =
      (s.settlementAt q).market.map Market.tradeCount := by
  cases market : (s.settlementAt q).market <;>
    simp [modifyMarket, modifySettlement_settlementAt_apply, market, keeps]

/-- `resolveSettlementMarket` at a settlement with a market: the books are
built from the tallied market, matched, and the surplus decay written last. -/
theorem resolveSettlementMarket_of_market {slice : SliceSort Order} {goodOrder : List GoodType} {season : ℕ} {s : Simulation}
    {q : SettRef} {settAgents : List AgentRef} {market : Market}
    (listed : (s.settlementAt q).market = some market) :
    s.resolveSettlementMarket slice goodOrder season q settAgents =
      (matchOrders slice q goodOrder
          (sellOrders s (refPrices season (s.settlementAt q) (tallyMarket s (s.settlementAt q) settAgents market))
            settAgents)
          (buyOrders s (refPrices season (s.settlementAt q) (tallyMarket s (s.settlementAt q) settAgents market))
            (tallyMarket s (s.settlementAt q) settAgents market) settAgents)
          (s.modifySettlement q fun t =>
            { t with market := some (tallyMarket s (s.settlementAt q) settAgents market) })).modifyMarket q
        fun m => { m with
          entries := fun good => (m.entries good).map (surplusDecay ((s.settlementAt q).population * being)) } := by
  unfold resolveSettlementMarket
  rw [listed]

/-- The whole call, read through its ledger: an exchange by the units of the
matching pass, between alive members of the settlement, within the books when
no agent is listed twice, and `TradeCount` equal to the units of this call. -/
theorem resolveSettlementMarket_ledger (slice : SliceSort Order) (goodOrder : List GoodType) (season : ℕ)
    (s : Simulation) (q : SettRef) (settAgents : List AgentRef) (keys : goodOrder.Nodup) :
    ∃ log, Exchanged s (s.resolveSettlementMarket slice goodOrder season q settAgents) log ∧
      (∀ u ∈ log, u.buyer ∈ aliveMembers s settAgents ∧ u.seller ∈ aliveMembers s settAgents) ∧
      ((aliveMembers s settAgents).Nodup → ∀ p good,
        bought log p good ≤ (demandedGoods (s.agentAt p) (s.settlementAt q).market).count good ∧
          sold log p good ≤ (surplus (s.agentAt p) good).toNat) ∧
      ((s.resolveSettlementMarket slice goodOrder season q settAgents).settlementAt q).market.map
          Market.tradeCount = (s.settlementAt q).market.map fun _ => (log.length : ℤ) := by
  unfold resolveSettlementMarket
  cases listed : (s.settlementAt q).market with
  | none =>
    refine ⟨[], Exchanged.refl s, fun _ member => absurd member List.not_mem_nil,
      fun _ _ _ => ⟨Nat.zero_le _, Nat.zero_le _⟩, ?_⟩
    simp [listed]
  | some market =>
    dsimp only
    -- the books are built once, from the agents before any trade
    set tallied := tallyMarket s (s.settlementAt q) settAgents market
    set ref := refPrices season (s.settlementAt q) tallied
    set books := s.modifySettlement q fun t => { t with market := some tallied }
    obtain ⟨log, cleared, -⟩ := matchOrders_cleared slice q (sellOrders s ref settAgents)
      (buyOrders s ref tallied settAgents) (fun b member => (quantity_of_mem_buyOrders member).le)
      goodOrder (books, 0) keys
    have opened : Exchanged s books [] := (Exchanged.refl s).congr rfl
    have exchanged := opened.trans cleared.exchanged
    rw [List.nil_append] at exchanged
    refine ⟨log, exchanged.congr rfl, ?_, ?_, ?_⟩
    · intro u member
      constructor
      · exact mem_aliveMembers_of_count_sortedBuys
          ((bought_pos_of_mem member).trans_le (cleared.buyers u.buyer u.good))
      · exact mem_aliveMembers_of_offered
          ((sold_pos_of_mem member).trans_le (cleared.sellers u.seller u.good))
    · intro distinct p good
      constructor
      · have bound := (cleared.buyers p good).trans
          (count_sortedBuys_le slice s ref tallied settAgents distinct p good)
        rwa [demandedGoods_tallyMarket] at bound
      · exact (cleared.sellers p good).trans (offered_sortedSells_le slice s ref settAgents distinct p good)
    · -- the surplus decay writes prices only
      rw [modifyMarket_tradeCount]
      · have counted := cleared.tradeCount
        simp only [matchOrders] at counted ⊢
        rw [counted]
        simp [books, modifySettlement_settlementAt_apply, tallied, tallyMarket]
      · intro m
        rfl

/-- Order matching in `resolveSettlementMarket` over distinct agents, read
through the ledger of its units: wealth and each good keep their sums over the
listed agents; every purse moves by exactly what its agent earned less what it
paid, so no debit exceeds a purse; a seller ends at or above its threshold in
every good it sold; no agent buys more units of a good than it has buy orders
for it, one for each time it demands the good; and `TradeCount` ends at the
number of units of the call. -/
theorem market_matching_settles_units (slice : SliceSort Order) (goodOrder : List GoodType) (season : ℕ)
    (s : Simulation) (q : SettRef) (settAgents : List AgentRef) (distinct : settAgents.Nodup) (keys : goodOrder.Nodup) :
    ∃ log : List (Trade AgentRef GoodType),
      total settAgents (fun p => ((s.resolveSettlementMarket slice goodOrder season q settAgents).agentAt p).wealth) =
          total settAgents (fun p => (s.agentAt p).wealth) ∧
        (∀ good, (settAgents.map fun p =>
            ((s.resolveSettlementMarket slice goodOrder season q settAgents).agentAt p).inventory good).sum =
          (settAgents.map fun p => (s.agentAt p).inventory good).sum) ∧
        (∀ p, ((s.resolveSettlementMarket slice goodOrder season q settAgents).agentAt p).wealth + paid log p =
          (s.agentAt p).wealth + earned log p) ∧
        (∀ p good, 0 < sold log p good → surplusThreshold (s.agentAt p) good ≤
          ((s.resolveSettlementMarket slice goodOrder season q settAgents).agentAt p).inventory good) ∧
        (∀ p good, bought log p good ≤ (demandedGoods (s.agentAt p) (s.settlementAt q).market).count good) ∧
        ((s.resolveSettlementMarket slice goodOrder season q settAgents).settlementAt q).market.map
            Market.tradeCount = (s.settlementAt q).market.map fun _ => (log.length : ℤ) := by
  obtain ⟨log, exchanged, parties, bounds, counted⟩ :=
    resolveSettlementMarket_ledger slice goodOrder season s q settAgents keys
  have listed : ∀ u ∈ log, u.buyer ∈ settAgents ∧ u.seller ∈ settAgents := fun u member =>
    ⟨(mem_aliveMembers.mp (parties u member).1).1, (mem_aliveMembers.mp (parties u member).2).1⟩
  have within := bounds (distinct.filter _)
  refine ⟨log, ?_, ?_, exchanged.wealth, ?_, fun p good => (within p good).1, counted⟩
  · -- purses move by their flows, and what was paid was earned
    unfold total
    exact sum_eq_of_flows (fun p _ => exchanged.wealth p) (sum_paid_eq_sum_earned distinct listed).symm
  · intro good
    have balanced := sum_bought_eq_sum_sold distinct listed good
    have cast : ∀ f : AgentRef → ℕ, (settAgents.map fun p => (f p : ℤ)).sum = ((settAgents.map f).sum : ℤ) := by
      intro f
      rw [Nat.cast_list_sum, List.map_map]
      rfl
    exact sum_eq_of_flows (fun p _ => exchanged.inventory p good) (by rw [cast, cast, balanced])
  · -- a seller sells at most its surplus, the stock above its threshold
    intro p good selling
    have moved := exchanged.inventory p good
    have few := (within p good).2
    unfold surplus at few
    omega

/-! ## A market day -/

/-- The residents of settlement 1: a farmer with five grain, and four
labourers with ten crowns each and no food. -/
def grainMarketAgents : List Agent :=
  { (default : Agent) with
      id := 1, homeSettID := some 1, occupation := .farmer, alive := true,
      inventory := fun good => if good = goodGrain then 5 else 0 } ::
    (List.range 4).map fun k =>
      { (default : Agent) with
          id := k + 2, homeSettID := some 1, occupation := .laborer, wealth := 10, alive := true }

/-- A generated world of one settlement whose market counted seven trades at
its last resolution. -/
def grainMarketWorld : Simulation :=
  (newSimulation (fun _ => none) grainMarketAgents [{ (default : Settlement) with id := 1, population := 5 }]).modifyMarket
    0 fun m => { m with tradeCount := 7 }

/-- With the farmer listed twice, its two sell orders of two grain each are
both filled: it sells four of its five grain and ends below the three it
keeps.  `TradeCount`, seven before, ends at the four units of this call.  Go's
`sort.Slice` sorts books this short by insertion, which is stable, so the merge
sort is the order it takes here. -/
theorem doubledFarmer_sells_below_threshold :
    (grainMarketWorld.agentAt 0).inventory goodGrain = 5 ∧
      ((grainMarketWorld.resolveSettlementMarket SliceSort.merge [goodGrain] 0 0 [0, 0, 1, 2, 3, 4]).agentAt 0).inventory
          goodGrain = 1 ∧
      surplusThreshold (grainMarketWorld.agentAt 0) goodGrain = 3 ∧
      (grainMarketWorld.settlementAt 0).market.map Market.tradeCount = some 7 ∧
      ((grainMarketWorld.resolveSettlementMarket SliceSort.merge [goodGrain] 0 0 [0, 0, 1, 2, 3, 4]).settlementAt 0).market.map
          Market.tradeCount = some 4 := by
  rw [resolveSettlementMarket_of_market rfl]
  simp only [matchOrders, List.foldl_cons, List.foldl_nil, matchGood]
  -- all asks are equal, and so are all bids: the books are already sorted
  rw [sortedSells_of_pairwise (by decide +kernel), sortedBuys_of_pairwise (by decide +kernel)]
  decide +kernel

/-- Listed once each, the residents of the market day trade within their books. -/
theorem grainMarket_settles :
    ([0, 1, 2, 3, 4] : List AgentRef).Nodup ∧ [goodGrain].Nodup ∧
      ∃ log : List (Trade AgentRef GoodType),
        total [0, 1, 2, 3, 4] (fun p =>
            ((grainMarketWorld.resolveSettlementMarket SliceSort.merge [goodGrain] 0 0 [0, 1, 2, 3, 4]).agentAt p).wealth) =
            total [0, 1, 2, 3, 4] (fun p => (grainMarketWorld.agentAt p).wealth) ∧
          (∀ good, ([0, 1, 2, 3, 4].map fun p =>
              ((grainMarketWorld.resolveSettlementMarket SliceSort.merge [goodGrain] 0 0 [0, 1, 2, 3, 4]).agentAt p).inventory
                good).sum =
            ([0, 1, 2, 3, 4].map fun p => (grainMarketWorld.agentAt p).inventory good).sum) ∧
          (∀ p, ((grainMarketWorld.resolveSettlementMarket SliceSort.merge [goodGrain] 0 0 [0, 1, 2, 3, 4]).agentAt p).wealth +
              paid log p = (grainMarketWorld.agentAt p).wealth + earned log p) ∧
          (∀ p good, 0 < sold log p good → surplusThreshold (grainMarketWorld.agentAt p) good ≤
            ((grainMarketWorld.resolveSettlementMarket SliceSort.merge [goodGrain] 0 0 [0, 1, 2, 3, 4]).agentAt p).inventory good) ∧
          (∀ p good, bought log p good ≤
            (demandedGoods (grainMarketWorld.agentAt p) (grainMarketWorld.settlementAt 0).market).count good) ∧
          ((grainMarketWorld.resolveSettlementMarket SliceSort.merge [goodGrain] 0 0 [0, 1, 2, 3, 4]).settlementAt 0).market.map
              Market.tradeCount = (grainMarketWorld.settlementAt 0).market.map fun _ => (log.length : ℤ) :=
  ⟨by decide, by decide,
    market_matching_settles_units SliceSort.merge [goodGrain] 0 grainMarketWorld 0 [0, 1, 2, 3, 4] (by decide) (by decide)⟩

end Simulation

end MiniWorld.Engine
