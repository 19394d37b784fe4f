import MiniWorld.Engine.Behavior
import MiniWorld.Engine.Matching
import MiniWorld.Engine.Merchant

/-! # No negative stock: the writers of the market

`Stocked s` says that no agent record of `s` holds a negative quantity of a
good, in its inventory or its cargo.  Every market writer keeps it:

* `resolveSettlementMarket` over a list without repeats: what an agent sells is
  at most its surplus over its threshold (`resolveSettlementMarket_ledger`),
  and thresholds are positive;
* `resolveBuyFood` only adds food;
* `tier2MarketSell` sells at most the surplus of the good it picked, one unit
  at a time (`saleLoop_stocked`).

Most steps never touch a cargo, and the market keeps the lists of residents it
reads: `CargoKept` carries both through the loops.
-/

namespace MiniWorld.Engine

open MiniWorld.Agents MiniWorld.Ledger MiniWorld.Run

namespace Simulation

/-- No agent record holds a negative quantity of a good. -/
def Stocked (s : Simulation) : Prop := ∀ p, (s.agentAt p).Stocked

/-- Every agent's cargo and `Alive` flag, and every settlement's list of agents,
are what they were. -/
structure CargoKept (before after : Simulation) : Prop where
  cargo : ∀ p, (after.agentAt p).tradeCargo = (before.agentAt p).tradeCargo
  alive : ∀ p, (after.agentAt p).alive = (before.agentAt p).alive
  lists : after.settlementAgents = before.settlementAgents

section Primitives

variable {s t u : Simulation}

theorem CargoKept.refl (s : Simulation) : CargoKept s s := ⟨fun _ => rfl, fun _ => rfl, rfl⟩

theorem CargoKept.trans (first : CargoKept s t) (second : CargoKept t u) : CargoKept s u :=
  ⟨fun p => (second.cargo p).trans (first.cargo p), fun p => (second.alive p).trans (first.alive p),
    second.lists.trans first.lists⟩

theorem CargoKept.aliveMembers_eq (kept : CargoKept s t) (settAgents : List AgentRef) :
    aliveMembers t settAgents = aliveMembers s settAgents := by
  unfold aliveMembers
  simp only [kept.alive]

theorem cargoKept_of_agentAt (same : t.agentAt = s.agentAt) (lists : t.settlementAgents = s.settlementAgents) :
    CargoKept s t :=
  ⟨fun p => by rw [same], fun p => by rw [same], lists⟩

theorem cargoKept_modifyAgent (s : Simulation) (p : AgentRef) {change : Agent → Agent}
    (keeps : (change (s.agentAt p)).tradeCargo = (s.agentAt p).tradeCargo)
    (alive : (change (s.agentAt p)).alive = (s.agentAt p).alive) :
    CargoKept s (s.modifyAgent p change) := by
  refine ⟨fun p' => ?_, fun p' => ?_, rfl⟩
  all_goals by_cases same : p' = p
  · subst same
    simpa using keeps
  · simp [modifyAgent_agentAt, same]
  · subst same
    simpa using alive
  · simp [modifyAgent_agentAt, same]

theorem cargoKept_debitAgent (s : Simulation) (p : AgentRef) (amount : ℕ) :
    CargoKept s (s.debitAgent p amount) := cargoKept_modifyAgent s p rfl rfl

theorem cargoKept_creditAgent (s : Simulation) (p : AgentRef) (amount : ℕ) :
    CargoKept s (s.creditAgent p amount) := cargoKept_modifyAgent s p rfl rfl

theorem cargoKept_addInventory (s : Simulation) (p : AgentRef) (good : GoodType) (delta : ℤ) :
    CargoKept s (s.addInventory p good delta) := cargoKept_modifyAgent s p rfl rfl

theorem cargoKept_modifySettlement (s : Simulation) (q : SettRef) (change : Settlement → Settlement) :
    CargoKept s (s.modifySettlement q change) := cargoKept_of_agentAt rfl rfl

theorem cargoKept_modifyMarket (s : Simulation) (q : SettRef) (change : Market → Market) :
    CargoKept s (s.modifyMarket q change) := cargoKept_of_agentAt rfl rfl

theorem Stocked.of_agentAt (stocked : s.Stocked) (same : t.agentAt = s.agentAt) : t.Stocked := by
  intro p
  rw [same]
  exact stocked p

theorem Stocked.modifyAgent (stocked : s.Stocked) (p : AgentRef) {change : Agent → Agent}
    (keeps : (change (s.agentAt p)).Stocked) : (s.modifyAgent p change).Stocked := by
  intro p'
  by_cases same : p' = p
  · subst same
    simpa using keeps
  · simpa [modifyAgent_agentAt, same] using stocked p'

theorem Stocked.modifyAgent_goods (stocked : s.Stocked) (p : AgentRef) {change : Agent → Agent}
    (goods : ∀ a, (change a).inventory = a.inventory) (cargo : ∀ a, (change a).tradeCargo = a.tradeCargo) :
    (s.modifyAgent p change).Stocked :=
  stocked.modifyAgent p ((stocked p).of_goods (goods _) (cargo _))

theorem Stocked.setAgent (stocked : s.Stocked) (p : AgentRef) {a : Agent} (held : a.Stocked) :
    (s.modifyAgent p fun _ => a).Stocked :=
  stocked.modifyAgent p held

theorem Stocked.of_goods (stocked : s.Stocked) (goods : GoodsKept s t) (cargo : CargoKept s t) :
    t.Stocked :=
  fun p => (stocked p).of_goods (goods p) (cargo.cargo p)

theorem Stocked.addInventory (stocked : s.Stocked) {p : AgentRef} {good : GoodType} {delta : ℤ}
    (covered : 0 ≤ (s.agentAt p).inventory good + delta) : (s.addInventory p good delta).Stocked :=
  stocked.modifyAgent p ((stocked p).update rfl rfl covered)

theorem Stocked.addInventory_of_nonneg (stocked : s.Stocked) (p : AgentRef) (good : GoodType) {delta : ℤ}
    (gain : 0 ≤ delta) : (s.addInventory p good delta).Stocked :=
  stocked.addInventory (Int.add_nonneg ((stocked p).inventory good) gain)

theorem Stocked.debitAgent (stocked : s.Stocked) (p : AgentRef) (amount : ℕ) :
    (s.debitAgent p amount).Stocked :=
  stocked.modifyAgent_goods p (fun _ => rfl) (fun _ => rfl)

theorem Stocked.creditAgent (stocked : s.Stocked) (p : AgentRef) (amount : ℕ) :
    (s.creditAgent p amount).Stocked :=
  stocked.modifyAgent_goods p (fun _ => rfl) (fun _ => rfl)

theorem Stocked.modifySettlement (stocked : s.Stocked) (q : SettRef) (change : Settlement → Settlement) :
    (s.modifySettlement q change).Stocked := stocked.of_agentAt rfl

theorem Stocked.modifyMarket (stocked : s.Stocked) (q : SettRef) (change : Market → Market) :
    (s.modifyMarket q change).Stocked := stocked.of_agentAt rfl

theorem Stocked.debitSettlement (stocked : s.Stocked) (q : SettRef) (amount : ℕ) :
    (s.debitSettlement q amount).Stocked := stocked.modifySettlement q _

theorem Stocked.creditSettlement (stocked : s.Stocked) (q : SettRef) (amount : ℕ) :
    (s.creditSettlement q amount).Stocked := stocked.modifySettlement q _

theorem Stocked.bumpNeeds (stocked : s.Stocked) (p : AgentRef) (bump : NeedsState → NeedsState) :
    (s.bumpNeeds p bump).Stocked :=
  stocked.modifyAgent_goods p (fun _ => rfl) (fun _ => rfl)

end Primitives

/-! ## `resolveSettlementMarket` -/

/-- Thresholds are positive: an agent always keeps something back. -/
theorem surplusThreshold_pos (a : Agent) (good : GoodType) : 0 < surplusThreshold a good := by
  unfold surplusThreshold
  split_ifs <;> norm_num

theorem tradeUnit_cargoKept (good : GoodType) (buyer seller : AgentRef) (clearCrowns : ℕ) (s : Simulation) :
    CargoKept s (tradeUnit good buyer seller clearCrowns s) :=
  (((cargoKept_debitAgent _ _ _).trans (cargoKept_creditAgent _ _ _)).trans
    (cargoKept_addInventory _ _ _ _)).trans (cargoKept_addInventory _ _ _ _)

theorem unitLoop_cargoKept (good : GoodType) (buyer seller : AgentRef) (clearCrowns : ℕ) :
    ∀ (n : ℕ) (s : Simulation), CargoKept s (unitLoop good buyer seller clearCrowns n s).1
  | 0, s => CargoKept.refl s
  | n + 1, s => by
    unfold unitLoop
    split_ifs
    · exact CargoKept.refl s
    · exact (tradeUnit_cargoKept good buyer seller clearCrowns s).trans
        (unitLoop_cargoKept good buyer seller clearCrowns n _)

/-- The induction follows `matchLoop`: every iteration consumes a buy order. -/
theorem matchLoop_cargoKept (good : GoodType) :
    ∀ (sells : List Order) (sellRemain : ℤ) (buys : List Order) (s : Simulation) (totalTraded totalRevenue : ℕ),
      CargoKept s (matchLoop good s totalTraded totalRevenue sells sellRemain buys).1
  | [], _, _, s, _, _ => by
    simp only [matchLoop]
    exact CargoKept.refl s
  | _ :: _, _, [], s, _, _ => by
    simp only [matchLoop]
    exact CargoKept.refl s
  | sell :: sells, sellRemain, buy :: buys, s, totalTraded, totalRevenue => by
    unfold matchLoop
    dsimp only
    have traded := unitLoop_cargoKept good buy.agent sell.agent ⌊sell.price + 0.5⌋₊
      (min buy.quantity sellRemain).toNat s
    split_ifs with crossed exhausted
    · exact CargoKept.refl s
    · exact traded.trans (matchLoop_cargoKept good sells _ buys _ _ _)
    · exact traded.trans (matchLoop_cargoKept good (sell :: sells) _ buys _ _ _)

theorem recordTrades_cargoKept (q : SettRef) (good : GoodType) (totalTraded totalRevenue maxTraded : ℕ)
    (s : Simulation) : CargoKept s (recordTrades q good totalTraded totalRevenue s maxTraded).1 := by
  unfold recordTrades
  dsimp only
  split_ifs <;> exact cargoKept_of_agentAt rfl rfl

theorem matchOrders_cargoKept (slice : SliceSort Order) (q : SettRef) (goodOrder : List GoodType)
    (sellOrders buyOrders : List Order) (s : Simulation) :
    CargoKept s (matchOrders slice q goodOrder sellOrders buyOrders s) := by
  apply foldl_invariant (fun acc : Simulation × ℕ => CargoKept s acc.1)
    (matchGood slice q sellOrders buyOrders) goodOrder (s, 0) _ (CargoKept.refl s)
  rintro good - ⟨t, maxTraded⟩ kept
  unfold matchGood
  dsimp only
  split_ifs
  · exact kept
  · exact (kept.trans (matchLoop_cargoKept good _ _ _ t 0 0)).trans (recordTrades_cargoKept q good _ _ _ _)

theorem resolveSettlementMarket_cargoKept (slice : SliceSort Order) (goodOrder : List GoodType) (season : ℕ)
    (s : Simulation) (q : SettRef) (settAgents : List AgentRef) :
    CargoKept s (s.resolveSettlementMarket slice goodOrder season q settAgents) := by
  unfold resolveSettlementMarket
  split
  · exact CargoKept.refl s
  · dsimp only
    exact ((cargoKept_modifySettlement _ _ _).trans (matchOrders_cargoKept _ _ _ _ _ _)).trans
      (cargoKept_modifyMarket _ _ _)

/-- A settlement's market over a list whose alive members are distinct keeps
the stock: each agent sells at most its surplus over a positive threshold, and
only buys otherwise. -/
theorem resolveSettlementMarket_stocked (slice : SliceSort Order) (goodOrder : List GoodType) (season : ℕ) {s : Simulation}
    (q : SettRef) {settAgents : List AgentRef} (stocked : s.Stocked) (distinct : (aliveMembers s settAgents).Nodup)
    (keys : goodOrder.Nodup) : (s.resolveSettlementMarket slice goodOrder season q settAgents).Stocked := by
  obtain ⟨log, exchanged, -, bounds, -⟩ := resolveSettlementMarket_ledger slice goodOrder season s q settAgents keys
  have kept := resolveSettlementMarket_cargoKept slice goodOrder season s q settAgents
  intro p
  refine ⟨fun good => ?_, fun good => (kept.cargo p).symm ▸ (stocked p).cargo good⟩
  have moved := exchanged.inventory p good
  have soldBound := (bounds distinct p good).2
  have held := (stocked p).inventory good
  have threshold := surplusThreshold_pos (s.agentAt p) good
  unfold surplus at soldBound
  omega

/-- `resolveMarkets`, when no settlement lists an alive agent twice and each
market visits its goods once. -/
theorem resolveMarkets_stocked (slice : SliceSort Order) (goodOrder : SettRef → List GoodType) {s : Simulation}
    (stocked : s.Stocked)
    (distinct : ∀ k, (aliveMembers s (s.settlementAgents k)).Nodup) (keys : ∀ q, (goodOrder q).Nodup) :
    (s.resolveMarkets slice goodOrder).Stocked := by
  -- the lists read at each settlement are those of the start
  have walk : CargoKept s (s.resolveMarkets slice goodOrder) ∧ (s.resolveMarkets slice goodOrder).Stocked := by
    apply foldl_invariant (fun t => CargoKept s t ∧ t.Stocked) _ s.settlements s _ ⟨CargoKept.refl s, stocked⟩
    rintro q - t ⟨kept, tStocked⟩
    dsimp only
    split_ifs
    · exact ⟨kept, tStocked⟩
    · refine ⟨kept.trans (resolveSettlementMarket_cargoKept _ _ _ _ _ _), ?_⟩
      have listedOnce : (aliveMembers t (t.settlementAgents (t.settlementAt q).id)).Nodup := by
        rw [kept.aliveMembers_eq, kept.lists]
        exact distinct _
      exact resolveSettlementMarket_stocked _ _ _ q tStocked listedOnce (keys q)
  exact walk.2

/-! ## `resolveBuyFood` and `tier2MarketSell` -/

theorem forage_stocked {s : Simulation} (p : AgentRef) (stocked : s.Stocked) : (s.forage p).Stocked :=
  (stocked.addInventory_of_nonneg p _ Int.one_pos.le).bumpNeeds p _

theorem resolveBuyFood_stocked {s : Simulation} (p : AgentRef) (stocked : s.Stocked) :
    (s.resolveBuyFood p).Stocked := by
  unfold resolveBuyFood
  split
  · exact forage_stocked p stocked
  · split
    · exact forage_stocked p stocked
    · split
      · exact forage_stocked p stocked
      · rename_i q _ _ market _
        dsimp only
        split_ifs
        · -- a paid unit of the cheapest food
          have paid := (stocked.debitAgent p (crownPrice (cheapestFood market).2)).creditSettlement q
            (crownPrice (cheapestFood market).2)
          exact (paid.addInventory_of_nonneg p _ Int.one_pos.le).bumpNeeds p _
        · exact (stocked.addInventory_of_nonneg p _ Int.one_pos.le).bumpNeeds p _

/-- The surplus `bestSurplus` reports is none, or the surplus of the good it
picks. -/
theorem bestSurplus_spec (a : Agent) (market : Market) :
    (bestSurplus a market).2.1 = 0 ∨ (bestSurplus a market).2.1 = surplus a (bestSurplus a market).1 := by
  unfold bestSurplus
  apply foldl_invariant (fun best : ℚ × GoodType × ℤ × ℚ => best.2.2.1 = 0 ∨ best.2.2.1 = surplus a best.2.1)
    _ inventoryGoods _ _ (Or.inl rfl)
  rintro good - best picked
  split_ifs
  · exact picked
  · cases market.entries good with
    | none => exact picked
    | some e =>
      dsimp only [Option.elim]
      by_cases higher : (surplus a good : ℚ) * e.price > best.1
      · simp only [higher, if_true, or_true]
      · simp only [higher, if_false]
        exact picked

/-- The sale loop takes one unit per sale: from a stock of at least `n` units
of the good, `n` sales leave the stock. -/
theorem saleLoop_stocked (p : AgentRef) (q : SettRef) (good : GoodType) (unitPrice : ℕ) :
    ∀ (n : ℕ) (s : Simulation), s.Stocked → (n : ℤ) ≤ (s.agentAt p).inventory good →
      (saleLoop p q good unitPrice n s).Stocked
  | 0, _, stocked, _ => stocked
  | n + 1, s, stocked, held => by
    unfold saleLoop
    split_ifs with short
    · exact stocked
    · -- the sold state still holds `n` units for the rest of the loop
      set paid := (s.debitSettlement q unitPrice).creditAgent p unitPrice
      have paidStocked : paid.Stocked := (stocked.of_agentAt rfl).creditAgent p unitPrice
      have paidHeld : (paid.agentAt p).inventory good = (s.agentAt p).inventory good := by
        simp [paid, debitSettlement, modifySettlement]
      apply saleLoop_stocked p q good unitPrice n
      · exact paidStocked.addInventory (by push_cast at held; omega)
      · rw [addInventory_inventory, paidHeld]
        simp only [and_self, if_true]
        push_cast at held
        omega

theorem tier2MarketSell_stocked {s : Simulation} (p : AgentRef) (q : SettRef) (stocked : s.Stocked) :
    (s.tier2MarketSell p q).Stocked := by
  unfold tier2MarketSell
  split
  · exact stocked
  · rename_i market _
    dsimp only
    split_ifs with nothing
    · exact stocked
    · -- the units offered are the surplus of the picked good, below its stock
      have offered : ((bestSurplus (s.agentAt p) market).2.1.toNat : ℤ) ≤
          (s.agentAt p).inventory (bestSurplus (s.agentAt p) market).1 := by
        have threshold := surplusThreshold_pos (s.agentAt p) (bestSurplus (s.agentAt p) market).1
        have held := (stocked p).inventory (bestSurplus (s.agentAt p) market).1
        rcases bestSurplus_spec (s.agentAt p) market with none | picked
        · omega
        · rw [picked]
          unfold surplus
          omega
      exact (saleLoop_stocked p q _ _ _ s stocked offered).modifyAgent p
        (((saleLoop_stocked p q _ _ _ s stocked offered) p).of_goods rfl rfl)

theorem tier2Trade_stocked {s : Simulation} (p : AgentRef) (stocked : s.Stocked) : (s.tier2Trade p).Stocked := by
  unfold tier2Trade
  split
  · exact stocked
  · split
    · exact stocked
    · exact tier2MarketSell_stocked p _ stocked

/-! ## Merchants

A merchant's sale moves only crowns: the cargo is never debited unit by unit,
it is cleared on arrival.  Buying fills the cargo with the units paid for, and
provisioning adds meals. -/

theorem sellUnits_stocked (p : AgentRef) (d : SettRef) (good : GoodType) (unitPrice : ℕ) :
    ∀ n (acc : Simulation × ℕ), acc.1.Stocked → (sellUnits p d good unitPrice n acc).1.Stocked
  | 0, _, stocked => stocked
  | n + 1, (s, revenue), stocked => by
    have later := sellUnits_stocked p d good unitPrice n
    unfold sellUnits
    split
    · exact later _ ((stocked.debitSettlement d unitPrice).creditAgent p unitPrice)
    · split
      · exact stocked
      · exact later _ (((stocked.debitAgent _ _).creditAgent p _).creditSettlement d _)

theorem sellCargo_stocked (p : AgentRef) (d : SettRef) (market : Market) :
    ∀ (goods : List GoodType) (acc : Simulation × ℕ), acc.1.Stocked → (sellCargo p d market goods acc).1.Stocked
  | [], _, stocked => stocked
  | good :: rest, (s, revenue), stocked => by
    have later := sellCargo_stocked p d market rest
    unfold sellCargo
    split
    · exact later _ stocked
    · dsimp only
      split
      · exact later _ stocked
      · exact later _ (sellUnits_stocked p d good _ _ (s, revenue) stocked)

theorem commissionLoop_stocked (seller : AgentRef) (revenue maxTotal : ℕ) :
    ∀ (members : List AgentRef) (acc : Simulation × ℕ), acc.1.Stocked →
      (commissionLoop seller revenue maxTotal members acc).1.Stocked
  | [], _, stocked => stocked
  | p :: rest, (s, totalPaid), stocked => by
    have later := commissionLoop_stocked seller revenue maxTotal rest
    have paid : ∀ commission, ((s.debitAgent seller commission).creditAgent p commission).Stocked :=
      fun commission => (stocked.debitAgent seller commission).creditAgent p commission
    unfold commissionLoop
    dsimp only
    split_ifs
    all_goals first
      | exact later _ stocked
      | exact stocked
      | exact paid _
      | exact later _ (paid _)

theorem tier2Commission_stocked {s : Simulation} (seller : AgentRef) (d : SettRef) (revenue : ℕ)
    (stocked : s.Stocked) : (s.tier2Commission seller d revenue).Stocked := by
  unfold tier2Commission
  dsimp only
  split
  · exact stocked
  · exact commissionLoop_stocked seller revenue _ _ (s, 0) stocked

theorem sellMerchantCargo_stocked {s : Simulation} (p : AgentRef) (d : SettRef) (market : Market)
    (stocked : s.Stocked) : (s.sellMerchantCargo p d market).Stocked := by
  have sold := sellCargo_stocked p d market inventoryGoods (s, 0) stocked
  unfold sellMerchantCargo
  dsimp only
  split
  · exact tier2Commission_stocked p d _ (sold.modifyAgent_goods p (fun _ => rfl) (fun _ => rfl))
  · exact sold

theorem recordInterSettlementTrade_agentAt (s : Simulation) (source dest : ℕ) :
    (s.recordInterSettlementTrade source dest).agentAt = s.agentAt := by
  unfold recordInterSettlementTrade
  split <;> rfl

/-- Arrival: the sale and the repayment move crowns, and the cargo is cleared
to zero. -/
theorem arrive_stocked {s : Simulation} (q : SettRef) (p : AgentRef) (destID : ℕ) (stocked : s.Stocked) :
    (s.arrive q p destID).Stocked := by
  unfold arrive
  extract_lets sold repay repaid
  have soldStocked : sold.Stocked := by
    simp only [sold]
    split
    · exact stocked
    · split
      · exact stocked
      · rename_i d _ _ market _
        have traded := sellMerchantCargo_stocked p d market stocked
        split
        · exact traded.of_agentAt rfl
        · exact traded.of_agentAt (recordInterSettlementTrade_agentAt _ _ _)
  have repaidStocked : repaid.Stocked := by
    simp only [repaid]
    split_ifs
    · exact ((soldStocked.debitAgent p _).creditSettlement q _).modifyAgent_goods p (fun _ => rfl) (fun _ => rfl)
    · exact soldStocked
  exact repaidStocked.modifyAgent p ⟨(repaidStocked p).inventory, fun _ => le_refl 0⟩

theorem buyLoop_stocked (p : AgentRef) (q : SettRef) (buyPrice : ℕ) :
    ∀ n (acc : Simulation × ℕ), acc.1.Stocked → (buyLoop p q buyPrice n acc).1.Stocked
  | 0, _, stocked => stocked
  | n + 1, (s, qty), stocked => by
    have later := buyLoop_stocked p q buyPrice n
    unfold buyLoop
    split_ifs
    · exact later _ ((stocked.debitAgent p buyPrice).creditSettlement q buyPrice)
    · -- fronted by the treasury: only the debt grows
      refine later _ ?_
      dsimp only
      exact (stocked.debitSettlement q buyPrice).modifyAgent_goods p (fun _ => rfl) (fun _ => rfl)
    · exact stocked

/-- A meal bought adds one unit of food. -/
theorem buyMeal_stocked (p : AgentRef) (q : SettRef) (market : Market) :
    ∀ (foods : List GoodType) (s fed : Simulation), s.Stocked → buyMeal p q market foods s = some fed →
      fed.Stocked
  | [], _, _, _, bought => by simp [buyMeal] at bought
  | foodGood :: rest, s, fed, stocked, bought => by
    have later := buyMeal_stocked p q market rest s fed stocked
    unfold buyMeal at bought
    split at bought
    · exact later bought
    · split_ifs at bought
      · cases bought
        exact ((stocked.debitAgent p _).creditSettlement q _).addInventory_of_nonneg p foodGood Int.one_pos.le
      · exact later bought

theorem provisionLoop_stocked (p : AgentRef) (q : SettRef) (market : Market) :
    ∀ n (s : Simulation), s.Stocked → (provisionLoop p q market n s).Stocked
  | 0, _, stocked => stocked
  | n + 1, s, stocked => by
    unfold provisionLoop
    split
    · exact stocked
    · next fed bought =>
      exact provisionLoop_stocked p q market n fed (buyMeal_stocked p q market _ s fed stocked bought)

/-- Departure: the cargo gains the units bought, a natural number of them. -/
theorem depart_stocked {s : Simulation} (q : SettRef) (home : Market) (p : AgentRef) (good : GoodType)
    (d : SettRef) (stocked : s.Stocked) : (s.depart q home p good d).Stocked := by
  unfold depart
  extract_lets buyPrice bought destID loaded travelCost currentFood mealsNeeded provisioned
  have boughtStocked := buyLoop_stocked p q buyPrice 5 (s, 0) stocked
  split_ifs
  · exact boughtStocked
  · have loadedStocked : loaded.Stocked := by
      refine boughtStocked.modifyAgent p ⟨(boughtStocked p).inventory, fun g => ?_⟩
      dsimp only
      rw [Function.update_apply]
      split_ifs with same
      · exact Int.add_nonneg ((boughtStocked p).cargo _) (Int.natCast_nonneg _)
      · exact (boughtStocked p).cargo g
    exact (provisionLoop_stocked p q home _ loaded loadedStocked).modifyAgent_goods p (fun _ => rfl)
      (fun _ => rfl)

theorem tradeTrip_stocked (goodOrder : List GoodType) (q : SettRef) (home : Market) (neighbors : List SettRef)
    {s : Simulation} (p : AgentRef) (stocked : s.Stocked) : (tradeTrip goodOrder q home neighbors s p).Stocked := by
  have cleared : (s.modifyAgent p fun a => { a with tradePreferredDest := none }).Stocked :=
    stocked.modifyAgent_goods p (fun _ => rfl) (fun _ => rfl)
  unfold tradeTrip
  split_ifs
  · exact stocked
  · dsimp only
    split
    · exact cleared
    · split_ifs
      · exact depart_stocked q home p _ _ cleared
      · exact cleared

theorem merchantHour_stocked (goodOrder : List GoodType) (q : SettRef) (home : Market)
    (neighbors : List SettRef) {s : Simulation} (p : AgentRef) (stocked : s.Stocked) :
    (merchantHour goodOrder q home neighbors s p).Stocked := by
  unfold merchantHour
  dsimp only
  split_ifs
  · exact stocked
  · -- on the road: only the travel time falls
    exact stocked.modifyAgent_goods p (fun _ => rfl) (fun _ => rfl)
  · split
    · exact arrive_stocked q p _ stocked
    · exact tradeTrip_stocked goodOrder q home neighbors p stocked

theorem resolveMerchantTrade_stocked (tradeNeighbors wideNeighbors : ℕ → List SettRef)
    (goodOrder : List GoodType) {s : Simulation} (stocked : s.Stocked) :
    (s.resolveMerchantTrade tradeNeighbors wideNeighbors goodOrder).Stocked := by
  apply foldl_invariant Stocked _ s.settlements s _ stocked
  rintro q - t tStocked
  unfold merchantSettlement
  extract_lets sett
  split
  · exact tStocked
  · extract_lets popThreshold hasSurplus
    split_ifs
    · exact tStocked
    · apply foldl_invariant Stocked _ _ t _ tStocked
      intro p _ u uStocked
      exact merchantHour_stocked goodOrder q _ _ p uStocked

end Simulation

end MiniWorld.Engine
