import MiniWorld.Engine.Money
import Mathlib.Data.Rat.Floor
import Mathlib.Analysis.SpecialFunctions.Log.Base

/-! # Daily treasury flows (`internal/engine/market.go`, lines 433–705)

`collectTaxes`, `decayWealth`, `paySettlementWages` and `payGarrisonStipends`,
modelled loop for loop.  Each inner loop over a `SettlementAgents` list is a
recursive function returning the state and the loop's accumulator
(`taxRevenue`, `paid`); a `break` returns early.  Go's float computations of
amounts (`uint64(float64(x) * rate)`) are rational products truncated by
`Nat.floor`.

Each flow is shown to keep the money supply: a tax or a decay leaves an agent
for a treasury, a wage or a stipend leaves a treasury for an agent, and every
debit is covered, by an explicit cap or by the loop's `break`.
-/

namespace MiniWorld.Engine

open MiniWorld.Agents MiniWorld.Phi

namespace Simulation

/-! ## Needs bumps -/

/-- Clamp a register to `[0, 1]`. -/
def clampUnit (value : ℚ) : ℚ := if value < 0 then 0 else if value > 1 then 1 else value

/-- `clampAgentNeeds` (`production.go`). -/
def clampAgentNeeds (needs : NeedsState) : NeedsState :=
  { survival := clampUnit needs.survival, safety := clampUnit needs.safety,
    belonging := clampUnit needs.belonging, esteem := clampUnit needs.esteem,
    purpose := clampUnit needs.purpose }


theorem debitAgent_wealth_le (s : Simulation) (p : AgentRef) (amount : ℕ) (p' : AgentRef) :
    ((s.debitAgent p amount).agentAt p').wealth ≤ (s.agentAt p').wealth := by
  rw [debitAgent_wealth]
  split_ifs with same
  · subst same; omega
  · exact le_refl _

/-! ## Welfare weights, shared by public works and wages -/

/-- The welfare threshold of `collectTaxes` (floor 30) and
`paySettlementWages` (floor 50): `Agnosis` times the average wealth of the
alive agents listed, at least `floor`. -/
def welfareThreshold (s : Simulation) (settAgents : List AgentRef) (floor : ℚ) : ℚ :=
  let alive := settAgents.filter fun p => (s.agentAt p).alive
  let avgWealth : ℚ :=
    if alive.length > 0 then (alive.map fun p => ((s.agentAt p).wealth : ℚ)).sum / alive.length
    else 0
  let threshold := avgWealth * agnosis
  if threshold < floor then floor else threshold

/-- Whether an agent is owed welfare: alive, and poorer than `uint64(threshold)`. -/
def owedWelfare (a : Agent) (threshold : ℚ) : Bool :=
  a.alive && decide (a.wealth < ⌊threshold⌋₊)

/-- `totalWeight`: the poverty weights `(threshold - Wealth) / threshold` of the
agents owed welfare. -/
def welfareWeight (s : Simulation) (settAgents : List AgentRef) (threshold : ℚ) : ℚ :=
  ((settAgents.filter fun p => owedWelfare (s.agentAt p) threshold).map
    fun p => (threshold - (s.agentAt p).wealth) / threshold).sum

/-! ## `collectTaxes` -/

/-- `taxThreshold`: agents at or below 20 crowns pay no tax. -/
def taxThreshold : ℕ := 20

/-- One agent's daily tax: `uint64(float64(taxable) * TaxRate * Agnosis)`, at
least one crown, at most the agent's wealth. -/
def agentTax (taxRate : ℚ) (wealth : ℕ) : ℕ :=
  let tax := ⌊((wealth - taxThreshold : ℕ) : ℚ) * taxRate * agnosis⌋₊
  let tax := if tax < 1 then 1 else tax
  if tax > wealth then wealth else tax

theorem agentTax_le (taxRate : ℚ) (wealth : ℕ) : agentTax taxRate wealth ≤ wealth := by
  unfold agentTax
  dsimp only
  split_ifs <;> omega

/-- The tax loop of `collectTaxes` over `settAgents`, accumulating `taxRevenue`. -/
def taxLoop (q : SettRef) : Simulation → ℕ → List AgentRef → Simulation × ℕ
  | s, taxRevenue, [] => (s, taxRevenue)
  | s, taxRevenue, p :: rest =>
    if !(s.agentAt p).alive || (s.agentAt p).wealth ≤ taxThreshold then
      taxLoop q s taxRevenue rest
    else
      let tax := agentTax (s.settlementAt q).taxRate (s.agentAt p).wealth
      taxLoop q (s.debitAgent p tax) (taxRevenue + tax) rest

/-- The needs bump of a public-works wage. -/
def publicWorksNeeds (needs : NeedsState) : NeedsState :=
  clampAgentNeeds { needs with belonging := needs.belonging + 0.002, safety := needs.safety + 0.001 }

/-- The public-works loop of `collectTaxes`: progressive wages out of a
`publicWorks` budget, accumulating `paid`; it stops at the first wage that
would overrun the budget. -/
def publicWorksLoop (threshold totalWeight : ℚ) (publicWorks : ℕ) :
    Simulation → ℕ → List AgentRef → Simulation × ℕ
  | s, paid, [] => (s, paid)
  | s, paid, p :: rest =>
    if !(s.agentAt p).alive || (s.agentAt p).wealth ≥ ⌊threshold⌋₊ then
      publicWorksLoop threshold totalWeight publicWorks s paid rest
    else
      let weight := (threshold - (s.agentAt p).wealth) / threshold
      let wage := ⌊(publicWorks : ℚ) * weight / totalWeight⌋₊
      if wage = 0 then publicWorksLoop threshold totalWeight publicWorks s paid rest
      else if paid + wage > publicWorks then (s, paid)
      else
        publicWorksLoop threshold totalWeight publicWorks
          ((s.creditAgent p wage).bumpNeeds p publicWorksNeeds) (paid + wage) rest

/-- The public-works budget: `uint64(float64(Population) * Agnosis * 0.5)`,
capped at the treasury. -/
def publicWorksBudget (sett : Settlement) : ℕ :=
  let publicWorks := ⌊(sett.population : ℚ) * agnosis * 0.5⌋₊
  if publicWorks > sett.treasury then sett.treasury else publicWorks

/-- The public-works half of one settlement's pass of `collectTaxes`: wages
to the poorest, then `sett.Treasury -= paid`. -/
def publicWorksPass (s : Simulation) (q : SettRef) : Simulation :=
  let sett := s.settlementAt q
  let publicWorks := publicWorksBudget sett
  if publicWorks > 0 then
    let settAgents := s.settlementAgents sett.id
    let threshold := welfareThreshold s settAgents 30
    let totalWeight := welfareWeight s settAgents threshold
    if totalWeight > 0 then
      let worked := publicWorksLoop threshold totalWeight publicWorks s 0 settAgents
      worked.1.debitSettlement q worked.2
    else s
  else s

/-- One settlement's pass of `collectTaxes`: tax, deposit `taxRevenue`, then
public works. -/
def collectSettlementTaxes (s : Simulation) (q : SettRef) : Simulation :=
  let taxed := taxLoop q s 0 (s.settlementAgents (s.settlementAt q).id)
  publicWorksPass (taxed.1.creditSettlement q taxed.2) q

def collectTaxes (s : Simulation) : Simulation := s.settlements.foldl collectSettlementTaxes s

theorem publicWorksBudget_le (sett : Settlement) : publicWorksBudget sett ≤ sett.treasury := by
  unfold publicWorksBudget
  dsimp only
  split_ifs with exceeds
  · exact le_refl _
  · exact Nat.le_of_not_lt exceeds

/-! ### Conservation -/

/-- The tax loop moves crowns from the alive listed agents into its
accumulator `taxRevenue`; the settlements are untouched. -/
theorem taxLoop_spec (q : SettRef) : ∀ (settAgents : List AgentRef) (s : Simulation)
    (taxRevenue : ℕ), s.Wired → s.AliveListed settAgents →
    CrownsOnly s (taxLoop q s taxRevenue settAgents).1 ∧
      (taxLoop q s taxRevenue settAgents).1.moneySupply + (taxLoop q s taxRevenue settAgents).2 =
        s.moneySupply + taxRevenue ∧
      (taxLoop q s taxRevenue settAgents).1.settlementAt = s.settlementAt
  | [], s, _, _, _ => ⟨CrownsOnly.refl s, rfl, rfl⟩
  | p :: rest, s, taxRevenue, wired, listed => by
    unfold taxLoop
    dsimp only
    split_ifs with exempt
    · exact taxLoop_spec q rest s taxRevenue wired listed.tail
    · -- an alive agent above the threshold pays its tax into the accumulator
      have alive : (s.agentAt p).alive := by simp at exempt; exact exempt.1
      have debited := crownsOnly_debitAgent s p
        (agentTax (s.settlementAt q).taxRate (s.agentAt p).wealth)
      have paidTax := moneySupply_debitAgent wired.agents_nodup (listed.head alive) alive
        (agentTax_le (s.settlementAt q).taxRate (s.agentAt p).wealth)
      obtain ⟨change, money, frame⟩ := taxLoop_spec q rest _ _ (debited.wired wired)
        (debited.aliveListed listed.tail)
      exact ⟨debited.trans change, by omega, frame⟩

/-- The public-works loop moves crowns from its budget to alive listed agents:
what it pays is added to `paid`, which never passes the budget. -/
theorem publicWorksLoop_spec (threshold totalWeight : ℚ) (publicWorks : ℕ) :
    ∀ (settAgents : List AgentRef) (s : Simulation) (paid : ℕ), s.Wired →
      s.AliveListed settAgents → paid ≤ publicWorks →
      CrownsOnly s (publicWorksLoop threshold totalWeight publicWorks s paid settAgents).1 ∧
        (publicWorksLoop threshold totalWeight publicWorks s paid settAgents).1.moneySupply + paid =
          s.moneySupply + (publicWorksLoop threshold totalWeight publicWorks s paid settAgents).2 ∧
        (publicWorksLoop threshold totalWeight publicWorks s paid settAgents).2 ≤ publicWorks ∧
        (publicWorksLoop threshold totalWeight publicWorks s paid settAgents).1.settlementAt =
          s.settlementAt
  | [], s, _, _, _, within => ⟨CrownsOnly.refl s, rfl, within, rfl⟩
  | p :: rest, s, paid, wired, listed, within => by
    unfold publicWorksLoop
    dsimp only
    split_ifs with notOwed noWage overrun
    · exact publicWorksLoop_spec threshold totalWeight publicWorks rest s paid wired listed.tail within
    · exact publicWorksLoop_spec threshold totalWeight publicWorks rest s paid wired listed.tail within
    · -- `break`: the wage would overrun the budget
      exact ⟨CrownsOnly.refl s, rfl, within, rfl⟩
    · have alive : (s.agentAt p).alive := by simp at notOwed; exact notOwed.1
      set wage := ⌊(publicWorks : ℚ) * ((threshold - (s.agentAt p).wealth) / threshold) /
        totalWeight⌋₊
      have credited := (crownsOnly_creditAgent s p wage).trans
        (crownsOnly_bumpNeeds (s.creditAgent p wage) p publicWorksNeeds)
      have received := moneySupply_creditAgent wired.agents_nodup (listed.head alive) alive wage
      obtain ⟨change, money, bound, frame⟩ := publicWorksLoop_spec threshold totalWeight
        publicWorks rest _ (paid + wage) (credited.wired wired) (credited.aliveListed listed.tail)
        (Nat.le_of_not_lt overrun)
      rw [moneySupply_bumpNeeds] at money
      exact ⟨credited.trans change, by omega, bound, frame⟩

/-- Public works pay out of the treasury no more than it holds. -/
theorem publicWorksPass_keeps {s : Simulation} {q : SettRef} (wired : s.Wired)
    (listed : q ∈ s.settlements) : Keeps s (s.publicWorksPass q) := by
  unfold publicWorksPass
  dsimp only
  split_ifs with hasBudget hasWeight
  · obtain ⟨change, money, bound, frame⟩ := publicWorksLoop_spec _ _ _ _ s 0 wired
      (wired.aliveListed _) (Nat.zero_le _)
    set worked := publicWorksLoop (welfareThreshold s (s.settlementAgents (s.settlementAt q).id) 30)
      (welfareWeight s (s.settlementAgents (s.settlementAt q).id)
        (welfareThreshold s (s.settlementAgents (s.settlementAt q).id) 30))
      (publicWorksBudget (s.settlementAt q)) s 0 (s.settlementAgents (s.settlementAt q).id)
    have covered : worked.2 ≤ (worked.1.settlementAt q).treasury := by
      rw [frame]
      exact bound.trans (publicWorksBudget_le _)
    have debited := moneySupply_debitSettlement (change.wired wired).settlements_nodup
      (change.settlements ▸ listed) covered
    exact (change.trans (crownsOnly_debitSettlement _ q _)).keeps wired (by omega)
  · exact Keeps.refl wired
  · exact Keeps.refl wired

theorem collectSettlementTaxes_keeps {s : Simulation} {q : SettRef} (wired : s.Wired)
    (listed : q ∈ s.settlements) : Keeps s (s.collectSettlementTaxes q) := by
  set members := s.settlementAgents (s.settlementAt q).id
  obtain ⟨change, money, _⟩ := taxLoop_spec q members s 0 wired (wired.aliveListed _)
  set taxed := taxLoop q s 0 members
  have deposited := moneySupply_creditSettlement (change.wired wired).settlements_nodup
    (change.settlements ▸ listed) taxed.2
  have kept : Keeps s (taxed.1.creditSettlement q taxed.2) :=
    (change.trans (crownsOnly_creditSettlement _ q _)).keeps wired (by omega)
  unfold collectSettlementTaxes
  exact kept.trans (publicWorksPass_keeps kept.wired (kept.settlements ▸ listed))

theorem collectTaxes_keeps {s : Simulation} (wired : s.Wired) : Keeps s s.collectTaxes :=
  keeps_foldl_settlements _ (fun _ _ wired listed => collectSettlementTaxes_keeps wired listed) wired

/-! ## `decayWealth` -/

/-- `math.Log2` from Go's standard library, as the real base-2 logarithm. -/
noncomputable def log2 (x : ℝ) : ℝ := Real.logb 2 x

/-- One agent's daily decay: `uint64(float64(Wealth-20) * scaledRate)` with the
progressive rate `Agnosis·0.01·(1 + Agnosis·log2(Wealth/20))`, at least one
crown. -/
noncomputable def wealthDecay (wealth : ℕ) : ℕ :=
  let baseRate : ℝ := agnosis * 0.01
  let scaledRate := baseRate * (1 + agnosis * log2 (wealth / 20))
  let decay := ⌊((wealth - 20 : ℕ) : ℝ) * scaledRate⌋₊
  if decay < 1 then 1 else decay

/-- One iteration of `decayWealth`: the decay leaves the agent for its home
settlement's treasury (found through `SettlementIndex`). -/
noncomputable def decayAgentWealth (s : Simulation) (p : AgentRef) : Simulation :=
  if !(s.agentAt p).alive || (s.agentAt p).wealth ≤ 20 then s
  else
    let decay := wealthDecay (s.agentAt p).wealth
    let debited := s.debitAgent p decay
    match (s.agentAt p).homeSettID with
    | none => debited
    | some k =>
      match debited.settlementIndex k with
      | none => debited
      | some q => debited.creditSettlement q decay

noncomputable def decayWealth (s : Simulation) : Simulation := s.agents.foldl decayAgentWealth s

/-- Every agent's `Wealth` fits its Go type, `uint64`. -/
def WealthFits (s : Simulation) : Prop := ∀ p ∈ s.agents, (s.agentAt p).wealth < 2 ^ 64

theorem log2_lt_sixtyFour {x : ℝ} (positive : 0 < x) (below : x < 2 ^ 64) : log2 x < 64 := by
  have bound := Real.logb_lt_logb (b := 2) one_lt_two positive below
  rw [Real.logb_pow, Real.logb_self_eq_one one_lt_two] at bound
  simpa [log2] using bound

/-- The progressive rate stays far below one on every `uint64` wealth, so the
decay never exceeds the wealth it is taken from. -/
theorem wealthDecay_le {wealth : ℕ} (above : 20 < wealth) (fits : wealth < 2 ^ 64) :
    wealthDecay wealth ≤ wealth := by
  have positive : (0 : ℝ) < (wealth : ℝ) / 20 := by
    have : (0 : ℝ) < wealth := by exact_mod_cast (show 0 < wealth by omega)
    positivity
  have below : (wealth : ℝ) / 20 < 2 ^ 64 := by
    have : (wealth : ℝ) < 2 ^ 64 := by exact_mod_cast fits
    linarith
  have logBound := log2_lt_sixtyFour positive below
  have agnosisPos : (0 : ℝ) < agnosis := by exact_mod_cast agnosis_pos
  have agnosisSmall : (agnosis : ℝ) < 1 := by exact_mod_cast agnosis_lt_one
  have productBound : (agnosis : ℝ) * log2 (wealth / 20) ≤ 64 := by
    rcases le_or_gt 0 (log2 ((wealth : ℝ) / 20)) with nonnegative | negative
    · nlinarith
    · nlinarith
  have rateBound : (agnosis : ℝ) * 0.01 * (1 + agnosis * log2 (wealth / 20)) ≤ 1 :=
    calc (agnosis : ℝ) * 0.01 * (1 + agnosis * log2 (wealth / 20))
        ≤ agnosis * 0.01 * 65 :=
          mul_le_mul_of_nonneg_left (by linarith) (by positivity)
      _ ≤ 1 := by linarith
  have taxable : (0 : ℝ) ≤ ((wealth - 20 : ℕ) : ℝ) := Nat.cast_nonneg _
  have floorBound : ⌊((wealth - 20 : ℕ) : ℝ) * ((agnosis : ℝ) * 0.01 *
      (1 + agnosis * log2 (wealth / 20)))⌋₊ ≤ wealth - 20 :=
    Nat.floor_le_of_le (by nlinarith)
  unfold wealthDecay
  dsimp only
  split_ifs <;> omega

/-- A decay is deposited in the home settlement, which the wiring guarantees
is indexed and listed. -/
theorem decayAgentWealth_keeps {s : Simulation} {p : AgentRef} (wired : s.Wired)
    (listed : p ∈ s.agents) (fits : (s.agentAt p).wealth < 2 ^ 64) :
    Keeps s (s.decayAgentWealth p) := by
  unfold decayAgentWealth
  split_ifs with exempt
  · exact Keeps.refl wired
  · have alive : (s.agentAt p).alive := by simp at exempt; exact exempt.1
    have above : 20 < (s.agentAt p).wealth := by simp at exempt; exact exempt.2
    obtain ⟨k, q, home, indexed, member⟩ := wired.home_settlement listed alive
    have debitChange := crownsOnly_debitAgent s p (wealthDecay (s.agentAt p).wealth)
    have debited := moneySupply_debitAgent wired.agents_nodup listed alive (wealthDecay_le above fits)
    have credited := moneySupply_creditSettlement (debitChange.wired wired).settlements_nodup
      (debitChange.settlements ▸ member) (wealthDecay (s.agentAt p).wealth)
    simp only [home, debitAgent_settlementIndex, indexed]
    exact (debitChange.trans (crownsOnly_creditSettlement _ q _)).keeps wired (by omega)

/-- A decay lowers one agent's wealth and raises none. -/
theorem decayAgentWealth_wealth_le (s : Simulation) (p p' : AgentRef) :
    ((s.decayAgentWealth p).agentAt p').wealth ≤ (s.agentAt p').wealth := by
  unfold decayAgentWealth
  split_ifs
  · exact le_refl _
  · dsimp only
    split
    · exact debitAgent_wealth_le s p _ p'
    · split
      · exact debitAgent_wealth_le s p _ p'
      · rw [creditSettlement_agentAt]; exact debitAgent_wealth_le s p _ p'

/-- `decayWealth` keeps the money supply of a wired state whose wealths fit
`uint64`. -/
theorem decayWealth_keeps {s : Simulation} (wired : s.Wired) (fits : s.WealthFits) :
    Keeps s s.decayWealth := by
  have invariant := MiniWorld.Run.foldl_invariant (fun t => Keeps s t ∧ t.WealthFits)
    decayAgentWealth s.agents s ?_ ⟨Keeps.refl wired, fits⟩
  · exact invariant.1
  · intro p member t ⟨kept, tFits⟩
    have listed : p ∈ t.agents := kept.agents ▸ member
    have step := decayAgentWealth_keeps kept.wired listed (tFits p listed)
    refine ⟨kept.trans step, ?_⟩
    intro p' listed'
    exact lt_of_le_of_lt (decayAgentWealth_wealth_le t p p') (tFits p' (step.agents ▸ listed'))

/-! ## `paySettlementWages` -/

/-- The outflow rate of `paySettlementWages`: 0.5% at or below the target
treasury share `1 - Matter`, and `0.01 + 40·excess²` (capped at `Agnosis`)
above it. -/
def wageOutflowRate (totalTreasury totalWealth : ℕ) : ℚ :=
  let treasuryShare : ℚ := (totalTreasury : ℚ) / totalWealth
  let targetShare := 1 - matter
  let excess := treasuryShare - targetShare
  if excess > 0 then
    let outflowRate := 0.01 + excess * excess * 40
    if outflowRate > agnosis then agnosis else outflowRate
  else 0.005

/-- The progressive wage of `paySettlementWages`: the agent's share of the
budget by poverty weight, at least one crown. -/
def settlementWage (budget : ℕ) (threshold totalWeight : ℚ) (wealth : ℕ) : ℕ :=
  let weight := (threshold - wealth) / threshold
  let wage := ⌊(budget : ℚ) * weight / totalWeight⌋₊
  if wage < 1 then 1 else wage

/-- The wage loop of `paySettlementWages`: it stops at the first wage that
overruns the budget or the treasury. -/
def wageLoop (q : SettRef) (threshold totalWeight : ℚ) (budget : ℕ) :
    Simulation → ℕ → List AgentRef → Simulation × ℕ
  | s, paid, [] => (s, paid)
  | s, paid, p :: rest =>
    if !(s.agentAt p).alive || (s.agentAt p).wealth ≥ ⌊threshold⌋₊ then
      wageLoop q threshold totalWeight budget s paid rest
    else
      let wage := settlementWage budget threshold totalWeight (s.agentAt p).wealth
      if paid + wage > budget then (s, paid)
      else if (s.settlementAt q).treasury < wage then (s, paid)
      else
        wageLoop q threshold totalWeight budget
          ((s.debitSettlement q wage).creditAgent p wage) (paid + wage) rest

/-- A settlement's wage budget: `outflowRate` of its treasury, at least two
crowns. -/
def wageBudget (sett : Settlement) (outflowRate : ℚ) : ℕ :=
  let budget := ⌊(sett.treasury : ℚ) * outflowRate⌋₊
  if budget < 2 then 2 else budget

/-- One settlement's wages: the budget shared among the poor by weight. -/
def paySettlementWage (outflowRate : ℚ) (s : Simulation) (q : SettRef) : Simulation :=
  let sett := s.settlementAt q
  if sett.treasury = 0 then s
  else
    let budget := wageBudget sett outflowRate
    let settAgents := s.settlementAgents sett.id
    let threshold := welfareThreshold s settAgents 50
    let totalWeight := welfareWeight s settAgents threshold
    if totalWeight = 0 then s
    else (wageLoop q threshold totalWeight budget s 0 settAgents).1

def paySettlementWages (s : Simulation) : Simulation :=
  let totalTreasury := Ledger.total s.settlements fun q => (s.settlementAt q).treasury
  let totalWealth := totalTreasury + s.totalWealth
  if totalWealth = 0 then s
  else s.settlements.foldl (paySettlementWage (wageOutflowRate totalTreasury totalWealth)) s

/-- Each wage moves crowns from the settlement to an alive listed agent, and
the treasury check covers it. -/
theorem wageLoop_keeps {q : SettRef} (threshold totalWeight : ℚ) (budget : ℕ) :
    ∀ (settAgents : List AgentRef) (s : Simulation) (paid : ℕ), s.Wired →
      q ∈ s.settlements → s.AliveListed settAgents →
      Keeps s (wageLoop q threshold totalWeight budget s paid settAgents).1 ∧
        CrownsOnly s (wageLoop q threshold totalWeight budget s paid settAgents).1
  | [], s, _, wired, _, _ => ⟨Keeps.refl wired, CrownsOnly.refl s⟩
  | p :: rest, s, paid, wired, member, listed => by
    unfold wageLoop
    dsimp only
    split_ifs with notOwed overrun short
    · exact wageLoop_keeps threshold totalWeight budget rest s paid wired member listed.tail
    · exact ⟨Keeps.refl wired, CrownsOnly.refl s⟩
    · exact ⟨Keeps.refl wired, CrownsOnly.refl s⟩
    · have alive : (s.agentAt p).alive := by simp at notOwed; exact notOwed.1
      set wage := settlementWage budget threshold totalWeight (s.agentAt p).wealth
      have change := (crownsOnly_debitSettlement s q wage).trans
        (crownsOnly_creditAgent (s.debitSettlement q wage) p wage)
      have debited := moneySupply_debitSettlement wired.settlements_nodup member
        (Nat.le_of_not_lt short)
      have credited := moneySupply_creditAgent (wired.debitSettlement q wage).agents_nodup
        (listed.head alive) alive wage
      have kept : Keeps s ((s.debitSettlement q wage).creditAgent p wage) :=
        change.keeps wired (by omega)
      obtain ⟨restKept, restChange⟩ := wageLoop_keeps threshold totalWeight budget rest _
        (paid + wage) kept.wired (kept.settlements ▸ member) (change.aliveListed listed.tail)
      exact ⟨kept.trans restKept, change.trans restChange⟩

theorem paySettlementWages_keeps {s : Simulation} (wired : s.Wired) :
    Keeps s s.paySettlementWages := by
  unfold paySettlementWages
  dsimp only
  split_ifs
  · exact Keeps.refl wired
  · apply keeps_foldl_settlements _ _ wired
    intro t q tWired member
    unfold paySettlementWage
    dsimp only
    split_ifs
    · exact Keeps.refl tWired
    · exact Keeps.refl tWired
    · exact (wageLoop_keeps _ _ _ _ t 0 tWired member (tWired.aliveListed _)).1

/-! ## `payGarrisonStipends` -/

/-- The needs bump of a stipend (no clamp in the source). -/
def garrisonNeeds (needs : NeedsState) : NeedsState :=
  { needs with safety := needs.safety + 0.003, purpose := needs.purpose + 0.002 }

/-- The stipend loop: a flat stipend to each soldier until the payout cap or
the treasury runs out. -/
def stipendLoop (q : SettRef) (stipend maxPayout : ℕ) :
    Simulation → ℕ → List AgentRef → Simulation
  | s, _, [] => s
  | s, paid, p :: rest =>
    if paid + stipend > maxPayout then s
    else if (s.settlementAt q).treasury < stipend then s
    else
      stipendLoop q stipend maxPayout
        (((s.debitSettlement q stipend).creditAgent p stipend).bumpNeeds p garrisonNeeds)
        (paid + stipend) rest

/-- The stipend of one soldier: `perCapita·Agnosis·0.5` crowns, at least one. -/
def garrisonStipend (sett : Settlement) : ℕ :=
  let perCapita : ℚ := (sett.treasury : ℚ) / sett.population
  let stipend := ⌊perCapita * agnosis * 0.5⌋₊
  if stipend < 1 then 1 else stipend

/-- One settlement's stipends to its alive soldiers, at most `Agnosis` of the
treasury in all. -/
def payGarrisonStipend (s : Simulation) (q : SettRef) : Simulation :=
  let sett := s.settlementAt q
  if sett.treasury = 0 ∨ sett.population = 0 then s
  else
    let soldiers := (s.settlementAgents sett.id).filter fun p =>
      (s.agentAt p).alive && (s.agentAt p).occupation == .soldier
    if soldiers.length = 0 then s
    else
      let stipend := garrisonStipend sett
      let maxPayout := ⌊(sett.treasury : ℚ) * agnosis⌋₊
      stipendLoop q stipend maxPayout s 0 soldiers

def payGarrisonStipends (s : Simulation) : Simulation :=
  s.settlements.foldl payGarrisonStipend s

theorem stipendLoop_keeps {q : SettRef} (stipend maxPayout : ℕ) :
    ∀ (soldiers : List AgentRef) (s : Simulation) (paid : ℕ), s.Wired → q ∈ s.settlements →
      s.AliveListed soldiers → (∀ p ∈ soldiers, (s.agentAt p).alive) →
      Keeps s (stipendLoop q stipend maxPayout s paid soldiers) ∧
        CrownsOnly s (stipendLoop q stipend maxPayout s paid soldiers)
  | [], s, _, wired, _, _, _ => ⟨Keeps.refl wired, CrownsOnly.refl s⟩
  | p :: rest, s, paid, wired, member, listed, allAlive => by
    unfold stipendLoop
    split_ifs with capped short
    · exact ⟨Keeps.refl wired, CrownsOnly.refl s⟩
    · exact ⟨Keeps.refl wired, CrownsOnly.refl s⟩
    · have alive := allAlive p List.mem_cons_self
      have change := ((crownsOnly_debitSettlement s q stipend).trans
        (crownsOnly_creditAgent _ p stipend)).trans (crownsOnly_bumpNeeds _ p garrisonNeeds)
      have debited := moneySupply_debitSettlement wired.settlements_nodup member
        (Nat.le_of_not_lt short)
      have credited := moneySupply_creditAgent (wired.debitSettlement q stipend).agents_nodup
        (listed.head alive) alive stipend
      have kept : Keeps s (((s.debitSettlement q stipend).creditAgent p stipend).bumpNeeds p
          garrisonNeeds) :=
        change.keeps wired (by rw [moneySupply_bumpNeeds]; omega)
      obtain ⟨restKept, restChange⟩ := stipendLoop_keeps stipend maxPayout rest _ (paid + stipend)
        kept.wired (kept.settlements ▸ member) (change.aliveListed listed.tail)
        (fun p' listed' => (change.alive p').symm ▸ allAlive p' (List.mem_cons_of_mem p listed'))
      exact ⟨kept.trans restKept, change.trans restChange⟩

theorem payGarrisonStipends_keeps {s : Simulation} (wired : s.Wired) :
    Keeps s s.payGarrisonStipends := by
  apply keeps_foldl_settlements _ _ wired
  intro t q tWired member
  unfold payGarrisonStipend
  dsimp only
  split_ifs
  · exact Keeps.refl tWired
  · exact Keeps.refl tWired
  · apply (stipendLoop_keeps _ _ _ t 0 tWired member _ _).1
    · intro p listed alive
      exact tWired.aliveListed _ p (List.mem_of_mem_filter listed) alive
    · intro p listed
      simp only [List.mem_filter, Bool.and_eq_true] at listed
      exact listed.2.1

end Simulation

end MiniWorld.Engine
