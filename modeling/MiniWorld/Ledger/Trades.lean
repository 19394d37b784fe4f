import Mathlib

/-! # Ledgers of unit trades

A market that moves goods one unit at a time, each unit against a price its
buyer pays its seller, is described by the list of its units.  `flow` reads
one account's side of such a ledger; `paid`, `earned`, `bought` and `sold` are
its four readings.  Over any list of distinct accounts that holds every party,
each side of the ledger adds up to the same amount (`sum_flow`), so balances
that move by exactly their flows keep their sum (`sum_eq_of_flows`).

Nothing here names the simulation: accounts and goods are any types with
decidable equality.
-/

namespace MiniWorld.Ledger

/-- One unit of `good`, sold by `seller` to `buyer` for `crowns`. -/
structure Trade (ι γ : Type*) where
  good : γ
  buyer : ι
  seller : ι
  crowns : ℕ

variable {ι γ : Type*} [DecidableEq ι]

/-- What the ledger moves for `account`: the `weight`s of the units on whose
`side` it stands. -/
def flow (side : Trade ι γ → ι) (weight : Trade ι γ → ℕ) (log : List (Trade ι γ)) (account : ι) :
    ℕ :=
  ((log.filter fun u => side u = account).map weight).sum

/-- The crowns an account paid for what it bought. -/
def paid (log : List (Trade ι γ)) (account : ι) : ℕ := flow Trade.buyer Trade.crowns log account

/-- The crowns an account received for what it sold. -/
def earned (log : List (Trade ι γ)) (account : ι) : ℕ := flow Trade.seller Trade.crowns log account

/-- The units of one good an account bought. -/
def bought [DecidableEq γ] (log : List (Trade ι γ)) (account : ι) (good : γ) : ℕ :=
  flow Trade.buyer (fun u => if u.good = good then 1 else 0) log account

/-- The units of one good an account sold. -/
def sold [DecidableEq γ] (log : List (Trade ι γ)) (account : ι) (good : γ) : ℕ :=
  flow Trade.seller (fun u => if u.good = good then 1 else 0) log account

section Flow

variable (side : Trade ι γ → ι) (weight : Trade ι γ → ℕ)

@[simp] theorem flow_nil (account : ι) : flow side weight [] account = 0 := rfl

@[simp] theorem flow_cons (u : Trade ι γ) (log : List (Trade ι γ)) (account : ι) :
    flow side weight (u :: log) account =
      (if side u = account then weight u else 0) + flow side weight log account := by
  by_cases mine : side u = account
  · simp [flow, mine]
  · simp [flow, mine]

@[simp] theorem flow_append (first second : List (Trade ι γ)) (account : ι) :
    flow side weight (first ++ second) account =
      flow side weight first account + flow side weight second account := by
  simp [flow]

/-- `k` copies of one unit. -/
@[simp] theorem flow_replicate (k : ℕ) (u : Trade ι γ) (account : ι) :
    flow side weight (List.replicate k u) account = if side u = account then k * weight u else 0 := by
  induction k with
  | zero => simp
  | succ k inductionHypothesis =>
    rw [List.replicate_succ, flow_cons, inductionHypothesis]
    split_ifs <;> simp [Nat.succ_mul, Nat.add_comm]

theorem le_flow_of_mem {log : List (Trade ι γ)} {u : Trade ι γ} (member : u ∈ log) :
    weight u ≤ flow side weight log (side u) :=
  List.single_le_sum (fun _ _ => Nat.zero_le _) _
    (List.mem_map_of_mem (List.mem_filter.mpr ⟨member, by simp⟩))

/-- A unit counted once: over distinct accounts that hold `a`, the indicator
of `a` adds up to its value. -/
theorem sum_map_ite_eq {M : Type*} [AddCommMonoid M] {accounts : List ι}
    (distinct : accounts.Nodup) {a : ι} (listed : a ∈ accounts) (c : M) :
    (accounts.map fun p => if a = p then c else 0).sum = c := by
  induction accounts with
  | nil => simp at listed
  | cons head rest inductionHypothesis =>
    obtain ⟨headFresh, restDistinct⟩ := List.nodup_cons.mp distinct
    rcases List.mem_cons.mp listed with rfl | inRest
    · -- the rest of the list does not hold `a` again
      have absent : (rest.map fun p => if a = p then c else 0).sum = 0 := by
        apply List.sum_eq_zero
        intro value member
        obtain ⟨p, pListed, rfl⟩ := List.mem_map.mp member
        have different : a ≠ p := fun same => headFresh (same ▸ pListed)
        simp [different]
      simp [absent]
    · have different : a ≠ head := fun same => headFresh (same ▸ inRest)
      simp [different, inductionHypothesis restDistinct inRest]

/-- Each unit is counted for exactly one of the listed accounts. -/
theorem sum_flow {accounts : List ι} (distinct : accounts.Nodup) :
    ∀ (log : List (Trade ι γ)), (∀ u ∈ log, side u ∈ accounts) →
      (accounts.map (flow side weight log)).sum = (log.map weight).sum
  | [], _ => by
    have empty : flow side weight ([] : List (Trade ι γ)) = fun _ => 0 := rfl
    simp [empty]
  | u :: log, parties => by
    have rest := sum_flow distinct log fun v member => parties v (List.mem_cons_of_mem u member)
    have head := sum_map_ite_eq distinct (parties u List.mem_cons_self) (weight u)
    have unfolded : flow side weight (u :: log) =
        fun p => (if side u = p then weight u else 0) + flow side weight log p :=
      funext (flow_cons side weight u log)
    rw [unfolded, List.sum_map_add, head, rest, List.map_cons, List.sum_cons]

end Flow

/-! ### The four readings -/

@[simp] theorem paid_nil (account : ι) : paid ([] : List (Trade ι γ)) account = 0 := rfl
@[simp] theorem earned_nil (account : ι) : earned ([] : List (Trade ι γ)) account = 0 := rfl
@[simp] theorem bought_nil [DecidableEq γ] (account : ι) (good : γ) :
    bought ([] : List (Trade ι γ)) account good = 0 := rfl
@[simp] theorem sold_nil [DecidableEq γ] (account : ι) (good : γ) :
    sold ([] : List (Trade ι γ)) account good = 0 := rfl

@[simp] theorem paid_append (first second : List (Trade ι γ)) (account : ι) :
    paid (first ++ second) account = paid first account + paid second account :=
  flow_append _ _ first second account
@[simp] theorem earned_append (first second : List (Trade ι γ)) (account : ι) :
    earned (first ++ second) account = earned first account + earned second account :=
  flow_append _ _ first second account
@[simp] theorem bought_append [DecidableEq γ] (first second : List (Trade ι γ)) (account : ι)
    (good : γ) : bought (first ++ second) account good = bought first account good + bought second account good :=
  flow_append _ _ first second account
@[simp] theorem sold_append [DecidableEq γ] (first second : List (Trade ι γ)) (account : ι)
    (good : γ) : sold (first ++ second) account good = sold first account good + sold second account good :=
  flow_append _ _ first second account

/-- A ledger of units of other goods moves none of `good`. -/
theorem sold_eq_zero [DecidableEq γ] {log : List (Trade ι γ)} {good : γ}
    (others : ∀ u ∈ log, u.good ≠ good) (account : ι) : sold log account good = 0 := by
  unfold sold flow
  apply List.sum_eq_zero
  intro value member
  obtain ⟨u, unitListed, rfl⟩ := List.mem_map.mp member
  simp [others u (List.mem_of_mem_filter unitListed)]

theorem bought_eq_zero [DecidableEq γ] {log : List (Trade ι γ)} {good : γ}
    (others : ∀ u ∈ log, u.good ≠ good) (account : ι) : bought log account good = 0 := by
  unfold bought flow
  apply List.sum_eq_zero
  intro value member
  obtain ⟨u, unitListed, rfl⟩ := List.mem_map.mp member
  simp [others u (List.mem_of_mem_filter unitListed)]

/-- Every buyer of the ledger bought something of the good of its unit. -/
theorem bought_pos_of_mem [DecidableEq γ] {log : List (Trade ι γ)} {u : Trade ι γ} (member : u ∈ log) :
    0 < bought log u.buyer u.good := by
  have counted := le_flow_of_mem Trade.buyer (fun v => if v.good = u.good then 1 else 0) member
  rw [if_pos rfl] at counted
  exact counted

/-- Every seller of the ledger sold something of the good of its unit. -/
theorem sold_pos_of_mem [DecidableEq γ] {log : List (Trade ι γ)} {u : Trade ι γ} (member : u ∈ log) :
    0 < sold log u.seller u.good := by
  have counted := le_flow_of_mem Trade.seller (fun v => if v.good = u.good then 1 else 0) member
  rw [if_pos rfl] at counted
  exact counted

/-- In a ledger of one good, what an account bought is how often it stands as buyer. -/
theorem bought_eq_count [DecidableEq γ] {good : γ} :
    ∀ {log : List (Trade ι γ)}, (∀ u ∈ log, u.good = good) → ∀ account,
      bought log account good = (log.map Trade.buyer).count account
  | [], _, _ => rfl
  | u :: log, goods, account => by
    have rest := bought_eq_count (fun v member => goods v (List.mem_cons_of_mem u member)) account
    unfold bought at rest ⊢
    rw [flow_cons, rest, List.map_cons, List.count_cons, goods u List.mem_cons_self]
    by_cases mine : u.buyer = account
    · simp [mine, Nat.add_comm]
    · simp [mine]

omit [DecidableEq ι] in
/-- Balances that move by exactly their in- and outflows keep their sum, when
the inflows and the outflows add up to the same amount. -/
theorem sum_eq_of_flows {M : Type*} [AddCancelCommMonoid M] {accounts : List ι}
    {before after inflow outflow : ι → M}
    (settled : ∀ p ∈ accounts, after p + outflow p = before p + inflow p)
    (balanced : (accounts.map inflow).sum = (accounts.map outflow).sum) :
    (accounts.map after).sum = (accounts.map before).sum := by
  have moved : (accounts.map fun p => after p + outflow p).sum =
      (accounts.map fun p => before p + inflow p).sum := by
    rw [List.map_congr_left settled]
  rw [List.sum_map_add, List.sum_map_add, balanced] at moved
  exact add_right_cancel moved

/-- What the buyers paid is what the sellers earned. -/
theorem sum_paid_eq_sum_earned {accounts : List ι} (distinct : accounts.Nodup)
    {log : List (Trade ι γ)} (parties : ∀ u ∈ log, u.buyer ∈ accounts ∧ u.seller ∈ accounts) :
    (accounts.map (paid log)).sum = (accounts.map (earned log)).sum := by
  unfold paid earned
  rw [sum_flow _ _ distinct log fun u member => (parties u member).1,
    sum_flow _ _ distinct log fun u member => (parties u member).2]

/-- Every unit bought was sold. -/
theorem sum_bought_eq_sum_sold [DecidableEq γ] {accounts : List ι} (distinct : accounts.Nodup)
    {log : List (Trade ι γ)} (parties : ∀ u ∈ log, u.buyer ∈ accounts ∧ u.seller ∈ accounts)
    (good : γ) :
    (accounts.map fun p => bought log p good).sum = (accounts.map fun p => sold log p good).sum := by
  unfold bought sold
  rw [sum_flow _ _ distinct log fun u member => (parties u member).1,
    sum_flow _ _ distinct log fun u member => (parties u member).2]

end MiniWorld.Ledger
