import MiniWorld.Engine.Treasury

/-! # Faction dues and patronage (`factions.go`, lines 293–678)

The two passes of `processFactionMaintenance` that move crowns.
`collectFactionDues` takes from every alive member with more than thirty
crowns `Agnosis` percent of its wealth, at least one crown and at most all, for
the treasury of its faction, found through a `factionIndex` built from
`Factions` first.  `distributeFactionPatronage` gathers, before paying anyone,
the alive members of each faction ID with a positive ideological weight; each
faction with crowns, members and a budget of `Agnosis / 10` of its treasury then
pays each member its share of the budget by weight, skipping shares that round
to nothing, stops at the first share that would overrun the budget, and is
debited what it paid.  The weights are reals, as Go's `math.Log1p` makes them;
the model's souls carry no class, so the Ashen Path's bonus for Nihilist and
Transcendentalist souls reads the class through the parameter `seeker`.

Both passes keep the money supply: dues leave a counted purse for a listed
faction, never more than the purse holds, and patronage pays counted members
no more than a budget below the treasury that is debited for it.
-/

namespace MiniWorld.Engine

open MiniWorld.Agents MiniWorld.Phi MiniWorld.Run

/-- `factionPatronageWeight`: the share an agent of faction `factionID` draws
from its patronage; zero excludes it.  `seeker` says whether its soul is of the
Nihilist or the Transcendentalist class. -/
noncomputable def factionPatronageWeight (seeker : Agent → Bool) (factionID : ℕ) (a : Agent) : ℝ :=
  let coherence : ℝ := a.soul.cittaCoherence
  let wealth : ℝ := a.wealth
  match factionID with
  | 1 =>
    -- Crown: royal stipends
    let loyaltyBonus : ℝ := if a.role = .noble ∨ a.role = .leader then being else 1
    (1 + coherence * being) * loyaltyBonus
  | 2 =>
    -- Merchant's Compact: trade grants, against wealth
    let merchantBonus : ℝ := if a.occupation = .merchant then being else 1
    ((a.tradeSkill : ℝ) * being + agnosis) * merchantBonus / (1 + Real.log (1 + wealth) * agnosis)
  | 3 =>
    -- Iron Brotherhood: military payroll
    let soldierBonus : ℝ := match a.role with
      | .soldier => nous
      | .outlaw => agnosis
      | _ => 0
    (a.combatSkill : ℝ) * nous + soldierBonus
  | 4 =>
    -- Verdant Circle: agricultural grants
    let producerMul : ℝ := match a.occupation with
      | .farmer | .fisher | .laborer | .miner | .alchemist => nous
      | .hunter => being
      | .soldier | .merchant => agnosis * 0.5
      | _ => monad
    producerMul * (1 + coherence * psyche)
  | 5 =>
    -- Ashen Path: a chaos fund against wealth
    let antiWealth : ℝ := 1 - min (wealth / 5000) 1
    let classBonus : ℝ := if seeker a then nous else 0
    let classBonus := if a.role = .outlaw then classBonus + agnosis else classBonus
    being * antiWealth + classBonus
  | _ => 0

/-- `applyPatronageNeeds`: the needs a faction's patronage feeds, clamped. -/
def applyPatronageNeeds (factionID : ℕ) (a : Agent) : Agent :=
  let n := a.needs
  let n := match factionID with
    | 1 => { n with esteem := n.esteem + 0.015, belonging := n.belonging + 0.010, safety := n.safety + 0.005 }
    | 2 => { n with purpose := n.purpose + 0.020, esteem := n.esteem + 0.010, safety := n.safety + 0.008 }
    | 3 => { n with safety := n.safety + 0.020, belonging := n.belonging + 0.015, esteem := n.esteem + 0.005 }
    | 4 => { n with purpose := n.purpose + 0.020, belonging := n.belonging + 0.015, survival := n.survival + 0.003 }
    | 5 => { n with belonging := n.belonging + 0.020, purpose := n.purpose + 0.015, safety := n.safety - 0.005 }
    | _ => n
  { a with needs := Simulation.clampAgentNeeds n }

/-- A member's weekly dues: `Agnosis` percent of its wealth, at least one crown
and at most all it has. -/
def factionDues (wealth : ℕ) : ℕ :=
  let dues := ⌊(wealth : ℚ) * agnosis * 0.01⌋₊
  let dues := if dues < 1 then 1 else dues
  if dues > wealth then wealth else dues

theorem factionDues_le (wealth : ℕ) : factionDues wealth ≤ wealth := by
  unfold factionDues
  dsimp only
  split_ifs <;> omega

namespace Simulation

/-- The `factionIndex` map both passes build: each faction of `Factions` by its
`ID`, a later one winning an `ID` held twice. -/
def factionIndex (s : Simulation) : ℕ → Option FactionRef :=
  s.factions.foldl (fun index f => Function.update index (s.factionAt f).id (some f)) fun _ => none

/-- The body of `collectFactionDues` for one agent. -/
def payDues (factionIndex : ℕ → Option FactionRef) (s : Simulation) (p : AgentRef) : Simulation :=
  let a := s.agentAt p
  if a.alive = false ∨ a.factionID = none ∨ a.wealth ≤ 30 then s
  else
    match a.factionID.bind factionIndex with
    | none => s
    | some f =>
      let dues := factionDues a.wealth
      (s.debitAgent p dues).creditFaction f dues

def collectFactionDues (s : Simulation) : Simulation :=
  s.agents.foldl (payDues s.factionIndex) s

/-- The members `distributeFactionPatronage` pays for the faction ID `fid`: the
alive agents of `Agents` in it with a positive weight, in order, with their
weights. -/
noncomputable def patronageMembers (seeker : Agent → Bool) (s : Simulation) (fid : ℕ) :
    List (AgentRef × ℝ) :=
  (s.agents.filter fun p => (s.agentAt p).alive && (s.agentAt p).factionID == some fid).filterMap fun p =>
    let w := factionPatronageWeight seeker fid (s.agentAt p)
    if w > 0 then some (p, w) else none

/-- The payment loop of one faction with its `paid` total: a share that rounds
to nothing is skipped, one that would overrun the budget ends the loop. -/
noncomputable def patronageLoop (factionID budget : ℕ) (totalWeight : ℝ) :
    Simulation × ℕ → List (AgentRef × ℝ) → Simulation × ℕ
  | acc, [] => acc
  | (s, paid), (p, weight) :: rest =>
    let payment := ⌊(budget : ℝ) * weight / totalWeight⌋₊
    if payment = 0 then patronageLoop factionID budget totalWeight (s, paid) rest
    else if paid + payment > budget then (s, paid)
    else
      patronageLoop factionID budget totalWeight
        ((s.creditAgent p payment).modifyAgent p (applyPatronageNeeds factionID), paid + payment) rest

/-- The patronage of one faction, with `members` the lists gathered first. -/
noncomputable def patronize (members : ℕ → List (AgentRef × ℝ)) (s : Simulation) (f : FactionRef) :
    Simulation :=
  let fac := s.factionAt f
  if fac.treasury = 0 then s
  else
    let ms := members fac.id
    if ms.length = 0 then s
    else
      let budget := ⌊(fac.treasury : ℚ) * agnosis * 0.1⌋₊
      if budget = 0 then s
      else
        let totalWeight := (ms.map Prod.snd).sum
        if totalWeight = 0 then s
        else
          let paid := patronageLoop fac.id budget totalWeight (s, 0) ms
          paid.1.modifyFaction f fun t => { t with treasury := t.treasury - paid.2 }

noncomputable def distributeFactionPatronage (seeker : Agent → Bool) (s : Simulation) : Simulation :=
  s.factions.foldl (patronize (s.patronageMembers seeker)) s

/-! ## Both passes keep the money supply -/

section Keeps

variable {s : Simulation}

theorem factionIndex_mem {k : ℕ} {f : FactionRef} (found : s.factionIndex k = some f) : f ∈ s.factions := by
  have sound := foldl_invariant (fun index : ℕ → Option FactionRef => ∀ k f, index k = some f → f ∈ s.factions)
    (fun index f => Function.update index (s.factionAt f).id (some f)) s.factions (fun _ => none)
    (fun f member index sound k f' found => ?_) (fun _ _ absent => by simp at absent)
  · exact sound k f found
  · -- the entry just written is the faction of this step, the others were there before
    by_cases hk : k = (s.factionAt f).id
    · subst hk
      simp only [Function.update_self, Option.some.injEq] at found
      exact found ▸ member
    · rw [Function.update_of_ne hk] at found
      exact sound k f' found

/-- A member's dues leave its purse for a listed faction. -/
theorem payDues_keeps {index : ℕ → Option FactionRef} (sound : ∀ k f, index k = some f → f ∈ s.factions)
    (wired : s.Wired) {p : AgentRef} (listed : p ∈ s.agents) : Keeps s (s.payDues index p) := by
  unfold payDues
  extract_lets a
  split_ifs with exempt
  · exact Keeps.refl wired
  · split
    · exact Keeps.refl wired
    · next f found =>
      have alive : (s.agentAt p).alive := by simpa using (not_or.mp exempt).1
      have member := sound _ f (Option.bind_eq_some_iff.mp found).choose_spec.2
      exact (transfer_keeps wired (show s.Counted (.agent p) from ⟨listed, alive⟩)
        (show s.Counted (.faction f) from member) (factionDues_le _)).1

theorem collectFactionDues_keeps (wired : s.Wired) : Keeps s s.collectFactionDues := by
  unfold collectFactionDues
  refine foldl_invariant (Keeps s) _ s.agents s (fun p member t kept => ?_) (Keeps.refl wired)
  exact kept.trans (payDues_keeps (fun k f found => kept.factions ▸ factionIndex_mem found) kept.wired
    (kept.agents ▸ member))

theorem mem_patronageMembers {seeker : Agent → Bool} {fid : ℕ} {m : AgentRef × ℝ}
    (member : m ∈ s.patronageMembers seeker fid) : s.Counted (.agent m.1) := by
  obtain ⟨p, kept, chosen⟩ := List.mem_filterMap.mp member
  dsimp only at chosen
  split_ifs at chosen
  cases chosen
  simp only [List.mem_filter, Bool.and_eq_true] at kept
  exact ⟨kept.1, kept.2.1⟩

/-- What the payment loop does from `before` with `paid` crowns paid: writes
to purses and needs only, no faction touched, and `paid'` crowns paid in all,
still within the budget, the money supply grown by `paid' - paid`. -/
structure Patronized (budget paid : ℕ) (before : Simulation) (after : Simulation × ℕ) : Prop where
  crownsOnly : CrownsOnly before after.1
  money : after.1.moneySupply + paid = before.moneySupply + after.2
  within : after.2 ≤ budget
  factionAt : after.1.factionAt = before.factionAt

theorem patronageLoop_patronized (factionID budget : ℕ) (totalWeight : ℝ) :
    ∀ (members : List (AgentRef × ℝ)) (s : Simulation) (paid : ℕ), s.Wired →
      (∀ m ∈ members, s.Counted (.agent m.1)) → paid ≤ budget →
      Patronized budget paid s (patronageLoop factionID budget totalWeight (s, paid) members)
  | [], s, _, _, _, within => ⟨CrownsOnly.refl s, rfl, within, rfl⟩
  | (p, weight) :: rest, s, paid, wired, counted, within => by
    have later := patronageLoop_patronized factionID budget totalWeight rest
    have restCounted : ∀ m ∈ rest, s.Counted (.agent m.1) :=
      fun m member => counted m (List.mem_cons_of_mem _ member)
    unfold patronageLoop
    dsimp only
    split_ifs with nothing overrun
    · exact later s paid wired restCounted within
    · exact ⟨CrownsOnly.refl s, rfl, within, rfl⟩
    · -- a paid member: its purse grows by the payment, and its needs are fed
      have member : s.Counted (.agent p) := counted (p, weight) List.mem_cons_self
      have credited := moneySupply_creditAgent wired.agents_nodup member.1 member.2
        ⌊(budget : ℝ) * weight / totalWeight⌋₊
      have fedChange : CrownsOnly (s.creditAgent p ⌊(budget : ℝ) * weight / totalWeight⌋₊)
          ((s.creditAgent p ⌊(budget : ℝ) * weight / totalWeight⌋₊).modifyAgent p
            (applyPatronageNeeds factionID)) :=
        crownsOnly_modifyAgent _ p rfl rfl
      have change := (crownsOnly_creditAgent s p ⌊(budget : ℝ) * weight / totalWeight⌋₊).trans fedChange
      have fed : ((s.creditAgent p ⌊(budget : ℝ) * weight / totalWeight⌋₊).modifyAgent p
          (applyPatronageNeeds factionID)).moneySupply =
            (s.creditAgent p ⌊(budget : ℝ) * weight / totalWeight⌋₊).moneySupply :=
        moneySupply_modifyAgent_of_wealth rfl rfl
      obtain ⟨restChange, restMoney, restWithin, restFactions⟩ :=
        later _ (paid + ⌊(budget : ℝ) * weight / totalWeight⌋₊) (change.wired wired)
        (fun m member => change.counted (restCounted m member)) (by omega)
      exact ⟨change.trans restChange, by omega, restWithin, restFactions⟩

/-- One faction's patronage: what it pays stays within a budget below its
treasury, which is debited for it. -/
theorem patronize_keeps (members : ℕ → List (AgentRef × ℝ)) (wired : s.Wired) {f : FactionRef}
    (listed : f ∈ s.factions) (counted : ∀ m ∈ members (s.factionAt f).id, s.Counted (.agent m.1)) :
    Keeps s (s.patronize members f) ∧ CrownsOnly s (s.patronize members f) := by
  unfold patronize
  extract_lets fac ms budget totalWeight paid
  split_ifs
  · exact ⟨Keeps.refl wired, CrownsOnly.refl s⟩
  · exact ⟨Keeps.refl wired, CrownsOnly.refl s⟩
  · exact ⟨Keeps.refl wired, CrownsOnly.refl s⟩
  · exact ⟨Keeps.refl wired, CrownsOnly.refl s⟩
  have loop : Patronized budget 0 s paid :=
    patronageLoop_patronized fac.id budget totalWeight ms s 0 wired counted (Nat.zero_le _)
  obtain ⟨change, money, within, factionAt⟩ := loop
  -- the budget is a tenth of `Agnosis` of the treasury, so within it
  have budgeted : budget ≤ fac.treasury := by
    have rate : agnosis * 0.1 ≤ (1 : ℚ) := by
      have below := agnosis_lt_one
      linarith
    have nonneg : (0 : ℚ) ≤ fac.treasury := Nat.cast_nonneg _
    refine Nat.floor_le_of_le ?_
    calc (fac.treasury : ℚ) * agnosis * 0.1 = fac.treasury * (agnosis * 0.1) := by ring
      _ ≤ fac.treasury * 1 := mul_le_mul_of_nonneg_left rate nonneg
      _ = fac.treasury := mul_one _
  have covered : paid.2 ≤ (paid.1.factionAt f).treasury := by
    rw [factionAt]
    exact within.trans budgeted
  have debited := moneySupply_debitFaction (change.wired wired).factions_nodup
    (change.factions ▸ listed) covered
  have whole := change.trans (crownsOnly_debitFaction paid.1 f paid.2)
  exact ⟨whole.keeps wired (by omega), whole⟩

theorem distributeFactionPatronage_keeps (seeker : Agent → Bool) (wired : s.Wired) :
    Keeps s (s.distributeFactionPatronage seeker) := by
  unfold distributeFactionPatronage
  refine (foldl_invariant (fun t => Keeps s t ∧ CrownsOnly s t) _ s.factions s
    (fun f member t kept => ?_) ⟨Keeps.refl wired, CrownsOnly.refl s⟩).1
  -- the members were gathered from the start, and are still counted
  obtain ⟨paidKept, paidChange⟩ := patronize_keeps _ kept.1.wired (kept.1.factions ▸ member)
    fun m listed => kept.2.counted (mem_patronageMembers listed)
  exact ⟨kept.1.trans paidKept, kept.2.trans paidChange⟩

end Keeps

end Simulation

end MiniWorld.Engine
