import MiniWorld.Engine.Money
import Mathlib.Tactic.Linarith

/-! # Tier-2 decisions and oracle visions (`internal/engine/cognition.go`)

Two branches of `applyTier2Decision` (lines 270–319) and `applyOracleVision`
(lines 686–745) that write the simulation: `invest`, identical in both, moves a
tenth of the agent's wealth to its home treasury; `bless`, an oracle vision,
nudges the coherence of the first alive resident of the oracle's settlement who
bears the target's name.

The blessing writes `CittaCoherence` directly instead of going through
`AdjustCoherence`.  Its clamp is at the Liberated threshold itself, `0.7`, and
`StateFromCoherence` counts `0.7` as Liberated; nor is there a cap at `Matter`.
So, against the comment on the clamp ("Can't create Liberated via blessing"),
a Centered soul close enough to `0.7` comes out Liberated, and a soul at or
below `Matter` can be lifted above it.
-/

namespace MiniWorld.Engine

open MiniWorld.Agents MiniWorld.Phi

/-! ## `bless` -/

/-- The nudge of a blessing, `float32(Agnosis·0.1)`, about `0.024`. -/
def blessNudge : ℚ := agnosis * 0.1

/-- A blessing of one candidate's soul: the nudge, clamped at `0.7`, then
`UpdateState`. -/
def blessSoul (soul : AgentSoul) : AgentSoul :=
  let nudged := soul.cittaCoherence + blessNudge
  AgentSoul.updateState { soul with cittaCoherence := if nudged > 0.7 then 0.7 else nudged }

theorem blessSoul_coherence (soul : AgentSoul) :
    (blessSoul soul).cittaCoherence =
      if soul.cittaCoherence + blessNudge > 0.7 then 0.7 else soul.cittaCoherence + blessNudge :=
  rfl

theorem blessSoul_consistent (soul : AgentSoul) : (blessSoul soul).Consistent :=
  updateState_consistent _

theorem blessSoul_le (soul : AgentSoul) : (blessSoul soul).cittaCoherence ≤ 0.7 := by
  rw [blessSoul_coherence]
  split_ifs with exceeds
  · exact le_refl _
  · exact not_lt.mp exceeds

/-- A blessing keeps a coherence that is not negative in the unit interval: the nudge is
positive and the clamp lies below one. -/
theorem blessSoul_mem_unit {soul : AgentSoul} (low : 0 ≤ soul.cittaCoherence) :
    0 ≤ (blessSoul soul).cittaCoherence ∧ (blessSoul soul).cittaCoherence ≤ 1 := by
  have nudge : 0 < blessNudge := by
    unfold blessNudge
    linarith [agnosis_pos]
  refine ⟨?_, (blessSoul_le soul).trans (by norm_num)⟩
  rw [blessSoul_coherence]
  split_ifs
  · norm_num
  · linarith

/-- A soul within a nudge of `0.7` is blessed to exactly `0.7`, which
`StateFromCoherence` reads as Liberated. -/
theorem blessSoul_state_of_near {soul : AgentSoul}
    (near : 0.7 - blessNudge ≤ soul.cittaCoherence) : (blessSoul soul).state = .liberated := by
  have reached : 0.7 ≤ (blessSoul soul).cittaCoherence := by
    rw [blessSoul_coherence]
    split_ifs <;> linarith
  rw [blessSoul_consistent soul]
  unfold stateFromCoherence
  rw [if_pos reached]

/-- A soul within a nudge below `Matter` is blessed past it. -/
theorem matter_lt_blessSoul {soul : AgentSoul}
    (near : matter - blessNudge < soul.cittaCoherence) (below : soul.cittaCoherence ≤ matter) :
    matter < (blessSoul soul).cittaCoherence := by
  have room : matter + blessNudge ≤ 0.7 := by norm_num [matter, blessNudge, agnosis]
  rw [blessSoul_coherence]
  split_ifs <;> linarith

/-- A blessing takes a Centered soul at `0.69` across the valley to Liberated,
and lifts a soul at `0.6`, below `Matter`, above `Matter`. -/
theorem blessSoul_crosses_valley :
    (⟨0.69, .centered⟩ : AgentSoul).Consistent ∧
      (blessSoul ⟨0.69, .centered⟩).state = .liberated ∧
      (0.6 : ℚ) ≤ matter ∧ matter < (blessSoul ⟨0.6, .centered⟩).cittaCoherence := by
  have nudge : blessNudge = 0.023606797749978967 := by norm_num [blessNudge, agnosis]
  refine ⟨?_, blessSoul_state_of_near ?_, ?_, matter_lt_blessSoul ?_ ?_⟩
  · simp only [AgentSoul.Consistent, stateFromCoherence]
    norm_num
  all_goals simp only [nudge, matter]; norm_num

namespace Simulation

/-- The `bless` vision: the loop over the residents of the oracle's home settlement, in
`SettlementAgents` order, blesses the first alive one bearing the target's name and breaks. -/
def blessVision (s : Simulation) (oracle : AgentRef) (target : String) : Simulation :=
  match (s.agentAt oracle).homeSettID with
  | none => s
  | some k =>
    match (s.settlementAgents k).find? fun c => (s.agentAt c).alive && (s.agentAt c).name == target with
    | none => s
    | some c => s.modifyAgent c fun a => { a with soul := blessSoul a.soul }

/-- The vision blesses one soul at most, and writes nothing else. -/
theorem blessVision_cases (s : Simulation) (oracle : AgentRef) (target : String) :
    s.blessVision oracle target = s ∨
      ∃ c, s.blessVision oracle target = s.modifyAgent c fun a => { a with soul := blessSoul a.soul } := by
  unfold blessVision
  split
  · exact .inl rfl
  · split
    · exact .inl rfl
    · exact .inr ⟨_, rfl⟩

/-! ## `invest` -/

/-- The `invest` decision of a Tier-2 agent or an oracle: a tenth of the
agent's wealth leaves it and is deposited in its home settlement's treasury
when `HomeSettID` is indexed. -/
def invest (s : Simulation) (p : AgentRef) : Simulation :=
  let investment := (s.agentAt p).wealth / 10
  if investment > 0 then
    let debited := s.debitAgent p investment
    match (s.agentAt p).homeSettID with
    | none => debited
    | some k =>
      match debited.settlementIndex k with
      | none => debited
      | some q => debited.creditSettlement q investment
  else s

/-- An investment by an alive agent of `Agents` keeps the money supply: the
wiring guarantees that its home settlement is indexed, so the debited tenth is
always deposited. -/
theorem invest_keeps {s : Simulation} {p : AgentRef} (wired : s.Wired) (listed : p ∈ s.agents)
    (alive : (s.agentAt p).alive) : Keeps s (s.invest p) := by
  unfold invest
  dsimp only
  split_ifs with positive
  · obtain ⟨k, q, home, indexed, member⟩ := wired.home_settlement listed alive
    have investor : s.Counted (.agent p) := ⟨listed, alive⟩
    have treasury : s.Counted (.settlement q) := member
    -- the wiring rules out the two branches that would drop the investment
    simp only [home, debitAgent_settlementIndex, indexed]
    exact (transfer_keeps wired investor treasury (Nat.div_le_self _ 10)).1
  · exact Keeps.refl wired

end Simulation

end MiniWorld.Engine
