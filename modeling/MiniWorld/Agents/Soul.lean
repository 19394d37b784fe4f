import MiniWorld.Agents.Types
import MiniWorld.Phi.Constants
import MiniWorld.Run.Invariant

/-! # The Wheeler coherence model (`internal/agents/soul.go`)

Every writer of `CittaCoherence` in the engine goes through one of the
functions here, except the oracle's `bless` (`cognition.go`), which writes the
field directly and is modelled in `MiniWorld.Engine.Cognition`.

The design (doc 25, R88) puts a *natural cap* at `Matter`: drift
(`adjustCoherence`) fills the band below `Matter` but cannot cross the
"Awakening Valley" from `Matter` to the Liberated threshold `0.7`; only
`adjustCoherenceUncapped` (practice, reincarnation) can.  The lemmas of this
module are that design, proved of the code: the cap holds, the unit interval
is kept, and the derived `state` is recomputed from the coherence.  Over a
soul's whole life, from its seed through any sequence of drift, it never
crosses the valley (`drift_never_liberates`).
-/

namespace MiniWorld.Agents

open MiniWorld.Phi

def stateFromCoherence (coherence : ℚ) : StateOfBeing :=
  if coherence ≥ 0.7 then .liberated
  else if coherence ≥ 0.4 then .centered
  else .embodied

def AgentSoul.updateState (soul : AgentSoul) : AgentSoul :=
  { soul with state := stateFromCoherence soul.cittaCoherence }

/-- The derived band agrees with the coherence. -/
def AgentSoul.Consistent (soul : AgentSoul) : Prop :=
  soul.state = stateFromCoherence soul.cittaCoherence

/-- `clamp32`, the clamp of `spawner.go`, used by the soul seeds. -/
def clamp32 (value low high : ℚ) : ℚ :=
  if value < low then low else if value > high then high else value

/-- `AgentSoul.AdjustCoherence`: natural drift, capped at `Matter`. -/
def AgentSoul.adjustCoherence (soul : AgentSoul) (delta : ℚ) : AgentSoul :=
  if delta > 0 ∧ soul.cittaCoherence ≥ matter then soul
  else
    let shifted := soul.cittaCoherence + delta
    let floored := if shifted < 0 then 0 else shifted
    let capped := if delta > 0 ∧ floored > matter then matter else floored
    let bounded := if capped > 1 then 1 else capped
    AgentSoul.updateState { soul with cittaCoherence := bounded }

/-- `AgentSoul.AdjustCoherenceUncapped`: practice and reincarnation. -/
def AgentSoul.adjustCoherenceUncapped (soul : AgentSoul) (delta : ℚ) : AgentSoul :=
  let shifted := soul.cittaCoherence + delta
  let floored := if shifted < 0 then 0 else shifted
  let bounded := if floored > 1 then 1 else floored
  AgentSoul.updateState { soul with cittaCoherence := bounded }

/-- The coherence seed of `generateSoul`: `Agnosis + draw·Agnosis·0.5`, where
`draw` is the normal deviate `rng.NormFloat64()`, clamped to `[0.01, Matter]`. -/
def generateSoul (draw : ℚ) : AgentSoul :=
  AgentSoul.updateState
    { cittaCoherence := clamp32 (agnosis + draw * agnosis * 0.5) 0.01 matter,
      state := .embodied }

/-- The coherence seed of `SpawnChild`: the genesis seed plus a share of the
parent's coherence, hard-capped at `Matter` (R88 `BirthHardCap`). -/
def spawnChildSoul (draw parentCoherence : ℚ) : AgentSoul :=
  let seeded := clamp32 (agnosis + draw * agnosis * 0.5) 0.01 matter
  let boosted := seeded + parentCoherence * (agnosis * 0.5)
  let capped := if boosted > matter then matter else boosted
  AgentSoul.updateState { cittaCoherence := capped, state := .embodied }

@[simp] theorem updateState_coherence (soul : AgentSoul) :
    soul.updateState.cittaCoherence = soul.cittaCoherence := rfl

theorem updateState_consistent (soul : AgentSoul) : soul.updateState.Consistent := rfl

/-! ## The natural cap -/

theorem clamp32_le_high {value low high : ℚ} (ordered : low ≤ high) :
    clamp32 value low high ≤ high := by
  unfold clamp32
  split_ifs with below above
  · exact ordered
  · exact le_refl high
  · exact not_lt.mp above

/-- Drift never lifts a soul at or below `Matter` above it: the positive branch
is clamped back to `Matter`, the negative one only lowers the value. -/
theorem adjustCoherence_le_matter {soul : AgentSoul} (delta : ℚ)
    (below : soul.cittaCoherence ≤ matter) :
    (soul.adjustCoherence delta).cittaCoherence ≤ matter := by
  have matterPos : (0 : ℚ) ≤ matter := by norm_num [matter]
  unfold AgentSoul.adjustCoherence
  split_ifs with skip
  · exact below
  · simp only [updateState_coherence]
    split_ifs <;> grind

/-- Drift that starts in the unit interval ends in it. -/
theorem adjustCoherence_mem_unit {soul : AgentSoul} (delta : ℚ)
    (low : 0 ≤ soul.cittaCoherence) (high : soul.cittaCoherence ≤ 1) :
    0 ≤ (soul.adjustCoherence delta).cittaCoherence ∧
      (soul.adjustCoherence delta).cittaCoherence ≤ 1 := by
  have matterUnit : (0 : ℚ) ≤ matter ∧ matter ≤ 1 := by norm_num [matter]
  unfold AgentSoul.adjustCoherence
  split_ifs with skip
  · exact ⟨low, high⟩
  · simp only [updateState_coherence]
    split_ifs <;> grind

theorem adjustCoherenceUncapped_mem_unit (soul : AgentSoul) (delta : ℚ) :
    0 ≤ (soul.adjustCoherenceUncapped delta).cittaCoherence ∧
      (soul.adjustCoherenceUncapped delta).cittaCoherence ≤ 1 := by
  unfold AgentSoul.adjustCoherenceUncapped
  simp only [updateState_coherence]
  split_ifs <;> grind

/-- Drift keeps the derived band in step with the coherence.  The early return
of the capped branch skips `UpdateState`, so the band must already agree. -/
theorem adjustCoherence_consistent {soul : AgentSoul} (consistent : soul.Consistent)
    (delta : ℚ) : (soul.adjustCoherence delta).Consistent := by
  unfold AgentSoul.adjustCoherence
  split_ifs
  · exact consistent
  · exact updateState_consistent _

theorem adjustCoherenceUncapped_consistent (soul : AgentSoul) (delta : ℚ) :
    (soul.adjustCoherenceUncapped delta).Consistent :=
  updateState_consistent _

/-- A soul at or below `Matter` is not Liberated. -/
theorem state_ne_liberated_of_le_matter {soul : AgentSoul} (consistent : soul.Consistent)
    (below : soul.cittaCoherence ≤ matter) : soul.state ≠ .liberated := by
  rw [consistent]
  have : soul.cittaCoherence < 0.7 := lt_of_le_of_lt below matter_lt_seven_tenths
  unfold stateFromCoherence
  split_ifs with liberated
  · exact absurd liberated (not_le.mpr this)
  · simp
  · simp

/-! ## Seeds -/

/-- Every genesis soul starts at or below `Matter`, inside `[0.01, Matter]`. -/
theorem generateSoul_le_matter (draw : ℚ) :
    (generateSoul draw).cittaCoherence ≤ matter :=
  clamp32_le_high (by norm_num [matter])

theorem spawnChildSoul_le_matter (draw parentCoherence : ℚ) :
    (spawnChildSoul draw parentCoherence).cittaCoherence ≤ matter := by
  unfold spawnChildSoul
  simp only [updateState_coherence]
  split_ifs with exceeds
  · exact le_refl matter
  · exact not_lt.mp exceeds

/-! ## A soul's life -/

/-- A soul as the engine seeds it: a genesis soul or a newborn's. -/
def Seeded (soul : AgentSoul) : Prop :=
  (∃ draw, soul = generateSoul draw) ∨ ∃ draw parentCoherence, soul = spawnChildSoul draw parentCoherence

/-- One write of a soul: drift, or, where `practice` holds, the uncapped write of practice and
reincarnation. -/
inductive SoulWrite (practice : Prop) : AgentSoul → AgentSoul → Prop
  | drift (soul : AgentSoul) (delta : ℚ) : SoulWrite practice soul (soul.adjustCoherence delta)
  | uncapped (allowed : practice) (soul : AgentSoul) (delta : ℚ) :
      SoulWrite practice soul (soul.adjustCoherenceUncapped delta)

section Life

variable {soul soul' : AgentSoul}

theorem Seeded.consistent (seeded : Seeded soul) : soul.Consistent := by
  rcases seeded with ⟨draw, rfl⟩ | ⟨draw, parentCoherence, rfl⟩
  · exact updateState_consistent _
  · exact updateState_consistent _

theorem Seeded.le_matter (seeded : Seeded soul) : soul.cittaCoherence ≤ matter := by
  rcases seeded with ⟨draw, rfl⟩ | ⟨draw, parentCoherence, rfl⟩
  · exact generateSoul_le_matter draw
  · exact spawnChildSoul_le_matter draw parentCoherence

theorem SoulWrite.consistent {practice : Prop} (write : SoulWrite practice soul soul')
    (consistent : soul.Consistent) : soul'.Consistent := by
  cases write with
  | drift soul delta => exact adjustCoherence_consistent consistent delta
  | uncapped allowed soul delta => exact adjustCoherenceUncapped_consistent soul delta

theorem SoulWrite.le_matter (write : SoulWrite False soul soul') (below : soul.cittaCoherence ≤ matter) :
    soul'.cittaCoherence ≤ matter := by
  cases write with
  | drift soul delta => exact adjustCoherence_le_matter delta below
  | uncapped allowed => exact allowed.elim

/-- Every write keeps a seeded soul's band in step with its coherence. -/
theorem soul_stays_consistent {practice : Prop}
    (reachable : MiniWorld.Run.Reachable (SoulWrite practice) Seeded soul) : soul.Consistent :=
  MiniWorld.Run.reachable_invariant (fun _ seeded => seeded.consistent)
    (fun _ _ consistent write => write.consistent consistent) reachable

/-- Drift never carries a seeded soul across the Awakening Valley: it stays at or below
`Matter`, so its band is never Liberated. -/
theorem drift_never_liberates (reachable : MiniWorld.Run.Reachable (SoulWrite False) Seeded soul) :
    soul.cittaCoherence ≤ matter ∧ soul.state ≠ .liberated := by
  have below : soul.cittaCoherence ≤ matter :=
    MiniWorld.Run.reachable_invariant (fun origin (seeded : Seeded origin) => seeded.le_matter)
      (fun state next below (write : SoulWrite False state next) => write.le_matter below) reachable
  exact ⟨below, state_ne_liberated_of_le_matter (soul_stays_consistent reachable) below⟩

end Life

end MiniWorld.Agents
