import MiniWorld.Engine.Market
import MiniWorld.Engine.Treasury
import MiniWorld.Engine.Tick
import Mathlib.Analysis.SpecialFunctions.Exp

/-! # Deaths (`simulation.go` lines 275–432 and 613–659, `population.go` lines 120–385,
`warfare.go` lines 437–473, `agents/behavior.go` lines 472–524)

`Alive` is cleared at four sites: starvation in `DecayNeeds` during `TickMinute`,
natural and illness deaths in `processNaturalDeaths`, and battle casualties in
`applyCasualties`.  `TickMinute` and `applyCasualties` hand the dead agent to
`handleAgentDeath`, which counts it in `Stats.Deaths` and calls `inheritWealth`;
`processNaturalDeaths` does both inline, once in each of its two branches.

A step `Buries` the agents that die in it when it counts each of them once in
`Deaths`, passes each to `inheritWealth` once, and brings no dead agent back.
Each site buries the agents it kills (`tickMinute_buries`,
`processNaturalDeaths_buries`, `applyCasualties_buries`), and over any run of
these steps, interleaved with steps that kill no one and bring back no inherited
agent, `Deaths` grows by exactly the number of agents whose flag went from true
to false, each inherited once, in the step of its death (`deaths_processed_once`).

Not modelled: the events, memories and `Wellbeing` the sites also write, the
order the hourly `rand.Shuffle` gives `Agents` (a parameter), and what an
agent's decided action does beyond what it may do to lives (`ActsAlone`).
-/

namespace MiniWorld.Engine

open MiniWorld.Agents MiniWorld.Phi MiniWorld.Run

def maxWorldPopulation : ℕ := 400000

def reincarnationAgeFloor : ℕ := 30

/-- `clampNeeds` (`behavior.go`): the clamp of every register to `[0, 1]`, the
same as `clampAgentNeeds` (`production.go`). -/
def clampNeeds (needs : NeedsState) : NeedsState := Simulation.clampAgentNeeds needs

/-- `DecayNeeds`: each register decays by its weight times `Agnosis·0.01`; an
agent whose `Survival` falls below `0.1` starves, loses `0.01` health, and dies
at health `0`.  The registers are clamped last. -/
def decayNeeds (a : Agent) : Agent :=
  let decay : ℚ := agnosis * 0.01
  let needs : NeedsState :=
    { survival := a.needs.survival - decay * 2, safety := a.needs.safety - decay,
      belonging := a.needs.belonging - decay * 0.5, esteem := a.needs.esteem - decay * 0.3,
      purpose := a.needs.purpose - decay * 0.1 }
  let starving := needs.survival < 0.1
  let health := if starving then a.health - 0.01 else a.health
  { a with needs := clampNeeds needs, health := health,
           alive := if starving ∧ health ≤ 0 then false else a.alive }

/-- `DecayNeeds` kills or leaves `Alive` as it was; it never revives. -/
theorem decayNeeds_alive (a : Agent) :
    (decayNeeds a).alive = a.alive ∨ (decayNeeds a).alive = false := by
  unfold decayNeeds
  dsimp only
  split_ifs <;> simp

/-- `agentDailyMortalityChance`: for adults, background entropy scaled by
scatter plus a squared logistic age curve from fifty; for everyone, while the
population exceeds `MaxWorldPopulation`, a pressure weighted by life stage. -/
noncomputable def agentDailyMortalityChance (a : Agent) (population : ℕ) : ℝ :=
  let normal : ℝ :=
    if a.age ≥ 16 then
      let coherence : ℝ := a.soul.cittaCoherence
      let agnosis6 : ℝ := (agnosis : ℝ) ^ 6
      let agnosis7 := agnosis6 * agnosis
      let ageOffset : ℝ := (a.age : ℝ) - 50
      let sigmoid := 1 / (1 + Real.exp (-ageOffset / 12))
      agnosis7 + agnosis6 * (1 - coherence) + (agnosis : ℝ) ^ 3 * sigmoid * sigmoid
    else 0
  if population > maxWorldPopulation then
    let overshoot : ℝ := (population : ℝ) / maxWorldPopulation - 1
    let pressure : ℝ := agnosis * agnosis * overshoot
    -- R97-3: the reproductive core shares the children's shelter
    let weight : ℝ :=
      if a.age < 2 then agnosis
      else if a.age < 16 then psyche
      else if 18 ≤ a.age ∧ a.age ≤ 45 then psyche
      else 1
    normal + pressure * weight
  else normal

/-- The daily hash of `processNaturalDeaths`,
`(uint64(a.ID)*2654435761 + simDay*40503) % 100000`, with the wrap of `uint64`. -/
def mortalityHash (id simDay : ℕ) : ℕ := (id * 2654435761 + simDay * 40503) % 2 ^ 64 % 100000

/-- Whether `witness` holds a bond of sentiment at least `Matter` towards the
agent `deadID`: the gate on the coherence gain of witnessing a death. -/
def meaningful (deadID : AgentID) (witness : Agent) : Bool :=
  witness.relationships.any fun rel => rel.targetID == deadID && decide (rel.sentiment ≥ matter)

namespace Simulation

/-! ## Processing one death -/

/-- `s.Stats.Deaths++`. -/
def countDeath (s : Simulation) : Simulation :=
  { s with registry := { s.registry with deaths := s.registry.deaths + 1 } }

/-- `s.LiberatedSpiritsPool++`. -/
def addLiberatedSpirit (s : Simulation) : Simulation :=
  { s with registry :=
      { s.registry with liberatedSpiritsPool := s.registry.liberatedSpiritsPool + 1 } }

/-- The estate of the dead agent `a` at its home settlement `q`: half the
wealth to the treasury, the rest to the first other alive agent listed there or,
with none, to the treasury as well, and every good held to the market supply. -/
def bequeath (a : Agent) (q : SettRef) (s : Simulation) : Simulation :=
  let treasuryShare := a.wealth / 2
  let agentShare := a.wealth - treasuryShare
  let s := s.creditSettlement q treasuryShare
  let heir := (s.settlementAgents (s.settlementAt q).id).find? fun h =>
    (s.agentAt h).alive && (s.agentAt h).id != a.id
  let s := match heir with
    | some h => s.creditAgent h agentShare
    | none => if agentShare > 0 then s.creditSettlement q agentShare else s
  s.modifyMarket q fun market =>
    inventoryGoods.foldl (fun market good =>
      if a.inventory good > 0 then
        market.modifyEntry good fun e => { e with supply := e.supply + a.inventory good }
      else market) market

/-- `inheritWealth`: an agent with crowns or goods leaves them to its home
settlement, when its `HomeSettID` is indexed, and is emptied either way.  The
agent passed is recorded in `inheritLog`. -/
def inheritWealth (s : Simulation) (p : AgentRef) : Simulation :=
  let a := s.agentAt p
  let s := { s with inheritLog := p :: s.inheritLog }
  if a.wealth = 0 ∧ a.inventory.isEmpty = true then s
  else
    let s := match a.homeSettID.bind s.settlementIndex with
      | some q => bequeath a q s
      | none => s
    s.modifyAgent p fun a => { a with wealth := 0, inventory := fun _ => 0 }

/-- The witness loops over `SettlementAgents[k]` after the death of `deadID`:
every other alive agent listed that passes `gate` drifts by `drift`, computed
from its own record. -/
def touchWitnesses (deadID : AgentID) (k : ℕ) (gate : Agent → Bool) (drift : Agent → ℚ)
    (s : Simulation) : Simulation :=
  (s.settlementAgents k).foldl (fun s w =>
    let witness := s.agentAt w
    if witness.alive ∧ witness.id ≠ deadID ∧ gate witness = true then
      s.modifyAgent w fun a => { a with soul := a.soul.adjustCoherence (drift a) }
    else s) s

/-- `handleAgentDeath`: the death is counted, the estate inherited, and the
witnesses at home who were close to the dead drift toward coherence. -/
def handleAgentDeath (s : Simulation) (p : AgentRef) : Simulation :=
  let a := s.agentAt p
  let s := s.countDeath.inheritWealth p
  match a.homeSettID with
  | some k => touchWitnesses a.id k (meaningful a.id) (fun _ => agnosis * 0.025) s
  | none => s

/-! ## The death sites -/

/-- One agent's minute in `TickMinute`: `act` is its decided action,
`Decide` followed by `resolveBuyFood`, `ResolveWork` or `ApplyAction`. -/
def tickMinuteAgent (act : Simulation → AgentRef → Simulation) (s : Simulation) (p : AgentRef) :
    Simulation :=
  if (s.agentAt p).alive = false then s
  -- infants are nursed: no decay and no action
  else if (s.agentAt p).age < 2 then s
  else
    let s := s.modifyAgent p decayNeeds
    if (s.agentAt p).alive = false then s.handleAgentDeath p
    else
      let s := act s p
      -- starvation during the action's resolution
      if (s.agentAt p).alive = false then s.handleAgentDeath p else s

/-- `TickMinute`: the tick is recorded, `Agents` is reordered on the hour by
`shuffle` (the permutation `rand.Shuffle` seeded with the tick makes), and each
agent has its minute. -/
def tickMinute (shuffle : ℕ → List AgentRef → List AgentRef)
    (act : Simulation → AgentRef → Simulation) (tick : ℕ) (s : Simulation) : Simulation :=
  let s := { s with lastTick := tick }
  let s := if tick % ticksPerSimHour = 0 then { s with agents := shuffle tick s.agents } else s
  s.agents.foldl (tickMinuteAgent act) s

/-- The witness loops after the natural death of `a`: at a sage's death every
other alive agent at its home drifts away from coherence, in proportion to its
own; at an ordinary death the close ones drift toward it, the less the more
coherent they are. -/
def witnessNaturalDeath (a : Agent) (s : Simulation) : Simulation :=
  match a.homeSettID with
  | none => s
  | some k =>
    if a.soul.state = .liberated then
      touchWitnesses a.id k (fun _ => true) (fun w => -(agnosis * 0.05) * w.soul.cittaCoherence) s
    else
      touchWitnesses a.id k (meaningful a.id)
        (fun w => agnosis * 0.025 * (1 - w.soul.cittaCoherence * 0.5)) s

/-- A natural death in `processNaturalDeaths`: the flag is cleared and the
health zeroed, the death counted, a liberated agent of at least
`ReincarnationAgeFloor` years feeds `LiberatedSpiritsPool`, the estate is
inherited, and the witnesses drift. -/
def naturalDeath (s : Simulation) (p : AgentRef) : Simulation :=
  let a := s.agentAt p
  let s := (s.modifyAgent p fun a => { a with alive := false, health := 0 }).countDeath
  let s := if a.soul.state = .liberated ∧ a.age ≥ reincarnationAgeFloor then s.addLiberatedSpirit
    else s
  witnessNaturalDeath a (s.inheritWealth p)

/-- The illness branch of `processNaturalDeaths`: health in `(0, 0.15)` falls
by `0.01`, and an agent it brings to `0` dies, counted and inherited. -/
def illnessCheck (s : Simulation) (p : AgentRef) : Simulation :=
  if (s.agentAt p).health < 0.15 ∧ (s.agentAt p).health > 0 then
    let s := s.modifyAgent p fun a => { a with health := a.health - 0.01 }
    if (s.agentAt p).health ≤ 0 then
      ((s.modifyAgent p fun a => { a with alive := false }).countDeath).inheritWealth p
    else s
  else s

/-- One agent of `processNaturalDeaths` on day `simDay`. -/
noncomputable def naturalDeathCheck (simDay : ℕ) (s : Simulation) (p : AgentRef) : Simulation :=
  let a := s.agentAt p
  if a.alive = false then s
  else
    let mortalityChance := agentDailyMortalityChance a s.totalPopulation
    if mortalityChance > 0 ∧ (mortalityHash a.id simDay : ℝ) / 100000 < mortalityChance then
      s.naturalDeath p
    else s.illnessCheck p

noncomputable def processNaturalDeaths (tick : ℕ) (s : Simulation) : Simulation :=
  s.agents.foldl (naturalDeathCheck (tick / ticksPerSimDay)) s

/-- The casualty loop of `applyCasualties` with its count: it stops at the
target, skips the dead, and kills a soldier whose hash beats its combat skill
times `Being`. -/
def casualtyLoop (tick : ℕ) (targetCasualties : ℤ) :
    Simulation × ℕ → List AgentRef → Simulation × ℕ
  | acc, [] => acc
  | (s, casualties), p :: rest =>
    if targetCasualties ≤ casualties then (s, casualties)
    else if (s.agentAt p).alive = false then casualtyLoop tick targetCasualties (s, casualties) rest
    else
      let a := s.agentAt p
      let survivalChance := a.combatSkill * being
      let hash : ℚ := ((tick * 7 + a.id * 13) % 2 ^ 64 % 100 : ℕ) / 100
      if hash > survivalChance then
        casualtyLoop tick targetCasualties
          ((s.modifyAgent p fun a => { a with alive := false }).handleAgentDeath p, casualties + 1)
          rest
      else casualtyLoop tick targetCasualties (s, casualties) rest

/-- `applyCasualties`: at least one and at most all of the soldiers, the
ceiling of their number times `rate`, die, and the number killed is returned. -/
def applyCasualties (tick : ℕ) (soldiers : List AgentRef) (rate : ℚ) (s : Simulation) :
    Simulation × ℕ :=
  if rate ≤ 0 ∨ soldiers.length = 0 then (s, 0)
  else
    let targetCasualties := ⌈(soldiers.length : ℚ) * rate⌉
    let targetCasualties :=
      if targetCasualties > soldiers.length then (soldiers.length : ℤ) else targetCasualties
    let targetCasualties := if targetCasualties < 1 then 1 else targetCasualties
    casualtyLoop tick targetCasualties (s, 0) soldiers

/-! ## What a step does to lives -/

/-- `p` dies between `before` and `after`: its `Alive` flag goes from true to
false. -/
def Dies (before after : Simulation) (p : AgentRef) : Prop :=
  (before.agentAt p).alive = true ∧ (after.agentAt p).alive = false

/-- `after` has every `Alive` flag, the `Deaths` count and the inherited agents
of `before`. -/
structure LivesKept (before after : Simulation) : Prop where
  alive : ∀ p, (after.agentAt p).alive = (before.agentAt p).alive
  deaths : after.registry.deaths = before.registry.deaths
  inheritLog : after.inheritLog = before.inheritLog

/-- `after` is `before` with the flag of the alive agent `p` cleared, and no
other flag, no count and no inheritance changed. -/
structure Kills (p : AgentRef) (before after : Simulation) : Prop where
  alive : (before.agentAt p).alive = true
  dead : (after.agentAt p).alive = false
  others : ∀ p', p' ≠ p → (after.agentAt p').alive = (before.agentAt p').alive
  deaths : after.registry.deaths = before.registry.deaths
  inheritLog : after.inheritLog = before.inheritLog

/-- `after` is `before` with the death of `p` processed once: one more in
`Deaths`, `p` passed to `inheritWealth`, and every `Alive` flag as it was. -/
structure DeathProcessed (p : AgentRef) (before after : Simulation) : Prop where
  alive : ∀ p', (after.agentAt p').alive = (before.agentAt p').alive
  deaths : after.registry.deaths = before.registry.deaths + 1
  inheritLog : after.inheritLog = p :: before.inheritLog

/-- A step processes the deaths `died` exactly once: they are the agents whose
flag it clears, each listed once, and it counts each in `Deaths` and passes
each to `inheritWealth`, once and nothing else; an inherited agent that was
dead stays dead. -/
structure ProcessesDeaths (before after : Simulation) (died : List AgentRef) : Prop where
  nodup : died.Nodup
  mem_iff : ∀ p, p ∈ died ↔ Dies before after p
  inherited : after.inheritLog = died ++ before.inheritLog
  counted : after.registry.deaths = before.registry.deaths + died.length
  buried : ∀ p ∈ before.inheritLog, (before.agentAt p).alive = false →
    (after.agentAt p).alive = false

/-- A death site buries `died`: it processes their deaths exactly once and
brings no dead agent back. -/
structure Buries (before after : Simulation) (died : List AgentRef) : Prop where
  nodup : died.Nodup
  mem_iff : ∀ p, p ∈ died ↔ Dies before after p
  inherited : after.inheritLog = died ++ before.inheritLog
  counted : after.registry.deaths = before.registry.deaths + died.length
  noRevival : ∀ p, (before.agentAt p).alive = false → (after.agentAt p).alive = false

/-- What a decided action may do to lives: at most clear the acting agent's
own flag, without counting or inheriting. -/
def ActsAlone (act : Simulation → AgentRef → Simulation) : Prop :=
  ∀ s p, LivesKept s (act s p) ∨ Kills p s (act s p)

/-- Every other part of a tick: no one dies, no death is counted, no one is
inherited, and an agent that comes alive (a birth) was never inherited. -/
structure Quiet (before after : Simulation) : Prop where
  deaths : after.registry.deaths = before.registry.deaths
  inheritLog : after.inheritLog = before.inheritLog
  survive : ∀ p, (before.agentAt p).alive = true → (after.agentAt p).alive = true
  born : ∀ p, (before.agentAt p).alive = false → (after.agentAt p).alive = true →
    p ∉ before.inheritLog

/-- The steps of a run, as far as lives go: a minute with an action that acts
alone, the daily natural deaths, a battle, or a quiet step. -/
inductive LifeStep : Simulation → Simulation → Prop
  | minute (shuffle : ℕ → List AgentRef → List AgentRef) {act : Simulation → AgentRef → Simulation}
      (alone : ActsAlone act) (tick : ℕ) (s : Simulation) : LifeStep s (tickMinute shuffle act tick s)
  | natural (tick : ℕ) (s : Simulation) : LifeStep s (processNaturalDeaths tick s)
  | battle (tick : ℕ) (soldiers : List AgentRef) (rate : ℚ) (s : Simulation) :
      LifeStep s (applyCasualties tick soldiers rate s).1
  | quiet {s t : Simulation} (kept : Quiet s t) : LifeStep s t

section Lives

variable {s t u : Simulation} {p : AgentRef} {died died' : List AgentRef}

theorem LivesKept.refl (s : Simulation) : LivesKept s s := ⟨fun _ => rfl, rfl, rfl⟩

theorem LivesKept.trans (first : LivesKept s t) (second : LivesKept t u) : LivesKept s u :=
  ⟨fun p => (second.alive p).trans (first.alive p), second.deaths.trans first.deaths,
    second.inheritLog.trans first.inheritLog⟩

theorem livesKept_modifyAgent (s : Simulation) (p : AgentRef) {change : Agent → Agent}
    (keepsAlive : (change (s.agentAt p)).alive = (s.agentAt p).alive) :
    LivesKept s (s.modifyAgent p change) := by
  refine ⟨fun p' => ?_, rfl, rfl⟩
  by_cases same : p' = p
  · subst same
    simpa using keepsAlive
  · simp [modifyAgent_agentAt, same]

theorem livesKept_modifySettlement (s : Simulation) (q : SettRef)
    (change : Settlement → Settlement) : LivesKept s (s.modifySettlement q change) :=
  ⟨fun _ => rfl, rfl, rfl⟩

theorem livesKept_creditAgent (s : Simulation) (p : AgentRef) (amount : ℕ) :
    LivesKept s (s.creditAgent p amount) := livesKept_modifyAgent s p rfl

theorem livesKept_creditSettlement (s : Simulation) (q : SettRef) (amount : ℕ) :
    LivesKept s (s.creditSettlement q amount) := ⟨fun _ => rfl, rfl, rfl⟩

theorem livesKept_modifyMarket (s : Simulation) (q : SettRef) (change : Market → Market) :
    LivesKept s (s.modifyMarket q change) := ⟨fun _ => rfl, rfl, rfl⟩

theorem kills_modifyAgent (s : Simulation) (p : AgentRef) (change : Agent → Agent)
    (alive : (s.agentAt p).alive = true) (dead : (change (s.agentAt p)).alive = false) :
    Kills p s (s.modifyAgent p change) :=
  ⟨alive, by simpa using dead, fun p' other => by simp [modifyAgent_agentAt, other], rfl, rfl⟩

theorem LivesKept.kills (kept : LivesKept s t) (killed : Kills p t u) : Kills p s u :=
  ⟨(kept.alive p).symm.trans killed.alive, killed.dead,
    fun p' other => (killed.others p' other).trans (kept.alive p'),
    killed.deaths.trans kept.deaths, killed.inheritLog.trans kept.inheritLog⟩

theorem DeathProcessed.livesKept (processed : DeathProcessed p s t) (kept : LivesKept t u) :
    DeathProcessed p s u :=
  ⟨fun p' => (kept.alive p').trans (processed.alive p'), kept.deaths.trans processed.deaths,
    kept.inheritLog.trans processed.inheritLog⟩

/-- The estate goes to crowns and market supply only. -/
theorem livesKept_bequeath (a : Agent) (q : SettRef) (s : Simulation) :
    LivesKept s (bequeath a q s) := by
  unfold bequeath
  dsimp only
  refine LivesKept.trans ?_ (livesKept_modifyMarket _ q _)
  refine (livesKept_creditSettlement s q (a.wealth / 2)).trans ?_
  split
  · exact livesKept_creditAgent _ _ _
  · split_ifs
    · exact livesKept_creditSettlement _ q _
    · exact LivesKept.refl _

/-- `inheritWealth` records the agent passed, and changes no flag and no count. -/
theorem inheritWealth_livesKept (s : Simulation) (p : AgentRef) :
    LivesKept { s with inheritLog := p :: s.inheritLog } (s.inheritWealth p) := by
  unfold inheritWealth
  dsimp only
  split_ifs
  · exact LivesKept.refl _
  · refine LivesKept.trans ?_ (livesKept_modifyAgent _ p rfl)
    split
    · exact livesKept_bequeath _ _ _
    · exact LivesKept.refl _

/-- A death counted, then any change that keeps lives, then `inheritWealth`:
the death processed once. -/
theorem inheritWealth_processed (p : AgentRef) (counted : LivesKept s.countDeath t) :
    DeathProcessed p s (t.inheritWealth p) := by
  have inherited := inheritWealth_livesKept t p
  refine ⟨fun p' => (inherited.alive p').trans (counted.alive p'), ?_, ?_⟩
  · rw [inherited.deaths]
    exact counted.deaths
  · rw [inherited.inheritLog]
    exact congrArg (p :: ·) counted.inheritLog

theorem touchWitnesses_livesKept (deadID : AgentID) (k : ℕ) (gate : Agent → Bool)
    (drift : Agent → ℚ) (s : Simulation) : LivesKept s (touchWitnesses deadID k gate drift s) := by
  unfold touchWitnesses
  refine foldl_invariant (LivesKept s) _ _ s (fun w _ t kept => ?_) (LivesKept.refl s)
  dsimp only
  split_ifs
  · exact kept.trans (livesKept_modifyAgent t w rfl)
  · exact kept

/-- `handleAgentDeath` counts the death once and inherits once. -/
theorem handleAgentDeath_processed (s : Simulation) (p : AgentRef) :
    DeathProcessed p s (s.handleAgentDeath p) := by
  have processed := inheritWealth_processed p (LivesKept.refl s.countDeath)
  unfold handleAgentDeath
  dsimp only
  split
  · exact processed.livesKept (touchWitnesses_livesKept _ _ _ _ _)
  · exact processed

/-! ## Burying -/

theorem Buries.refl (s : Simulation) : Buries s s [] :=
  ⟨List.nodup_nil, fun p => by simp [Dies], by simp, by simp, fun _ dead => dead⟩

theorem Buries.alive_of_alive (buried : Buries s t died) (alive : (t.agentAt p).alive = true) :
    (s.agentAt p).alive = true := by
  by_contra dead
  rw [buried.noRevival p (Bool.eq_false_iff.mpr dead)] at alive
  exact Bool.false_ne_true alive

theorem Buries.trans (first : Buries s t died) (second : Buries t u died') :
    Buries s u (died' ++ died) where
  nodup := by
    refine List.nodup_append.mpr ⟨second.nodup, first.nodup, ?_⟩
    -- the later deaths were alive in between, the earlier ones already dead
    intro p later p' earlier same
    subst same
    have aliveMid := ((second.mem_iff p).mp later).1
    rw [((first.mem_iff p).mp earlier).2] at aliveMid
    exact Bool.false_ne_true aliveMid
  mem_iff p := by
    rw [List.mem_append, second.mem_iff, first.mem_iff]
    constructor
    · rintro (⟨aliveMid, deadAfter⟩ | ⟨aliveBefore, deadMid⟩)
      · exact ⟨first.alive_of_alive aliveMid, deadAfter⟩
      · exact ⟨aliveBefore, second.noRevival p deadMid⟩
    · rintro ⟨aliveBefore, deadAfter⟩
      cases mid : (t.agentAt p).alive
      · exact .inr ⟨aliveBefore, mid⟩
      · exact .inl ⟨mid, deadAfter⟩
  inherited := by rw [second.inherited, first.inherited, List.append_assoc]
  counted := by
    rw [second.counted, first.counted, List.length_append]
    push_cast
    ring
  noRevival p dead := second.noRevival p (first.noRevival p dead)

theorem LivesKept.buries (kept : LivesKept s t) : Buries s t [] where
  nodup := List.nodup_nil
  mem_iff p := by simp [Dies, kept.alive p]
  inherited := by rw [kept.inheritLog, List.nil_append]
  counted := by simp [kept.deaths]
  noRevival p dead := (kept.alive p).trans dead

/-- A kill whose death is then processed buries exactly the one agent. -/
theorem Kills.buries (killed : Kills p s t) (processed : DeathProcessed p t u) : Buries s u [p] where
  nodup := List.nodup_singleton p
  mem_iff p' := by
    rw [List.mem_singleton]
    constructor
    · rintro rfl
      exact ⟨killed.alive, (processed.alive p').trans killed.dead⟩
    · rintro ⟨aliveBefore, deadAfter⟩
      by_contra other
      rw [processed.alive, killed.others p' other, aliveBefore] at deadAfter
      simp at deadAfter
  inherited := by rw [processed.inheritLog, killed.inheritLog, List.singleton_append]
  counted := by simp [processed.deaths, killed.deaths]
  noRevival p' dead := by
    have other : p' ≠ p := by
      rintro rfl
      rw [killed.alive] at dead
      simp at dead
    rw [processed.alive, killed.others p' other, dead]

theorem Buries.processesDeaths (buried : Buries s t died) : ProcessesDeaths s t died :=
  ⟨buried.nodup, buried.mem_iff, buried.inherited, buried.counted,
    fun p _ dead => buried.noRevival p dead⟩

theorem Quiet.processesDeaths (quiet : Quiet s t) : ProcessesDeaths s t [] where
  nodup := List.nodup_nil
  mem_iff p := by
    simp only [List.not_mem_nil, false_iff]
    rintro ⟨alive, dead⟩
    rw [quiet.survive p alive] at dead
    simp at dead
  inherited := by rw [quiet.inheritLog, List.nil_append]
  counted := by simp [quiet.deaths]
  buried p logged dead := by
    by_contra revived
    exact quiet.born p dead (by simpa using revived) logged

/-- A loop whose every iteration buries what it kills buries what the loop
kills. -/
theorem buries_foldl {body : Simulation → AgentRef → Simulation}
    (each : ∀ t p, ∃ died, Buries t (body t p) died) (refs : List AgentRef) (s : Simulation) :
    ∃ died, Buries s (refs.foldl body s) died := by
  refine foldl_invariant (fun t => ∃ died, Buries s t died) body refs s ?_ ⟨[], Buries.refl s⟩
  rintro p - t ⟨died, buried⟩
  obtain ⟨died', step⟩ := each t p
  exact ⟨died' ++ died, buried.trans step⟩

/-! ## Each site buries what it kills -/

/-- An agent's minute buries it when `DecayNeeds` or its action kills it, and
no one otherwise. -/
theorem tickMinuteAgent_buries {act : Simulation → AgentRef → Simulation} (alone : ActsAlone act)
    (s : Simulation) (p : AgentRef) : ∃ died, Buries s (tickMinuteAgent act s p) died := by
  unfold tickMinuteAgent
  dsimp only
  split_ifs with dead infant starved acted
  · exact ⟨[], Buries.refl s⟩
  · exact ⟨[], Buries.refl s⟩
  · -- starvation in `DecayNeeds`
    have alive : (s.agentAt p).alive = true := by simpa using dead
    have killed := kills_modifyAgent s p decayNeeds alive (by simpa using starved)
    exact ⟨[p], killed.buries (handleAgentDeath_processed _ p)⟩
  all_goals
    have decayed : LivesKept s (s.modifyAgent p decayNeeds) := by
      refine livesKept_modifyAgent s p ?_
      rcases decayNeeds_alive (s.agentAt p) with same | killed
      · exact same
      · simp [killed] at starved
  · -- killed while acting
    rcases alone (s.modifyAgent p decayNeeds) p with kept | killed
    · rw [kept.alive] at acted
      exact absurd acted starved
    · exact ⟨[p], (decayed.kills killed).buries (handleAgentDeath_processed _ p)⟩
  · rcases alone (s.modifyAgent p decayNeeds) p with kept | killed
    · exact ⟨[], (decayed.trans kept).buries⟩
    · exact absurd killed.dead acted

theorem tickMinute_buries (shuffle : ℕ → List AgentRef → List AgentRef)
    {act : Simulation → AgentRef → Simulation} (alone : ActsAlone act) (tick : ℕ) (s : Simulation) :
    ∃ died, Buries s (tickMinute shuffle act tick s) died := by
  -- recording the tick and reordering `Agents` touch no life
  have prepared : ∀ t : Simulation, LivesKept s t →
      ∃ died, Buries s (t.agents.foldl (tickMinuteAgent act) t) died := by
    intro t kept
    obtain ⟨died, buried⟩ := buries_foldl (tickMinuteAgent_buries alone) t.agents t
    exact ⟨died ++ [], kept.buries.trans buried⟩
  unfold tickMinute
  dsimp only
  split_ifs
  · exact prepared _ ⟨fun _ => rfl, rfl, rfl⟩
  · exact prepared _ ⟨fun _ => rfl, rfl, rfl⟩

theorem witnessNaturalDeath_livesKept (a : Agent) (s : Simulation) :
    LivesKept s (witnessNaturalDeath a s) := by
  unfold witnessNaturalDeath
  split
  · exact LivesKept.refl s
  · split_ifs
    · exact touchWitnesses_livesKept _ _ _ _ _
    · exact touchWitnesses_livesKept _ _ _ _ _

theorem naturalDeath_buries (alive : (s.agentAt p).alive = true) :
    Buries s (s.naturalDeath p) [p] := by
  have killed := kills_modifyAgent s p (fun a => { a with alive := false, health := 0 }) alive rfl
  -- the spirit pool is not a life
  have spirit : ∀ (sage : Prop) [Decidable sage] (t : Simulation),
      LivesKept t (if sage then t.addLiberatedSpirit else t) := by
    intro sage _ t
    split_ifs
    · exact ⟨fun _ => rfl, rfl, rfl⟩
    · exact LivesKept.refl t
  unfold naturalDeath
  exact killed.buries ((inheritWealth_processed p (spirit _ _)).livesKept
    (witnessNaturalDeath_livesKept _ _))

theorem illnessCheck_buries (alive : (s.agentAt p).alive = true) :
    ∃ died, Buries s (s.illnessCheck p) died := by
  have weakened : LivesKept s (s.modifyAgent p fun a => { a with health := a.health - 0.01 }) :=
    livesKept_modifyAgent s p rfl
  unfold illnessCheck
  dsimp only
  split_ifs
  · -- the illness is fatal
    have killed := kills_modifyAgent _ p (fun a => { a with alive := false })
      ((weakened.alive p).trans alive) rfl
    exact ⟨[p], (weakened.kills killed).buries (inheritWealth_processed p (LivesKept.refl _))⟩
  · exact ⟨[], weakened.buries⟩
  · exact ⟨[], Buries.refl s⟩

theorem naturalDeathCheck_buries (simDay : ℕ) (s : Simulation) (p : AgentRef) :
    ∃ died, Buries s (naturalDeathCheck simDay s p) died := by
  unfold naturalDeathCheck
  dsimp only
  split_ifs with dead
  · exact ⟨[], Buries.refl s⟩
  · exact ⟨[p], naturalDeath_buries (by simpa using dead)⟩
  · exact illnessCheck_buries (by simpa using dead)

theorem processNaturalDeaths_buries (tick : ℕ) (s : Simulation) :
    ∃ died, Buries s (processNaturalDeaths tick s) died :=
  buries_foldl (naturalDeathCheck_buries _) s.agents s

theorem casualtyLoop_buries (tick : ℕ) (targetCasualties : ℤ) :
    ∀ (soldiers : List AgentRef) (acc : Simulation × ℕ),
      ∃ died, Buries acc.1 (casualtyLoop tick targetCasualties acc soldiers).1 died
  | [], acc => ⟨[], Buries.refl acc.1⟩
  | p :: rest, (s, casualties) => by
    unfold casualtyLoop
    dsimp only
    split_ifs with full dead hit
    · exact ⟨[], Buries.refl s⟩
    · exact casualtyLoop_buries tick targetCasualties rest (s, casualties)
    · -- a casualty, handed to `handleAgentDeath`
      have killed := kills_modifyAgent s p (fun a => { a with alive := false })
        (by simpa using dead) rfl
      obtain ⟨died, later⟩ := casualtyLoop_buries tick targetCasualties rest
        ((s.modifyAgent p fun a => { a with alive := false }).handleAgentDeath p, casualties + 1)
      exact ⟨died ++ [p], (killed.buries (handleAgentDeath_processed _ p)).trans later⟩
    · exact casualtyLoop_buries tick targetCasualties rest (s, casualties)

theorem applyCasualties_buries (tick : ℕ) (soldiers : List AgentRef) (rate : ℚ) (s : Simulation) :
    ∃ died, Buries s (applyCasualties tick soldiers rate s).1 died := by
  unfold applyCasualties
  split
  · exact ⟨[], Buries.refl s⟩
  · exact casualtyLoop_buries tick _ soldiers (s, 0)

/-! ## Runs -/

/-- Every step of a run processes its deaths exactly once. -/
theorem lifeStep_processesDeaths (step : LifeStep s t) : ∃ died, ProcessesDeaths s t died := by
  cases step with
  | minute shuffle alone tick =>
    obtain ⟨died, buried⟩ := tickMinute_buries shuffle alone tick s
    exact ⟨died, buried.processesDeaths⟩
  | natural tick =>
    obtain ⟨died, buried⟩ := processNaturalDeaths_buries tick s
    exact ⟨died, buried.processesDeaths⟩
  | battle tick soldiers rate =>
    obtain ⟨died, buried⟩ := applyCasualties_buries tick soldiers rate s
    exact ⟨died, buried.processesDeaths⟩
  | quiet kept => exact ⟨[], kept.processesDeaths⟩

/-- Over a run whose steps each process their deaths exactly once, the agents
that die are listed once each, all still dead at the end, inherited and
counted once each. -/
theorem run_processesDeaths {run : ℕ → Simulation} :
    ∀ n, (∀ i < n, ∃ died, ProcessesDeaths (run i) (run (i + 1)) died) →
      ∃ died : List AgentRef, died.Nodup ∧ (∀ p ∈ died, ((run n).agentAt p).alive = false) ∧
        (run n).inheritLog = died ++ (run 0).inheritLog ∧
        (run n).registry.deaths = (run 0).registry.deaths + died.length ∧
        ∀ p, p ∈ died ↔ ∃ i < n, Dies (run i) (run (i + 1)) p
  | 0, _ => ⟨[], List.nodup_nil, by simp, by simp, by simp, by simp⟩
  | n + 1, steps => by
    obtain ⟨died, nodup, dead, inherited, counted, dying⟩ :=
      run_processesDeaths n fun i below => steps i (Nat.lt_succ_of_lt below)
    obtain ⟨last, step⟩ := steps n (Nat.lt_succ_self n)
    refine ⟨last ++ died, ?_, ?_, ?_, ?_, ?_⟩
    · refine List.nodup_append.mpr ⟨step.nodup, nodup, ?_⟩
      intro p now p' before same
      subst same
      have aliveNow := ((step.mem_iff p).mp now).1
      rw [dead p before] at aliveNow
      exact Bool.false_ne_true aliveNow
    · -- the earlier dead were inherited, and an inherited dead agent stays dead
      intro p member
      rcases List.mem_append.mp member with now | before
      · exact ((step.mem_iff p).mp now).2
      · exact step.buried p (inherited ▸ List.mem_append_left _ before) (dead p before)
    · rw [step.inherited, inherited, List.append_assoc]
    · rw [step.counted, counted, List.length_append]
      push_cast
      ring
    · intro p
      rw [List.mem_append, step.mem_iff, dying]
      constructor
      · rintro (now | ⟨i, below, earlier⟩)
        · exact ⟨n, Nat.lt_succ_self n, now⟩
        · exact ⟨i, Nat.lt_succ_of_lt below, earlier⟩
      · rintro ⟨i, below, dies⟩
        rcases Nat.lt_succ_iff_lt_or_eq.mp below with earlier | rfl
        · exact .inr ⟨i, earlier, dies⟩
        · exact .inl dies

/-- Deaths are processed exactly once.  In every step of a run of minutes,
natural deaths, battles and quiet steps, the agents whose `Alive` flag is
cleared are each counted once in `Deaths` and passed once to `inheritWealth`
in that step; and over the whole run `Deaths` grows by exactly the number of
agents whose flag went from true to false, and the agents inherited are those
agents, each once. -/
theorem deaths_processed_once {run : ℕ → Simulation} {n : ℕ}
    (steps : ∀ i < n, LifeStep (run i) (run (i + 1))) :
    (∀ i < n, ∃ died, ProcessesDeaths (run i) (run (i + 1)) died) ∧
      ∃ died : List AgentRef, died.Nodup ∧
        (run n).inheritLog = died ++ (run 0).inheritLog ∧
        (run n).registry.deaths = (run 0).registry.deaths + died.length ∧
        ∀ p, p ∈ died ↔ ∃ i < n, Dies (run i) (run (i + 1)) p := by
  have each : ∀ i < n, ∃ died, ProcessesDeaths (run i) (run (i + 1)) died :=
    fun i below => lifeStep_processesDeaths (steps i below)
  obtain ⟨died, nodup, -, inherited, counted, dying⟩ := run_processesDeaths n each
  exact ⟨each, died, nodup, inherited, counted, dying⟩

/-- Buying food touches no life. -/
theorem resolveBuyFood_livesKept (s : Simulation) (p : AgentRef) :
    LivesKept s (s.resolveBuyFood p) := by
  have fed : ∀ (t : Simulation) (good : GoodType) (delta : ℤ) (bump : NeedsState → NeedsState),
      LivesKept t ((t.addInventory p good delta).bumpNeeds p bump) :=
    fun t _ _ _ => (livesKept_modifyAgent t p rfl).trans (livesKept_modifyAgent _ p rfl)
  unfold resolveBuyFood
  split
  · exact fed s _ _ _
  · split
    · exact fed s _ _ _
    · split
      · exact fed s _ _ _
      · dsimp only
        split_ifs
        · exact ((livesKept_modifyAgent s p rfl).trans (livesKept_modifySettlement _ _ _)).trans
            (fed _ _ _ _)
        · exact fed s _ _ _

/-- The minutes of a run in which every agent buys food, from `start`. -/
def buyingMinutes (start : Simulation) : ℕ → Simulation
  | 0 => start
  | i + 1 => tickMinute (fun _ agents => agents) (fun s p => s.resolveBuyFood p) (i + 1)
      (buyingMinutes start i)

/-- An adult at its last hundredth of health with nothing eaten: `DecayNeeds`
starves it to death in its first minute. -/
def starvingAgent : Agent :=
  { (default : Agent) with alive := true, age := 30, health := 1 / 100, needs := ⟨0, 1, 1, 1, 1⟩ }

/-- A hamlet of one starving agent and no settlement. -/
def starvingHamlet : Simulation := newSimulation (fun _ => none) [starvingAgent] []

theorem starvingHamlet_processes_deaths :
    (∀ i < 60, LifeStep (buyingMinutes starvingHamlet i) (buyingMinutes starvingHamlet (i + 1))) ∧
      Dies (buyingMinutes starvingHamlet 0) (buyingMinutes starvingHamlet 1) 0 ∧
      (buyingMinutes starvingHamlet 1).registry.deaths = 1 ∧
      ((∀ i < 60, ∃ died, ProcessesDeaths (buyingMinutes starvingHamlet i)
          (buyingMinutes starvingHamlet (i + 1)) died) ∧
        ∃ died : List AgentRef, died.Nodup ∧
          (buyingMinutes starvingHamlet 60).inheritLog = died ++ (buyingMinutes starvingHamlet 0).inheritLog ∧
          (buyingMinutes starvingHamlet 60).registry.deaths =
            (buyingMinutes starvingHamlet 0).registry.deaths + died.length ∧
          ∀ p, p ∈ died ↔ ∃ i < 60, Dies (buyingMinutes starvingHamlet i)
            (buyingMinutes starvingHamlet (i + 1)) p) := by
  have steps : ∀ i < 60, LifeStep (buyingMinutes starvingHamlet i) (buyingMinutes starvingHamlet (i + 1)) :=
    fun i _ => LifeStep.minute _ (fun s p => .inl (resolveBuyFood_livesKept s p)) (i + 1) _
  -- the agent dies in the first minute, and that death is counted
  have starved : Dies (buyingMinutes starvingHamlet 0) (buyingMinutes starvingHamlet 1) 0 :=
    ⟨rfl, by decide +kernel⟩
  exact ⟨steps, starved, by decide +kernel, deaths_processed_once steps⟩

end Lives

end Simulation

end MiniWorld.Engine
