import MiniWorld.Engine.Migration

/-! # What an agent's actions do to its goods (`internal/agents/behavior.go` lines 145–453,
`contemplation.go` lines 120–138, `internal/engine/production.go`)

`ApplyAction` runs the Tier-0 actions.  Eating, and eating on the road, take a
unit of fish, else of grain, only when one is held; work produces by
occupation, and a crafter, an alchemist or a scholar turns materials into goods
only by a recipe whose materials are all held.  `ResolveWork` draws a
producer's work from the land of a hex and credits whole units from a
fractional accumulator, and `DecayInventory` spoils food and wears tools,
clamping at zero.  So every write that takes goods away is guarded by the same
good, or clamped: an agent that holds no negative quantity never comes to hold
one (`applyAction_stocked`, `resolveWork_stocked`, `decayInventory_stocked`).

Floats are rationals and `int(x)` truncates toward zero (`goInt`).  Not
modelled: the events these functions return, `Wellbeing` with
`ApplyDirectSatBump`, and a practising soul's `WisdomEffort`; the random draw
of an insight is a parameter.
-/

namespace MiniWorld.Agents

/-- `Inventory[good] += delta`. -/
def GoodInventory.add (inventory : GoodInventory) (good : GoodType) (delta : ℤ) : GoodInventory :=
  Function.update inventory good (inventory good + delta)

/-- No good is held in a negative quantity, in the inventory or the cargo. -/
structure Agent.Stocked (a : Agent) : Prop where
  inventory : ∀ good, 0 ≤ a.inventory good
  cargo : ∀ good, 0 ≤ a.tradeCargo good

section Stock

variable {inventory : GoodInventory} {good : GoodType} {delta : ℤ}

theorem GoodInventory.add_apply (g : GoodType) :
    inventory.add good delta g = inventory g + if g = good then delta else 0 := by
  by_cases same : g = good
  · subst same
    simp [GoodInventory.add]
  · simp [GoodInventory.add, same]

@[simp] theorem GoodInventory.add_self : inventory.add good delta good = inventory good + delta := by
  simp [GoodInventory.add]

theorem GoodInventory.add_of_ne {other : GoodType} (different : other ≠ good) :
    inventory.add good delta other = inventory other := by
  simp [GoodInventory.add, different]

/-- A write keeps every quantity non-negative when it leaves the written one so. -/
theorem GoodInventory.add_nonneg (held : ∀ g, 0 ≤ inventory g) (covered : 0 ≤ inventory good + delta) :
    ∀ g, 0 ≤ inventory.add good delta g := by
  intro g
  by_cases same : g = good
  · subst same
    rw [GoodInventory.add_self]
    exact covered
  · rw [GoodInventory.add_of_ne same]
    exact held g

theorem GoodInventory.add_nonneg_of_nonneg (held : ∀ g, 0 ≤ inventory g) (added : 0 ≤ delta) :
    ∀ g, 0 ≤ inventory.add good delta g :=
  GoodInventory.add_nonneg held (Int.add_nonneg (held good) added)

/-- A change of the inventory alone keeps the stock when the new inventory is
non-negative. -/
theorem Agent.Stocked.of_inventory {a b : Agent} (stocked : a.Stocked) (cargo : b.tradeCargo = a.tradeCargo)
    (held : ∀ g, 0 ≤ b.inventory g) : b.Stocked :=
  ⟨held, fun g => cargo ▸ stocked.cargo g⟩

theorem Agent.Stocked.of_goods {a b : Agent} (stocked : a.Stocked) (goods : b.inventory = a.inventory)
    (cargo : b.tradeCargo = a.tradeCargo) : b.Stocked :=
  stocked.of_inventory cargo (goods ▸ stocked.inventory)

/-- A write of one good to an agent keeps its stock when it leaves that good
non-negative. -/
theorem Agent.Stocked.add {a b : Agent} (stocked : a.Stocked) (cargo : b.tradeCargo = a.tradeCargo)
    (goods : b.inventory = a.inventory.add good delta) (covered : 0 ≤ a.inventory good + delta) : b.Stocked :=
  stocked.of_inventory cargo (goods ▸ GoodInventory.add_nonneg stocked.inventory covered)

/-- Setting one good to a non-negative quantity keeps the stock. -/
theorem Agent.Stocked.update {a b : Agent} {value : ℤ} (stocked : a.Stocked) (cargo : b.tradeCargo = a.tradeCargo)
    (goods : b.inventory = Function.update a.inventory good value) (nonneg : 0 ≤ value) : b.Stocked := by
  refine stocked.of_inventory cargo fun g => ?_
  rw [goods]
  by_cases same : g = good
  · subst same
    rw [Function.update_self]
    exact nonneg
  · rw [Function.update_of_ne same]
    exact stocked.inventory g

theorem Agent.Stocked.withNeeds {a : Agent} (stocked : a.Stocked) (needs : NeedsState) :
    Agent.Stocked { a with needs := needs } :=
  ⟨stocked.inventory, stocked.cargo⟩

end Stock

/-- `b` is `a` after an action of its own: the same `ID`, home and `Alive` flag, and a coherence
in the unit interval when `a`'s is. -/
structure Agent.Kept (a b : Agent) : Prop where
  id : b.id = a.id
  home : b.homeSettID = a.homeSettID
  alive : b.alive = a.alive
  soul : 0 ≤ a.soul.cittaCoherence ∧ a.soul.cittaCoherence ≤ 1 →
    0 ≤ b.soul.cittaCoherence ∧ b.soul.cittaCoherence ≤ 1

theorem Agent.Kept.refl (a : Agent) : a.Kept a := ⟨rfl, rfl, rfl, fun unit => unit⟩

theorem Agent.Kept.trans {a b c : Agent} (first : a.Kept b) (second : b.Kept c) : a.Kept c :=
  ⟨second.id.trans first.id, second.home.trans first.home, second.alive.trans first.alive,
    fun unit => second.soul (first.soul unit)⟩

theorem Agent.Kept.of_soul {a b : Agent} (sameID : b.id = a.id) (sameHome : b.homeSettID = a.homeSettID)
    (sameAlive : b.alive = a.alive) (sameSoul : b.soul = a.soul) : a.Kept b :=
  ⟨sameID, sameHome, sameAlive, fun unit => sameSoul ▸ unit⟩

theorem Agent.Kept.withNeeds {a b : Agent} (kept : a.Kept b) (needs : NeedsState) :
    a.Kept { b with needs := needs } :=
  ⟨kept.id, kept.home, kept.alive, kept.soul⟩

end MiniWorld.Agents

namespace MiniWorld.Engine

open MiniWorld.Agents MiniWorld.Phi

inductive ActionKind where
  | idle | eat | work | forage | trade | travel | rest | socialize | buyFood | contemplate
  deriving DecidableEq, Repr, Inhabited

/-- `int(x)` of a float: truncation toward zero. -/
def goInt (x : ℚ) : ℤ := if x < 0 then ⌈x⌉ else ⌊x⌋

/-- `produced := int(x); if produced < 1 { produced = 1 }`. -/
def atLeastOne (x : ℚ) : ℤ :=
  let produced := goInt x
  if produced < 1 then 1 else produced

theorem goInt_nonneg {x : ℚ} (nonneg : 0 ≤ x) : 0 ≤ goInt x := by
  rw [goInt, if_neg (not_lt.mpr nonneg)]
  exact Int.floor_nonneg.mpr nonneg

theorem atLeastOne_pos (x : ℚ) : 0 < atLeastOne x := by
  unfold atLeastOne
  dsimp only
  split_ifs with small
  · exact Int.one_pos
  · omega

/-! ## `ApplyAction` -/

/-- `applyEat`: a unit of fish, else of grain, when one is held, and the needs
of a meal; `Safety` is not clamped. -/
def applyEat (a : Agent) : Agent :=
  let inventory :=
    if a.inventory goodFish > 0 then a.inventory.add goodFish (-1)
    else if a.inventory goodGrain > 0 then a.inventory.add goodGrain (-1)
    else a.inventory
  let survival := a.needs.survival + 0.2
  let belonging := a.needs.belonging + 0.001
  { a with
    inventory := inventory
    needs := { a.needs with
      survival := if survival > 1 then 1 else survival
      belonging := if belonging > 1 then 1 else belonging
      safety := a.needs.safety + 0.003 } }

/-- One crafting recipe of `applyWork`: two of `first` and one of `second` make
a unit of `output`, two for a skilled crafter whose `ID` is a multiple of three. -/
def craft (first second output : GoodType) (a : Agent) : Agent :=
  let produced : ℤ := if a.craftingSkill > 0.5 ∧ a.id % 3 = 0 then 2 else 1
  { a with
    inventory := ((a.inventory.add first (-2)).add second (-1)).add output produced
    craftingSkill := a.craftingSkill + 0.002 }

/-- A crafter or an alchemist with nothing to craft feels purposeless. -/
def idleCraft (a : Agent) : Agent :=
  { a with needs := { a.needs with purpose := a.needs.purpose - 0.001 } }

/-- The crafter's case of `applyWork`: the first recipe whose materials are held. -/
def crafterWork (a : Agent) : Agent :=
  if a.inventory goodIronOre ≥ 2 ∧ a.inventory goodTimber ≥ 1 then craft goodIronOre goodTimber goodTools a
  else if a.inventory goodIronOre ≥ 2 ∧ a.inventory goodCoal ≥ 1 then
    craft goodIronOre goodCoal goodWeapons a
  else if a.inventory goodFurs ≥ 2 ∧ a.inventory goodTools ≥ 1 then craft goodFurs goodTools goodClothing a
  else if a.inventory goodGems ≥ 2 ∧ a.inventory goodTools ≥ 1 then craft goodGems goodTools goodLuxuries a
  else idleCraft a

/-- The alchemist's case: medicine from two herbs, else luxuries from two
exotics and a herb. -/
def alchemistWork (a : Agent) : Agent :=
  if a.inventory goodHerbs ≥ 2 then
    { a with
      inventory := (a.inventory.add goodHerbs (-2)).add goodMedicine 1
      craftingSkill := a.craftingSkill + 0.002 }
  else if a.inventory goodExotics ≥ 2 ∧ a.inventory goodHerbs ≥ 1 then
    { a with
      inventory := ((a.inventory.add goodExotics (-2)).add goodHerbs (-1)).add goodLuxuries 1
      craftingSkill := a.craftingSkill + 0.002 }
  else idleCraft a

/-- The scholar's case: a little coherence from study, and medicine from a herb. -/
def scholarWork (a : Agent) : Agent :=
  let a := { a with soul := a.soul.adjustCoherence (agnosis * 0.0000003) }
  if a.inventory goodHerbs ≥ 1 then
    { a with
      inventory := (a.inventory.add goodHerbs (-1)).add goodMedicine 1
      craftingSkill := a.craftingSkill + 0.001 }
  else a

/-- A fisher's skill: the better of farming and combat, at least a half. -/
def fishSkill (a : Agent) : ℚ :=
  let skill := if a.combatSkill > a.farmingSkill then a.combatSkill else a.farmingSkill
  if skill < 0.5 then 0.5 else skill

/-- The occupation switch of `applyWork`. -/
def occupationWork (a : Agent) : Agent :=
  match a.occupation with
  | .farmer =>
    { a with
      inventory := a.inventory.add goodGrain (atLeastOne (a.farmingSkill * 3))
      farmingSkill := a.farmingSkill + 0.001 }
  | .miner =>
    { a with
      inventory := a.inventory.add goodIronOre (atLeastOne (a.miningSkill * 2))
      miningSkill := a.miningSkill + 0.001 }
  | .fisher =>
    { a with
      inventory := a.inventory.add goodFish (atLeastOne (fishSkill a * 5))
      farmingSkill := a.farmingSkill + 0.001 }
  | .hunter => { a with inventory := a.inventory.add goodFurs 1, combatSkill := a.combatSkill + 0.001 }
  | .crafter => crafterWork a
  | .alchemist => alchemistWork a
  | .laborer =>
    { a with
      inventory := a.inventory.add goodStone (atLeastOne (a.miningSkill * 3))
      miningSkill := a.miningSkill + 0.001 }
  | .merchant => { a with tradeSkill := a.tradeSkill + 0.001 }
  | .soldier =>
    { a with
      combatSkill := a.combatSkill + 0.002
      needs := { a.needs with
        purpose := a.needs.purpose + 0.005, belonging := a.needs.belonging + 0.004
        safety := a.needs.safety + 0.003, survival := a.needs.survival + 0.001 } }
  | .scholar => scholarWork a

/-- `applyWork`: the occupation's work, then the needs of working, clamped. -/
def applyWork (a : Agent) : Agent :=
  let a := occupationWork a
  { a with
    needs := clampNeeds { a.needs with
      esteem := a.needs.esteem + 0.01, safety := a.needs.safety + 0.005
      belonging := a.needs.belonging + 0.003, purpose := a.needs.purpose + 0.002 } }

/-- A meal on the road: a unit of `good` and the needs it meets. -/
def roadMeal (good : GoodType) (a : Agent) : Agent :=
  { a with
    inventory := a.inventory.add good (-1)
    needs := { a.needs with
      survival := a.needs.survival + 0.2, belonging := a.needs.belonging + 0.001
      safety := a.needs.safety + 0.003 } }

/-- `applyTravel`: a hungry traveller eats fish, else grain, when one is held;
travel is work. -/
def applyTravel (a : Agent) : Agent :=
  let a :=
    if a.needs.survival < 0.5 then
      if a.inventory goodFish > 0 then roadMeal goodFish a
      else if a.inventory goodGrain > 0 then roadMeal goodGrain a
      else a
    else a
  { a with
    needs := clampNeeds { a.needs with
      esteem := a.needs.esteem + 0.005, safety := a.needs.safety + 0.003
      belonging := a.needs.belonging + 0.002, purpose := a.needs.purpose + 0.003 } }

/-- `applyForage`: one grain from the land. -/
def applyForage (a : Agent) : Agent :=
  { a with
    inventory := a.inventory.add goodGrain 1
    needs := clampNeeds { a.needs with
      survival := a.needs.survival + 0.05, belonging := a.needs.belonging + 0.001
      safety := a.needs.safety + 0.002 } }

def applyRest (a : Agent) : Agent :=
  let health := a.health + 0.05
  { a with
    health := if health > 1 then 1 else health
    needs := clampNeeds { a.needs with survival := a.needs.survival + 0.02 } }

def applySocialize (a : Agent) : Agent :=
  { a with
    needs := clampNeeds { a.needs with
      belonging := a.needs.belonging + 0.05, safety := a.needs.safety + 0.003
      purpose := a.needs.purpose + 0.002 } }

def samathaPerTick : ℚ := 0.0005

def insightCoherenceGain : ℚ := 0.025

/-- `applyContemplate`; `insight` is the draw `rng.Float64() < InsightProb`. -/
def applyContemplate (insight : Bool) (a : Agent) : Agent :=
  let soul := a.soul.adjustCoherenceUncapped samathaPerTick
  let soul := if insight then soul.adjustCoherenceUncapped insightCoherenceGain else soul
  let belonging := a.needs.belonging + agnosis * 0.001
  let purpose := a.needs.purpose + agnosis * 0.001
  { a with
    soul := soul
    needs := { a.needs with
      belonging := if belonging > 1 then 1 else belonging
      purpose := if purpose > 1 then 1 else purpose } }

/-- `ApplyAction`; a trade is handled by the world, and a purchase of food by
`resolveBuyFood` before `ApplyAction` is reached. -/
def applyAction (kind : ActionKind) (insight : Bool) (a : Agent) : Agent :=
  match kind with
  | .eat => applyEat a
  | .work => applyWork a
  | .forage => applyForage a
  | .rest => applyRest a
  | .socialize => applySocialize a
  | .travel => applyTravel a
  | .contemplate => applyContemplate insight a
  | .idle | .trade | .buyFood => a

/-! ## `ResolveWork` -/

/-- The `ResourceType` index of a resource `occupationResource` names. -/
def Resource.resourceType : Resource → ResourceType
  | .grain => resourceGrain
  | .ironOre => resourceIronOre
  | .stone => resourceStone
  | .fish => resourceFish
  | .furs => resourceFurs
  | .herbs => resourceHerbs

/-- `productionAmount`: a producer's full output of a tick. -/
def productionAmount (a : Agent) : ℤ :=
  match a.occupation with
  | .farmer => atLeastOne (a.farmingSkill * 3)
  | .miner => atLeastOne (a.miningSkill * 2)
  | .fisher => atLeastOne (fishSkill a * 5)
  | .hunter => atLeastOne (a.combatSkill * 2)
  | .laborer => atLeastOne (a.miningSkill * 3)
  | .alchemist => atLeastOne (a.craftingSkill * 2)
  | _ => 1

def occupationGood : Occupation → GoodType
  | .farmer => goodGrain
  | .miner => goodIronOre
  | .fisher => goodFish
  | .hunter => goodFurs
  | .laborer => goodStone
  | .alchemist => goodHerbs
  | _ => goodGrain

def applySkillGrowth (a : Agent) : Agent :=
  match a.occupation with
  | .farmer | .fisher => { a with farmingSkill := a.farmingSkill + 0.001 }
  | .miner | .laborer => { a with miningSkill := a.miningSkill + 0.001 }
  | .hunter => { a with combatSkill := a.combatSkill + 0.001 }
  | .alchemist => { a with craftingSkill := a.craftingSkill + 0.001 }
  | _ => a

/-- The needs of a worker whose land failed it. -/
def barrenWorkNeeds (n : NeedsState) : NeedsState :=
  Simulation.clampAgentNeeds { n with
    safety := n.safety + 0.004, belonging := n.belonging + 0.002
    esteem := n.esteem + 0.001, purpose := n.purpose + 0.001 }

/-- The whole units of the accumulator, credited as goods: the occupation's
good, a coal per unit for a miner, and one exotic for an alchemist while the
hex has one. -/
def creditUnits (a : Agent) (land : HexLand) : Agent × HexLand :=
  let units := goInt a.productionProgress
  let a := { a with
    productionProgress := a.productionProgress - units
    inventory := a.inventory.add (occupationGood a.occupation) units }
  let a := if a.occupation = .miner then { a with inventory := a.inventory.add goodCoal units } else a
  if a.occupation = .alchemist ∧ land.resources resourceExotics ≥ 1 then
    ({ a with inventory := a.inventory.add goodExotics 1 },
      { land with
        resources := Function.update land.resources resourceExotics (land.resources resourceExotics - 1) })
  else (a, land)

/-- The accumulator is credited once it holds a whole unit. -/
def creditIfGrown (a : Agent) (land : HexLand) : Agent × HexLand :=
  if a.productionProgress ≥ 1 then creditUnits a land else (a, land)

/-- A laborer restores the health of the hex it works. -/
def restoreLand (a : Agent) (land : HexLand) : HexLand :=
  if a.occupation = .laborer ∧ land.health < 1 then
    let health := land.health + agnosis * 0.005
    { land with health := if health > 1 then 1 else health }
  else land

/-- A producer's extraction from the land of its hex, once there is something
to extract: the land is depleted and worn, the accumulator grows, whole units
are credited, and the worker's skill and needs grow. -/
def extract (tick : ℕ) (coherenceMod conservationMod : ℚ) (resType : ResourceType)
    (fullProduction producedFloat : ℚ) (a : Agent) (land : HexLand) : Agent × HexLand :=
  let depleted := land.resources resType - producedFloat
  let extractionFraction := producedFloat / fullProduction
  let health := land.health - agnosis * 0.001 * extractionFraction * conservationMod * coherenceMod
  let land := { land with
    resources := Function.update land.resources resType (if depleted < 0 then 0 else depleted)
    health := if health < 0 then 0 else health
    lastExtractedTick := tick }
  let a := { a with lastWorkTick := tick, productionProgress := a.productionProgress + producedFloat }
  let credited := creditIfGrown a land
  let a := applySkillGrowth credited.1
  ({ a with
      needs := Simulation.clampAgentNeeds { a.needs with
        esteem := a.needs.esteem + 0.012, safety := a.needs.safety + 0.008
        belonging := a.needs.belonging + 0.004, purpose := a.needs.purpose + 0.004
        survival := a.needs.survival + 0.006 } },
    restoreLand credited.1 credited.2)

/-- The extraction case of `ResolveWork`, on the land of a hex: nothing when
the resource is depleted or the share is negligible, else an extraction of the
full production, boosted, or what is left. -/
def workLand (tick : ℕ) (boostMul coherenceMod conservationMod : ℚ) (resType : ResourceType) (a : Agent)
    (land : HexLand) : Agent × Option HexLand :=
  let available := land.resources resType
  if available < 0.01 then ({ a with needs := barrenWorkNeeds a.needs }, some land)
  else
    let fullProduction : ℚ := productionAmount a
    let fullProduction := if boostMul > 1 then fullProduction * boostMul else fullProduction
    let producedFloat := min fullProduction available
    if producedFloat < 0.01 then ({ a with needs := barrenWorkNeeds a.needs }, some land)
    else
      let worked := extract tick coherenceMod conservationMod resType fullProduction producedFloat a land
      (worked.1, some worked.2)

/-- `ResolveWork`, on the land of the hex `bestProductionHex` chose (`none`
when there is none); it returns the worker and the land. -/
def resolveWork (kind : ActionKind) (insight : Bool) (tick : ℕ) (boostMul coherenceMod conservationMod : ℚ)
    (a : Agent) (hex : Option HexLand) : Agent × Option HexLand :=
  if kind ≠ .work then (applyAction kind insight a, hex)
  -- an alchemist with herbs crafts from its inventory
  else if a.occupation = .alchemist ∧ a.inventory goodHerbs ≥ 1 then (applyAction kind insight a, hex)
  else
    match occupationResource a.occupation with
    | none => (applyAction kind insight a, hex)
    | some res =>
      match hex with
      | none => ({ a with needs := barrenWorkNeeds a.needs }, none)
      | some land => workLand tick boostMul coherenceMod conservationMod res.resourceType a land

/-! ## `DecayInventory` -/

/-- `decayGood`: the whole part of `qty·rate` is lost, nothing while it is
below one, and the quantity is clamped at zero. -/
def decayGood (good : GoodType) (rate : ℚ) (a : Agent) : Agent :=
  let qty := a.inventory good
  if qty ≤ 0 then a
  else
    let loss := (qty : ℚ) * rate
    let intLoss := goInt loss
    if intLoss < 1 ∧ loss > 0 then a
    else
      let reduced := qty - intLoss
      { a with inventory := Function.update a.inventory good (if reduced < 0 then 0 else reduced) }

/-- `DecayInventory`: food, herbs and medicine spoil, tools and weapons wear. -/
def decayInventory (a : Agent) : Agent :=
  let foodDecayRate := agnosis * 0.1
  let herbDecayRate := agnosis * 0.05
  let medDecayRate := agnosis * 0.05
  let durableDecayRate := agnosis * 0.01
  decayGood goodWeapons durableDecayRate <| decayGood goodTools durableDecayRate <|
    decayGood goodMedicine medDecayRate <| decayGood goodHerbs herbDecayRate <|
      decayGood goodFish foodDecayRate <| decayGood goodGrain foodDecayRate a

/-! ## The stock is kept -/

section Stocked

variable {a : Agent}

theorem applyEat_stocked (stocked : a.Stocked) : (applyEat a).Stocked := by
  refine stocked.of_inventory rfl ?_
  dsimp only [applyEat]
  split_ifs with fish grain
  · exact GoodInventory.add_nonneg stocked.inventory (by omega)
  · exact GoodInventory.add_nonneg stocked.inventory (by omega)
  · exact stocked.inventory

/-- A recipe whose two materials are different goods, both held in the
quantities it takes, keeps the stock. -/
theorem craft_stocked {first second output : GoodType} (distinct : second ≠ first) (stocked : a.Stocked)
    (firstHeld : 2 ≤ a.inventory first) (secondHeld : 1 ≤ a.inventory second) :
    (craft first second output a).Stocked := by
  refine stocked.of_inventory rfl ?_
  -- two of the first material, then one of the second, then the output
  have firstTaken : ∀ g, 0 ≤ a.inventory.add first (-2) g :=
    GoodInventory.add_nonneg stocked.inventory (by omega)
  have secondTaken : ∀ g, 0 ≤ (a.inventory.add first (-2)).add second (-1) g := by
    apply GoodInventory.add_nonneg firstTaken
    rw [GoodInventory.add_of_ne distinct]
    omega
  exact GoodInventory.add_nonneg_of_nonneg secondTaken (by split_ifs <;> omega)

theorem idleCraft_stocked (stocked : a.Stocked) : (idleCraft a).Stocked := stocked.of_goods rfl rfl

theorem crafterWork_stocked (stocked : a.Stocked) : (crafterWork a).Stocked := by
  unfold crafterWork
  split_ifs with tools weapons clothing luxuries
  · exact craft_stocked (by decide) stocked tools.1 tools.2
  · exact craft_stocked (by decide) stocked weapons.1 weapons.2
  · exact craft_stocked (by decide) stocked clothing.1 clothing.2
  · exact craft_stocked (by decide) stocked luxuries.1 luxuries.2
  · exact idleCraft_stocked stocked

theorem alchemistWork_stocked (stocked : a.Stocked) : (alchemistWork a).Stocked := by
  unfold alchemistWork
  split_ifs with medicine luxuries
  · -- two herbs make a medicine
    refine stocked.of_inventory rfl ?_
    have herbsTaken : ∀ g, 0 ≤ a.inventory.add goodHerbs (-2) g :=
      GoodInventory.add_nonneg stocked.inventory (by omega)
    exact GoodInventory.add_nonneg_of_nonneg herbsTaken (by omega)
  · -- two exotics and a herb make a luxury
    refine stocked.of_inventory rfl ?_
    have exoticsTaken : ∀ g, 0 ≤ a.inventory.add goodExotics (-2) g :=
      GoodInventory.add_nonneg stocked.inventory (by omega)
    have herbTaken : ∀ g, 0 ≤ (a.inventory.add goodExotics (-2)).add goodHerbs (-1) g := by
      apply GoodInventory.add_nonneg exoticsTaken
      rw [GoodInventory.add_of_ne (by decide)]
      omega
    exact GoodInventory.add_nonneg_of_nonneg herbTaken (by omega)
  · exact idleCraft_stocked stocked

theorem scholarWork_stocked (stocked : a.Stocked) : (scholarWork a).Stocked := by
  unfold scholarWork
  dsimp only
  split_ifs with herb
  · refine stocked.of_inventory rfl ?_
    have herbTaken : ∀ g, 0 ≤ a.inventory.add goodHerbs (-1) g :=
      GoodInventory.add_nonneg stocked.inventory (by omega)
    exact GoodInventory.add_nonneg_of_nonneg herbTaken (by omega)
  · exact stocked.of_goods rfl rfl

/-- Work by any occupation keeps the stock: producers only add, and the
crafting occupations take only what their recipe found. -/
theorem occupationWork_stocked (stocked : a.Stocked) : (occupationWork a).Stocked := by
  have produced : ∀ x : ℚ, 0 ≤ atLeastOne x := fun x => (atLeastOne_pos x).le
  unfold occupationWork
  split
  · exact stocked.add rfl rfl (Int.add_nonneg (stocked.inventory _) (produced _))
  · exact stocked.add rfl rfl (Int.add_nonneg (stocked.inventory _) (produced _))
  · exact stocked.add rfl rfl (Int.add_nonneg (stocked.inventory _) (produced _))
  · exact stocked.add rfl rfl (Int.add_nonneg (stocked.inventory _) Int.one_pos.le)
  · exact crafterWork_stocked stocked
  · exact alchemistWork_stocked stocked
  · exact stocked.add rfl rfl (Int.add_nonneg (stocked.inventory _) (produced _))
  · exact stocked.of_goods rfl rfl
  · exact stocked.of_goods rfl rfl
  · exact scholarWork_stocked stocked

theorem applyWork_stocked (stocked : a.Stocked) : (applyWork a).Stocked :=
  (occupationWork_stocked stocked).of_goods rfl rfl

theorem roadMeal_stocked {good : GoodType} (stocked : a.Stocked) (held : 0 < a.inventory good) :
    (roadMeal good a).Stocked :=
  stocked.add rfl rfl (by omega)

theorem applyTravel_stocked (stocked : a.Stocked) : (applyTravel a).Stocked := by
  unfold applyTravel
  dsimp only
  -- the needs written after the meal touch no goods
  apply Agent.Stocked.withNeeds
  split_ifs with hungry fish grain
  · exact roadMeal_stocked stocked fish
  · exact roadMeal_stocked stocked grain
  · exact stocked
  · exact stocked

theorem applyAction_stocked (kind : ActionKind) (insight : Bool) (stocked : a.Stocked) :
    (applyAction kind insight a).Stocked := by
  cases kind with
  | eat => exact applyEat_stocked stocked
  | work => exact applyWork_stocked stocked
  | forage => exact stocked.add rfl rfl (Int.add_nonneg (stocked.inventory _) Int.one_pos.le)
  | rest => exact stocked.of_goods rfl rfl
  | socialize => exact stocked.of_goods rfl rfl
  | travel => exact applyTravel_stocked stocked
  | contemplate => exact stocked.of_goods rfl rfl
  | idle => exact stocked
  | trade => exact stocked
  | buyFood => exact stocked

theorem applySkillGrowth_stocked (stocked : a.Stocked) : (applySkillGrowth a).Stocked := by
  have goods : (applySkillGrowth a).inventory = a.inventory ∧
      (applySkillGrowth a).tradeCargo = a.tradeCargo := by
    unfold applySkillGrowth
    split <;> exact ⟨rfl, rfl⟩
  exact stocked.of_goods goods.1 goods.2

/-- Crediting the accumulator adds goods only: its whole part is not negative. -/
theorem creditUnits_stocked {land : HexLand} (stocked : a.Stocked) (grown : 1 ≤ a.productionProgress) :
    (creditUnits a land).1.Stocked := by
  have units : 0 ≤ goInt a.productionProgress := goInt_nonneg (by linarith)
  unfold creditUnits
  dsimp only
  refine stocked.of_inventory ?_ fun g => ?_
  · split_ifs <;> rfl
  · have held := stocked.inventory g
    -- each credit adds a non-negative amount to one good
    split_ifs <;> simp only [GoodInventory.add_apply] <;> split_ifs <;> omega

theorem creditIfGrown_stocked (land : HexLand) (stocked : a.Stocked) : (creditIfGrown a land).1.Stocked := by
  unfold creditIfGrown
  split_ifs with grown
  · exact creditUnits_stocked stocked grown
  · exact stocked

theorem extract_stocked (tick : ℕ) (coherenceMod conservationMod : ℚ) (resType : ResourceType)
    (fullProduction producedFloat : ℚ) (land : HexLand) (stocked : a.Stocked) :
    (extract tick coherenceMod conservationMod resType fullProduction producedFloat a land).1.Stocked := by
  unfold extract
  dsimp only
  -- the skill and needs writes after the credit touch no goods
  apply Agent.Stocked.withNeeds
  apply applySkillGrowth_stocked
  exact creditIfGrown_stocked _ (stocked.of_goods rfl rfl)

theorem workLand_stocked (tick : ℕ) (boostMul coherenceMod conservationMod : ℚ) (resType : ResourceType)
    (land : HexLand) (stocked : a.Stocked) :
    (workLand tick boostMul coherenceMod conservationMod resType a land).1.Stocked := by
  unfold workLand
  dsimp only
  split_ifs with barren boosted negligible negligible
  · exact stocked.withNeeds _
  · exact stocked.withNeeds _
  · exact extract_stocked tick coherenceMod conservationMod resType _ _ land stocked
  · exact stocked.withNeeds _
  · exact extract_stocked tick coherenceMod conservationMod resType _ _ land stocked

/-- Work on the land keeps the stock, whatever the land and the modifiers. -/
theorem resolveWork_stocked (kind : ActionKind) (insight : Bool) (tick : ℕ)
    (boostMul coherenceMod conservationMod : ℚ) (hex : Option HexLand) (stocked : a.Stocked) :
    (resolveWork kind insight tick boostMul coherenceMod conservationMod a hex).1.Stocked := by
  unfold resolveWork
  split_ifs with notWork crafts
  · exact applyAction_stocked kind insight stocked
  · exact applyAction_stocked kind insight stocked
  · -- a producer: no resource, no hex, or the land of its hex
    split
    · exact applyAction_stocked kind insight stocked
    · split
      · exact stocked.withNeeds _
      · exact workLand_stocked tick boostMul coherenceMod conservationMod _ _ stocked

theorem decayGood_stocked (good : GoodType) (rate : ℚ) (stocked : a.Stocked) :
    (decayGood good rate a).Stocked := by
  unfold decayGood
  dsimp only
  split_ifs with empty small clamped
  · exact stocked
  · exact stocked
  · -- the decayed quantity is clamped at zero
    exact stocked.update rfl rfl le_rfl
  · exact stocked.update rfl rfl (by omega)

theorem decayInventory_stocked (stocked : a.Stocked) : (decayInventory a).Stocked := by
  unfold decayInventory
  dsimp only
  -- six goods decay one after another
  repeat apply decayGood_stocked
  exact stocked

end Stocked

/-! ## An action keeps the agent's self

No action writes an agent's `ID`, home or `Alive` flag; the soul is written only by the
scholar's study and by contemplation, through `AdjustCoherence` and `AdjustCoherenceUncapped`,
which keep a coherence in the unit interval there. -/

section Kept

variable {a : Agent}

theorem crafterWork_kept : a.Kept (crafterWork a) := by
  unfold crafterWork craft idleCraft
  split_ifs <;> exact .of_soul rfl rfl rfl rfl

theorem alchemistWork_kept : a.Kept (alchemistWork a) := by
  unfold alchemistWork idleCraft
  split_ifs <;> exact .of_soul rfl rfl rfl rfl

theorem scholarWork_kept : a.Kept (scholarWork a) := by
  have studied : a.Kept { a with soul := a.soul.adjustCoherence (agnosis * 0.0000003) } :=
    ⟨rfl, rfl, rfl, fun unit => adjustCoherence_mem_unit _ unit.1 unit.2⟩
  unfold scholarWork
  dsimp only
  split_ifs
  · exact studied.trans (.of_soul rfl rfl rfl rfl)
  · exact studied

theorem occupationWork_kept : a.Kept (occupationWork a) := by
  unfold occupationWork
  split
  · exact .of_soul rfl rfl rfl rfl
  · exact .of_soul rfl rfl rfl rfl
  · exact .of_soul rfl rfl rfl rfl
  · exact .of_soul rfl rfl rfl rfl
  · exact crafterWork_kept
  · exact alchemistWork_kept
  · exact .of_soul rfl rfl rfl rfl
  · exact .of_soul rfl rfl rfl rfl
  · exact .of_soul rfl rfl rfl rfl
  · exact scholarWork_kept

theorem applyTravel_kept : a.Kept (applyTravel a) := by
  unfold applyTravel roadMeal
  dsimp only
  split_ifs <;> exact .of_soul rfl rfl rfl rfl

theorem applyContemplate_kept (insight : Bool) : a.Kept (applyContemplate insight a) := by
  refine ⟨rfl, rfl, rfl, fun _ => ?_⟩
  unfold applyContemplate
  dsimp only
  split
  · exact adjustCoherenceUncapped_mem_unit _ _
  · exact adjustCoherenceUncapped_mem_unit _ _

theorem applyAction_kept (kind : ActionKind) (insight : Bool) : a.Kept (applyAction kind insight a) := by
  cases kind with
  | work => exact occupationWork_kept.withNeeds _
  | travel => exact applyTravel_kept
  | contemplate => exact applyContemplate_kept insight
  | eat | forage | rest | socialize | idle | trade | buyFood => exact .of_soul rfl rfl rfl rfl

theorem applySkillGrowth_kept : a.Kept (applySkillGrowth a) := by
  unfold applySkillGrowth
  split <;> exact .of_soul rfl rfl rfl rfl

theorem creditIfGrown_kept (land : HexLand) : a.Kept (creditIfGrown a land).1 := by
  unfold creditIfGrown creditUnits
  dsimp only
  split_ifs <;> exact .of_soul rfl rfl rfl rfl

theorem extract_kept (tick : ℕ) (coherenceMod conservationMod : ℚ) (resType : ResourceType)
    (fullProduction producedFloat : ℚ) (land : HexLand) :
    a.Kept (extract tick coherenceMod conservationMod resType fullProduction producedFloat a land).1 := by
  have accumulated : a.Kept { a with lastWorkTick := tick, productionProgress := a.productionProgress + producedFloat } :=
    .of_soul rfl rfl rfl rfl
  unfold extract
  dsimp only
  -- the accumulator, the credit, the skill and the needs: none writes the agent's self
  exact ((accumulated.trans (creditIfGrown_kept _)).trans applySkillGrowth_kept).withNeeds _

theorem workLand_kept (tick : ℕ) (boostMul coherenceMod conservationMod : ℚ) (resType : ResourceType)
    (land : HexLand) : a.Kept (workLand tick boostMul coherenceMod conservationMod resType a land).1 := by
  have barren : a.Kept { a with needs := barrenWorkNeeds a.needs } := (Agent.Kept.refl a).withNeeds _
  unfold workLand
  dsimp only
  split_ifs
  · exact barren
  · exact barren
  · exact extract_kept tick coherenceMod conservationMod resType _ _ land
  · exact barren
  · exact extract_kept tick coherenceMod conservationMod resType _ _ land

/-- Work on the land keeps the agent's self, whatever the land and the modifiers. -/
theorem resolveWork_kept (kind : ActionKind) (insight : Bool) (tick : ℕ)
    (boostMul coherenceMod conservationMod : ℚ) (hex : Option HexLand) :
    a.Kept (resolveWork kind insight tick boostMul coherenceMod conservationMod a hex).1 := by
  unfold resolveWork
  split_ifs
  · exact applyAction_kept kind insight
  · exact applyAction_kept kind insight
  · split
    · exact applyAction_kept kind insight
    · split
      · exact (Agent.Kept.refl a).withNeeds _
      · exact workLand_kept tick boostMul coherenceMod conservationMod _ _

theorem decayGood_kept (good : GoodType) (rate : ℚ) : a.Kept (decayGood good rate a) := by
  unfold decayGood
  dsimp only
  split_ifs <;> exact .of_soul rfl rfl rfl rfl

theorem decayInventory_kept : a.Kept (decayInventory a) := by
  unfold decayInventory
  dsimp only
  -- six goods decay one after another
  exact (((((decayGood_kept _ _).trans (decayGood_kept _ _)).trans (decayGood_kept _ _)).trans
    (decayGood_kept _ _)).trans (decayGood_kept _ _)).trans (decayGood_kept _ _)

end Kept

end MiniWorld.Engine
