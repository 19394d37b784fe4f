import MiniWorld.Engine.Goods
import MiniWorld.Engine.Tick
import MiniWorld.World.Generation
import MiniWorld.Run.Keyed

/-! # The land through the seasons (`internal/engine/seasons.go`, `land_governance.go`
`IrrigationRegenFactor` and `ConservationDamageFactor`, `internal/weather/weather.go` `MapToSim`)

The land of a hex is worn by work (`ResolveWork`, in `Behavior`), by storms and by drought, and
it grows back in three regenerations: the seasonal `regenerateResources`, `weeklyResourceRegen`
and `hourlyResourceRegen`.  They differ in their rate and in what they do to a hex before its
resources regrow; the regrowth itself, desertified hexes skipped, is one definition,
`regrowLand`, with the rate as parameter, and each regeneration is written as it applied to its
own rate.  The same holds of the world loops: `for q := -R; q <= R; q++ { for r := … }` over
`WorldMap.Get` is `landLoop` with the body of each pass.

Two pieces of Go state are not fields of the model's `HexLand` and enter as arguments: the keys
of each hex's `Resources` map (`keys`; Go ranges over the keys the hex yields, while the model's
resources are a total function that reads a missing key as zero) and each hex's
`ConservationLevel` (`conservationAt`).  `SettlementCarryingCapacity`'s pressure and
`math.Log2` enter as functions.

What the rest of the development uses:
* `landLoop_landAt` — a world loop rewrites every map hex of the grid once, by its body, from
  its own land;
* `HexLand.Sound` — health in the unit interval, resources non-negative and zero off the keys,
  irrigation at most five — and one lemma per writer keeping it (`LandSound.*`);
* `regrowLand_resources` — a resource below its cap regrows toward the cap and never past it,
  one at or above its cap stays, and a desertified hex does not regrow.
-/

namespace MiniWorld.Engine

open MiniWorld.Phi MiniWorld.Run

/-! ## Caps and factors -/

/-- `ResourceCap`: the most a terrain holds of a resource. -/
def resourceCap (terrain : Terrain) (res : ResourceType) : ℚ :=
  match terrain with
  | .plains => if res = resourceGrain then 100 else 10
  | .forest =>
    if res = resourceTimber then 80 else if res = resourceHerbs then 80
    else if res = resourceFurs then 40 else 10
  | .mountain =>
    if res = resourceIronOre then 60 else if res = resourceStone then 80
    else if res = resourceCoal then 40 else if res = resourceGems then 15 else 10
  | .coast => if res = resourceFish then 70 else 10
  | .river => if res = resourceFish then 50 else if res = resourceGrain then 80 else 10
  | .swamp => if res = resourceHerbs then 100 else if res = resourceExotics then 20 else 10
  | .tundra => if res = resourceFurs then 50 else 10
  | _ => 10

/-- `IrrigationRegenFactor`: `1 + level·Matter`. -/
def irrigationRegenFactor (level : ℕ) : ℚ := 1 + level * matter

/-- `ConservationDamageFactor`: `1 - level·Agnosis·0.1`, never below a tenth. -/
def conservationDamageFactor (level : ℕ) : ℚ :=
  let f := 1 - level * agnosis * 0.1
  if f < 0.1 then 0.1 else f

theorem irrigationRegenFactor_pos (level : ℕ) : 0 < irrigationRegenFactor level := by
  have : (0 : ℚ) ≤ level * matter := mul_nonneg (Nat.cast_nonneg level) (by norm_num [matter])
  unfold irrigationRegenFactor
  linarith

theorem conservationDamageFactor_pos (level : ℕ) : 0 < conservationDamageFactor level := by
  unfold conservationDamageFactor
  dsimp only
  split_ifs with low
  · norm_num
  · linarith [not_lt.mp low]

/-! ## The weather -/

/-- `weather.Conditions`, the fields `MapToSim` reads. -/
structure Conditions where
  temp : ℚ
  isRain : Bool
  isSnow : Bool
  isStorm : Bool

/-- `SimWeather`, with the two modifiers the land reads (`FoodDecayMod` and the description
are left out).  `default` is the zero value the simulation starts with. -/
structure SimWeather where
  tempModifier : ℚ
  travelPenalty : ℚ
  deriving Inhabited

/-- `MapToSim`, from the conditions of a fetch, or none for the seasonal default. -/
def mapToSim : Option Conditions → SimWeather
  | none => ⟨0, 1⟩
  | some c =>
    let t := (c.temp - 20) / 20
    let t := if t < -1 then -1 else t
    let t := if t > 1 then 1 else t
    ⟨t, if c.isStorm then 2 else if c.isSnow then 1.5 else if c.isRain then 1.2 else 1⟩

theorem mapToSim_tempModifier_le (c : Option Conditions) : (mapToSim c).tempModifier ≤ 1 := by
  cases c with
  | none => norm_num [mapToSim]
  | some c =>
    simp only [mapToSim]
    split_ifs <;> linarith

/-- The weather's `fallowMod` of `weeklyResourceRegen`: rain speeds fallow healing, heat slows it. -/
def fallowMod (w : SimWeather) : ℚ :=
  let m : ℚ := if w.travelPenalty ≥ 1.2 ∧ w.travelPenalty < 2 then 1 + agnosis else 1
  if w.tempModifier > 0 then m - w.tempModifier * agnosis * 0.5 else m

/-- The weather's `weatherMod` of `hourlyResourceRegen`: storms suppress regrowth, rain
nourishes it, heat stresses it. -/
def weatherMod (w : SimWeather) : ℚ :=
  let m : ℚ := if w.travelPenalty ≥ 2 then 1 - agnosis else if w.travelPenalty ≥ 1.2 then 1 + agnosis else 1
  if w.tempModifier > 0 then m - w.tempModifier * agnosis * 0.5 else m

section Weather

variable {w : SimWeather}

/-- Below a temperature modifier of one, heat takes at most `Agnosis/2` off a factor that is at
least `1 - Agnosis`. -/
theorem heat_penalty_pos {m : ℚ} (base : 1 - agnosis ≤ m) (fit : w.tempModifier ≤ 1) :
    0 < if w.tempModifier > 0 then m - w.tempModifier * agnosis * 0.5 else m := by
  have small : agnosis < 0.5 := by norm_num [agnosis]
  have positive := agnosis_pos
  split_ifs with hot
  · have heat : w.tempModifier * agnosis ≤ agnosis := by nlinarith
    linarith
  · linarith

theorem fallowMod_pos (fit : w.tempModifier ≤ 1) : 0 < fallowMod w := by
  refine heat_penalty_pos ?_ fit
  have := agnosis_pos
  split_ifs <;> linarith

theorem weatherMod_pos (fit : w.tempModifier ≤ 1) : 0 < weatherMod w := by
  refine heat_penalty_pos ?_ fit
  have := agnosis_pos
  split_ifs <;> linarith

end Weather

/-! ## The world loops -/

/-- `for q := -R; q <= R; q++ { for r := -R; r <= R; r++ { coord := HexCoord{q, r} … } }`. -/
def gridCoords (radius : ℤ) : List HexCoord :=
  (MiniWorld.World.axialRange radius).flatMap fun q => (MiniWorld.World.axialRange radius).map fun r => ⟨q, r⟩

namespace Simulation

/-- A write through `WorldMap.Get(coord)` to the land of the hex. -/
def modifyLand (s : Simulation) (c : HexCoord) (change : HexLand → HexLand) : Simulation :=
  { s with landAt := Function.update s.landAt c (change (s.landAt c)) }

/-- One coordinate of a world loop: `hex := s.WorldMap.Get(coord); if hex == nil { continue }`,
then the body on the land of the hex. -/
def landAtHex (body : HexCoord → Hex → HexLand → HexLand) (s : Simulation) (c : HexCoord) :
    Simulation :=
  match s.hexAt c with
  | none => s
  | some hex => s.modifyLand c (body c hex)

/-- A world loop whose body rewrites the land of each hex from the hex and its land. -/
def landLoop (radius : ℤ) (body : HexCoord → Hex → HexLand → HexLand) (s : Simulation) : Simulation :=
  (gridCoords radius).foldl (landAtHex body) s

end Simulation

/-! ## Health and regrowth of one hex -/

/-- `hex.Health -= loss; if hex.Health < 0 { hex.Health = 0 }`. -/
def lowerHealth (loss : ℚ) (land : HexLand) : HexLand :=
  let health := land.health - loss
  { land with health := if health < 0 then 0 else health }

/-- `hex.Health += gain; if hex.Health > 1.0 { hex.Health = 1.0 }`. -/
def raiseHealth (gain : ℚ) (land : HexLand) : HexLand :=
  let health := land.health + gain
  { land with health := if health > 1 then 1 else health }

/-- One resource of the regrowth loop: below its cap it regrows by `rate` of its deficit,
capped. -/
def regrow (maxQty rate qty : ℚ) : ℚ :=
  if qty < maxQty then
    let regen := (maxQty - qty) * rate
    if qty + regen > maxQty then maxQty else qty + regen
  else qty

/-- `for res, qty := range hex.Resources { maxQty := ResourceCap(hex.Terrain, res); … }`. -/
def regrowResources (keys : List ResourceType) (terrain : Terrain) (rate : ℚ)
    (resources : ResourceType → ℚ) : ResourceType → ℚ :=
  keys.foldl (fun res r => Function.update res r (regrow (resourceCap terrain r) rate (res r))) resources

/-- The regrowth of the three regenerations: a desertified hex (health below `Agnosis`) does not
regrow; otherwise each resource regrows at `rate · Health · IrrigationRegenFactor`. -/
def regrowLand (keys : List ResourceType) (terrain : Terrain) (rate : ℚ) (land : HexLand) : HexLand :=
  if land.health < agnosis then land
  else
    { land with
      resources := regrowResources keys terrain (rate * land.health * irrigationRegenFactor land.irrigationLevel)
        land.resources }

/-- The fallow recovery of `weeklyResourceRegen`: a hex never worked, or not for a day
(`s.LastTick - hex.LastExtractedTick`, in `uint64`), heals by `Agnosis·0.25·fallowMod`. -/
def fallowRecover (lastTick : ℕ) (mod : ℚ) (land : HexLand) : HexLand :=
  if land.lastExtractedTick = 0 ∨ ((lastTick : ℤ) - land.lastExtractedTick) % 2 ^ 64 > ticksPerSimDay then
    raiseHealth (agnosis * 0.25 * mod) land
  else land

/-! ## The three regenerations -/

namespace Simulation

variable (keys : HexCoord → List ResourceType) (radius : ℤ)

/-- `regenerateResources`, each season. -/
def regenerateResources (s : Simulation) : Simulation :=
  s.landLoop radius fun c hex land =>
    if hex.terrain = .ocean then land else regrowLand (keys c) hex.terrain (matter * 0.3) land

/-- `weeklyResourceRegen`: the fallow recovery, then the regrowth. -/
def weeklyResourceRegen (w : SimWeather) (s : Simulation) : Simulation :=
  let mod := fallowMod w
  s.landLoop radius fun c hex land =>
    if hex.terrain = .ocean then land
    else regrowLand (keys c) hex.terrain (agnosis * 0.4) (fallowRecover s.lastTick mod land)

/-- `if existing, ok := pressureByHex[c]; !ok || factor > existing { pressureByHex[c] = factor }`. -/
def raiseBoost (factor : ℚ) (boosts : HexCoord → Option ℚ) (c : HexCoord) : HexCoord → Option ℚ :=
  match boosts c with
  | some existing => if factor > existing then Function.update boosts c (some factor) else boosts
  | none => Function.update boosts c (some factor)

/-- `pressureByHex`: each populated settlement with positive pressure boosts its hex and its six
neighbours by `1 + Agnosis·log2(1 + pressure)`, the larger where two neighbourhoods meet. -/
def pressureByHex (log2 : ℚ → ℚ) (pressure : ℕ → ℚ) (s : Simulation) : HexCoord → Option ℚ :=
  s.settlements.foldl (fun boosts q =>
    let sett := s.settlementAt q
    if sett.population = 0 then boosts
    else
      let p := pressure sett.id
      if p ≤ 0 then boosts
      else
        let factor := 1 + agnosis * log2 (1 + p)
        raiseBoost factor (sett.position.neighbors.foldl (raiseBoost factor) boosts) sett.position)
    fun _ => none

/-- `hourlyResourceRegen`, under the weather of the hour; `pressure` is the second result of
`SettlementCarryingCapacity` by settlement ID. -/
def hourlyResourceRegen (log2 : ℚ → ℚ) (pressure : ℕ → ℚ) (w : SimWeather) (s : Simulation) :
    Simulation :=
  let boosts := s.pressureByHex log2 pressure
  let mod := weatherMod w
  s.landLoop radius fun c hex land =>
    if hex.terrain = .ocean then land
    else regrowLand (keys c) hex.terrain (agnosis * 0.06 * (boosts c).getD 1 * mod) land

end Simulation

/-! ## Weather damage -/

/-- The land half of `damageHexHealth`: the base damage scaled by conservation. -/
def damageLand (baseDamage : ℚ) (conservation : ℕ) (land : HexLand) : HexLand :=
  lowerHealth (baseDamage * conservationDamageFactor conservation) land

/-- The drought of `applyDroughtDegradation` on one hex below irrigation three. -/
def droughtLand (conservation : ℕ) (land : HexLand) : HexLand :=
  let rate := agnosis * 0.0005
  let irrProtection := 1 - (land.irrigationLevel : ℚ) / 3 * agnosis
  lowerHealth (rate * conservationDamageFactor conservation * irrProtection) land

namespace Simulation

variable (conservationAt : HexCoord → ℕ)

/-- `damageHexHealth`: nothing off the map or on ocean. -/
def damageHexHealth (c : HexCoord) (baseDamage : ℚ) (s : Simulation) : Simulation :=
  match s.hexAt c with
  | none => s
  | some hex => if hex.terrain = .ocean then s else s.modifyLand c (damageLand baseDamage (conservationAt c))

/-- One settlement of `applyStormErosion`: a populated coastal settlement is eroded with chance
`Agnosis³` an hour, its hex by `Agnosis·0.01` and its six neighbours by half that. -/
def erodeCoast (tick : ℕ) (s : Simulation) (q : SettRef) : Simulation :=
  let chance := agnosis * agnosis * agnosis
  let sett := s.settlementAt q
  if sett.population = 0 then s
  else
    match s.hexAt sett.position with
    | none => s
    | some hex =>
      if hex.terrain ≠ .coast then s
      else
        let hash : ℕ := (sett.id * 2654435761 + tick * 40503 + 7919) % 2 ^ 64 % 100000
        if (hash : ℚ) / 100000 ≥ chance then s
        else
          sett.position.neighbors.foldl (fun s nc => s.damageHexHealth conservationAt nc (agnosis * 0.005))
            (s.damageHexHealth conservationAt sett.position (agnosis * 0.01))

def applyStormErosion (tick : ℕ) (s : Simulation) : Simulation :=
  s.settlements.foldl (erodeCoast conservationAt tick) s

/-- `applyDroughtDegradation`: plains and forest below irrigation three dry out. -/
def applyDroughtDegradation (radius : ℤ) (s : Simulation) : Simulation :=
  s.landLoop radius fun c hex land =>
    if hex.terrain ≠ .plains ∧ hex.terrain ≠ .forest then land
    else if land.irrigationLevel ≥ 3 then land
    else droughtLand (conservationAt c) land

/-- `applyWeatherHexDamage`: storm erosion under a storm, drought after 72 hours of heat. -/
def applyWeatherHexDamage (radius : ℤ) (w : SimWeather) (tick : ℕ) (s : Simulation) : Simulation :=
  let s := if w.travelPenalty ≥ 2 then s.applyStormErosion conservationAt tick else s
  if s.registry.heatStreakHours ≥ 72 then s.applyDroughtDegradation conservationAt radius else s

end Simulation

/-! ## A world loop rewrites each map hex once -/

theorem axialRange_nodup (radius : ℤ) : (MiniWorld.World.axialRange radius).Nodup := by
  unfold MiniWorld.World.axialRange
  exact List.nodup_range.map fun a b same => by omega

theorem gridCoords_nodup (radius : ℤ) : (gridCoords radius).Nodup := by
  have rows := axialRange_nodup radius
  refine List.nodup_flatMap.mpr ⟨fun q _ => rows.map fun r r' same => by simpa using same, ?_⟩
  -- two rows of the grid differ in their `q`
  refine rows.imp fun {q q'} distinct => List.disjoint_left.mpr fun {c} inRow inRow' => ?_
  obtain ⟨r, -, rfl⟩ := List.mem_map.mp inRow
  obtain ⟨r', -, same⟩ := List.mem_map.mp inRow'
  exact distinct (congrArg HexCoord.q same).symm

namespace Simulation

@[simp] theorem modifyLand_landAt (s : Simulation) (c : HexCoord) (change : HexLand → HexLand) (c' : HexCoord) :
    (s.modifyLand c change).landAt c' = if c' = c then change (s.landAt c) else s.landAt c' := by
  simp [modifyLand, Function.update_apply]

@[simp] theorem modifyLand_hexAt (s : Simulation) (c : HexCoord) (change : HexLand → HexLand) :
    (s.modifyLand c change).hexAt = s.hexAt := rfl

theorem landAtHex_keyLocal (body : HexCoord → Hex → HexLand → HexLand) :
    KeyLocal (fun (s : Simulation) c => (s.hexAt c, s.landAt c)) (landAtHex body)
      fun c view => (view.1, view.1.elim view.2 fun hex => body c hex view.2) := by
  intro s key other
  unfold landAtHex
  cases found : s.hexAt key with
  | none =>
    by_cases here : other = key
    · subst here
      simp [found]
    · simp [here]
  | some hex =>
    by_cases here : other = key
    · subst here
      simp [found]
    · simp [here]

/-- A loop of `landAtHex` over coordinates without repeats rewrites each map hex among them once. -/
theorem foldl_landAtHex_landAt (body : HexCoord → Hex → HexLand → HexLand) {coords : List HexCoord}
    (distinct : coords.Nodup) (s : Simulation) (c : HexCoord) :
    (coords.foldl (landAtHex body) s).landAt c =
      if c ∈ coords then (s.hexAt c).elim (s.landAt c) fun hex => body c hex (s.landAt c) else s.landAt c := by
  have looped := congrArg Prod.snd (foldl_keyLocal (landAtHex_keyLocal body) coords distinct s c)
  by_cases member : c ∈ coords <;> simpa [member] using looped

theorem landLoop_landAt (radius : ℤ) (body : HexCoord → Hex → HexLand → HexLand) (s : Simulation)
    (c : HexCoord) :
    (s.landLoop radius body).landAt c =
      if c ∈ gridCoords radius then (s.hexAt c).elim (s.landAt c) fun hex => body c hex (s.landAt c)
      else s.landAt c :=
  foldl_landAtHex_landAt body (gridCoords_nodup radius) s c

end Simulation

/-! ## Sound land

What every writer keeps: health in the unit interval, resources non-negative and zero off the
keys of the hex's map, and irrigation at most five. -/

/-- The land of a hex whose resource map has the keys `keys`. -/
structure HexLand.Sound (keys : List ResourceType) (land : HexLand) : Prop where
  health_nonneg : 0 ≤ land.health
  health_le_one : land.health ≤ 1
  resources_nonneg : ∀ r, 0 ≤ land.resources r
  unkeyed : ∀ r ∉ keys, land.resources r = 0
  irrigation_le : land.irrigationLevel ≤ 5

/-- Every hex's land is sound. -/
def Simulation.LandSound (keys : HexCoord → List ResourceType) (s : Simulation) : Prop :=
  ∀ c, (s.landAt c).Sound (keys c)

section Regrowth

variable {keys : List ResourceType} {land : HexLand}

theorem HexLand.Sound.withHealth (sound : land.Sound keys) {health : ℚ} (nonneg : 0 ≤ health)
    (le_one : health ≤ 1) : { land with health := health }.Sound keys :=
  ⟨nonneg, le_one, sound.resources_nonneg, sound.unkeyed, sound.irrigation_le⟩

theorem HexLand.Sound.lowerHealth (sound : land.Sound keys) {loss : ℚ} (nonneg : 0 ≤ loss) :
    (MiniWorld.Engine.lowerHealth loss land).Sound keys := by
  have upper := sound.health_le_one
  refine sound.withHealth ?_ ?_ <;> split_ifs <;> linarith

theorem HexLand.Sound.raiseHealth (sound : land.Sound keys) {gain : ℚ} (nonneg : 0 ≤ gain) :
    (MiniWorld.Engine.raiseHealth gain land).Sound keys := by
  have lower := sound.health_nonneg
  refine sound.withHealth ?_ ?_ <;> split_ifs <;> linarith

theorem regrow_nonneg {maxQty rate qty : ℚ} (nonneg : 0 ≤ qty) (rising : 0 ≤ rate) :
    0 ≤ regrow maxQty rate qty := by
  unfold regrow
  split_ifs with below
  · have : 0 ≤ (maxQty - qty) * rate := mul_nonneg (by linarith) rising
    dsimp only
    split_ifs <;> linarith
  · exact nonneg

/-- A resource below its cap regrows toward it and never past it. -/
theorem regrow_mem {maxQty rate qty : ℚ} (below : qty < maxQty) (rising : 0 ≤ rate) :
    qty ≤ regrow maxQty rate qty ∧ regrow maxQty rate qty ≤ maxQty := by
  have : 0 ≤ (maxQty - qty) * rate := mul_nonneg (by linarith) rising
  unfold regrow
  rw [if_pos below]
  dsimp only
  split_ifs with capped
  · exact ⟨le_of_lt below, le_refl _⟩
  · exact ⟨by linarith, not_lt.mp capped⟩

theorem regrow_of_le {maxQty rate qty : ℚ} (full : maxQty ≤ qty) : regrow maxQty rate qty = qty := by
  unfold regrow
  rw [if_neg (not_lt.mpr full)]

theorem regrowResources_nonneg (terrain : Terrain) {rate : ℚ} (rising : 0 ≤ rate)
    {resources : ResourceType → ℚ} (nonneg : ∀ r, 0 ≤ resources r) :
    ∀ r, 0 ≤ regrowResources keys terrain rate resources r := by
  refine foldl_invariant (fun res : ResourceType → ℚ => ∀ r, 0 ≤ res r) _ keys resources
    (fun key _ res held r => ?_) nonneg
  by_cases here : r = key
  · subst here
    simpa using regrow_nonneg (held r) rising
  · simpa [Function.update_of_ne here] using held r

/-- The loop writes the keys of the map only. -/
theorem regrowResources_of_not_mem (terrain : Terrain) (rate : ℚ) (resources : ResourceType → ℚ) :
    ∀ r ∉ keys, regrowResources keys terrain rate resources r = resources r := by
  refine foldl_invariant (fun res : ResourceType → ℚ => ∀ r ∉ keys, res r = resources r) _ keys resources
    (fun key listed res held r absent => ?_) fun _ _ => rfl
  have other : r ≠ key := fun same => absent (same ▸ listed)
  rw [Function.update_of_ne other]
  exact held r absent

/-- Over the distinct keys of a map, the loop regrows each key once. -/
theorem regrowResources_apply (distinct : keys.Nodup) (terrain : Terrain) (rate : ℚ)
    (resources : ResourceType → ℚ) (r : ResourceType) :
    regrowResources keys terrain rate resources r =
      if r ∈ keys then regrow (resourceCap terrain r) rate (resources r) else resources r := by
  have keyed : KeyLocal (fun (res : ResourceType → ℚ) r => res r)
      (fun res r => Function.update res r (regrow (resourceCap terrain r) rate (res r)))
      fun r qty => regrow (resourceCap terrain r) rate qty := by
    intro res key other
    simp [Function.update_apply]
  exact foldl_keyLocal keyed keys distinct resources r

theorem HexLand.Sound.regrowLand (sound : land.Sound keys) (terrain : Terrain) {rate : ℚ} (rising : 0 ≤ rate) :
    (MiniWorld.Engine.regrowLand keys terrain rate land).Sound keys := by
  unfold MiniWorld.Engine.regrowLand
  split_ifs
  · exact sound
  · -- the rate of the loop is a product of non-negative factors
    have factor : 0 ≤ rate * land.health * irrigationRegenFactor land.irrigationLevel :=
      mul_nonneg (mul_nonneg rising sound.health_nonneg) (irrigationRegenFactor_pos _).le
    exact ⟨sound.health_nonneg, sound.health_le_one,
      regrowResources_nonneg terrain factor sound.resources_nonneg,
      fun r absent => (regrowResources_of_not_mem terrain _ _ r absent).trans (sound.unkeyed r absent),
      sound.irrigation_le⟩

/-- What the regrowth does to a resource of a hex: a desertified hex keeps it, a resource off the
keys or at its cap stays, and one below its cap ends between where it was and the cap. -/
theorem regrowLand_resources (distinct : keys.Nodup) (terrain : Terrain) {rate : ℚ} (rising : 0 ≤ rate)
    (healthy : 0 ≤ land.health) (r : ResourceType) :
    (MiniWorld.Engine.regrowLand keys terrain rate land).resources r = land.resources r ∨
      (agnosis ≤ land.health ∧ r ∈ keys ∧ land.resources r < resourceCap terrain r ∧
        land.resources r ≤ (MiniWorld.Engine.regrowLand keys terrain rate land).resources r ∧
        (MiniWorld.Engine.regrowLand keys terrain rate land).resources r ≤ resourceCap terrain r) := by
  unfold MiniWorld.Engine.regrowLand
  split_ifs with desertified
  · exact .inl rfl
  · dsimp only
    rw [regrowResources_apply distinct]
    by_cases listed : r ∈ keys
    · rw [if_pos listed]
      by_cases below : land.resources r < resourceCap terrain r
      · have factor : 0 ≤ rate * land.health * irrigationRegenFactor land.irrigationLevel :=
          mul_nonneg (mul_nonneg rising healthy) (irrigationRegenFactor_pos _).le
        exact .inr ⟨not_lt.mp desertified, listed, below, regrow_mem below factor⟩
      · exact .inl (regrow_of_le (not_lt.mp below))
    · exact .inl (if_neg listed)

theorem HexLand.Sound.fallowRecover (sound : land.Sound keys) (lastTick : ℕ) {mod : ℚ} (positive : 0 < mod) :
    (MiniWorld.Engine.fallowRecover lastTick mod land).Sound keys := by
  unfold MiniWorld.Engine.fallowRecover
  split_ifs
  · exact sound.raiseHealth (by have := agnosis_pos; positivity)
  · exact sound

theorem HexLand.Sound.damageLand (sound : land.Sound keys) {baseDamage : ℚ} (nonneg : 0 ≤ baseDamage)
    (conservation : ℕ) : (MiniWorld.Engine.damageLand baseDamage conservation land).Sound keys :=
  sound.lowerHealth (mul_nonneg nonneg (conservationDamageFactor_pos conservation).le)

/-- Below irrigation three the protection is positive, so drought only lowers health. -/
theorem HexLand.Sound.droughtLand (sound : land.Sound keys) (conservation : ℕ) (dry : land.irrigationLevel < 3) :
    (MiniWorld.Engine.droughtLand conservation land).Sound keys := by
  have protection : 0 ≤ 1 - (land.irrigationLevel : ℚ) / 3 * agnosis := by
    have level : (land.irrigationLevel : ℚ) ≤ 2 := by exact_mod_cast Nat.le_of_lt_succ dry
    have := agnosis_lt_one
    have := agnosis_pos
    nlinarith
  have rate : (0 : ℚ) ≤ agnosis * 0.0005 := by have := agnosis_pos; positivity
  exact sound.lowerHealth (mul_nonneg (mul_nonneg rate (conservationDamageFactor_pos conservation).le) protection)

end Regrowth

/-! ## The writers keep the land sound -/

namespace Simulation

variable {keys : HexCoord → List ResourceType} {s : Simulation}

theorem LandSound.modifyLand (sound : s.LandSound keys) (c : HexCoord) {change : HexLand → HexLand}
    (keeps : (s.landAt c).Sound (keys c) → (change (s.landAt c)).Sound (keys c)) :
    (s.modifyLand c change).LandSound keys := by
  intro c'
  rw [modifyLand_landAt]
  split_ifs with here
  · subst here
    exact keeps (sound c')
  · exact sound c'

theorem LandSound.landLoop (sound : s.LandSound keys) (radius : ℤ) {body : HexCoord → Hex → HexLand → HexLand}
    (keeps : ∀ c hex land, land.Sound (keys c) → (body c hex land).Sound (keys c)) :
    (s.landLoop radius body).LandSound keys := by
  intro c
  rw [landLoop_landAt]
  split_ifs
  · cases s.hexAt c with
    | none => exact sound c
    | some hex => exact keeps c hex _ (sound c)
  · exact sound c

theorem LandSound.regenerateResources (sound : s.LandSound keys) (radius : ℤ) :
    (s.regenerateResources keys radius).LandSound keys := by
  refine sound.landLoop radius fun c hex land held => ?_
  split_ifs
  · exact held
  · exact held.regrowLand hex.terrain (by norm_num [matter])

theorem LandSound.weeklyResourceRegen (sound : s.LandSound keys) (radius : ℤ) {w : SimWeather}
    (fit : w.tempModifier ≤ 1) : (s.weeklyResourceRegen keys radius w).LandSound keys := by
  refine sound.landLoop radius fun c hex land held => ?_
  split_ifs
  · exact held
  · exact (held.fallowRecover s.lastTick (fallowMod_pos fit)).regrowLand hex.terrain
      (by have := agnosis_pos; positivity)

/-- A boost write leaves an entry or puts the settlement's factor. -/
theorem raiseBoost_cases (factor : ℚ) (boosts : HexCoord → Option ℚ) (c c' : HexCoord) :
    raiseBoost factor boosts c c' = boosts c' ∨ raiseBoost factor boosts c c' = some factor := by
  unfold raiseBoost
  by_cases here : c' = c
  · subst here
    cases found : boosts c' with
    | none => simp
    | some existing =>
      dsimp only
      split_ifs <;> simp [found]
  · cases boosts c with
    | none => simp [Function.update_of_ne here]
    | some existing =>
      dsimp only
      split_ifs <;> simp [Function.update_of_ne here]

/-- Boosts that are all positive stay so under writes of a positive factor. -/
theorem foldl_raiseBoost_pos {factor : ℚ} (positive : 0 < factor) (cs : List HexCoord)
    {boosts : HexCoord → Option ℚ} (held : ∀ c, ∀ b ∈ boosts c, 0 < b) :
    ∀ c, ∀ b ∈ cs.foldl (raiseBoost factor) boosts c, 0 < b := by
  refine foldl_invariant (fun boosts : HexCoord → Option ℚ => ∀ c, ∀ b ∈ boosts c, 0 < b) _ cs boosts
    (fun c' _ boosts held' c b found => ?_) held
  rcases raiseBoost_cases factor boosts c' c with same | written
  · exact held' c b (same ▸ found)
  · rw [written, Option.mem_def, Option.some.injEq] at found
    exact found ▸ positive

/-- Under a logarithm that is non-negative from one on, every boost of `pressureByHex` is
positive. -/
theorem pressureByHex_pos {log2 : ℚ → ℚ} (log2_nonneg : ∀ x, 1 ≤ x → 0 ≤ log2 x) (pressure : ℕ → ℚ)
    (c : HexCoord) : ∀ factor ∈ s.pressureByHex log2 pressure c, 0 < factor := by
  refine foldl_invariant (fun boosts : HexCoord → Option ℚ => ∀ c, ∀ b ∈ boosts c, 0 < b) _ _ _
    (fun q _ boosts held => ?_) (fun _ _ absent => absurd absent (by simp)) c
  dsimp only
  split_ifs with empty nonpositive
  · exact held
  · exact held
  · -- the factor `1 + Agnosis·log2(1 + p)` of a positive pressure `p`
    have positive : 0 < 1 + agnosis * log2 (1 + pressure (s.settlementAt q).id) := by
      have := log2_nonneg (1 + pressure (s.settlementAt q).id) (by linarith [not_le.mp nonpositive])
      have := agnosis_pos
      positivity
    exact foldl_raiseBoost_pos positive [(s.settlementAt q).position]
      (foldl_raiseBoost_pos positive _ held)

theorem LandSound.hourlyResourceRegen (sound : s.LandSound keys) (radius : ℤ) {log2 : ℚ → ℚ}
    (log2_nonneg : ∀ x, 1 ≤ x → 0 ≤ log2 x) (pressure : ℕ → ℚ) {w : SimWeather} (fit : w.tempModifier ≤ 1) :
    (s.hourlyResourceRegen keys radius log2 pressure w).LandSound keys := by
  refine sound.landLoop radius fun c hex land held => ?_
  split_ifs
  · exact held
  · have boost : 0 ≤ (s.pressureByHex log2 pressure c).getD 1 := by
      cases found : s.pressureByHex log2 pressure c with
      | none => norm_num
      | some b => exact (pressureByHex_pos log2_nonneg pressure c b found).le
    have := agnosis_pos
    exact held.regrowLand hex.terrain (mul_nonneg (by positivity) (weatherMod_pos fit).le)

theorem LandSound.damageHexHealth (sound : s.LandSound keys) (conservationAt : HexCoord → ℕ) (c : HexCoord)
    {baseDamage : ℚ} (nonneg : 0 ≤ baseDamage) : (s.damageHexHealth conservationAt c baseDamage).LandSound keys := by
  unfold Simulation.damageHexHealth
  cases s.hexAt c with
  | none => exact sound
  | some hex =>
    dsimp only
    split_ifs
    · exact sound
    · exact sound.modifyLand c fun held => held.damageLand nonneg _

theorem LandSound.erodeCoast (sound : s.LandSound keys) (conservationAt : HexCoord → ℕ) (tick : ℕ)
    (q : SettRef) : (s.erodeCoast conservationAt tick q).LandSound keys := by
  have damage := agnosis_pos
  unfold Simulation.erodeCoast
  dsimp only
  by_cases empty : (s.settlementAt q).population = 0
  · rw [if_pos empty]
    exact sound
  rw [if_neg empty]
  cases s.hexAt (s.settlementAt q).position with
  | none => exact sound
  | some hex =>
    dsimp only
    split_ifs
    · exact sound
    · exact sound
    · -- the home hex, then its six neighbours
      exact foldl_invariant (LandSound keys) _ _ _
        (fun nc _ u held => held.damageHexHealth conservationAt nc (by positivity))
        (sound.damageHexHealth conservationAt _ (by positivity))

theorem LandSound.applyStormErosion (sound : s.LandSound keys) (conservationAt : HexCoord → ℕ) (tick : ℕ) :
    (s.applyStormErosion conservationAt tick).LandSound keys :=
  foldl_invariant (LandSound keys) _ _ s (fun q _ _ held => held.erodeCoast conservationAt tick q) sound

theorem LandSound.applyDroughtDegradation (sound : s.LandSound keys) (conservationAt : HexCoord → ℕ)
    (radius : ℤ) : (s.applyDroughtDegradation conservationAt radius).LandSound keys := by
  refine sound.landLoop radius fun c hex land held => ?_
  split_ifs with wet irrigated
  · exact held
  · exact held
  · exact held.droughtLand _ (not_le.mp irrigated)

theorem LandSound.applyWeatherHexDamage (sound : s.LandSound keys) (conservationAt : HexCoord → ℕ)
    (radius : ℤ) (w : SimWeather) (tick : ℕ) :
    (s.applyWeatherHexDamage conservationAt radius w tick).LandSound keys := by
  have stormed : (if w.travelPenalty ≥ 2 then s.applyStormErosion conservationAt tick else s).LandSound keys := by
    split_ifs
    · exact sound.applyStormErosion conservationAt tick
    · exact sound
  unfold Simulation.applyWeatherHexDamage
  dsimp only
  generalize (if w.travelPenalty ≥ 2 then s.applyStormErosion conservationAt tick else s) = t at stormed ⊢
  split_ifs
  · exact stormed.applyDroughtDegradation conservationAt radius
  · exact stormed

end Simulation

end MiniWorld.Engine
