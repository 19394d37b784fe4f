import MiniWorld.Engine.Merchant
import MiniWorld.Grid.Hexagon
import MiniWorld.Index.Build
import MiniWorld.Run.Invariant
/-! # World generation (`internal/world/generation.go`, `internal/world/map.go`)

`Generate` sets one hex for every coordinate of the square `-R ≤ q, r ≤ R` whose cube
coordinates are at most `R`, then runs two post-passes over the map: `markCoastalHexes` turns
low plains and forest beside the ocean into coast, and `placeRivers` traces a few rivers down
from high ground with `traceRiver`.

The float pipeline that gives a hex its elevation, rainfall and temperature (three layers of
octave simplex noise, the continental falloff, the temperature blend) depends on the seed and
enters as one function `climate` of the coordinate; Go's iteration order over `m.Hexes` in the
post-passes and the random shuffle of the river sources enter as parameters too.  Nothing is
assumed of them, so what is proved holds for every seed and every noise.

* `generate_hexes` — the generated map is the hexagon of radius `R`, every hex under its own
  coordinate, which has `3 R ^ 2 + 3 R + 1` hexes (`Grid.card_hexagon`);
* `Reshaped` — what a post-pass keeps: the keys, the coordinates and elevations, whether a hex
  is ocean; and a hex becomes coast only beside the ocean;
* `RiverTraced` — the walk of `traceRiver`: at most fifty hexes, each a lower unvisited
  neighbour of the one before, and only land that is not mountain or coast becomes river.
-/

namespace MiniWorld.World

open MiniWorld.Engine (HexCoord Terrain ResourceType resourceGrain resourceTimber resourceIronOre
  resourceStone resourceFish resourceHerbs resourceGems resourceFurs resourceCoal resourceExotics)
open MiniWorld.Run

/-! ## The map -/

/-- `world.Hex`, with the fields generation writes. -/
structure Hex where
  coord : HexCoord
  terrain : Terrain
  resources : ResourceType → ℚ
  elevation : ℚ
  rainfall : ℚ
  temperature : ℚ
  health : ℚ

/-- `world.Map`: the hexes by coordinate, and the radius. -/
structure Map where
  hexes : HexCoord → Option Hex
  radius : ℤ

def newMap (radius : ℤ) : Map := ⟨fun _ => none, radius⟩

namespace Map

def get (m : Map) (coord : HexCoord) : Option Hex := m.hexes coord

/-- `Map.Set`: the hex under its own coordinate. -/
def set (m : Map) (hex : Hex) : Map := { m with hexes := Function.update m.hexes hex.coord (some hex) }

/-- A write through the pointer `m.Get(coord)` returns, when there is one. -/
def modify (m : Map) (coord : HexCoord) (change : Hex → Hex) : Map :=
  match m.hexes coord with
  | none => m
  | some hex => { m with hexes := Function.update m.hexes coord (some (change hex)) }

end Map

/-- The largest absolute cube coordinate, as `Generate` and `InBounds` compute it. -/
def cubeMax (c : HexCoord) : ℤ := max (max |c.q| |c.r|) |c.s|

def Map.inBounds (m : Map) (coord : HexCoord) : Bool := cubeMax coord ≤ m.radius

/-! ## Generating the hexes -/

/-- `GenConfig`, without the seed: the noise and the random numbers it seeds are parameters. -/
structure GenConfig where
  radius : ℤ
  seaLevel : ℚ
  mountainLvl : ℚ

/-- What the float pipeline of `Generate` gives a hex: the elevation after the continental
falloff, the rainfall, and the temperature after its blend. -/
structure Climate where
  elevation : ℚ
  rainfall : ℚ
  temperature : ℚ

def deriveTerrain (elev rain temp : ℚ) (cfg : GenConfig) : Terrain :=
  if elev < cfg.seaLevel then .ocean
  else if elev > cfg.mountainLvl then .mountain
  else if temp < 0.25 then .tundra
  else if rain < 0.25 ∧ temp > 0.5 then .desert
  else if rain > 0.7 ∧ elev < 0.45 then .swamp
  else if rain > 0.45 ∧ elev > 0.45 then .forest
  else .plains

/-- `makeResources`: the yields of a fresh hex; a resource the map lacks reads as zero. -/
def makeResources (terrain : Terrain) (elev rain : ℚ) : ResourceType → ℚ :=
  match terrain with
  | .plains => Function.update 0 resourceGrain (80 + rain * 40)
  | .forest =>
    Function.update (Function.update (Function.update 0 resourceTimber 100) resourceHerbs 30)
      resourceFurs 20
  | .mountain =>
    let res : ResourceType → ℚ :=
      Function.update (Function.update (Function.update 0 resourceIronOre (60 + elev * 30))
        resourceStone 80) resourceCoal 40
    if elev > 0.85 then Function.update res resourceGems 10 else res
  | .coast => Function.update 0 resourceFish 80
  | .river => Function.update (Function.update 0 resourceFish 50) resourceGrain 40
  | .swamp => Function.update (Function.update 0 resourceHerbs 60) resourceExotics 5
  | .tundra => Function.update 0 resourceFurs 40
  | .desert =>
    let res : ResourceType → ℚ := Function.update 0 resourceStone 30
    if elev > 0.5 then Function.update res resourceGems 8 else res
  | .ocean => 0

/-- The hex `Generate` builds at a coordinate. -/
def generateHex (cfg : GenConfig) (climate : Climate) (coord : HexCoord) : Hex :=
  let terrain := deriveTerrain climate.elevation climate.rainfall climate.temperature cfg
  { coord, terrain, resources := makeResources terrain climate.elevation climate.rainfall,
    elevation := climate.elevation, rainfall := climate.rainfall,
    temperature := climate.temperature, health := 1 }

/-- `for q := -R; q <= R; q++`. -/
def axialRange (radius : ℤ) : List ℤ :=
  (List.range (2 * radius + 1).toNat).map fun k : ℕ => (k : ℤ) - radius

/-! ## The post-passes -/

/-- `markCoastalHexes`, visiting the hexes in `order`, Go's iteration order of `m.Hexes`: the
land hexes with an ocean neighbour are collected first, then the low plains and forest among
them become coast. -/
def markCoastalHexes (order : List HexCoord) (m : Map) : Map :=
  let toMark := order.filter fun coord =>
    match m.get coord with
    | none => false
    | some hex => hex.terrain != .ocean &&
        coord.neighbors.any fun n => (m.get n).any fun nh => nh.terrain == .ocean
  toMark.foldl (fun m coord => m.modify coord fun hex =>
      if (hex.terrain = .plains ∨ hex.terrain = .forest) ∧ hex.elevation < 0.5 then
        let res := makeResources .coast hex.elevation hex.rainfall
        { hex with terrain := .coast,
                   resources := if hex.rainfall > 0.4 then Function.update res resourceGrain 20 else res }
      else hex) m

/-- One round of the scan of `traceRiver` for the lowest neighbour: `bestNeighbor` and
`bestElev`, replaced by an unvisited neighbour on the map strictly below `bestElev`. -/
def lowestStep (m : Map) (visited : List HexCoord) (best : Option HexCoord × ℚ) (nc : HexCoord) :
    Option HexCoord × ℚ :=
  if nc ∈ visited then best
  else match m.get nc with
    | none => best
    | some nh => if nh.elevation < best.2 then (some nc, nh.elevation) else best

/-- The scan of `traceRiver` for the lowest neighbour, from the current elevation. -/
def lowestNeighbor (m : Map) (visited : List HexCoord) (current : HexCoord) (elev : ℚ) :
    Option HexCoord :=
  (current.neighbors.foldl (lowestStep m visited) (none, elev)).1

/-- `hex.Terrain = TerrainRiver`, with its fish and its irrigation bonus of grain. -/
def markRiver (hex : Hex) : Hex :=
  let res := Function.update hex.resources resourceFish 50
  { hex with terrain := .river, resources := Function.update res resourceGrain (res resourceGrain + 20) }

/-- The loop of `traceRiver` with `steps` rounds left: the map and the hexes visited, in order. -/
def riverLoop : ℕ → Map → HexCoord → List HexCoord → Map × List HexCoord
  | 0, m, _, visited => (m, visited)
  | steps + 1, m, current, visited =>
    let visited := visited ++ [current]
    match m.get current with
    | none => (m, visited)
    | some hex =>
      if hex.terrain = .ocean then (m, visited)
      else
        -- mountains and coast keep their terrain
        let m := if hex.terrain ≠ .mountain ∧ hex.terrain ≠ .coast then m.modify current markRiver
          else m
        match lowestNeighbor m visited current hex.elevation with
        | none => (m, visited)
        | some next => riverLoop steps m next visited

/-- `traceRiver`: at most fifty rounds. -/
def traceRiver (m : Map) (start : HexCoord) : Map := (riverLoop 50 m start []).1

/-- `placeRivers`: the high land hexes, collected in `order`, are put in the order `shuffle`
gives them (`rng.Shuffle`), and rivers start from the first few. -/
def placeRivers (order : List HexCoord) (shuffle : List HexCoord → List HexCoord) (m : Map) : Map :=
  let sources := order.filter fun coord =>
    (m.get coord).any fun hex => decide (hex.elevation > 0.65) && hex.terrain != .ocean
  let numRivers := sources.length / 8
  let numRivers := if numRivers < 2 then 2 else numRivers
  let numRivers := if numRivers > 10 then 10 else numRivers
  let sources := shuffle sources
  let sources := if sources.length > numRivers then sources.take numRivers else sources
  sources.foldl traceRiver m

def generate (cfg : GenConfig) (climate : HexCoord → Climate) (coastOrder riverOrder : List HexCoord)
    (shuffle : List HexCoord → List HexCoord) : Map :=
  let m := (axialRange cfg.radius).foldl (fun m q =>
      (axialRange cfg.radius).foldl (fun m r =>
        if cubeMax ⟨q, r⟩ > cfg.radius then m else m.set (generateHex cfg (climate ⟨q, r⟩) ⟨q, r⟩)) m)
    (newMap cfg.radius)
  placeRivers riverOrder shuffle (markCoastalHexes coastOrder m)

/-! ## The hexes `Generate` sets -/

theorem mem_axialRange {radius q : ℤ} : q ∈ axialRange radius ↔ -radius ≤ q ∧ q ≤ radius := by
  unfold axialRange
  rw [List.mem_map]
  constructor
  · rintro ⟨k, below, rfl⟩
    rw [List.mem_range] at below
    omega
  · intro within
    exact ⟨(q + radius).toNat, List.mem_range.mpr (by omega), by omega⟩

theorem cubeMax_le_iff {c : HexCoord} {R : ℤ} :
    cubeMax c ≤ R ↔ -R ≤ c.q ∧ c.q ≤ R ∧ -R ≤ c.r ∧ c.r ≤ R ∧ -R ≤ c.q + c.r ∧ c.q + c.r ≤ R := by
  simp only [cubeMax, HexCoord.s, max_le_iff, abs_le]
  omega

/-- In the hexagon of a natural radius, the bound `Generate` tests is the lattice hexagon's. -/
theorem cubeMax_le_iff_mem_hexagon {c : HexCoord} {R : ℕ} :
    cubeMax c ≤ R ↔ (c.q, c.r) ∈ Grid.hexagon R := by
  rw [cubeMax_le_iff, Grid.mem_hexagon, Grid.cubeNorm_le_iff]

section Filling

variable (R : ℤ) {gen : HexCoord → Hex} (gen_coord : ∀ c, (gen c).coord = c)
include gen_coord

/-- The hexes after `m.set (gen c)` for `c` inside the bound. -/
theorem setInside_hexes (m : Map) (c' c : HexCoord) :
    (if cubeMax c' > R then m else m.set (gen c')).hexes c =
      if c = c' ∧ cubeMax c ≤ R then some (gen c) else m.hexes c := by
  by_cases here : c = c'
  · subst here
    by_cases inside : cubeMax c ≤ R
    · rw [if_neg (not_lt.mpr inside), if_pos ⟨rfl, inside⟩]
      simp [Map.set, gen_coord]
    · rw [if_pos (lt_of_not_ge inside), if_neg fun ⟨_, within⟩ => inside within]
  · have elsewhere : c ≠ (gen c').coord := by rwa [gen_coord]
    split_ifs <;> simp_all [Map.set]

/-- One row of the generation loop sets, at every coordinate of the row inside the bound, the
hex made for it. -/
theorem setRow_hexes (q : ℤ) : ∀ (rs : List ℤ) (m : Map) (c : HexCoord),
    (rs.foldl (fun m r => if cubeMax ⟨q, r⟩ > R then m else m.set (gen ⟨q, r⟩)) m).hexes c =
      if c.q = q ∧ c.r ∈ rs ∧ cubeMax c ≤ R then some (gen c) else m.hexes c
  | [], m, c => by simp
  | r :: rest, m, c => by
    rw [List.foldl_cons, setRow_hexes q rest, setInside_hexes R gen_coord]
    by_cases cell : c = ⟨q, r⟩
    · subst cell
      by_cases inside : cubeMax ⟨q, r⟩ ≤ R <;> simp [inside]
    · -- another cell of the row is set by the rest of the row, or not at all
      have other : ¬(c.q = q ∧ c.r = r) := fun ⟨row, col⟩ => cell (by cases c; simp_all)
      have same : (c.q = q ∧ (c.r = r ∨ c.r ∈ rest) ∧ cubeMax c ≤ R) ↔
          (c.q = q ∧ c.r ∈ rest ∧ cubeMax c ≤ R) := by
        constructor
        · rintro ⟨row, col | later, inside⟩
          · exact absurd ⟨row, col⟩ other
          · exact ⟨row, later, inside⟩
        · rintro ⟨row, later, inside⟩
          exact ⟨row, .inr later, inside⟩
      simp only [List.mem_cons, same, cell, false_and, if_false]

/-- The whole loop sets, at every coordinate of the square inside the bound, the hex made for
it. -/
theorem setRows_hexes (rs : List ℤ) : ∀ (qs : List ℤ) (m : Map) (c : HexCoord),
    (qs.foldl (fun m q => rs.foldl (fun m r =>
        if cubeMax ⟨q, r⟩ > R then m else m.set (gen ⟨q, r⟩)) m) m).hexes c =
      if c.q ∈ qs ∧ c.r ∈ rs ∧ cubeMax c ≤ R then some (gen c) else m.hexes c
  | [], m, c => by simp
  | q :: rest, m, c => by
    rw [List.foldl_cons, setRows_hexes rs rest, setRow_hexes R gen_coord]
    split_ifs <;> simp_all

end Filling

/-- The loop of `Generate` sets exactly the coordinates inside the bound, each to the hex made for
it. -/
theorem generateLoop_hexes (cfg : GenConfig) (climate : HexCoord → Climate) (c : HexCoord) :
    ((axialRange cfg.radius).foldl (fun m q =>
        (axialRange cfg.radius).foldl (fun m r =>
          if cubeMax ⟨q, r⟩ > cfg.radius then m
          else m.set (generateHex cfg (climate ⟨q, r⟩) ⟨q, r⟩)) m)
      (newMap cfg.radius)).hexes c =
      if cubeMax c ≤ cfg.radius then some (generateHex cfg (climate c) c) else none := by
  rw [@setRows_hexes cfg.radius (fun c => generateHex cfg (climate c) c) (fun _ => rfl)]
  -- inside the bound both coordinates are within the square the loop walks
  have square : cubeMax c ≤ cfg.radius → c.q ∈ axialRange cfg.radius ∧ c.r ∈ axialRange cfg.radius := by
    rw [cubeMax_le_iff, mem_axialRange, mem_axialRange]
    omega
  by_cases inside : cubeMax c ≤ cfg.radius
  · simp [inside, square inside]
  · simp [inside, newMap]

/-- The loop of `Generate` keeps the radius of `NewMap`. -/
theorem generateLoop_radius (cfg : GenConfig) (climate : HexCoord → Climate) :
    ((axialRange cfg.radius).foldl (fun m q =>
        (axialRange cfg.radius).foldl (fun m r =>
          if cubeMax ⟨q, r⟩ > cfg.radius then m
          else m.set (generateHex cfg (climate ⟨q, r⟩) ⟨q, r⟩)) m)
      (newMap cfg.radius)).radius = cfg.radius := by
  refine foldl_invariant (fun m : Map => m.radius = cfg.radius) _ _ _ (fun q _ m row => ?_) rfl
  refine foldl_invariant (fun m : Map => m.radius = cfg.radius) _ _ _ (fun r _ m kept => ?_) row
  split_ifs
  · exact kept
  · exact kept

/-! ## What the post-passes keep -/

/-- Ocean lies beside `c` on the map. -/
def Map.OceanBeside (m : Map) (c : HexCoord) : Prop :=
  ∃ n ∈ c.neighbors, ∃ nh, m.hexes n = some nh ∧ nh.terrain = .ocean

/-- What a post-pass keeps of the hex at `c`: its coordinate and elevation, whether it is ocean;
and it becomes coast only beside the ocean of `m`. -/
structure HexKept (m : Map) (c : HexCoord) (h h' : Hex) : Prop where
  coord : h'.coord = h.coord
  elevation : h'.elevation = h.elevation
  ocean : h'.terrain = .ocean ↔ h.terrain = .ocean
  coast : h'.terrain = .coast → h.terrain ≠ .coast → m.OceanBeside c

/-- A post-pass from `m` to `m'`: the radius, and every hex kept, none added or removed. -/
structure Reshaped (m m' : Map) : Prop where
  radius : m'.radius = m.radius
  hexes : ∀ c, Option.Rel (HexKept m c) (m.hexes c) (m'.hexes c)

theorem HexKept.refl (m : Map) (c : HexCoord) (h : Hex) : HexKept m c h h :=
  ⟨rfl, rfl, Iff.rfl, fun coast notCoast => absurd coast notCoast⟩

/-- Two post-passes compose, the second's ocean beside `c` being the first's. -/
theorem HexKept.trans {m m₁ : Map} {c : HexCoord} {h h₁ h₂ : Hex} (first : HexKept m c h h₁)
    (second : HexKept m₁ c h₁ h₂) (beside : m₁.OceanBeside c → m.OceanBeside c) :
    HexKept m c h h₂ where
  coord := second.coord.trans first.coord
  elevation := second.elevation.trans first.elevation
  ocean := second.ocean.trans first.ocean
  coast := fun coast notCoast => by
    by_cases wasCoast : h₁.terrain = .coast
    · exact first.coast wasCoast notCoast
    · exact beside (second.coast coast wasCoast)

namespace Reshaped

theorem refl (m : Map) : Reshaped m m :=
  ⟨rfl, fun c => by
    cases h : m.hexes c with
    | none => exact .none
    | some hex => exact .some (HexKept.refl m c hex)⟩

/-- A hex after a post-pass was there before, and kept. -/
theorem found {m m' : Map} (reshaped : Reshaped m m') {c : HexCoord} {h' : Hex}
    (after : m'.hexes c = some h') : ∃ h, m.hexes c = some h ∧ HexKept m c h h' := by
  have kept := reshaped.hexes c
  rw [after] at kept
  generalize before : m.hexes c = entry at kept
  cases kept with
  | some kept => exact ⟨_, rfl, kept⟩

/-- A post-pass keeps the keys. -/
theorem isSome {m m' : Map} (reshaped : Reshaped m m') (c : HexCoord) :
    (m'.hexes c).isSome ↔ (m.hexes c).isSome := by
  have kept := reshaped.hexes c
  generalize m.hexes c = before at kept ⊢
  generalize m'.hexes c = after at kept ⊢
  cases kept <;> rfl

/-- Ocean beside a hex after a post-pass was there before. -/
theorem oceanBeside {m m' : Map} (reshaped : Reshaped m m') {c : HexCoord} :
    m'.OceanBeside c → m.OceanBeside c := by
  rintro ⟨n, near, nh', after, ocean⟩
  obtain ⟨nh, before, kept⟩ := reshaped.found after
  exact ⟨n, near, nh, before, kept.ocean.mp ocean⟩

theorem trans {m m₁ m₂ : Map} (first : Reshaped m m₁) (second : Reshaped m₁ m₂) : Reshaped m m₂ where
  radius := second.radius.trans first.radius
  hexes c := by
    have one := first.hexes c
    have two := second.hexes c
    generalize m.hexes c = before at one ⊢
    generalize m₁.hexes c = between at one two
    generalize m₂.hexes c = after at two ⊢
    cases one with
    | none =>
      cases two
      exact .none
    | some kept =>
      cases two with
      | some kept' => exact .some (kept.trans kept' first.oceanBeside)

/-- A write through the pointer at `coord` that keeps what a post-pass keeps. -/
theorem modify {m m₁ : Map} (reshaped : Reshaped m m₁) (coord : HexCoord) {change : Hex → Hex}
    (keeps : ∀ h, m₁.hexes coord = some h → HexKept m coord h (change h)) :
    Reshaped m (m₁.modify coord change) where
  radius := by
    unfold Map.modify
    split <;> exact reshaped.radius
  hexes c := by
    unfold Map.modify
    split
    · exact reshaped.hexes c
    · rename_i h found
      by_cases here : c = coord
      · subst here
        have before := reshaped.hexes c
        rw [found] at before
        simp only [Function.update_self]
        generalize m.hexes c = entry at before ⊢
        cases before with
        | some kept => exact .some (kept.trans (keeps h found) id)
      · simp only [Function.update_of_ne here]
        exact reshaped.hexes c

end Reshaped

/-- The coast pass keeps what a post-pass keeps: it collects land beside the ocean, and turns
only that into coast. -/
theorem markCoastalHexes_reshaped (order : List HexCoord) (m : Map) :
    Reshaped m (markCoastalHexes order m) := by
  unfold markCoastalHexes
  refine foldl_invariant (fun m' : Map => Reshaped m m') _ _ m ?_ (Reshaped.refl m)
  intro coord marked m' reshaped
  have beside : m.OceanBeside coord := by
    have chosen := (List.mem_filter.mp marked).2
    simp only [Map.get] at chosen
    split at chosen
    · exact absurd chosen Bool.false_ne_true
    · simp only [Bool.and_eq_true, List.any_eq_true, Option.any_eq_true, beq_iff_eq] at chosen
      obtain ⟨_, n, near, nh, found, ocean⟩ := chosen
      exact ⟨n, near, nh, found, ocean⟩
  refine reshaped.modify coord fun h _ => ?_
  by_cases low : (h.terrain = .plains ∨ h.terrain = .forest) ∧ h.elevation < 0.5
  · -- low plains or forest becomes coast, which is not ocean
    rw [if_pos low]
    have land : h.terrain ≠ .ocean := by
      rcases low.1 with plains | forest
      · simp [plains]
      · simp [forest]
    exact ⟨rfl, rfl, iff_of_false (by simp) land, fun _ _ => beside⟩
  · rw [if_neg low]
    exact HexKept.refl m coord h

/-! ## Rivers -/

/-- What marking rivers keeps of a hex: its coordinate and elevation, and its terrain unless it
becomes river from land that is neither mountain nor coast. -/
structure Riverbed (h h' : Hex) : Prop where
  coord : h'.coord = h.coord
  elevation : h'.elevation = h.elevation
  terrain : h'.terrain = h.terrain ∨
    (h'.terrain = .river ∧ h.terrain ≠ .ocean ∧ h.terrain ≠ .mountain ∧ h.terrain ≠ .coast)

theorem Riverbed.refl (h : Hex) : Riverbed h h := ⟨rfl, rfl, .inl rfl⟩

theorem Riverbed.trans {h h₁ h₂ : Hex} (first : Riverbed h h₁) (second : Riverbed h₁ h₂) :
    Riverbed h h₂ where
  coord := second.coord.trans first.coord
  elevation := second.elevation.trans first.elevation
  terrain := by
    rcases second.terrain with same | ⟨river, _⟩
    · rw [same]
      exact first.terrain
    · -- a river stays river; what it was before the first marking was land
      rcases first.terrain with same' | ⟨_, land⟩
      · exact .inr ⟨river, same' ▸ ‹_›⟩
      · exact .inr ⟨river, land⟩

/-- Rivers marked from `m` to `m'`: the radius, and every hex a riverbed of the one before. -/
structure RiverMarked (m m' : Map) : Prop where
  radius : m'.radius = m.radius
  hexes : ∀ c, Option.Rel Riverbed (m.hexes c) (m'.hexes c)

namespace RiverMarked

theorem refl (m : Map) : RiverMarked m m :=
  ⟨rfl, fun c => by
    cases m.hexes c with
    | none => exact .none
    | some hex => exact .some (Riverbed.refl hex)⟩

/-- A hex after the marking was there before, and it is a riverbed of that one. -/
theorem found {m m' : Map} (marked : RiverMarked m m') {c : HexCoord} {h' : Hex}
    (after : m'.hexes c = some h') : ∃ h, m.hexes c = some h ∧ Riverbed h h' := by
  have bed := marked.hexes c
  rw [after] at bed
  generalize before : m.hexes c = entry at bed
  cases bed with
  | some bed => exact ⟨_, rfl, bed⟩

theorem trans {m m₁ m₂ : Map} (first : RiverMarked m m₁) (second : RiverMarked m₁ m₂) :
    RiverMarked m m₂ where
  radius := second.radius.trans first.radius
  hexes c := by
    have one := first.hexes c
    have two := second.hexes c
    generalize m.hexes c = before at one ⊢
    generalize m₁.hexes c = between at one two
    generalize m₂.hexes c = after at two ⊢
    cases one with
    | none =>
      cases two
      exact .none
    | some bed =>
      cases two with
      | some bed' => exact .some (bed.trans bed')

/-- A write through the pointer at `coord` that makes a riverbed. -/
theorem modify {m m₁ : Map} (marked : RiverMarked m m₁) (coord : HexCoord) {change : Hex → Hex}
    (keeps : ∀ h, m₁.hexes coord = some h → Riverbed h (change h)) :
    RiverMarked m (m₁.modify coord change) where
  radius := by
    unfold Map.modify
    split <;> exact marked.radius
  hexes c := by
    unfold Map.modify
    split
    · exact marked.hexes c
    · rename_i h after
      by_cases here : c = coord
      · subst here
        obtain ⟨before, was, bed⟩ := marked.found after
        simp only [Function.update_self, was]
        exact .some (bed.trans (keeps h after))
      · simp only [Function.update_of_ne here]
        exact marked.hexes c

/-- Marking rivers is a post-pass. -/
theorem reshaped {m m' : Map} (marked : RiverMarked m m') : Reshaped m m' where
  radius := marked.radius
  hexes c := by
    have bed := marked.hexes c
    generalize m.hexes c = before at bed ⊢
    generalize m'.hexes c = after at bed ⊢
    cases bed with
    | none => exact .none
    | some bed =>
      refine .some ⟨bed.coord, bed.elevation, ?_, fun coast notCoast => ?_⟩
      · rcases bed.terrain with same | ⟨river, land⟩
        · rw [same]
        · simp [river, land.1]
      · -- a riverbed never turns into coast
        rcases bed.terrain with same | ⟨river, _⟩
        · exact absurd (same ▸ coast) notCoast
        · simp [river] at coast

end RiverMarked

/-- A step of a river: to a neighbour lower on the map. -/
def Downhill (m : Map) (a b : HexCoord) : Prop :=
  b ∈ a.neighbors ∧ ∃ ha hb, m.hexes a = some ha ∧ m.hexes b = some hb ∧ hb.elevation < ha.elevation

/-- The marking keeps the elevations, so a step downhill after it was downhill before. -/
theorem RiverMarked.downhill {m m' : Map} (marked : RiverMarked m m') {a b : HexCoord} :
    Downhill m' a b → Downhill m a b := by
  rintro ⟨near, ha', hb', atA, atB, lower⟩
  obtain ⟨ha, wasA, bedA⟩ := marked.found atA
  obtain ⟨hb, wasB, bedB⟩ := marked.found atB
  exact ⟨near, ha, hb, wasA, wasB, by rwa [← bedA.elevation, ← bedB.elevation]⟩

/-- The scan finds an unvisited neighbour on the map, below the elevation it starts from. -/
theorem lowestNeighbor_spec {m : Map} {visited : List HexCoord} {current next : HexCoord} {elev : ℚ}
    (found : lowestNeighbor m visited current elev = some next) :
    next ∈ current.neighbors ∧ next ∉ visited ∧ ∃ nh, m.hexes next = some nh ∧ nh.elevation < elev := by
  unfold lowestNeighbor at found
  -- the best so far is at most the start, and is an unvisited lower neighbour when there is one
  have scan := foldl_invariant (fun best : Option HexCoord × ℚ => best.2 ≤ elev ∧
      ∀ nc, best.1 = some nc → nc ∈ current.neighbors ∧ nc ∉ visited ∧
        ∃ nh, m.hexes nc = some nh ∧ nh.elevation < elev) (lowestStep m visited) current.neighbors
    (none, elev) (fun nc near best holds => ?_) ⟨le_rfl, by simp⟩
  · exact scan.2 next found
  by_cases seen : nc ∈ visited
  · simpa [lowestStep, seen] using holds
  · simp only [lowestStep, seen, if_false, Map.get]
    split
    · exact holds
    · rename_i nh atNext
      split_ifs with lower
      · refine ⟨le_trans lower.le holds.1, fun chosen same => ?_⟩
        cases same
        exact ⟨near, seen, nh, atNext, lt_of_lt_of_le lower holds.1⟩
      · exact holds

theorem Map.modify_hexes_of_ne {m : Map} {coord c : HexCoord} (change : Hex → Hex) (away : c ≠ coord) :
    (m.modify coord change).hexes c = m.hexes c := by
  unfold Map.modify
  split
  · rfl
  · exact Function.update_of_ne away _ _

/-- What the river loop gives for the walk `path` from `start` within `fuel` rounds: the marked
map, a downhill walk of distinct hexes, and no write off the walk. -/
structure RiverTraced (fuel : ℕ) (m m' : Map) (start : HexCoord) (path : List HexCoord) : Prop where
  marked : RiverMarked m m'
  head : path.head? = some start
  length_le : path.length ≤ fuel
  downhill : path.IsChain (Downhill m)
  nodup : path.Nodup
  off_path : ∀ c ∉ path, m'.hexes c = m.hexes c

/-- A round of the river loop from a fresh hex: the walk from it is fresh, starts there, and
the hexes it visits are appended to `visited`. -/
theorem riverLoop_traced : ∀ (steps : ℕ) (m : Map) (current : HexCoord) (visited : List HexCoord),
    0 < steps → current ∉ visited →
      ∃ path, (riverLoop steps m current visited).2 = visited ++ path ∧ (∀ c ∈ path, c ∉ visited) ∧
        RiverTraced steps m (riverLoop steps m current visited).1 current path
  | 0, _, _, _, running, _ => absurd running (lt_irrefl 0)
  | steps + 1, m, current, visited, _, fresh => by
    -- the walk that ends at `current`, over a map changed at most there
    have stop : ∀ m', RiverMarked m m' → (∀ c, c ≠ current → m'.hexes c = m.hexes c) →
        ∃ path, visited ++ [current] = visited ++ path ∧ (∀ c ∈ path, c ∉ visited) ∧
          RiverTraced (steps + 1) m m' current path := fun m' marked frame =>
      ⟨[current], rfl, by simpa using fresh, marked, rfl, by simp, List.isChain_singleton _,
        List.nodup_singleton _, fun c away => frame c (by simpa using away)⟩
    simp only [riverLoop, Map.get]
    cases atCurrent : m.hexes current with
    | none => exact stop m (RiverMarked.refl m) fun _ _ => rfl
    | some hex =>
      simp only
      by_cases ocean : hex.terrain = .ocean
      · simp only [ocean, if_true]
        exact stop m (RiverMarked.refl m) fun _ _ => rfl
      simp only [ocean, if_false]
      -- the round marks the current hex as river, unless it is mountain or coast
      generalize marking : (if hex.terrain ≠ .mountain ∧ hex.terrain ≠ .coast then
        m.modify current markRiver else m) = m₁
      have marked₁ : RiverMarked m m₁ := by
        rw [← marking]
        split_ifs with land
        · refine (RiverMarked.refl m).modify current fun h found => ?_
          rw [atCurrent, Option.some_inj] at found
          subst found
          exact ⟨rfl, rfl, .inr ⟨rfl, ocean, land⟩⟩
        · exact RiverMarked.refl m
      have frame₁ : ∀ c, c ≠ current → m₁.hexes c = m.hexes c := by
        intro c away
        rw [← marking]
        split_ifs
        · exact Map.modify_hexes_of_ne _ away
        · rfl
      cases scan : lowestNeighbor m₁ (visited ++ [current]) current hex.elevation with
      | none => exact stop m₁ marked₁ frame₁
      | some next =>
        obtain ⟨near, unvisited, nh, atNext, lower⟩ := lowestNeighbor_spec scan
        cases steps with
        | zero => exact stop m₁ marked₁ frame₁
        | succ steps =>
          obtain ⟨path, visits, freshPath, traced⟩ :=
            riverLoop_traced (steps + 1) m₁ next (visited ++ [current]) (Nat.succ_pos _) unvisited
          obtain ⟨tail, rfl⟩ := List.head?_eq_some_iff.mp traced.head
          -- the first step goes down to `next`, which the marking left where it was
          obtain ⟨nh₀, wasNext, bed⟩ := marked₁.found atNext
          have first : Downhill m current next :=
            ⟨near, hex, nh₀, atCurrent, wasNext, by rw [← bed.elevation]; exact lower⟩
          have later : ∀ c ∈ next :: tail, c ≠ current := fun c member same =>
            freshPath c member (by simp [same])
          refine ⟨current :: next :: tail, by rw [visits]; simp, ?_, ?_⟩
          · intro c member
            rcases List.mem_cons.mp member with rfl | member
            · exact fresh
            · exact fun listed => freshPath c member (List.mem_append_left _ listed)
          · refine ⟨marked₁.trans traced.marked, rfl, ?_, ?_, ?_, fun c away => ?_⟩
            · simpa using traced.length_le
            · exact List.isChain_cons_cons.mpr
                ⟨first, traced.downhill.imp fun _ _ step => marked₁.downhill step⟩
            · exact List.nodup_cons.mpr ⟨fun member => later current member rfl, traced.nodup⟩
            · rw [traced.off_path c fun member => away (List.mem_cons_of_mem _ member)]
              exact frame₁ c fun same => away (by simp [same])

/-- `traceRiver` from any hex: the walk it visits is a river of at most fifty hexes. -/
theorem traceRiver_traced (m : Map) (start : HexCoord) :
    RiverTraced 50 m (traceRiver m start) start (riverLoop 50 m start []).2 := by
  obtain ⟨path, visits, -, traced⟩ := riverLoop_traced 50 m start [] (by decide) List.not_mem_nil
  rw [visits, List.nil_append]
  exact traced

/-- The river pass only marks rivers. -/
theorem placeRivers_marked (order : List HexCoord) (shuffle : List HexCoord → List HexCoord)
    (m : Map) : RiverMarked m (placeRivers order shuffle m) := by
  unfold placeRivers
  exact foldl_invariant (fun m' : Map => RiverMarked m m') traceRiver _ m
    (fun start _ m' marked => marked.trans (traceRiver_traced m' start).marked) (RiverMarked.refl m)

/-! ## The generated world -/

/-- What `Generate` returns for a radius `R`: a hex at exactly the coordinates of the hexagon of
radius `R`, each under its own coordinate, and `InBounds` exactly at them. -/
structure FullHexagon (R : ℕ) (m : Map) : Prop where
  keys : ∀ c, (m.hexes c).isSome ↔ (c.q, c.r) ∈ Grid.hexagon R
  coord : ∀ c h, m.hexes c = some h → h.coord = c
  inBounds : ∀ c, m.inBounds c = true ↔ (m.hexes c).isSome

theorem generate_full_hexagon (R : ℕ) (seaLevel mountainLvl : ℚ) (climate : HexCoord → Climate)
    (coastOrder riverOrder : List HexCoord) (shuffle : List HexCoord → List HexCoord) :
    FullHexagon R (generate ⟨R, seaLevel, mountainLvl⟩ climate coastOrder riverOrder shuffle) ∧
      (Grid.hexagon R).card = 3 * R ^ 2 + 3 * R + 1 ∧
      (∀ order m, Reshaped m (markCoastalHexes order m)) ∧
      (∀ order shuffle m, Reshaped m (placeRivers order shuffle m)) ∧
      (∀ m start, RiverTraced 50 m (traceRiver m start) start (riverLoop 50 m start []).2) := by
  refine ⟨?_, Grid.card_hexagon R, markCoastalHexes_reshaped,
    fun order shuffle m => (placeRivers_marked order shuffle m).reshaped, traceRiver_traced⟩
  -- the loop's map, and the post-passes after it
  obtain ⟨m₀, filled, radius, post⟩ : ∃ m₀ : Map,
      (∀ c, m₀.hexes c = if cubeMax c ≤ (R : ℤ) then
        some (generateHex ⟨R, seaLevel, mountainLvl⟩ (climate c) c) else none) ∧
      m₀.radius = R ∧
      Reshaped m₀ (generate ⟨R, seaLevel, mountainLvl⟩ climate coastOrder riverOrder shuffle) :=
    ⟨_, generateLoop_hexes ⟨R, seaLevel, mountainLvl⟩ climate,
      generateLoop_radius ⟨R, seaLevel, mountainLvl⟩ climate,
      (markCoastalHexes_reshaped coastOrder _).trans (placeRivers_marked riverOrder shuffle _).reshaped⟩
  have keys : ∀ c, ((generate ⟨R, seaLevel, mountainLvl⟩ climate coastOrder riverOrder shuffle).hexes c).isSome ↔
      cubeMax c ≤ R := by
    intro c
    rw [post.isSome, filled]
    split_ifs with inside <;> simp [inside]
  refine ⟨fun c => (keys c).trans cubeMax_le_iff_mem_hexagon, fun c h' after => ?_, fun c => ?_⟩
  · obtain ⟨h, before, kept⟩ := post.found after
    rw [filled] at before
    split_ifs at before
    cases before
    exact kept.coord
  · rw [keys, Map.inBounds, post.radius, radius, decide_eq_true_iff]

end MiniWorld.World
