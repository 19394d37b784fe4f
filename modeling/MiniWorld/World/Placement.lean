import MiniWorld.World.Generation
import MiniWorld.Engine.Names
import MiniWorld.Engine.Neighbors
/-! # Settlement placement (`internal/world/settlement_placer.go`)

`PlaceSettlements` scores the land hexes of the map, sorts them by score and makes three greedy
passes over the sorted candidates, all appending to one list of seeds: first the cities, at
most `3 + rng.Intn(3)` of them, then the towns, at most `10 + rng.Intn(11)`, then the villages,
at most `30 + rng.Intn(21)`.  A pass passes over a candidate nearer to an earlier seed of any
size than its own distance: 8 for a city, 4 for a town, 2 for a village.  Last `generateNames`
draws a prefix and a suffix until it has an unused name for every seed.

The draws of the random source enter as `PlacerDraws`; `math.Log1p`, and the order in which
Go's `sort.Slice` (which is not stable) leaves the candidates, enter as parameters.
`generateNames` loops until the draws have given it enough distinct names: the model reads them
from a finite list and returns `none` when the list runs out.

* `Spacing` — what every pass keeps: the seeds stand on land hexes of the map, each at its
  size's distance from every seed before it (`placePass_spacing`);
* `nameLoop_spec`, `nameLoop_isSome` — the names drawn are distinct, and there are enough of
  them once the draws hold as many distinct pairs as there are seeds;
* `placeSettlements_spaced` — every result of `PlaceSettlements` is `Placed`, and there is one
  whenever the draws hold seventy-five distinct pairs.
-/

namespace MiniWorld.World

open MiniWorld.Engine (HexCoord Terrain distance settlementPrefixes settlementSuffixes comboName
  comboName_injective)
open MiniWorld.Engine.Simulation (distance_comm)
open MiniWorld.Run

/-! ## The model -/

inductive SettlementSize where
  | village | town | city
  deriving DecidableEq, Repr

structure SettlementSeed where
  coord : HexCoord
  size : SettlementSize
  score : ℚ
  name : String

/-- The score of a terrain in `settlementScore`; the ocean has none, and scores `0`. -/
def terrainScore : Terrain → Option ℚ
  | .plains => some 3
  | .coast => some 4
  | .river => some 3.5
  | .forest => some 1.5
  | .desert | .swamp | .tundra => some 0.5
  | .mountain => some 0.3
  | .ocean => none

/-- `settlementScore`: the terrain's score, `0.3` for each land terrain among the neighbours,
`0.5` for a river or a coast beside it, and a fifth of `math.Log1p` of its total resources. -/
def settlementScore (log1p : ℚ → ℚ) (m : Map) (coord : HexCoord) (hex : Hex) : ℚ :=
  match terrainScore hex.terrain with
  | none => 0
  | some base =>
    let terrainTypes := (coord.neighbors.filterMap fun nc =>
      (m.get nc).bind fun nh => if nh.terrain ≠ .ocean then some nh.terrain else none).dedup
    let water : ℚ := if coord.neighbors.any (fun nc =>
      (m.get nc).any fun nh => nh.terrain = .river ∨ nh.terrain = .coast) then 0.5 else 0
    let totalRes := ((List.finRange 10).map hex.resources).sum
    base + (terrainTypes.length : ℚ) * 0.3 + water + log1p totalRes * 0.2

/-- The `scored` records of `PlaceSettlements`. -/
structure Scored where
  coord : HexCoord
  score : ℚ

/-- The scan of `m.Hexes`, in Go's iteration order `order`: every land hex of positive score. -/
def scoreCandidates (log1p : ℚ → ℚ) (m : Map) (order : List HexCoord) : List Scored :=
  order.filterMap fun coord =>
    match m.get coord with
    | none => none
    | some hex =>
      if hex.terrain = .ocean then none
      else
        let s := settlementScore log1p m coord hex
        if s > 0 then some ⟨coord, s⟩ else none

def tooClose (coord : HexCoord) (existing : List SettlementSeed) (minDist : ℕ) : Bool :=
  existing.any fun s => distance coord s.coord < minDist

def countBySize (seeds : List SettlementSeed) (size : SettlementSize) : ℕ :=
  seeds.countP fun s => s.size = size

/-- `minCityDist`, `minTownDist` and `minVillageDist`: the pass of each size places no seed
nearer than this to an earlier one. -/
def minDistOf : SettlementSize → ℕ
  | .city => 8
  | .town => 4
  | .village => 2

/-- One pass of `PlaceSettlements` over the candidates, from the `taken` set and the seeds so
far: `full` is the test at the top of the loop that breaks it, `skip` the test that passes over
a candidate, and every other candidate becomes a seed of `size`. -/
def placePass (full : List SettlementSeed → Bool)
    (skip : (HexCoord → Bool) → List SettlementSeed → HexCoord → Bool) (size : SettlementSize) :
    List Scored → (HexCoord → Bool) → List SettlementSeed →
      (HexCoord → Bool) × List SettlementSeed
  | [], taken, seeds => (taken, seeds)
  | c :: rest, taken, seeds =>
    if full seeds then (taken, seeds)
    else if skip taken seeds c.coord then placePass full skip size rest taken seeds
    else placePass full skip size rest (Function.update taken c.coord true)
      (seeds ++ [⟨c.coord, size, c.score, ""⟩])

/-- The city pass: unlike the others it counts all the seeds, and does not read `taken`. -/
def placeCities (numCities : ℕ) : List Scored → (HexCoord → Bool) → List SettlementSeed →
    (HexCoord → Bool) × List SettlementSeed :=
  placePass (fun seeds => seeds.length ≥ numCities)
    (fun _ seeds coord => tooClose coord seeds (minDistOf .city)) .city

/-- The town pass. -/
def placeTowns (numTowns : ℕ) : List Scored → (HexCoord → Bool) → List SettlementSeed →
    (HexCoord → Bool) × List SettlementSeed :=
  placePass (fun seeds => countBySize seeds .town ≥ numTowns)
    (fun taken seeds coord => taken coord || tooClose coord seeds (minDistOf .town)) .town

/-- The village pass. -/
def placeVillages (numVillages : ℕ) : List Scored → (HexCoord → Bool) → List SettlementSeed →
    (HexCoord → Bool) × List SettlementSeed :=
  placePass (fun seeds => countBySize seeds .village ≥ numVillages)
    (fun taken seeds coord => taken coord || tooClose coord seeds (minDistOf .village)) .village

/-- A draw of `generateNames`: `rng.Intn(len(prefixes))`, then `rng.Intn(len(suffixes))`.  Its
syllables are those of `generateSettlementName`, word for word. -/
abbrev NameDraw := Fin settlementPrefixes.length × Fin settlementSuffixes.length

/-- The loop of `generateNames` from the `used` set and the names so far, reading its draws from
a list: `none` when the list runs out before there are `count` names. -/
def nameLoop (count : ℕ) : List NameDraw → (String → Bool) → List String → Option (List String)
  | [], _, names => if names.length < count then none else some names
  | draw :: rest, used, names =>
    if names.length < count then
      if used (comboName draw) then nameLoop count rest used names
      else nameLoop count rest (Function.update used (comboName draw) true)
        (names ++ [comboName draw])
    else some names

def generateNames (draws : List NameDraw) (count : ℕ) : Option (List String) :=
  nameLoop count draws (fun _ => false) []

/-- The draws of the source `PlaceSettlements` seeds with `seed + 200`, in the order it makes
them: `rng.Intn(3)`, `rng.Intn(11)`, `rng.Intn(21)`, then those of `generateNames`. -/
structure PlacerDraws where
  cities : Fin 3
  towns : Fin 11
  villages : Fin 21
  names : List NameDraw

/-- The three passes of `PlaceSettlements`, before the names. -/
def placeSeeds (log1p : ℚ → ℚ) (sortSlice : List Scored → List Scored) (m : Map)
    (order : List HexCoord) (rng : PlacerDraws) : List SettlementSeed :=
  let candidates := sortSlice (scoreCandidates log1p m order)
  let cities := placeCities (3 + (rng.cities : ℕ)) candidates (fun _ => false) []
  let towns := placeTowns (10 + (rng.towns : ℕ)) candidates cities.1 cities.2
  (placeVillages (30 + (rng.villages : ℕ)) candidates towns.1 towns.2).2

/-- `seeds[i].Name = names[i]`. -/
def assignNames (seeds : List SettlementSeed) (names : List String) : List SettlementSeed :=
  seeds.mapIdx fun i seed => { seed with name := names.getD i "" }

/-- `PlaceSettlements`; `none` when the draws run out before `generateNames` has a name for
every seed. -/
def placeSettlements (log1p : ℚ → ℚ) (sortSlice : List Scored → List Scored) (m : Map)
    (order : List HexCoord) (rng : PlacerDraws) : Option (List SettlementSeed) :=
  let seeds := placeSeeds log1p sortSlice m order rng
  (generateNames rng.names seeds.length).map (assignNames seeds)

/-! ## The passes -/

/-- A pass keeps what every seed it appends keeps. -/
theorem placePass_invariant (invariant : List SettlementSeed → Prop)
    {full : List SettlementSeed → Bool}
    {skip : (HexCoord → Bool) → List SettlementSeed → HexCoord → Bool} {size : SettlementSize} :
    ∀ (candidates : List Scored) (taken : HexCoord → Bool) (seeds : List SettlementSeed),
      (∀ c ∈ candidates, ∀ taken seeds, invariant seeds → full seeds = false →
        skip taken seeds c.coord = false → invariant (seeds ++ [⟨c.coord, size, c.score, ""⟩])) →
      invariant seeds → invariant (placePass full skip size candidates taken seeds).2
  | [], _, _, _, holds => holds
  | c :: rest, taken, seeds, keeps, holds => by
    have later := fun c' (member : c' ∈ rest) => keeps c' (List.mem_cons_of_mem c member)
    simp only [placePass]
    -- the loop breaks, passes over `c`, or appends it
    split_ifs with stop skipped
    · exact holds
    · exact placePass_invariant invariant rest taken seeds later holds
    · exact placePass_invariant invariant rest _ _ later
        (keeps c List.mem_cons_self taken seeds holds (by simpa using stop) (by simpa using skipped))

/-- A seed's hex is a land hex of the map. -/
def OnLand (m : Map) (coord : HexCoord) : Prop :=
  ∃ hex, m.get coord = some hex ∧ hex.terrain ≠ .ocean

/-- What the passes keep of the seeds: they stand on land, each at its size's distance from
every seed before it. -/
structure Spacing (m : Map) (seeds : List SettlementSeed) : Prop where
  onLand : ∀ s ∈ seeds, OnLand m s.coord
  apart : seeds.Pairwise fun a b => minDistOf b.size ≤ distance a.coord b.coord

theorem Spacing.nil (m : Map) : Spacing m [] :=
  ⟨fun _ member => absurd member List.not_mem_nil, List.Pairwise.nil⟩

/-- A seed on land and not too close to any seed before it keeps the spacing. -/
theorem Spacing.append {m : Map} {seeds : List SettlementSeed} (spaced : Spacing m seeds)
    {coord : HexCoord} (land : OnLand m coord) {size : SettlementSize}
    (far : tooClose coord seeds (minDistOf size) = false) (score : ℚ) (name : String) :
    Spacing m (seeds ++ [⟨coord, size, score, name⟩]) := by
  have beyond : ∀ s ∈ seeds, minDistOf size ≤ distance s.coord coord := by
    intro s member
    have notNear := List.any_eq_false.mp far s member
    rw [distance_comm]
    simpa using notNear
  refine ⟨fun s member => ?_, List.pairwise_append.mpr ⟨spaced.apart, List.pairwise_singleton _ _, ?_⟩⟩
  · rcases List.mem_append.mp member with earlier | new
    · exact spaced.onLand s earlier
    · rw [List.mem_singleton.mp new]
      exact land
  · intro a earlier b new
    rw [List.mem_singleton.mp new]
    exact beyond a earlier

/-- A pass over candidates on land whose skip test includes `tooClose` at its size's distance
keeps the spacing. -/
theorem placePass_spacing {m : Map} {full : List SettlementSeed → Bool}
    {skip : (HexCoord → Bool) → List SettlementSeed → HexCoord → Bool} {size : SettlementSize}
    {candidates : List Scored} (landed : ∀ c ∈ candidates, OnLand m c.coord)
    (checks : ∀ taken seeds coord, skip taken seeds coord = false →
      tooClose coord seeds (minDistOf size) = false)
    (taken : HexCoord → Bool) {seeds : List SettlementSeed} (spaced : Spacing m seeds) :
    Spacing m (placePass full skip size candidates taken seeds).2 :=
  placePass_invariant (Spacing m) candidates taken seeds
    (fun c member taken seeds spaced _ kept =>
      spaced.append (landed c member) (checks taken seeds c.coord kept) c.score "")
    spaced

theorem countBySize_append (seeds : List SettlementSeed) (seed : SettlementSeed)
    (size : SettlementSize) :
    countBySize (seeds ++ [seed]) size = countBySize seeds size + if seed.size = size then 1 else 0 := by
  simp [countBySize, List.countP_append]

/-- A pass leaves the count of every other size. -/
theorem placePass_countBySize_of_ne {full : List SettlementSeed → Bool}
    {skip : (HexCoord → Bool) → List SettlementSeed → HexCoord → Bool} {size other : SettlementSize}
    (differ : size ≠ other) (candidates : List Scored) (taken : HexCoord → Bool)
    (seeds : List SettlementSeed) :
    countBySize (placePass full skip size candidates taken seeds).2 other = countBySize seeds other :=
  placePass_invariant (fun seeds' => countBySize seeds' other = countBySize seeds other)
    candidates taken seeds
    (fun _ _ _ seeds' same _ _ => by rw [countBySize_append, same, if_neg differ, Nat.add_zero])
    rfl

/-- A pass that breaks once `measure` of its seeds reaches `quota`, where a seed appended adds
at most one to it, leaves it at most `quota`. -/
theorem placePass_le (measure : List SettlementSeed → ℕ)
    {skip : (HexCoord → Bool) → List SettlementSeed → HexCoord → Bool} {size : SettlementSize}
    {quota : ℕ} (grows : ∀ seeds seed, measure (seeds ++ [seed]) ≤ measure seeds + 1)
    (candidates : List Scored) (taken : HexCoord → Bool) {seeds : List SettlementSeed}
    (below : measure seeds ≤ quota) :
    measure (placePass (fun seeds => measure seeds ≥ quota) skip size candidates taken seeds).2 ≤
      quota :=
  placePass_invariant (fun seeds => measure seeds ≤ quota) candidates taken seeds
    (fun c _ _ seeds' _ room _ => by
      have short : measure seeds' < quota := by simpa using room
      have := grows seeds' ⟨c.coord, size, c.score, ""⟩
      omega)
    below

theorem minDistOf_pos (size : SettlementSize) : 0 < minDistOf size := by
  cases size <;> decide

/-- Spaced seeds stand on distinct hexes: every size keeps some distance. -/
theorem Spacing.coords_nodup {m : Map} {seeds : List SettlementSeed} (spaced : Spacing m seeds) :
    (seeds.map (·.coord)).Nodup := by
  rw [List.Nodup, List.pairwise_map]
  refine spaced.apart.imp fun {a b} far same => ?_
  have zero : distance a.coord b.coord = 0 := by
    rw [same]
    simp [distance]
  have := minDistOf_pos b.size
  omega

/-! ## The passes of `PlaceSettlements` -/

section Placing

variable (log1p : ℚ → ℚ) (sortSlice : List Scored → List Scored) (m : Map) (order : List HexCoord)
  (rng : PlacerDraws)

/-- Every candidate is a land hex of the map. -/
theorem scoreCandidates_onLand : ∀ c ∈ scoreCandidates log1p m order, OnLand m c.coord := by
  intro c member
  obtain ⟨coord, -, found⟩ := List.mem_filterMap.mp member
  cases atCoord : m.get coord with
  | none => simp [atCoord] at found
  | some hex =>
    simp only [atCoord] at found
    split_ifs at found with ocean
    cases found
    exact ⟨hex, atCoord, ocean⟩

/-- The seeds of the three passes are spaced, whatever order the sort leaves. -/
theorem placeSeeds_spacing (sorts : ∀ l, (sortSlice l).Perm l) :
    Spacing m (placeSeeds log1p sortSlice m order rng) := by
  have landed : ∀ c ∈ sortSlice (scoreCandidates log1p m order), OnLand m c.coord :=
    fun c member => scoreCandidates_onLand log1p m order c ((sorts _).mem_iff.mp member)
  -- the town and village passes skip what is taken or too close, the city pass what is too close
  have orTooClose : ∀ (taken : HexCoord → Bool) seeds coord size,
      (taken coord || tooClose coord seeds (minDistOf size)) = false →
        tooClose coord seeds (minDistOf size) = false :=
    fun _ _ _ _ kept => (Bool.or_eq_false_iff.mp kept).2
  apply placePass_spacing landed fun taken seeds coord => orTooClose taken seeds coord .village
  apply placePass_spacing landed fun taken seeds coord => orTooClose taken seeds coord .town
  exact placePass_spacing landed (fun _ _ _ kept => kept) _ (Spacing.nil m)

/-- The passes place at most five cities, twenty towns and fifty villages. -/
theorem placeSeeds_countBySize :
    countBySize (placeSeeds log1p sortSlice m order rng) .city ≤ 5 ∧
      countBySize (placeSeeds log1p sortSlice m order rng) .town ≤ 20 ∧
      countBySize (placeSeeds log1p sortSlice m order rng) .village ≤ 50 := by
  have quotas := And.intro rng.cities.isLt (And.intro rng.towns.isLt rng.villages.isLt)
  simp only [placeSeeds]
  generalize sortSlice (scoreCandidates log1p m order) = candidates
  set afterCities := placeCities (3 + (rng.cities : ℕ)) candidates (fun _ => false) []
  set afterTowns := placeTowns (10 + (rng.towns : ℕ)) candidates afterCities.1 afterCities.2
  have grows : ∀ size seeds seed, countBySize (seeds ++ [seed]) size ≤ countBySize seeds size + 1 := by
    intro size seeds seed
    rw [countBySize_append]
    split <;> omega
  -- the city pass counts all its seeds, and starts from none
  have cities : countBySize afterCities.2 .city ≤ 3 + (rng.cities : ℕ) :=
    List.countP_le_length.trans
      (placePass_le List.length (fun _ _ => by simp) candidates _ (Nat.zero_le _))
  have noTowns : countBySize afterCities.2 .town = 0 :=
    placePass_countBySize_of_ne (by decide) candidates _ []
  have noVillages : countBySize afterCities.2 .village = 0 :=
    placePass_countBySize_of_ne (by decide) candidates _ []
  -- each later pass counts its own size and leaves the others
  have towns : countBySize afterTowns.2 .town ≤ 10 + (rng.towns : ℕ) :=
    placePass_le (fun seeds => countBySize seeds .town) (grows .town) candidates _
      (by rw [noTowns]; exact Nat.zero_le _)
  have citiesAfterTowns : countBySize afterTowns.2 .city = countBySize afterCities.2 .city :=
    placePass_countBySize_of_ne (by decide) candidates _ _
  have villagesAfterTowns : countBySize afterTowns.2 .village = 0 :=
    (placePass_countBySize_of_ne (by decide) candidates _ _).trans noVillages
  have villages : countBySize (placeVillages (30 + (rng.villages : ℕ)) candidates afterTowns.1
      afterTowns.2).2 .village ≤ 30 + (rng.villages : ℕ) :=
    placePass_le (fun seeds => countBySize seeds .village) (grows .village) candidates _
      (by rw [villagesAfterTowns]; exact Nat.zero_le _)
  have citiesAfterVillages : countBySize (placeVillages (30 + (rng.villages : ℕ)) candidates
      afterTowns.1 afterTowns.2).2 .city = countBySize afterTowns.2 .city :=
    placePass_countBySize_of_ne (by decide) candidates _ _
  have townsAfterVillages : countBySize (placeVillages (30 + (rng.villages : ℕ)) candidates
      afterTowns.1 afterTowns.2).2 .town = countBySize afterTowns.2 .town :=
    placePass_countBySize_of_ne (by decide) candidates _ _
  omega

end Placing

/-! ## The names -/

/-- Recording a fresh name keeps `used` the set of the names drawn. -/
theorem tracks_update {used : String → Bool} {names : List String}
    (tracks : ∀ n, used n = true ↔ n ∈ names) (name : String) :
    ∀ n, Function.update used name true n = true ↔ n ∈ names ++ [name] := by
  intro n
  by_cases same : n = name
  · simp [same]
  · simp [tracks n, same]

/-- While `used` is the set of the names drawn and these are distinct, the loop returns distinct
names, `count` of them. -/
theorem nameLoop_spec (count : ℕ) :
    ∀ (draws : List NameDraw) (used : String → Bool) (names result : List String),
      (∀ n, used n = true ↔ n ∈ names) → names.Nodup → names.length ≤ count →
        nameLoop count draws used names = some result → result.Nodup ∧ result.length = count
  | [], _, names, result, _, distinct, within, returned => by
    simp only [nameLoop] at returned
    split_ifs at returned with short
    obtain rfl := Option.some.inj returned
    exact ⟨distinct, by omega⟩
  | draw :: rest, used, names, result, tracks, distinct, within, returned => by
    simp only [nameLoop] at returned
    split_ifs at returned with short drawn
    · exact nameLoop_spec count rest used names result tracks distinct within returned
    · have fresh : comboName draw ∉ names := fun member => drawn ((tracks _).mpr member)
      refine nameLoop_spec count rest _ _ result (tracks_update tracks _) ?_ ?_ returned
      · rw [← List.concat_eq_append]
        exact distinct.concat fresh
      · simp only [List.length_append, List.length_singleton]
        omega
    · obtain rfl := Option.some.inj returned
      exact ⟨distinct, by omega⟩

/-- The loop has its names when the names drawn and the names the draws still hold are at least
`count`. -/
theorem nameLoop_isSome (count : ℕ) :
    ∀ (draws : List NameDraw) (used : String → Bool) (names : List String),
      (∀ n, used n = true ↔ n ∈ names) → names.Nodup →
        count ≤ (names.toFinset ∪ (draws.map comboName).toFinset).card →
          (nameLoop count draws used names).isSome
  | [], _, names, _, distinct, enough => by
    rw [List.map_nil, List.toFinset_nil, Finset.union_empty, List.toFinset_card_of_nodup distinct]
      at enough
    simp [nameLoop, not_lt.mpr enough]
  | draw :: rest, used, names, tracks, distinct, enough => by
    simp only [nameLoop]
    split_ifs with short drawn
    · -- a name drawn again adds nothing to the union
      have same : names.toFinset ∪ ((draw :: rest).map comboName).toFinset =
          names.toFinset ∪ (rest.map comboName).toFinset := by
        have member := (tracks _).mp drawn
        ext n
        simp only [List.map_cons, List.toFinset_cons, Finset.mem_union, Finset.mem_insert,
          List.mem_toFinset]
        constructor
        · rintro (earlier | rfl | later)
          exacts [.inl earlier, .inl member, .inr later]
        · rintro (earlier | later)
          exacts [.inl earlier, .inr (.inr later)]
      exact nameLoop_isSome count rest used names tracks distinct (same ▸ enough)
    · -- a fresh name moves from the draws to the names
      have fresh : comboName draw ∉ names := fun member => drawn ((tracks _).mpr member)
      have same : names.toFinset ∪ ((draw :: rest).map comboName).toFinset =
          (names ++ [comboName draw]).toFinset ∪ (rest.map comboName).toFinset := by
        ext n
        simp only [List.map_cons, List.toFinset_cons, List.toFinset_append, Finset.mem_union,
          Finset.mem_insert, List.mem_toFinset, List.toFinset_nil, insert_empty_eq,
          Finset.mem_singleton]
        tauto
      exact nameLoop_isSome count rest _ _ (tracks_update tracks _)
        (by rw [← List.concat_eq_append]; exact distinct.concat fresh)
        (same ▸ enough)
    · rfl

/-- `generateNames` returns `count` distinct names, -/
theorem generateNames_spec {draws : List NameDraw} {count : ℕ} {names : List String}
    (returned : generateNames draws count = some names) : names.Nodup ∧ names.length = count :=
  nameLoop_spec count draws _ [] names (fun n => by simp) List.nodup_nil (Nat.zero_le _) returned

/-- and returns once the draws hold `count` distinct pairs: no two pairs make one name. -/
theorem generateNames_isSome (draws : List NameDraw) {count : ℕ}
    (enough : count ≤ draws.toFinset.card) : (generateNames draws count).isSome := by
  have image : (draws.map comboName).toFinset = draws.toFinset.image comboName := by
    ext n
    simp
  apply nameLoop_isSome count draws _ [] (fun n => by simp) List.nodup_nil
  rw [List.toFinset_nil, Finset.empty_union, image,
    Finset.card_image_of_injective _ comboName_injective]
  exact enough

/-! ## The seeds under their names -/

/-- The hex and the size of a seed: all the spacing reads of it. -/
def SettlementSeed.site (s : SettlementSeed) : HexCoord × SettlementSize := (s.coord, s.size)

/-- Naming the seeds keeps their hexes and sizes, -/
theorem assignNames_sites (seeds : List SettlementSeed) (names : List String) :
    (assignNames seeds names).map SettlementSeed.site = seeds.map SettlementSeed.site := by
  apply List.ext_getElem
  · simp [assignNames]
  · intro i _ _
    simp [assignNames, SettlementSeed.site]

/-- and with a name for each seed, gives them those names. -/
theorem assignNames_names {seeds : List SettlementSeed} {names : List String}
    (counted : names.length = seeds.length) : (assignNames seeds names).map (·.name) = names := by
  apply List.ext_getElem
  · simp [assignNames, counted]
  · intro i _ inside
    simp [assignNames, List.getElem?_eq_getElem inside]

theorem Spacing.of_sites {m : Map} {seeds seeds' : List SettlementSeed}
    (same : seeds'.map SettlementSeed.site = seeds.map SettlementSeed.site)
    (spaced : Spacing m seeds) : Spacing m seeds' := by
  constructor
  · intro s member
    have listed : s.site ∈ seeds.map SettlementSeed.site := same ▸ List.mem_map_of_mem member
    obtain ⟨t, earlier, sameSite⟩ := List.mem_map.mp listed
    have sameCoord : t.coord = s.coord := congrArg Prod.fst sameSite
    exact sameCoord ▸ spaced.onLand t earlier
  · have apart : (seeds.map SettlementSeed.site).Pairwise fun a b => minDistOf b.2 ≤ distance a.1 b.1 :=
      List.pairwise_map.mpr spaced.apart
    rw [← same] at apart
    exact List.pairwise_map.mp apart

theorem countBySize_of_sites {seeds seeds' : List SettlementSeed}
    (same : seeds'.map SettlementSeed.site = seeds.map SettlementSeed.site) (size : SettlementSize) :
    countBySize seeds' size = countBySize seeds size := by
  have bySite : ∀ l : List SettlementSeed,
      countBySize l size = (l.map SettlementSeed.site).countP fun p => p.2 = size := by
    intro l
    simp only [countBySize, List.countP_map]
    rfl
  rw [bySite, bySite, same]

/-- Every seed has one of the three sizes. -/
theorem length_eq_countBySize (seeds : List SettlementSeed) :
    seeds.length = countBySize seeds .city + countBySize seeds .town + countBySize seeds .village := by
  induction seeds with
  | nil => rfl
  | cons seed rest ih =>
    rcases seed with ⟨coord, size, score, name⟩
    cases size <;> simp [countBySize] at ih ⊢ <;> omega

/-! ## `PlaceSettlements` -/

/-- What `PlaceSettlements` returns on the map `m`: seeds on distinct land hexes of the map, the
cities pairwise at least 8 apart, every town at least 4 and every village at least 2 from every
seed placed before it, at most 5 cities, 20 towns and 50 villages, and distinct names. -/
structure Placed (m : Map) (seeds : List SettlementSeed) : Prop where
  onLand : ∀ s ∈ seeds, OnLand m s.coord
  coords_nodup : (seeds.map (·.coord)).Nodup
  cities_apart : seeds.Pairwise fun a b =>
    a.size = .city → b.size = .city → 8 ≤ distance a.coord b.coord
  towns_apart : seeds.Pairwise fun a b => b.size = .town → 4 ≤ distance a.coord b.coord
  villages_apart : seeds.Pairwise fun a b => b.size = .village → 2 ≤ distance a.coord b.coord
  cities_le : countBySize seeds .city ≤ 5
  towns_le : countBySize seeds .town ≤ 20
  villages_le : countBySize seeds .village ≤ 50
  names_nodup : (seeds.map (·.name)).Nodup

/-- Spaced seeds within the quotas, under distinct names, are placed. -/
theorem Spacing.placed {m : Map} {seeds : List SettlementSeed} (spaced : Spacing m seeds)
    (cities : countBySize seeds .city ≤ 5) (towns : countBySize seeds .town ≤ 20)
    (villages : countBySize seeds .village ≤ 50) (names : (seeds.map (·.name)).Nodup) :
    Placed m seeds where
  onLand := spaced.onLand
  coords_nodup := spaced.coords_nodup
  cities_apart := spaced.apart.imp fun far _ city => by rwa [city] at far
  towns_apart := spaced.apart.imp fun far town => by rwa [town] at far
  villages_apart := spaced.apart.imp fun far village => by rwa [village] at far
  cities_le := cities
  towns_le := towns
  villages_le := villages
  names_nodup := names

section Placing

variable (log1p : ℚ → ℚ) (sortSlice : List Scored → List Scored) (m : Map) (order : List HexCoord)
  (rng : PlacerDraws)

theorem placeSettlements_spaced (sorts : ∀ l, (sortSlice l).Perm l) :
    (∀ seeds, placeSettlements log1p sortSlice m order rng = some seeds → Placed m seeds) ∧
      (75 ≤ rng.names.toFinset.card → (placeSettlements log1p sortSlice m order rng).isSome) := by
  have spaced := placeSeeds_spacing log1p sortSlice m order rng sorts
  obtain ⟨cities, towns, villages⟩ := placeSeeds_countBySize log1p sortSlice m order rng
  constructor
  · intro seeds returned
    obtain ⟨names, drawn, rfl⟩ := Option.map_eq_some_iff.mp returned
    obtain ⟨distinct, counted⟩ := generateNames_spec drawn
    -- the names change nothing the spacing or the counts read
    have sites := assignNames_sites (placeSeeds log1p sortSlice m order rng) names
    refine (spaced.of_sites sites).placed ?_ ?_ ?_ ?_
    · rwa [countBySize_of_sites sites]
    · rwa [countBySize_of_sites sites]
    · rwa [countBySize_of_sites sites]
    · rwa [assignNames_names counted]
  · intro enough
    have fewer : (placeSeeds log1p sortSlice m order rng).length ≤ 75 := by
      rw [length_eq_countBySize]
      omega
    simp only [placeSettlements, Option.isSome_map]
    exact generateNames_isSome _ (fewer.trans enough)

end Placing

/-- Two plains hexes two apart. -/
def pairMap : Map :=
  ((newMap 2).set ⟨⟨0, 0⟩, .plains, 0, 1/2, 1/2, 1/2, 1⟩).set ⟨⟨2, 0⟩, .plains, 0, 1/2, 1/2, 1/2, 1⟩

/-- The first 75 name pairs, prefix by prefix. -/
def pairDraws : List NameDraw :=
  ((List.finRange settlementPrefixes.length).flatMap fun p =>
    (List.finRange settlementSuffixes.length).map fun q => (p, q)).take 75

theorem pairMap_named_placed :
    (scoreCandidates id pairMap [⟨0, 0⟩, ⟨2, 0⟩]).Pairwise (fun a b => b.score ≤ a.score) ∧
      (∀ l : List Scored, (id l).Perm l) ∧ 75 ≤ pairDraws.toFinset.card ∧
      (placeSettlements id id pairMap [⟨0, 0⟩, ⟨2, 0⟩] ⟨2, 10, 20, pairDraws⟩).map
          (List.map SettlementSeed.site) = some [(⟨0, 0⟩, .city), (⟨2, 0⟩, .village)] ∧
      ((∀ seeds, placeSettlements id id pairMap [⟨0, 0⟩, ⟨2, 0⟩] ⟨2, 10, 20, pairDraws⟩ = some seeds →
          Placed pairMap seeds) ∧
        (75 ≤ pairDraws.toFinset.card →
          (placeSettlements id id pairMap [⟨0, 0⟩, ⟨2, 0⟩] ⟨2, 10, 20, pairDraws⟩).isSome)) :=
  -- the candidates already stand in descending score, so leaving them is an order `sort.Slice` may give
  ⟨by decide +kernel, fun _ => List.Perm.refl _, by decide +kernel, by decide +kernel,
    placeSettlements_spaced id id pairMap [⟨0, 0⟩, ⟨2, 0⟩] ⟨2, 10, 20, pairDraws⟩ fun _ => List.Perm.refl _⟩

/-- The second hex is too near for a city or a town, and far enough for a village. -/
example : (placeSeeds id id pairMap [⟨0, 0⟩, ⟨2, 0⟩] ⟨2, 10, 20, []⟩).map SettlementSeed.site =
    [(⟨0, 0⟩, .city), (⟨2, 0⟩, .village)] := by
  decide +kernel

end MiniWorld.World
