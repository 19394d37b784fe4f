import MiniWorld.Engine.Simulation

/-! # The world-meta registry (`internal/persistence/world_state.go`, `db.go`)

`world_meta` is a key/value table written by `SaveMeta`, an
`INSERT OR REPLACE`.  A value is modelled by what the loaders read from it:
the decoded JSON entries of one of the registry's entry structs (`encoding/json`
round-trips them), a decimal integer, or other text.

`SaveLatePersisted` runs the fourteen save closures of `persistedFields` in
order and `RestoreLatePersisted` the fourteen load closures.  A save closure
whose map is empty, or whose entries are all filtered out, returns without
writing, and `SaveMeta` never deletes: the key keeps the JSON of an earlier
save.  A load closure replaces a field only when the stored value decodes to
at least one entry.  So a map that empties between two saves comes back, after
a restart, as it was at the earlier save.
-/

namespace MiniWorld.Engine

structure RelEntry where
  a : ℕ
  b : ℕ
  s : ℚ
  t : ℚ

structure RouteEntry where
  a : ℕ
  b : ℕ
  l : ℕ
  n : String
  sw : ℤ
  dw : ℤ
  wt : ℚ

structure TTEntry where
  a : ℕ
  b : ℕ
  v : ℚ

structure AgreeEntry where
  a : ℕ
  b : ℕ
  t : ℕ
  sw : ℤ
  ft : ℕ

structure PeaceEntry where
  a : ℕ
  b : ℕ
  rw : ℤ
  rc : ℤ
  ft : ℕ

structure RaidEntry where
  a : ℕ
  b : ℕ
  c : ℤ

/-- A `world_meta` value, as the loaders read it. -/
inductive MetaValue where
  /-- A JSON object `map[uint64]int`, as its key/value pairs. -/
  | settlementWeeks (entries : List (ℕ × ℤ))
  | relations (entries : List RelEntry)
  | routes (entries : List RouteEntry)
  | tracker (entries : List TTEntry)
  | agreements (entries : List AgreeEntry)
  | peace (entries : List PeaceEntry)
  | raids (entries : List RaidEntry)
  /-- A decimal integer, as `fmt.Sprintf("%d")` writes and `strconv.Atoi` reads. -/
  | integer (n : ℤ)
  /-- Any other text. -/
  | text (s : String)

/-- The `world_meta` table. -/
abbrev WorldMeta := String → Option MetaValue

/-- `SaveMeta`: `INSERT OR REPLACE`. -/
def saveMeta (table : WorldMeta) (key : String) (value : MetaValue) : WorldMeta :=
  Function.update table key (some value)

/-- A Go map rebuilt from decoded entries, a later entry overwriting an
earlier one of the same key. -/
def mapOfEntries {κ ν : Type} [DecidableEq κ] (entries : List (κ × ν)) : GoMap κ ν :=
  entries.foldl (fun m e => m.insert e.1 e.2) ∅

/-! ## Save closures -/

section Save

variable (r : Registry) (table : WorldMeta)

def saveNonViableWeeks : WorldMeta :=
  if r.nonViableWeeks.entries.length = 0 then table
  else saveMeta table "non_viable_weeks" (.settlementWeeks (r.nonViableWeeks.entries.map fun e => (e.1, e.2)))

def saveAbandonedWeeks : WorldMeta :=
  if r.abandonedWeeks.entries.length = 0 then table
  else saveMeta table "abandoned_weeks" (.settlementWeeks (r.abandonedWeeks.entries.map fun e => (e.1, e.2)))

def saveSettlementRelations : WorldMeta :=
  if r.relations.entries.length = 0 then table
  else saveMeta table "settlement_relations"
    (.relations (r.relations.entries.map fun e => ⟨e.1.a, e.1.b, e.2.sentiment, e.2.trade⟩))

def saveTradeRoutes : WorldMeta :=
  if r.tradeRoutes.entries.length = 0 then table
  else saveMeta table "trade_routes" (.routes (r.tradeRoutes.entries.map fun e =>
    ⟨e.1.a, e.1.b, e.2.level, e.2.name, e.2.sustainedWeeks, e.2.dormantWeeks, e.2.weeklyTrade⟩))

def saveTradeTracker : WorldMeta :=
  if r.tradeTracker.entries.length = 0 then table
  else saveMeta table "trade_tracker" (.tracker (r.tradeTracker.entries.map fun e => ⟨e.1.a, e.1.b, e.2⟩))

/-- Agreements of type `0` are dropped, and nothing is written when none is left. -/
def saveAgreements : WorldMeta :=
  if r.agreements.entries.length = 0 then table
  else
    let agrees := (r.agreements.entries.filter fun e => e.2.type > 0).map fun e =>
      (⟨e.1.a, e.1.b, e.2.type, e.2.sustainedWeeks, e.2.formedAtTick⟩ : AgreeEntry)
    if agrees.length = 0 then table else saveMeta table "agreements" (.agreements agrees)

def savePeaceTreaties : WorldMeta :=
  if r.peaceTreaties.entries.length = 0 then table
  else saveMeta table "peace_treaties" (.peace (r.peaceTreaties.entries.map fun e =>
    ⟨e.1.a, e.1.b, e.2.remainingWeeks, e.2.raidCount, e.2.formedAtTick⟩))

/-- Raid counts of `0` are dropped, and nothing is written when none is left. -/
def saveRaidCounts : WorldMeta :=
  if r.raidCounts.entries.length = 0 then table
  else
    let entries := (r.raidCounts.entries.filter fun e => e.2 > 0).map fun e =>
      (⟨e.1.a, e.1.b, e.2⟩ : RaidEntry)
    if entries.length = 0 then table else saveMeta table "raid_counts" (.raids entries)

def saveBirths : WorldMeta := saveMeta table "births" (.integer r.births)

def saveTradeVolume : WorldMeta := saveMeta table "trade_volume" (.integer r.tradeVolume)

def saveDeaths : WorldMeta := saveMeta table "deaths" (.integer r.deaths)

def saveHeatStreakHours : WorldMeta := saveMeta table "heat_streak_hours" (.integer r.heatStreakHours)

def saveLastNewspaper : WorldMeta :=
  if r.lastNewspaperContent = "" then table
  else saveMeta table "last_newspaper" (.text r.lastNewspaperContent)

def saveLiberatedSpiritsPool : WorldMeta :=
  saveMeta table "liberated_spirits_pool" (.integer r.liberatedSpiritsPool)

end Save

/-! ## Load closures -/

section Load

variable (table : WorldMeta) (r : Registry)

def loadNonViableWeeks : Registry :=
  match table "non_viable_weeks" with
  | some (.settlementWeeks entries) =>
    if (mapOfEntries entries).entries.length > 0 then { r with nonViableWeeks := mapOfEntries entries }
    else r
  | _ => r

def loadAbandonedWeeks : Registry :=
  match table "abandoned_weeks" with
  | some (.settlementWeeks entries) =>
    if (mapOfEntries entries).entries.length > 0 then { r with abandonedWeeks := mapOfEntries entries }
    else r
  | _ => r

def loadSettlementRelations : Registry :=
  match table "settlement_relations" with
  | some (.relations rels) =>
    if rels.length > 0 then
      { r with relations := mapOfEntries (rels.map fun e => (⟨e.a, e.b⟩, ⟨e.s, e.t⟩)) }
    else r
  | _ => r

def loadTradeRoutes : Registry :=
  match table "trade_routes" with
  | some (.routes routes) =>
    if routes.length > 0 then
      { r with tradeRoutes := mapOfEntries (routes.map fun e => (⟨e.a, e.b⟩, ⟨e.l, e.n, e.sw, e.dw, e.wt⟩)) }
    else r
  | _ => r

def loadTradeTracker : Registry :=
  match table "trade_tracker" with
  | some (.tracker entries) =>
    if entries.length > 0 then
      { r with tradeTracker := mapOfEntries (entries.map fun e => (⟨e.a, e.b⟩, e.v)) }
    else r
  | _ => r

def loadAgreements : Registry :=
  match table "agreements" with
  | some (.agreements agrees) =>
    if agrees.length > 0 then
      { r with agreements := mapOfEntries (agrees.map fun e => (⟨e.a, e.b⟩, ⟨e.t, e.sw, e.ft⟩)) }
    else r
  | _ => r

def loadPeaceTreaties : Registry :=
  match table "peace_treaties" with
  | some (.peace entries) =>
    if entries.length > 0 then
      { r with peaceTreaties := mapOfEntries (entries.map fun e => (⟨e.a, e.b⟩, ⟨e.rw, e.rc, e.ft⟩)) }
    else r
  | _ => r

def loadRaidCounts : Registry :=
  match table "raid_counts" with
  | some (.raids entries) =>
    if entries.length > 0 then
      { r with raidCounts := mapOfEntries (entries.map fun e => (⟨e.a, e.b⟩, e.c)) }
    else r
  | _ => r

def loadBirths : Registry :=
  match table "births" with
  | some (.integer n) => { r with births := n }
  | _ => r

/-- `strconv.ParseUint`: a negative integer does not parse. -/
def loadTradeVolume : Registry :=
  match table "trade_volume" with
  | some (.integer n) => if 0 ≤ n then { r with tradeVolume := n.toNat } else r
  | _ => r

def loadDeaths : Registry :=
  match table "deaths" with
  | some (.integer n) => { r with deaths := n }
  | _ => r

def loadHeatStreakHours : Registry :=
  match table "heat_streak_hours" with
  | some (.integer n) => { r with heatStreakHours := n }
  | _ => r

/-- The newspaper is restored from any non-empty text. -/
def loadLastNewspaper : Registry :=
  match table "last_newspaper" with
  | some (.text s) => if s ≠ "" then { r with lastNewspaperContent := s } else r
  | some (.integer n) => { r with lastNewspaperContent := toString n }
  | _ => r

def loadLiberatedSpiritsPool : Registry :=
  match table "liberated_spirits_pool" with
  | some (.integer n) => { r with liberatedSpiritsPool := n }
  | _ => r

end Load

/-- `PersistedField`: a save closure and its load closure. -/
structure PersistedField where
  name : String
  save : Registry → WorldMeta → WorldMeta
  load : WorldMeta → Registry → Registry

/-- `persistedFields`, in the source's order. -/
def persistedFields : List PersistedField :=
  [⟨"non_viable_weeks", saveNonViableWeeks, loadNonViableWeeks⟩,
    ⟨"abandoned_weeks", saveAbandonedWeeks, loadAbandonedWeeks⟩,
    ⟨"settlement_relations", saveSettlementRelations, loadSettlementRelations⟩,
    ⟨"trade_routes", saveTradeRoutes, loadTradeRoutes⟩,
    ⟨"trade_tracker", saveTradeTracker, loadTradeTracker⟩,
    ⟨"agreements", saveAgreements, loadAgreements⟩,
    ⟨"peace_treaties", savePeaceTreaties, loadPeaceTreaties⟩,
    ⟨"raid_counts", saveRaidCounts, loadRaidCounts⟩,
    ⟨"births", saveBirths, loadBirths⟩,
    ⟨"trade_volume", saveTradeVolume, loadTradeVolume⟩,
    ⟨"deaths", saveDeaths, loadDeaths⟩,
    ⟨"heat_streak_hours", saveHeatStreakHours, loadHeatStreakHours⟩,
    ⟨"last_newspaper", saveLastNewspaper, loadLastNewspaper⟩,
    ⟨"liberated_spirits_pool", saveLiberatedSpiritsPool, loadLiberatedSpiritsPool⟩]

/-- `SaveLatePersisted` (every `SaveMeta` succeeding). -/
def saveLatePersisted (r : Registry) (table : WorldMeta) : WorldMeta :=
  persistedFields.foldl (fun table f => f.save r table) table

def restoreLatePersisted (table : WorldMeta) (r : Registry) : Registry :=
  persistedFields.foldl (fun r f => f.load table r) r

/-- A registry holding one peace treaty, between settlements 1 and 2. -/
def withTreaty : Registry :=
  { Registry.fresh with
    peaceTreaties := (∅ : GoMap SettRelKey PeaceTreaty).insert ⟨1, 2⟩ ⟨8, 3, 0⟩ }

/-- Save a registry with one treaty, save it again once the treaty has
expired, and restore: the expired treaty is back. -/
theorem restore_revives_expired_treaty :
    Registry.fresh.peaceTreaties.entries.length = 0 ∧
      (restoreLatePersisted
        (saveLatePersisted Registry.fresh (saveLatePersisted withTreaty fun _ => none))
        Registry.fresh).peaceTreaties.entries.length = 1 := by
  decide

end MiniWorld.Engine
