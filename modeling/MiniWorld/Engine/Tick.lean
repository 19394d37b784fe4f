import MiniWorld.Engine.Setup

set_option linter.dupNamespace false

/-! # The tick loop, the daily save and the restart (`internal/engine/tick.go`, `cmd/worldsim/main.go`)

`Engine.step` increments the tick and runs the callback of every layer whose
period divides it, in the order minute, hour, day, week, season.  `main.go`
wires them to `TickMinute`, `TickHour`, `TickDay` followed by the daily
`SaveWorldState`, `TickWeek` and `TickSeason`; on start it sets the engine's
tick, `LastTick` and `CurrentSeason` from the `last_tick` and `season` rows of
`world_meta`, or to zero for a new world.

Only `processSeason` moves the season, to `(tick / TicksPerSimSeason) % 4`, the
season `SimTime` displays.  Over a fresh run that keeps `CurrentSeason` in step
with the tick (`fresh_run_inSync`).  The daily save, though, runs inside the day
layer, before the week and season layers of the same tick: at a tick that is a
day and a season boundary it labels the state with that tick but records the
season of the tick before (`daily_save_in_sync_iff`), and a process restarted
from it resumes after the boundary without its `TickSeason`.

The bodies of `TickMinute`, `TickHour`, `TickDay`, `TickWeek` and the passes of
`processSeason` after its first line are parameters (`SimTicks`).  What the
clock needs of them is `Clocked`: `TickMinute` records its tick in `LastTick`,
and nothing else writes `LastTick` or `CurrentSeason`.
-/

namespace MiniWorld.Engine

def ticksPerSimHour : ℕ := 60

def ticksPerSimDay : ℕ := 1440

def ticksPerSimWeek : ℕ := 10080

def ticksPerSimSeason : ℕ := 90000

/-- The season of a tick, `(tick / TicksPerSimSeason) % 4`, as `processSeason`
sets it and `SimTime` displays it. -/
def seasonAt (tick : ℕ) : ℕ := tick / ticksPerSimSeason % 4

/-- The season moves on at a season boundary and only there. -/
theorem seasonAt_succ (tick : ℕ) :
    seasonAt (tick + 1) =
      if (tick + 1) % ticksPerSimSeason = 0 then (seasonAt tick + 1) % 4 else seasonAt tick := by
  unfold seasonAt
  split_ifs with boundary
  · rw [Nat.succ_div_of_dvd (Nat.dvd_of_mod_eq_zero boundary)]
    omega
  · rw [Nat.succ_div_of_not_dvd fun dvd => boundary (Nat.mod_eq_zero_of_dvd dvd)]

/-- The callbacks of an `Engine`, each given the tick it runs at. -/
structure Callbacks (σ : Type) where
  onTick : ℕ → σ → σ
  onHour : ℕ → σ → σ
  onDay : ℕ → σ → σ
  onWeek : ℕ → σ → σ
  onSeason : ℕ → σ → σ

/-- An `Engine`: its tick counter and the state its callbacks act on. -/
structure Engine (σ : Type) where
  tick : ℕ
  state : σ

namespace Engine

variable {σ τ : Type}

/-- The callback of a layer runs at the ticks its period divides. -/
def layer (period : ℕ) (callback : ℕ → σ → σ) (tick : ℕ) (state : σ) : σ :=
  if tick % period = 0 then callback tick state else state

theorem layer_of_mod_eq_zero {period tick : ℕ} (due : tick % period = 0) (callback : ℕ → σ → σ)
    (state : σ) : layer period callback tick state = callback tick state := if_pos due

theorem layer_of_mod_ne_zero {period tick : ℕ} (notDue : tick % period ≠ 0)
    (callback : ℕ → σ → σ) (state : σ) : layer period callback tick state = state := if_neg notDue

/-- `Engine.step`: the tick is incremented, then the layers run in order. -/
def step (callbacks : Callbacks σ) (e : Engine σ) : Engine σ :=
  let tick := e.tick + 1
  let state := callbacks.onTick tick e.state
  let state := layer ticksPerSimHour callbacks.onHour tick state
  let state := layer ticksPerSimDay callbacks.onDay tick state
  let state := layer ticksPerSimWeek callbacks.onWeek tick state
  ⟨tick, layer ticksPerSimSeason callbacks.onSeason tick state⟩

/-- The loop of `Engine.Run`, for a number of steps. -/
def run (callbacks : Callbacks σ) : ℕ → Engine σ → Engine σ
  | 0, e => e
  | n + 1, e => run callbacks n (step callbacks e)

/-- A view of the state that a callback acts on as `callback'` does, is acted
on so by the layer. -/
theorem layer_map (view : σ → τ) (callback' : ℕ → τ → τ) {period : ℕ} {callback : ℕ → σ → σ}
    (commutes : ∀ tick state, view (callback tick state) = callback' tick (view state))
    (tick : ℕ) (state : σ) :
    view (layer period callback tick state) = layer period callback' tick (view state) := by
  unfold layer
  split_ifs
  · exact commutes tick state
  · rfl

/-- A view of the state that a callback leaves alone, its layer leaves alone. -/
theorem layer_view (view : σ → τ) (callback : ℕ → σ → σ) {period : ℕ}
    (keeps : ∀ tick state, view (callback tick state) = view state) (tick : ℕ) (state : σ) :
    view (layer period callback tick state) = view state := by
  unfold layer
  split_ifs
  · exact keeps tick state
  · rfl

@[simp] theorem step_tick (callbacks : Callbacks σ) (e : Engine σ) :
    (step callbacks e).tick = e.tick + 1 := rfl

theorem run_succ (callbacks : Callbacks σ) :
    ∀ (n : ℕ) (e : Engine σ), run callbacks (n + 1) e = step callbacks (run callbacks n e)
  | 0, _ => rfl
  | n + 1, e => run_succ callbacks n (step callbacks e)

@[simp] theorem run_tick (callbacks : Callbacks σ) :
    ∀ (n : ℕ) (e : Engine σ), (run callbacks n e).tick = e.tick + n
  | 0, _ => rfl
  | n + 1, e => by
    rw [run_succ, step_tick, run_tick callbacks n e]
    rfl

theorem run_invariant (callbacks : Callbacks σ) (invariant : Engine σ → Prop)
    (keeps : ∀ e, invariant e → invariant (step callbacks e)) :
    ∀ (n : ℕ) (e : Engine σ), invariant e → invariant (run callbacks n e)
  | 0, _, holds => holds
  | n + 1, e, holds => run_invariant callbacks invariant keeps n (step callbacks e) (keeps e holds)

end Engine

open Engine

/-! ## `main.go`'s wiring -/

/-- What `SaveWorldState` leaves in the database for the restore to read: the
world, and the `last_tick` and `season` rows of `world_meta`. -/
structure SavedWorld where
  world : Simulation
  lastTick : ℕ
  season : ℕ

/-- `SaveWorldState`: `last_tick` is `CurrentTick()`, which is `LastTick`. -/
def saveWorldState (s : Simulation) : SavedWorld := ⟨s, s.lastTick, s.currentSeason⟩

/-- The running process: the simulation and the last save in the database. -/
structure World where
  sim : Simulation
  saved : Option SavedWorld

/-- The methods of `Simulation` the callbacks call, whose bodies this module
does not model; `seasonPasses` are the passes of `processSeason` after it
sets the season. -/
structure SimTicks where
  tickMinute : ℕ → Simulation → Simulation
  tickHour : ℕ → Simulation → Simulation
  tickDay : ℕ → Simulation → Simulation
  tickWeek : ℕ → Simulation → Simulation
  seasonPasses : ℕ → Simulation → Simulation

/-- A tick method that writes neither `LastTick` nor `CurrentSeason`. -/
def KeepsClock (method : ℕ → Simulation → Simulation) : Prop :=
  ∀ tick s, (method tick s).lastTick = s.lastTick ∧ (method tick s).currentSeason = s.currentSeason

/-- The writes of the tick methods to the clock: `TickMinute` begins with
`s.LastTick = tick`, and no other method writes `LastTick` or
`CurrentSeason`. -/
structure SimTicks.Clocked (ticks : SimTicks) : Prop where
  minute_lastTick : ∀ tick s, (ticks.tickMinute tick s).lastTick = tick
  minute_season : ∀ tick s, (ticks.tickMinute tick s).currentSeason = s.currentSeason
  hour : KeepsClock ticks.tickHour
  day : KeepsClock ticks.tickDay
  week : KeepsClock ticks.tickWeek
  seasonPasses : KeepsClock ticks.seasonPasses

/-- `processSeason`, which `TickSeason` calls: the season is set from the tick,
then the seasonal passes run. -/
def processSeason (passes : ℕ → Simulation → Simulation) (tick : ℕ) (s : Simulation) :
    Simulation :=
  passes tick { s with currentSeason := seasonAt tick }

/-- The callbacks as `main.go` sets them.  `OnDay` runs `TickDay`, then the
daily `SaveWorldState`; the statistics snapshots between them and the event
trim of `OnWeek` write other tables. -/
def wire (ticks : SimTicks) : Callbacks World where
  onTick tick w := { w with sim := ticks.tickMinute tick w.sim }
  onHour tick w := { w with sim := ticks.tickHour tick w.sim }
  onDay tick w :=
    let sim := ticks.tickDay tick w.sim
    ⟨sim, some (saveWorldState sim)⟩
  onWeek tick w := { w with sim := ticks.tickWeek tick w.sim }
  onSeason tick w := { w with sim := processSeason ticks.seasonPasses tick w.sim }

/-- The start of `main.go`: `eng.Tick = startTick`, `sim.LastTick = startTick`
and `sim.CurrentSeason = startSeason`. -/
def boot (world : Simulation) (startTick startSeason : ℕ) (saved : Option SavedWorld) :
    Engine World :=
  ⟨startTick, ⟨{ world with lastTick := startTick, currentSeason := startSeason }, saved⟩⟩

/-- A new world: the tick and the season start at zero. -/
def fresh (world : Simulation) : Engine World := boot world 0 0 none

/-- A restart from the last save: the tick and the season are read back from
`last_tick` and `season`. -/
def restart (saved : SavedWorld) : Engine World :=
  boot saved.world saved.lastTick saved.season (some saved)

/-! ## One step of the wired engine -/

namespace SimTicks

variable {ticks : SimTicks}

/-- The simulation as the day layer leaves it, which the daily save writes. -/
def throughDay (ticks : SimTicks) (tick : ℕ) (s : Simulation) : Simulation :=
  layer ticksPerSimDay ticks.tickDay tick <|
    layer ticksPerSimHour ticks.tickHour tick <| ticks.tickMinute tick s

/-- The simulation after all the layers of a step. -/
def advance (ticks : SimTicks) (tick : ℕ) (s : Simulation) : Simulation :=
  layer ticksPerSimSeason (processSeason ticks.seasonPasses) tick <|
    layer ticksPerSimWeek ticks.tickWeek tick <| ticks.throughDay tick s

theorem layer_keepsClock {method : ℕ → Simulation → Simulation} (keeps : KeepsClock method)
    (period tick : ℕ) (s : Simulation) :
    (layer period method tick s).lastTick = s.lastTick ∧
      (layer period method tick s).currentSeason = s.currentSeason :=
  ⟨layer_view Simulation.lastTick method (fun t s => (keeps t s).1) tick s,
    layer_view Simulation.currentSeason method (fun t s => (keeps t s).2) tick s⟩

/-- Up to the day layer a step has recorded its tick and kept the season. -/
theorem throughDay_clock (clocked : ticks.Clocked) (tick : ℕ) (s : Simulation) :
    (ticks.throughDay tick s).lastTick = tick ∧
      (ticks.throughDay tick s).currentSeason = s.currentSeason := by
  obtain ⟨dayTick, daySeason⟩ := layer_keepsClock clocked.day ticksPerSimDay tick
    (layer ticksPerSimHour ticks.tickHour tick (ticks.tickMinute tick s))
  obtain ⟨hourTick, hourSeason⟩ := layer_keepsClock clocked.hour ticksPerSimHour tick
    (ticks.tickMinute tick s)
  refine ⟨?_, ?_⟩
  · rw [throughDay, dayTick, hourTick, clocked.minute_lastTick]
  · rw [throughDay, daySeason, hourSeason, clocked.minute_season]

theorem advance_lastTick (clocked : ticks.Clocked) (tick : ℕ) (s : Simulation) :
    (ticks.advance tick s).lastTick = tick := by
  have seasonTick : ∀ t s', (processSeason ticks.seasonPasses t s').lastTick = s'.lastTick :=
    fun t s' => (clocked.seasonPasses t _).1
  rw [advance, layer_view Simulation.lastTick _ seasonTick,
    (layer_keepsClock clocked.week ticksPerSimWeek tick _).1, (throughDay_clock clocked tick s).1]

/-- After a step the season is the tick's at a season boundary, and unchanged
elsewhere. -/
theorem advance_currentSeason (clocked : ticks.Clocked) (tick : ℕ) (s : Simulation) :
    (ticks.advance tick s).currentSeason =
      if tick % ticksPerSimSeason = 0 then seasonAt tick else s.currentSeason := by
  have beforeSeason : (layer ticksPerSimWeek ticks.tickWeek tick
      (ticks.throughDay tick s)).currentSeason = s.currentSeason := by
    rw [(layer_keepsClock clocked.week ticksPerSimWeek tick _).2,
      (throughDay_clock clocked tick s).2]
  split_ifs with boundary
  · rw [advance, layer_of_mod_eq_zero boundary]
    exact (clocked.seasonPasses tick _).2
  · rw [advance, layer_of_mod_ne_zero boundary]
    exact beforeSeason

end SimTicks

open SimTicks

variable {ticks : SimTicks}

/-- The simulation after a step of the wired engine is `advance` of the one
before. -/
theorem step_sim (ticks : SimTicks) (e : Engine World) :
    (step (wire ticks) e).state.sim = ticks.advance (e.tick + 1) e.state.sim := by
  simp only [step, advance, throughDay]
  rw [layer_map World.sim (processSeason ticks.seasonPasses) (fun _ _ => rfl),
    layer_map World.sim ticks.tickWeek (fun _ _ => rfl),
    layer_map World.sim ticks.tickDay (fun _ _ => rfl),
    layer_map World.sim ticks.tickHour (fun _ _ => rfl)]
  rfl

/-- Only the day layer saves: after a step the last save is the one the step
made at a day boundary, and the one before otherwise. -/
theorem step_saved (ticks : SimTicks) (e : Engine World) :
    (step (wire ticks) e).state.saved =
      if (e.tick + 1) % ticksPerSimDay = 0 then
        some (saveWorldState (ticks.throughDay (e.tick + 1) e.state.sim))
      else e.state.saved := by
  simp only [step]
  rw [layer_view World.saved (wire ticks).onSeason (fun _ _ => rfl),
    layer_view World.saved (wire ticks).onWeek (fun _ _ => rfl)]
  by_cases day : (e.tick + 1) % ticksPerSimDay = 0
  · -- the day layer saves the simulation as the minute and hour layers left it
    have hourSim : (layer ticksPerSimHour (wire ticks).onHour (e.tick + 1)
        ((wire ticks).onTick (e.tick + 1) e.state)).sim =
        layer ticksPerSimHour ticks.tickHour (e.tick + 1) (ticks.tickMinute (e.tick + 1) e.state.sim) :=
      layer_map World.sim ticks.tickHour (fun _ _ => rfl) _ _
    rw [layer_of_mod_eq_zero day, if_pos day, throughDay, layer_of_mod_eq_zero day, ← hourSim]
    rfl
  · rw [layer_of_mod_ne_zero day, if_neg day,
      layer_view World.saved (wire ticks).onHour (fun _ _ => rfl)]
    rfl

/-! ## The clock over runs -/

/-- The clock of an engine agrees with its tick: `LastTick` is the tick and
`CurrentSeason` its season. -/
def InSync (e : Engine World) : Prop :=
  e.state.sim.lastTick = e.tick ∧ e.state.sim.currentSeason = seasonAt e.tick

/-- A step keeps the season in step with the tick, and records the tick. -/
theorem step_inSync (clocked : ticks.Clocked) {e : Engine World}
    (synced : e.state.sim.currentSeason = seasonAt e.tick) : InSync (step (wire ticks) e) := by
  refine ⟨?_, ?_⟩
  · rw [step_sim, advance_lastTick clocked, step_tick]
  · rw [step_sim, advance_currentSeason clocked, step_tick, seasonAt_succ]
    split_ifs
    · rfl
    · exact synced

/-- Over a fresh run the clock agrees with the tick after every step. -/
theorem fresh_run_inSync (clocked : ticks.Clocked) (world : Simulation) (n : ℕ) :
    InSync (run (wire ticks) n (fresh world)) :=
  run_invariant (wire ticks) InSync (fun _ synced => step_inSync clocked synced.2) n _
    ⟨rfl, show 0 = seasonAt 0 from rfl⟩

/-- A daily save made by a step from an engine in sync is labelled with the
step's tick; its season is that tick's exactly when the tick is not a season
boundary, since the season layer runs after the save. -/
theorem daily_save_in_sync_iff (clocked : ticks.Clocked) {e : Engine World}
    (synced : e.state.sim.currentSeason = seasonAt e.tick)
    (day : (e.tick + 1) % ticksPerSimDay = 0) :
    ∃ saved, (step (wire ticks) e).state.saved = some saved ∧ saved.lastTick = e.tick + 1 ∧
      (saved.season = seasonAt saved.lastTick ↔ (e.tick + 1) % ticksPerSimSeason ≠ 0) := by
  obtain ⟨savedTick, savedSeason⟩ := throughDay_clock clocked (e.tick + 1) e.state.sim
  refine ⟨_, by rw [step_saved, if_pos day], savedTick, ?_⟩
  simp only [saveWorldState, savedTick, savedSeason, synced, seasonAt_succ]
  split_ifs with boundary
  · -- the season advances by one modulo four, which is never the season itself
    simp only [ne_eq]
    omega
  · simp [boundary]

/-- A fresh run makes its daily save at tick `180000`, a day and a season
boundary, before the season layer.  Restarted from that save, the process
resumes at `180001`, never runs `TickSeason` for `180000`, and completes its
first step a season behind the tick. -/
theorem restart_from_season_save_lags (clocked : ticks.Clocked) (world : Simulation) :
    ∃ saved, (run (wire ticks) 180000 (fresh world)).state.saved = some saved ∧
      saved.lastTick = 180000 ∧ (step (wire ticks) (restart saved)).tick = 180001 ∧
      (step (wire ticks) (restart saved)).state.sim.currentSeason ≠ seasonAt 180001 := by
  have before := fresh_run_inSync clocked world 179999
  have beforeTick : (run (wire ticks) 179999 (fresh world)).tick = 179999 := by
    simp [fresh, boot]
  obtain ⟨saved, savedIs, savedTick, savedSync⟩ :=
    daily_save_in_sync_iff clocked before.2 (by rw [beforeTick]; decide)
  rw [beforeTick] at savedTick savedSync
  have behind : saved.season ≠ seasonAt 180000 := by
    rw [savedTick] at savedSync
    exact fun synced => savedSync.mp synced (by decide)
  refine ⟨saved, by rw [run_succ]; exact savedIs, savedTick, by simp [restart, boot, savedTick], ?_⟩
  -- `180001` is no season boundary: the restarted step keeps the saved season
  rw [step_sim, advance_currentSeason clocked, if_neg (by simp [restart, boot, savedTick]; decide)]
  exact behind

/-- Tick methods that only keep the clock: `TickMinute` records its tick and
nothing else moves. -/
def SimTicks.clockOnly : SimTicks where
  tickMinute tick s := { s with lastTick := tick }
  tickHour _ s := s
  tickDay _ s := s
  tickWeek _ s := s
  seasonPasses _ s := s

theorem clockOnly_restart_lags :
    SimTicks.clockOnly.Clocked ∧
      ∃ saved, (run (wire SimTicks.clockOnly) 180000
          (fresh (Simulation.newSimulation (fun _ => none) [] []))).state.saved = some saved ∧
        saved.lastTick = 180000 ∧ (step (wire SimTicks.clockOnly) (restart saved)).tick = 180001 ∧
        (step (wire SimTicks.clockOnly) (restart saved)).state.sim.currentSeason ≠ seasonAt 180001 :=
  have clocked : SimTicks.clockOnly.Clocked :=
    ⟨fun _ _ => rfl, fun _ _ => rfl, fun _ _ => ⟨rfl, rfl⟩, fun _ _ => ⟨rfl, rfl⟩,
      fun _ _ => ⟨rfl, rfl⟩, fun _ _ => ⟨rfl, rfl⟩⟩
  ⟨clocked, restart_from_season_save_lags clocked _⟩

end MiniWorld.Engine
