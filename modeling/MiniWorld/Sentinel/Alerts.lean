import MiniWorld.Sentinel.Checks
import MiniWorld.Run.Invariant
/-! # Sentinel alerts (`internal/sentinel/alerts.go`)

`DetectAlerts` keeps one `AlertState` per check name.  The first cycle only records
baselines; later, a check whose level differs from the stored one raises an alert, unless
the last alert of that check is fewer than `cooldownCycles` cycles old.  The cycle loop of
`cmd/sentinel` increments `CycleNum` before each detection (`runAlerts`).

Over any run from a fresh state, the alerts of each check form a chain from its baseline
(`AlertChain`): each alert starts at the level the previous one reached, changes the level,
and comes at least `cooldownCycles` after the previous one, and the stored `LastLevel` is
where the chain ends (`runAlerts_tracked`).  `LastClearedAt` is another matter: the update
block overwrites `LastLevel` before it compares severities, so it compares the new level with
itself and never records a clearing (`detectAlert_cases`, `alert_clearing_never_recorded`).
-/

namespace MiniWorld.Sentinel

open MiniWorld.Run (foldl_invariant)

/-- `Alert`, a change of a check's level: Go's `From` and `To`. -/
structure Alert where
  check : String
  fromLevel : Level
  toLevel : Level
  message : String
  deriving DecidableEq, Repr

def cooldownCycles : ℤ := 3

/-- One check of `DetectAlerts`' loop after the first cycle, on the alerts raised so far and
the alert map. -/
def detectAlert (cycleNum : ℤ) (acc : List Alert × (String → Option AlertState))
    (c : CheckResult) : List Alert × (String → Option AlertState) :=
  match acc.2 c.name with
  | none =>
    -- New check, set baseline.
    (acc.1, Function.update acc.2 c.name (some { lastLevel := c.status, lastAlertAt := cycleNum }))
  | some prev =>
    if c.status = prev.lastLevel then acc
    else if cycleNum - prev.lastAlertAt < cooldownCycles then acc
    else
      let alert : Alert :=
        { check := c.name, fromLevel := prev.lastLevel, toLevel := c.status, message := c.detail }
      -- Go updates the entry in place: LastLevel is written before the severity test reads it.
      let prev := { prev with lastLevel := c.status, lastAlertAt := cycleNum }
      let prev := if levelSeverity c.status < levelSeverity prev.lastLevel then
          { prev with lastClearedAt := cycleNum }
        else prev
      (acc.1 ++ [alert], Function.update acc.2 c.name (some prev))

def detectAlerts (checks : List CheckResult) (state : SentinelState) :
    List Alert × SentinelState :=
  if state.cycleNum ≤ 1 then
    -- First cycle: baseline only, no alerts.
    ([], { state with
      alerts := checks.foldl (fun alerts c => Function.update alerts c.name
        (some { lastLevel := c.status, lastAlertAt := state.cycleNum })) state.alerts })
  else
    let swept := checks.foldl (detectAlert state.cycleNum) ([], state.alerts)
    (swept.1, { state with alerts := swept.2 })

/-- The cycles of the sentinel as the detector sees them: `runCycle` increments `CycleNum`,
then feeds the cycle's check results to `DetectAlerts`.  Each alert is kept with the cycle
that raised it. -/
def runAlerts : List (List CheckResult) → SentinelState → List (ℤ × Alert) × SentinelState
  | [], state => ([], state)
  | checks :: later, state =>
    let state := { state with cycleNum := state.cycleNum + 1 }
    let detected := detectAlerts checks state
    let rest := runAlerts later detected.2
    (detected.1.map (fun alert => (state.cycleNum, alert)) ++ rest.1, rest.2)

@[simp] theorem detectAlerts_cycleNum (checks : List CheckResult) (state : SentinelState) :
    (detectAlerts checks state).2.cycleNum = state.cycleNum := by
  unfold detectAlerts
  split_ifs <;> rfl

/-! ## One check -/

/-- Everything one check can do after the first cycle: nothing; a baseline for a check
without an entry; or one alert from the stored level, with `LastLevel` and `LastAlertAt`
moved to it.  `LastClearedAt` is never written. -/
theorem detectAlert_cases (cycleNum : ℤ) (acc : List Alert × (String → Option AlertState))
    (c : CheckResult) :
    detectAlert cycleNum acc c = acc ∨
      (acc.2 c.name = none ∧ detectAlert cycleNum acc c =
        (acc.1, Function.update acc.2 c.name
          (some { lastLevel := c.status, lastAlertAt := cycleNum }))) ∨
      (∃ prev, acc.2 c.name = some prev ∧ c.status ≠ prev.lastLevel ∧
        prev.lastAlertAt + cooldownCycles ≤ cycleNum ∧
        detectAlert cycleNum acc c =
          (acc.1 ++ [⟨c.name, prev.lastLevel, c.status, c.detail⟩],
            Function.update acc.2 c.name
              (some { prev with lastLevel := c.status, lastAlertAt := cycleNum }))) := by
  unfold detectAlert
  cases stored : acc.2 c.name with
  | none => exact .inr (.inl ⟨rfl, rfl⟩)
  | some prev =>
    dsimp only
    split_ifs with same cooling clears
    · exact .inl rfl
    · exact .inl rfl
    · -- the clearing test reads the level it has just written
      exact absurd clears (lt_irrefl _)
    · exact .inr (.inr ⟨prev, rfl, same, by omega, rfl⟩)

/-! ## The alert history of a check -/

/-- A chain of alerts from a baseline level set at cycle `baseAt`, ending at `level`, with the
last alert (or the baseline) at cycle `lastAt`: each alert starts where the previous one
ended, changes the level, and comes at least `cooldownCycles` after it. -/
inductive AlertChain (baseline : Level) (baseAt : ℤ) :
    List (ℤ × Alert) → Level → ℤ → Prop
  | start : AlertChain baseline baseAt [] baseline baseAt
  | raise {raised : List (ℤ × Alert)} {level : Level} {lastAt : ℤ} (cycle : ℤ) (alert : Alert) :
      AlertChain baseline baseAt raised level lastAt → alert.fromLevel = level →
      alert.fromLevel ≠ alert.toLevel → lastAt + cooldownCycles ≤ cycle →
      AlertChain baseline baseAt (raised ++ [(cycle, alert)]) alert.toLevel cycle

/-- The alerts raised for one check, in order. -/
def alertsFor (name : String) (raised : List (ℤ × Alert)) : List (ℤ × Alert) :=
  raised.filter fun r => r.2.check = name

@[simp] theorem alertsFor_append (name : String) (earlier later : List (ℤ × Alert)) :
    alertsFor name (earlier ++ later) = alertsFor name earlier ++ alertsFor name later :=
  List.filter_append earlier later

/-- What the alert map holds of one check against the alerts raised: no entry and no alert,
or an entry where the check's chain of alerts ends, with `LastClearedAt` still 0. -/
def Tracked (name : String) (raised : List (ℤ × Alert)) : Option AlertState → Prop
  | none => alertsFor name raised = []
  | some entry =>
    (∃ baseline baseAt, AlertChain baseline baseAt (alertsFor name raised)
      entry.lastLevel entry.lastAlertAt) ∧ entry.lastClearedAt = 0

/-- A fresh baseline is tracked against history without alerts of its check. -/
theorem tracked_baseline {name : String} {raised : List (ℤ × Alert)} (level : Level)
    (cycleNum : ℤ) (quiet : alertsFor name raised = []) :
    Tracked name raised (some { lastLevel := level, lastAlertAt := cycleNum }) :=
  ⟨⟨level, cycleNum, quiet ▸ AlertChain.start⟩, rfl⟩

/-- Alerts of other checks leave a check's tracking as it is. -/
theorem Tracked.append_quiet {name : String} {raised extra : List (ℤ × Alert)}
    {entry : Option AlertState} (held : Tracked name raised entry)
    (quiet : alertsFor name extra = []) : Tracked name (raised ++ extra) entry := by
  cases entry with
  | none => simpa [Tracked, quiet] using held
  | some entry => simpa [Tracked, quiet] using held

/-- One check keeps every check tracked: a baseline starts a chain, an alert extends the chain
of its own check, and the other checks see neither. -/
theorem detectAlert_tracked (cycleNum : ℤ) (earlier : List (ℤ × Alert))
    (acc : List Alert × (String → Option AlertState)) (c : CheckResult) (name : String)
    (held : Tracked name (earlier ++ acc.1.map (fun alert => (cycleNum, alert))) (acc.2 name)) :
    Tracked name (earlier ++ (detectAlert cycleNum acc c).1.map (fun alert => (cycleNum, alert)))
      ((detectAlert cycleNum acc c).2 name) := by
  rcases detectAlert_cases cycleNum acc c with same | ⟨fresh, baseline⟩ |
    ⟨prev, stored, moved, cooled, alerted⟩
  · rwa [same]
  · rw [baseline]
    by_cases own : c.name = name
    · subst own
      rw [fresh] at held
      simpa using tracked_baseline c.status cycleNum held
    · simpa [Function.update_of_ne (Ne.symm own)] using held
  · rw [alerted]
    by_cases own : c.name = name
    · subst own
      rw [stored] at held
      obtain ⟨⟨baseline, baseAt, chain⟩, cleared⟩ := held
      simp only [Function.update_self]
      refine ⟨⟨baseline, baseAt, ?_⟩, cleared⟩
      simp only [List.map_append, List.map_cons, List.map_nil, ← List.append_assoc,
        alertsFor_append]
      simp only [alertsFor_append] at chain
      have raised := AlertChain.raise cycleNum ⟨c.name, prev.lastLevel, c.status, c.detail⟩ chain
        rfl (Ne.symm moved) cooled
      simpa [alertsFor] using raised
    · simp only [List.map_append, List.map_cons, List.map_nil, ← List.append_assoc,
        Function.update_of_ne (Ne.symm own)]
      exact held.append_quiet (by simp [alertsFor, own])

/-- A cycle after the first keeps every check tracked, with its alerts at its cycle number. -/
theorem detectAlerts_tracked (checks : List CheckResult) (state : SentinelState)
    (earlier : List (ℤ × Alert)) (later : 1 < state.cycleNum)
    (held : ∀ name, Tracked name earlier (state.alerts name)) (name : String) :
    Tracked name
      (earlier ++ (detectAlerts checks state).1.map (fun alert => (state.cycleNum, alert)))
      ((detectAlerts checks state).2.alerts name) := by
  unfold detectAlerts
  rw [if_neg (by omega)]
  dsimp only
  revert name
  refine foldl_invariant (fun acc : List Alert × (String → Option AlertState) => ∀ name,
      Tracked name (earlier ++ acc.1.map (fun alert => (state.cycleNum, alert))) (acc.2 name))
    (detectAlert state.cycleNum) checks ([], state.alerts) ?_ (by simpa using held)
  intro c _ acc tracked name
  exact detectAlert_tracked state.cycleNum earlier acc c name (tracked name)

/-- The first cycle raises nothing and leaves baselines only. -/
theorem detectAlerts_first (checks : List CheckResult) (state : SentinelState)
    (first : state.cycleNum ≤ 1) (held : ∀ name, Tracked name [] (state.alerts name))
    (name : String) :
    (detectAlerts checks state).1 = [] ∧ Tracked name [] ((detectAlerts checks state).2.alerts name) := by
  unfold detectAlerts
  rw [if_pos first]
  refine ⟨rfl, ?_⟩
  revert name
  refine foldl_invariant (fun alerts : String → Option AlertState => ∀ name,
      Tracked name [] (alerts name)) _ checks state.alerts ?_ held
  intro c _ alerts tracked name
  by_cases own : c.name = name
  · subst own
    simpa using tracked_baseline c.status state.cycleNum rfl
  · simpa [Function.update_of_ne (Ne.symm own)] using tracked name

/-! ## Runs -/

/-- Every cycle of a run that has started keeps every check tracked against all alerts
raised. -/
theorem runAlerts_tracked (batches : List (List CheckResult)) (state : SentinelState)
    (earlier : List (ℤ × Alert)) (started : 1 ≤ state.cycleNum)
    (held : ∀ name, Tracked name earlier (state.alerts name)) (name : String) :
    Tracked name (earlier ++ (runAlerts batches state).1) ((runAlerts batches state).2.alerts name) := by
  induction batches generalizing state earlier with
  | nil => simpa [runAlerts] using held name
  | cons checks later ih =>
    simp only [runAlerts, ← List.append_assoc]
    apply ih
    · simp only [detectAlerts_cycleNum]
      omega
    · exact detectAlerts_tracked checks { state with cycleNum := state.cycleNum + 1 } earlier
        (by simp only; omega) held

theorem alert_clearing_never_recorded (batches : List (List CheckResult)) (name : String)
    (entry : AlertState) (stored : (runAlerts batches {}).2.alerts name = some entry) :
    (∃ baseline baseAt, AlertChain baseline baseAt (alertsFor name (runAlerts batches {}).1)
      entry.lastLevel entry.lastAlertAt) ∧ entry.lastClearedAt = 0 := by
  cases batches with
  | nil => simp [runAlerts] at stored
  | cons checks later =>
    have fresh : ∀ name, Tracked name [] (({} : SentinelState).alerts name) := fun _ => rfl
    have first := detectAlerts_first checks { cycleNum := 0 + 1 } (by simp) fresh
    have tracked := runAlerts_tracked later (detectAlerts checks { cycleNum := 0 + 1 }).2 []
      (by simp) (fun name => (first name).2) name
    simp only [runAlerts, (first name).1, List.map_nil, List.nil_append] at stored ⊢
    rw [List.nil_append, stored] at tracked
    exact tracked

/-- A check at CRITICAL for three cycles, then HEALTHY. -/
def clearingChecks : List (List CheckResult) :=
  [[{ name := "x", status := .critical }], [{ name := "x", status := .critical }],
    [{ name := "x", status := .critical }], [{ name := "x", status := .healthy }]]

theorem clearingChecks_never_cleared :
    (runAlerts clearingChecks {}).1 =
        [(4, { check := "x", fromLevel := .critical, toLevel := .healthy, message := "" })] ∧
      levelSeverity .healthy < levelSeverity .critical ∧
      (runAlerts clearingChecks {}).2.alerts "x" =
        some { lastLevel := .healthy, lastAlertAt := 4, lastClearedAt := 0 } ∧
      ((∃ baseline baseAt, AlertChain baseline baseAt
          (alertsFor "x" (runAlerts clearingChecks {}).1) .healthy 4) ∧
        (({ lastLevel := .healthy, lastAlertAt := 4, lastClearedAt := 0 } : AlertState).lastClearedAt
          = 0)) :=
  ⟨by decide, by decide, by decide,
    alert_clearing_never_recorded clearingChecks "x"
      { lastLevel := .healthy, lastAlertAt := 4, lastClearedAt := 0 } (by decide)⟩

end MiniWorld.Sentinel
