import MiniWorld.Phi.Constants
import Mathlib.Data.List.Chain
import Mathlib.Tactic.Linarith
/-! # Sentinel health checks (`internal/sentinel/checks.go`, `trends.go`, `state.go`)

Once a cycle the sentinel runs its health checks on a world snapshot, appends the cycle's
health snapshot to a ring of the last `maxSnapshots`, and raises alerts when a check
changes level (`Alerts.lean`).  The model keeps what the satisfaction check and the alert
detector read: the four levels and their severity, the check result, the snapshot fields
that `checkMetrics` extracts, the ring, and the decline streak of `ConsecutiveDeclines`.
`ComputeTrend` only fills the result's `Trend` text, which nothing modelled reads, and is
left out.

`checkSatisfactionTrend` asks `ConsecutiveDeclines` for the key `"satisfaction"`, while
`checkMetrics` registers the metric as `"satisfaction_trend"`.  The lookup fails, the
streak is always 0 (`consecutiveDeclines_satisfaction`), and a falling satisfaction never
raises the check however long it falls (`satisfaction_streak_unseen`); with the table's
key the same ring does give the streak (`consecutiveDeclines_ge`).
-/

namespace MiniWorld.Sentinel

open MiniWorld.Phi (agnosis psyche)

/-- `Level`, the status of a check (Go: the string constants `HEALTHY` to `CRITICAL`). -/
inductive Level
  | healthy
  | watch
  | warning
  | critical
  deriving DecidableEq, Repr

def levelSeverity : Level → ℕ
  | .critical => 3
  | .warning => 2
  | .watch => 1
  | .healthy => 0

/-- `worstLevel`: the more severe level, the second one on a tie. -/
def worstLevel (a b : Level) : Level :=
  if levelSeverity a > levelSeverity b then a else b

@[simp] theorem worstLevel_healthy (a : Level) : worstLevel a .healthy = a := by
  cases a <;> rfl

/-- `CheckResult`.  `Trend` is attached by the cycle after the checks have run. -/
structure CheckResult where
  name : String
  status : Level := .healthy
  value : ℚ := 0
  threshold : String := ""
  trend : String := ""
  detail : String := ""
  deriving DecidableEq, Repr

/-- `HealthSnapshot`, with the metrics that `checkMetrics` extracts. -/
structure HealthSnapshot where
  deathBirthRatio : ℚ := 0
  crafterPct : ℚ := 0
  workRate : ℚ := 0
  marketHealth : ℚ := 0
  govScore : ℚ := 0
  satisfaction : ℚ := 0
  avgSettHealth : ℚ := 0
  mortalityRate : ℚ := 0
  deriving DecidableEq, Repr

/-- `AlertState`, the alert history of one check. -/
structure AlertState where
  lastLevel : Level
  lastAlertAt : ℤ
  lastClearedAt : ℤ := 0
  deriving DecidableEq, Repr

/-- `SentinelState`, as `LoadState` starts it when there is no state file; the alert map is
Go's map from check name to that check's state. -/
structure SentinelState where
  snapshots : List HealthSnapshot := []
  alerts : String → Option AlertState := fun _ => none
  cycleNum : ℤ := 0

/-! ## The snapshot ring (`state.go`) -/

def maxSnapshots : ℕ := 20

/-- `AddSnapshot`: append, then keep the last `maxSnapshots`. -/
def SentinelState.addSnapshot (s : SentinelState) (snap : HealthSnapshot) : SentinelState :=
  let snapshots := s.snapshots ++ [snap]
  if snapshots.length > maxSnapshots then
    { s with snapshots := snapshots.drop (snapshots.length - maxSnapshots) }
  else { s with snapshots := snapshots }

/-- One append drops exactly the overflow, oldest first. -/
theorem addSnapshot_snapshots (s : SentinelState) (snap : HealthSnapshot) :
    (s.addSnapshot snap).snapshots =
      (s.snapshots ++ [snap]).drop (s.snapshots.length + 1 - maxSnapshots) := by
  unfold SentinelState.addSnapshot
  dsimp only
  split_ifs with full
  · simp
  · simp only [List.length_append, List.length_singleton] at full
    rw [Nat.sub_eq_zero_of_le (by omega), List.drop_zero]

/-- The ring holds the newest `maxSnapshots` of everything appended, in order: each append
only drops what has fallen out of the window. -/
theorem addSnapshots_ring (snaps : List HealthSnapshot) (s : SentinelState)
    (held : s.snapshots.length ≤ maxSnapshots) :
    (snaps.foldl SentinelState.addSnapshot s).snapshots =
      (s.snapshots ++ snaps).drop ((s.snapshots ++ snaps).length - maxSnapshots) := by
  induction snaps generalizing s with
  | nil => simp [Nat.sub_eq_zero_of_le held]
  | cons snap later ih =>
    have step := addSnapshot_snapshots s snap
    have kept : (s.addSnapshot snap).snapshots.length ≤ maxSnapshots := by
      rw [step, List.length_drop]
      simp only [List.length_append, List.length_singleton]
      omega
    rw [List.foldl_cons, ih _ kept, step,
      ← List.drop_append_of_le_length (by simp), List.drop_drop]
    simp only [List.append_assoc, List.singleton_append, List.length_append, List.length_cons,
      List.length_drop]
    congr 1
    omega

/-! ## Trends (`trends.go`) -/

inductive MetricPolarity
  | higherIsBetter
  | lowerIsBetter
  deriving DecidableEq, Repr

/-- An entry of `checkMetrics`: the snapshot field a check follows, and its polarity. -/
structure Metric where
  extract : HealthSnapshot → ℚ
  polarity : MetricPolarity

/-- `checkMetrics`, the table from check name to its metric. -/
def checkMetrics : String → Option Metric
  | "population_vitality" => some ⟨HealthSnapshot.deathBirthRatio, .lowerIsBetter⟩
  | "occupation_balance" => some ⟨HealthSnapshot.crafterPct, .lowerIsBetter⟩
  | "producer_health" => some ⟨HealthSnapshot.workRate, .higherIsBetter⟩
  | "economic_circuit" => some ⟨HealthSnapshot.marketHealth, .higherIsBetter⟩
  | "governance_diversity" => some ⟨HealthSnapshot.govScore, .lowerIsBetter⟩
  | "satisfaction_trend" => some ⟨HealthSnapshot.satisfaction, .higherIsBetter⟩
  | "land_health" => some ⟨HealthSnapshot.avgSettHealth, .higherIsBetter⟩
  | "mortality_spike" => some ⟨HealthSnapshot.mortalityRate, .lowerIsBetter⟩
  | _ => none

/-- The decline test of `ConsecutiveDeclines`, newest value first. -/
def MetricPolarity.declining : MetricPolarity → ℚ → ℚ → Bool
  | .higherIsBetter, curr, prev => curr < prev
  | .lowerIsBetter, curr, prev => curr > prev

/-- The backward loop of `ConsecutiveDeclines` over a metric's values, newest first: one
for each adjacent pair that declines, up to the first pair that does not. -/
def declineStreak (declining : ℚ → ℚ → Bool) : List ℚ → ℕ
  | curr :: prev :: older =>
    if declining curr prev then declineStreak declining (prev :: older) + 1 else 0
  | _ => 0

def consecutiveDeclines (snapshots : List HealthSnapshot) (checkName : String) : ℕ :=
  match checkMetrics checkName with
  | none => 0
  | some m =>
    if snapshots.length < 2 then 0
    else declineStreak m.polarity.declining (snapshots.map m.extract).reverse

/-- A run of `k + 1` values, newest first, each declining against the next, is counted
whole, whatever lies behind it. -/
theorem declineStreak_ge (declining : ℚ → ℚ → Bool) (older : List ℚ) :
    ∀ (newest : List ℚ) (k : ℕ), newest.length = k + 1 →
      newest.IsChain (fun curr prev => declining curr prev) →
      k ≤ declineStreak declining (newest ++ older)
  | [], _, len, _ => by simp at len
  | [_], k, len, _ => by simp at len; omega
  | curr :: prev :: rest, k, len, chain => by
    obtain ⟨falls, chain⟩ := List.isChain_cons_cons.mp chain
    have later := declineStreak_ge declining older (prev :: rest) (k - 1)
      (by simp at len ⊢; omega) chain
    simp only [List.cons_append] at later
    simp only [List.cons_append, declineStreak, falls, if_true]
    omega

/-- The table's own key finds a falling satisfaction: a ring whose last `k + 1` snapshots
strictly decrease has a streak of at least `k`. -/
theorem consecutiveDeclines_ge (older newer : List HealthSnapshot) (k : ℕ)
    (recent : newer.length = k + 1)
    (falling : (newer.map HealthSnapshot.satisfaction).IsChain (· > ·)) :
    k ≤ consecutiveDeclines (older ++ newer) "satisfaction_trend" := by
  have chain : ((newer.map HealthSnapshot.satisfaction).reverse).IsChain
      (fun curr prev => MetricPolarity.higherIsBetter.declining curr prev) := by
    rw [List.isChain_reverse]
    exact falling.imp fun a b fell => by simpa [MetricPolarity.declining] using fell
  unfold consecutiveDeclines
  simp only [checkMetrics]
  split_ifs with short
  · simp only [List.length_append] at short
    omega
  · rw [List.map_append, List.reverse_append]
    exact declineStreak_ge _ _ _ k (by simp [recent]) chain

/-- The key `"satisfaction"` is not in the table: the lookup fails and the streak is 0. -/
@[simp] theorem consecutiveDeclines_satisfaction (snapshots : List HealthSnapshot) :
    consecutiveDeclines snapshots "satisfaction" = 0 := by
  simp [consecutiveDeclines, checkMetrics]

/-! ## The satisfaction check (`checks.go`) -/

/-- Go's `%.Nf` on an exact value: `|x|` rounded to `N` decimals, ties to even, with a minus
sign for a negative `x` and exactly `N` digits after the point. -/
def formatFixed (digits : ℕ) (x : ℚ) : String :=
  let scaled := x.num.natAbs * 10 ^ digits
  let low := scaled / x.den
  let twice := 2 * (scaled % x.den)
  let units := if x.den < twice ∨ (twice = x.den ∧ low % 2 = 1) then low + 1 else low
  let frac := toString (units % 10 ^ digits)
  (if x < 0 then "-" else "") ++ toString (units / 10 ^ digits) ++
    (if digits = 0 then "" else "." ++ "".pushn '0' (digits - frac.length) ++ frac)

def checkSatisfactionTrend (hs : HealthSnapshot) (state : SentinelState) : CheckResult :=
  -- Absolute thresholds.
  let absLevel :=
    if hs.satisfaction < 0 then Level.critical
    else if hs.satisfaction < agnosis then .warning
    else if hs.satisfaction < psyche then .watch
    else .healthy
  -- Consecutive decline count from ring buffer.
  let declines := consecutiveDeclines state.snapshots "satisfaction"
  let trendLevel :=
    if declines ≥ 5 then Level.warning else if declines ≥ 3 then .watch else .healthy
  { name := "satisfaction_trend"
    status := worstLevel absLevel trendLevel
    value := hs.satisfaction
    threshold := "Satisfaction >= " ++ formatFixed 3 psyche ++ " (Psyche), no 3+ decline streak"
    detail := "Satisfaction " ++ formatFixed 3 hs.satisfaction ++ ", " ++ toString declines ++
      " consecutive declines" }

/-- Above Psyche the check reports healthy with a streak of 0, whatever the ring holds. -/
theorem checkSatisfactionTrend_content (hs : HealthSnapshot) (state : SentinelState)
    (content : psyche ≤ hs.satisfaction) :
    (checkSatisfactionTrend hs state).status = .healthy ∧
      (checkSatisfactionTrend hs state).detail =
        "Satisfaction " ++ formatFixed 3 hs.satisfaction ++ ", 0 consecutive declines" := by
  have above : ¬ hs.satisfaction < psyche := not_lt.mpr content
  have aboveAgnosis : ¬ hs.satisfaction < agnosis := by
    have : agnosis < psyche := by norm_num [agnosis, psyche]
    intro below
    linarith
  have positive : ¬ hs.satisfaction < 0 := by
    have := Phi.agnosis_pos
    intro below
    exact aboveAgnosis (by linarith)
  simp only [checkSatisfactionTrend, consecutiveDeclines_satisfaction, positive, above,
    aboveAgnosis, if_false]
  have zero : ", " ++ toString (0 : ℕ) ++ " consecutive declines" = ", 0 consecutive declines" := by
    decide
  refine ⟨rfl, ?_⟩
  rw [← zero]
  simp only [String.append_assoc]

theorem satisfaction_streak_unseen (state : SentinelState) (older newer : List HealthSnapshot)
    (k : ℕ) (hs : HealthSnapshot) (ring : state.snapshots = older ++ newer)
    (recent : newer.length = k + 1)
    (falling : (newer.map HealthSnapshot.satisfaction).IsChain (· > ·))
    (content : psyche ≤ hs.satisfaction) :
    k ≤ consecutiveDeclines state.snapshots "satisfaction_trend" ∧
      (checkSatisfactionTrend hs state).status = .healthy ∧
      (checkSatisfactionTrend hs state).detail =
        "Satisfaction " ++ formatFixed 3 hs.satisfaction ++ ", 0 consecutive declines" := by
  rw [ring]
  exact ⟨consecutiveDeclines_ge older newer k recent falling,
    checkSatisfactionTrend_content hs state content⟩

/-- Six cycles of falling satisfaction, all above Psyche. -/
def fallingSatisfaction : List HealthSnapshot :=
  [0.9, 0.8, 0.7, 0.6, 0.5, 0.45].map fun v => { satisfaction := v }

/-- The ring that AddSnapshot keeps of them, from a fresh state. -/
def fallingRing : SentinelState :=
  fallingSatisfaction.foldl SentinelState.addSnapshot {}

theorem fallingRing_streak_unseen :
    5 ≤ consecutiveDeclines fallingRing.snapshots "satisfaction_trend" ∧
      (checkSatisfactionTrend { satisfaction := 0.45 } fallingRing).status = .healthy ∧
      (checkSatisfactionTrend { satisfaction := 0.45 } fallingRing).detail =
        "Satisfaction " ++ formatFixed 3 0.45 ++ ", 0 consecutive declines" :=
  satisfaction_streak_unseen fallingRing [] fallingSatisfaction 5 { satisfaction := 0.45 } rfl rfl
    (by norm_num [fallingSatisfaction]) (by norm_num [psyche])

end MiniWorld.Sentinel
