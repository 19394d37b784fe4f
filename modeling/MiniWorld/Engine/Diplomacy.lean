import MiniWorld.Engine.Merchant
import MiniWorld.Run.Keyed

/-! # Trade routes, agreements and peace (`trade_routes.go`, `diplomacy.go`, `peace.go`)

Three weekly passes over the settlement pairs of the registry.
`processTradeRoutes` reads the week's `TradeTracker` volume of each pair and
establishes, upgrades, decays or drops its `TradeRoute`; `processDiplomacy`
reads each pair's `Relations` sentiment and forms, upgrades or downgrades its
`Agreement`; `processPeace` turns three raids into an eight-week
`PeaceTreaty`, then counts every treaty down and deletes it at zero.

Each pass is a `for key := range m` loop (two of them, for each pass) whose
body reads and rewrites the entries of its own key only.  The model writes the
body as the Go branch logic on one key's entries (`tradeWeek`, `ageRoute`,
`weighAgreement`, `formTreaty`, `tickTreaty`) followed by the write-back
`putEntry`, so that the loop rule `foldl_keyLocal` gives, once per pass, what
the pass does to any one pair (`lookup_processTradeRoutes`,
`lookup_processDiplomacy`, `lookup_processPeace`).  Week-by-week results then
follow a single pair along any sequence of registries.

The events the passes emit and their log lines are not modelled.
-/

namespace MiniWorld.Engine

open MiniWorld.Phi MiniWorld.Run

/-! ## Trade routes -/

/-- `routeEstablishThreshold`: trades a week for a route to grow. -/
def routeEstablishThreshold : ℚ := 4

/-- `routeFlourish`: trades a week for level 2. -/
def routeFlourish : ℚ := 8

/-- `routeLegendary`: trades a week for level 3. -/
def routeLegendary : ℚ := 16

/-- `routeDecayThreshold`: below it, a week counts as dormant. -/
def routeDecayThreshold : ℚ := 2

/-- The level test of a busy week.  Each of the three tests reads the level the
route had before the test, so at most one of them fires. -/
def routeNewLevel (route : TradeRoute) (vol : ℚ) : ℕ :=
  let newLevel := route.level
  let newLevel :=
    if route.level = 0 ∧ 2 ≤ route.sustainedWeeks ∧ routeEstablishThreshold ≤ vol then 1
    else newLevel
  let newLevel :=
    if route.level = 1 ∧ 3 ≤ route.sustainedWeeks ∧ routeFlourish ≤ vol then 2 else newLevel
  if route.level = 2 ∧ 4 ≤ route.sustainedWeeks ∧ routeLegendary ≤ vol then 3 else newLevel

/-- `if newLevel > route.Level { route.Level = newLevel }`. -/
def raiseRoute (route : TradeRoute) (vol : ℚ) : TradeRoute :=
  if routeNewLevel route vol > route.level then { route with level := routeNewLevel route vol }
  else route

/-- A dormant week: `DormantWeeks++`, and `SustainedWeeks--` while positive.  Both
loops of `processTradeRoutes` count one so. -/
def idleRoute (route : TradeRoute) : TradeRoute :=
  { route with
    dormantWeeks := route.dormantWeeks + 1
    sustainedWeeks :=
      if route.sustainedWeeks > 0 then route.sustainedWeeks - 1 else route.sustainedWeeks }

/-- The first loop of `processTradeRoutes` at a pair that traded `vol` this
week, on the pair's route entry.  `name` is `generateRouteName` of the pair. -/
def tradeWeek (name : String) (vol : ℚ) : Option TradeRoute → Option TradeRoute
  | none =>
    if routeEstablishThreshold ≤ vol then
      some (raiseRoute
        { level := 0, name := name, sustainedWeeks := 1, dormantWeeks := 0, weeklyTrade := vol } vol)
    else none
  | some route =>
    if routeEstablishThreshold ≤ vol then
      some (raiseRoute
        { route with sustainedWeeks := route.sustainedWeeks + 1, dormantWeeks := 0, weeklyTrade := vol }
        vol)
    else
      let route := { route with weeklyTrade := vol }
      -- trade below the growth threshold holds the route steady
      some (if vol < routeDecayThreshold then idleRoute route else { route with dormantWeeks := 0 })

/-- The second loop of `processTradeRoutes` at one route: a pair absent from
the tracker has a dormant week, two dormant weeks cost a level (the route is
deleted when it falls to level 0), and a level-0 route three weeks dormant is
dropped. -/
def ageRoute (traded : Bool) : Option TradeRoute → Option TradeRoute
  | none => none
  | some route =>
    let route := if traded then route else { idleRoute route with weeklyTrade := 0 }
    if 2 ≤ route.dormantWeeks ∧ route.level > 0 then
      if route.level - 1 = 0 then none
      else some { route with level := route.level - 1, dormantWeeks := 0 }
    else if route.level = 0 ∧ 3 ≤ route.dormantWeeks then none
    else some route

/-- One week of `processTradeRoutes` at one pair: its tracker volume, if it
traded, and its route entry before, to its route entry after. -/
def routeWeek (name : String) (vol : Option ℚ) (route : Option TradeRoute) : Option TradeRoute :=
  ageRoute vol.isSome (match vol with
    | none => route
    | some vol => tradeWeek name vol route)

namespace Registry

/-- The body of the first loop, `for key, vol := range s.TradeTracker`. -/
def trackRoute (name : SettRelKey → String) (r : Registry) (key : SettRelKey) : Registry :=
  match r.tradeTracker.lookup key with
  | none => r
  | some vol =>
    { r with
      tradeRoutes := putEntry key (tradeWeek (name key) vol (r.tradeRoutes.lookup key)) r.tradeRoutes }

/-- The body of the second loop, `for key, route := range s.TradeRoutes`. -/
def checkRoute (r : Registry) (key : SettRelKey) : Registry :=
  { r with
    tradeRoutes :=
      putEntry key (ageRoute (r.tradeTracker.lookup key).isSome (r.tradeRoutes.lookup key))
        r.tradeRoutes }

/-- `processTradeRoutes`, with the route names of the settlement index. -/
def processTradeRoutes (name : SettRelKey → String) (r : Registry) : Registry :=
  let r := r.tradeTracker.keys.foldl (trackRoute name) r
  r.tradeRoutes.keys.foldl checkRoute r

/-- A pair's tracker volume and route entry. -/
def routeView (r : Registry) (key : SettRelKey) : Option ℚ × Option TradeRoute :=
  (r.tradeTracker.lookup key, r.tradeRoutes.lookup key)

theorem trackRoute_keyLocal (name : SettRelKey → String) :
    KeyLocal routeView (trackRoute name) fun key entries =>
      (entries.1, match entries.1 with
        | none => entries.2
        | some vol => tradeWeek (name key) vol entries.2) := by
  intro r key other
  unfold trackRoute
  cases traded : r.tradeTracker.lookup key with
  | none =>
    by_cases same : other = key
    · subst same
      simp [routeView, traded]
    · simp [same]
  | some vol =>
    by_cases same : other = key
    · subst same
      simp [routeView, traded]
    · simp [routeView, same]

theorem checkRoute_keyLocal :
    KeyLocal routeView checkRoute fun _ entries => (entries.1, ageRoute entries.1.isSome entries.2) := by
  intro r key other
  by_cases same : other = key
  · subst same
    simp [routeView, checkRoute]
  · simp [routeView, checkRoute, same]

/-- What `processTradeRoutes` does to one pair: one `routeWeek` of its volume. -/
theorem lookup_processTradeRoutes (name : SettRelKey → String) (r : Registry) (key : SettRelKey) :
    (r.processTradeRoutes name).tradeRoutes.lookup key =
      routeWeek (name key) (r.tradeTracker.lookup key) (r.tradeRoutes.lookup key) := by
  have tracked := foldl_keyLocal_of_fixed (trackRoute_keyLocal name) r.tradeTracker.keys
    r.tradeTracker.keys_nodup r key fun absent => by
      simp [routeView, lookup_eq_none_of_not_mem_keys absent]
  simp only [processTradeRoutes]
  set traded := r.tradeTracker.keys.foldl (trackRoute name) r
  have checked := foldl_keyLocal_of_fixed checkRoute_keyLocal traded.tradeRoutes.keys
    traded.tradeRoutes.keys_nodup traded key fun absent => by
      simp [routeView, lookup_eq_none_of_not_mem_keys absent, ageRoute]
  simp only [routeView, Prod.mk.injEq] at tracked checked
  rw [checked.2, tracked.1, tracked.2]
  rfl

/-- Four trades, four, then eight: the third week lifts a new route to
Flourishing, although eight trades came in one week only.  `SustainedWeeks`
counts the weeks at `routeEstablishThreshold`, whatever the level asks. -/
theorem route_flourishes_after_one_busy_week (name : SettRelKey → String) (weeks : ℕ → Registry)
    (key : SettRelKey) (fresh : (weeks 0).tradeRoutes.lookup key = none)
    (carried : ∀ i, (weeks (i + 1)).tradeRoutes.lookup key =
      ((weeks i).processTradeRoutes name).tradeRoutes.lookup key)
    (first : (weeks 0).tradeTracker.lookup key = some 4)
    (second : (weeks 1).tradeTracker.lookup key = some 4)
    (third : (weeks 2).tradeTracker.lookup key = some 8) :
    ∃ route, ((weeks 2).processTradeRoutes name).tradeRoutes.lookup key = some route ∧
      route.level = 2 := by
  have history : ((weeks 2).processTradeRoutes name).tradeRoutes.lookup key =
      routeWeek (name key) (some 8) (routeWeek (name key) (some 4)
        (routeWeek (name key) (some 4) none)) := by
    rw [lookup_processTradeRoutes, third, carried, lookup_processTradeRoutes, second, carried,
      lookup_processTradeRoutes, first, fresh]
  rw [history]
  refine ⟨_, rfl, ?_⟩
  norm_num [routeWeek, tradeWeek, raiseRoute, routeNewLevel, ageRoute, routeEstablishThreshold,
    routeFlourish, routeLegendary]

end Registry

/-- Three weeks of trade between settlements 1 and 2: four trades, four, then
eight from the third week on. -/
def busyWeeks : ℕ → Registry
  | 0 => { Registry.fresh with tradeTracker := (∅ : GoMap SettRelKey ℚ).insert ⟨1, 2⟩ 4 }
  | 1 =>
    { Registry.fresh with
      tradeTracker := (∅ : GoMap SettRelKey ℚ).insert ⟨1, 2⟩ 4
      tradeRoutes := ((busyWeeks 0).processTradeRoutes fun _ => "Oakford–Millhaven Road").tradeRoutes }
  | n + 2 =>
    { Registry.fresh with
      tradeTracker := (∅ : GoMap SettRelKey ℚ).insert ⟨1, 2⟩ 8
      tradeRoutes :=
        ((busyWeeks (n + 1)).processTradeRoutes fun _ => "Oakford–Millhaven Road").tradeRoutes }

theorem busyWeeks_flourish :
    ∃ route, (((busyWeeks 2).processTradeRoutes fun _ => "Oakford–Millhaven Road").tradeRoutes.lookup
      ⟨1, 2⟩ = some route ∧ route.level = 2) :=
  Registry.route_flourishes_after_one_busy_week _ busyWeeks ⟨1, 2⟩ rfl
    (fun | 0 => rfl | _ + 1 => rfl) rfl rfl rfl

/-! ## Agreements -/

/-- `agreementFormThreshold`.  The Go array has four entries; a type beyond
`AgreementAlliance` never arises (`weighAgreement_type_le`). -/
def agreementFormThreshold : ℕ → ℚ
  | 1 => psyche
  | 2 => matter
  | 3 => psyche + matter
  | _ => 0

def agreementFormWeeks : ℕ → ℤ
  | 1 => 2
  | 2 => 3
  | 3 => 4
  | _ => 0

def agreementDissolveThreshold : ℕ → ℚ
  | 1 => agnosis
  | 2 => psyche
  | 3 => matter
  | _ => 0

/-- The upgrade scan `for t := AgreementAlliance; t >= AgreementTradePact; t--`
over the types still to try: the first whose formation thresholds the week
meets ends the scan, and the agreement takes it if it is higher. -/
def upgradeScan (tick : ℕ) (sentiment : ℚ) (agreement : Agreement) : List ℕ → Agreement
  | [] => agreement
  | t :: rest =>
    if agreementFormThreshold t ≤ sentiment ∧ agreementFormWeeks t ≤ agreement.sustainedWeeks then
      if agreement.type < t then { agreement with type := t, formedAtTick := tick } else agreement
    else upgradeScan tick sentiment agreement rest

/-- The first loop of `processDiplomacy` at a pair with sentiment `sentiment`,
on the pair's agreement entry.  The outer test `sentiment >= phi.Psyche` sends
every week at or above `Psyche` to the formation branch. -/
def weighAgreement (tick : ℕ) (sentiment : ℚ) (entry : Option Agreement) : Option Agreement :=
  if psyche ≤ sentiment then
    match entry with
    | none => some { type := 0, sustainedWeeks := 1, formedAtTick := 0 }
    | some agreement =>
      some (upgradeScan tick sentiment
        { agreement with sustainedWeeks := agreement.sustainedWeeks + 1 } [3, 2, 1])
  else
    match entry with
    | none => none
    | some agreement =>
      if agreement.type > 0 ∧ sentiment < agreementDissolveThreshold agreement.type then
        -- one level down instead of dissolution; level 0 is deleted
        if agreement.type - 1 = 0 then none
        else some { agreement with type := agreement.type - 1, sustainedWeeks := 0 }
      else if agreement.type = 0 then
        let agreement :=
          { agreement with
            sustainedWeeks :=
              if agreement.sustainedWeeks > 0 then agreement.sustainedWeeks - 1
              else agreement.sustainedWeeks }
        if sentiment < agnosis then none else some agreement
      else some agreement

namespace Registry

/-- The body of the first loop, `for key, rel := range s.Relations`. -/
def weighRelation (tick : ℕ) (r : Registry) (key : SettRelKey) : Registry :=
  match r.relations.lookup key with
  | none => r
  | some rel =>
    { r with
      agreements :=
        putEntry key (weighAgreement tick rel.sentiment (r.agreements.lookup key)) r.agreements }

/-- The body of the second loop: an agreement whose relation is gone is deleted. -/
def pruneAgreement (r : Registry) (key : SettRelKey) : Registry :=
  match r.relations.lookup key with
  | some _ => r
  | none => { r with agreements := r.agreements.erase key }

def processDiplomacy (tick : ℕ) (r : Registry) : Registry :=
  let r := r.relations.keys.foldl (weighRelation tick) r
  r.agreements.keys.foldl pruneAgreement r

/-- A pair's relation and agreement entries. -/
def agreementView (r : Registry) (key : SettRelKey) : Option SettlementRelation × Option Agreement :=
  (r.relations.lookup key, r.agreements.lookup key)

theorem weighRelation_keyLocal (tick : ℕ) :
    KeyLocal agreementView (weighRelation tick) fun _ entries =>
      (entries.1, match entries.1 with
        | none => entries.2
        | some rel => weighAgreement tick rel.sentiment entries.2) := by
  intro r key other
  unfold weighRelation
  cases related : r.relations.lookup key with
  | none =>
    by_cases same : other = key
    · subst same
      simp [agreementView, related]
    · simp [same]
  | some rel =>
    by_cases same : other = key
    · subst same
      simp [agreementView, related]
    · simp [agreementView, same]

theorem pruneAgreement_keyLocal :
    KeyLocal agreementView pruneAgreement fun _ entries =>
      (entries.1, match entries.1 with
        | none => none
        | some _ => entries.2) := by
  intro r key other
  unfold pruneAgreement
  cases related : r.relations.lookup key with
  | none =>
    by_cases same : other = key
    · subst same
      simp [agreementView, related]
    · simp [agreementView, same, AList.lookup_erase_ne same]
  | some rel =>
    by_cases same : other = key
    · subst same
      simp [agreementView, related]
    · simp [same]

/-- What `processDiplomacy` does to one pair: one `weighAgreement` of its
sentiment, and deletion once its relation is gone. -/
theorem lookup_processDiplomacy (tick : ℕ) (r : Registry) (key : SettRelKey) :
    (r.processDiplomacy tick).agreements.lookup key =
      match r.relations.lookup key with
      | none => none
      | some rel => weighAgreement tick rel.sentiment (r.agreements.lookup key) := by
  have weighed := foldl_keyLocal_of_fixed (weighRelation_keyLocal tick) r.relations.keys
    r.relations.keys_nodup r key fun absent => by
      simp [agreementView, lookup_eq_none_of_not_mem_keys absent]
  simp only [processDiplomacy]
  set relations := r.relations.keys.foldl (weighRelation tick) r
  have pruned := foldl_keyLocal_of_fixed pruneAgreement_keyLocal relations.agreements.keys
    relations.agreements.keys_nodup relations key fun absent => by
      simp only [agreementView, lookup_eq_none_of_not_mem_keys absent]
      split <;> rfl
  simp only [agreementView, Prod.mk.injEq] at weighed pruned
  rw [pruned.2, weighed.1, weighed.2]
  cases r.relations.lookup key <;> rfl

end Registry

/-- The upgrade scan leaves the agreement as it is, or raises it to a higher
type of the scan whose formation thresholds the week meets. -/
theorem upgradeScan_cases (tick : ℕ) (sentiment : ℚ) (agreement : Agreement) (types : List ℕ) :
    upgradeScan tick sentiment agreement types = agreement ∨
      ∃ t ∈ types, agreement.type < t ∧ agreementFormThreshold t ≤ sentiment ∧
        agreementFormWeeks t ≤ agreement.sustainedWeeks ∧
        upgradeScan tick sentiment agreement types = { agreement with type := t, formedAtTick := tick } := by
  induction types with
  | nil => exact .inl rfl
  | cons t rest ih =>
    unfold upgradeScan
    split_ifs with meets higher
    · exact .inr ⟨t, List.mem_cons_self, higher, meets.1, meets.2, rfl⟩
    · exact .inl rfl
    · rcases ih with same | ⟨u, member, higher, form, sustained, result⟩
      · exact .inl same
      · exact .inr ⟨u, List.mem_cons_of_mem t member, higher, form, sustained, result⟩

namespace Registry

/-- An Alliance is not downgraded in any week with sentiment at least `Psyche`,
so not in the weeks of `[Psyche, Matter)`, below its dissolution threshold: the
outer `sentiment >= phi.Psyche` test sends such a week to the formation branch,
which never lowers a type. -/
theorem alliance_survives_below_matter (tick : ℕ) (r : Registry) (key : SettRelKey)
    (rel : SettlementRelation) (alliance : Agreement) (related : r.relations.lookup key = some rel)
    (allied : r.agreements.lookup key = some alliance) (type : alliance.type = 3)
    (warm : psyche ≤ rel.sentiment) :
    ∃ kept, (r.processDiplomacy tick).agreements.lookup key = some kept ∧ kept.type = 3 := by
  rw [lookup_processDiplomacy, related]
  simp only [weighAgreement, if_pos warm, allied]
  rcases upgradeScan_cases tick rel.sentiment
      { alliance with sustainedWeeks := alliance.sustainedWeeks + 1 } [3, 2, 1] with
    same | ⟨t, member, higher, -⟩
  · exact ⟨_, rfl, by rw [same]; exact type⟩
  · simp only [List.mem_cons, List.not_mem_nil, or_false] at member
    simp only [type] at higher
    omega

end Registry

/-- Settlements 1 and 2 allied, at sentiment one half. -/
def coolingAlliance : Registry :=
  { Registry.fresh with
    relations := (∅ : GoMap SettRelKey SettlementRelation).insert ⟨1, 2⟩ ⟨1 / 2, 0⟩
    agreements := (∅ : GoMap SettRelKey Agreement).insert ⟨1, 2⟩ ⟨3, 5, 0⟩ }

theorem coolingAlliance_stays :
    (1 / 2 : ℚ) < agreementDissolveThreshold 3 ∧
      ∃ kept, (coolingAlliance.processDiplomacy 1).agreements.lookup ⟨1, 2⟩ = some kept ∧
        kept.type = 3 :=
  ⟨by norm_num [agreementDissolveThreshold, matter],
    Registry.alliance_survives_below_matter 1 coolingAlliance ⟨1, 2⟩ ⟨1 / 2, 0⟩ ⟨3, 5, 0⟩ rfl rfl rfl
      (by norm_num [psyche])⟩

/-! ## Peace -/

def peaceDurationWeeks : ℤ := 8

def peaceRaidThreshold : ℤ := 3

/-- The first loop of `processPeace` at a pair, on its raid counter and treaty
entries: three raids or more and no treaty make an eight-week treaty and
restart the counter. -/
def formTreaty (tick : ℕ) : Option ℤ × Option PeaceTreaty → Option ℤ × Option PeaceTreaty
  | (some count, none) =>
    if peaceRaidThreshold ≤ count then
      (some 0, some { remainingWeeks := peaceDurationWeeks, raidCount := count, formedAtTick := tick })
    else (some count, none)
  | entries => entries

/-- Sentiment recovery under a treaty: `+Agnosis × 0.1`, capped at neutral. -/
def recoverSentiment (rel : SettlementRelation) : SettlementRelation :=
  let sentiment := rel.sentiment + agnosis * 0.1
  { rel with sentiment := if sentiment > 0 then 0 else sentiment }

/-- The second loop of `processPeace` at a pair, on its treaty and relation
entries: `RemainingWeeks--`, the relation recovers, and the treaty is deleted
at zero. -/
def tickTreaty : Option PeaceTreaty × Option SettlementRelation →
    Option PeaceTreaty × Option SettlementRelation
  | (some treaty, relation) =>
    let treaty := { treaty with remainingWeeks := treaty.remainingWeeks - 1 }
    (if treaty.remainingWeeks ≤ 0 then none else some treaty, relation.map recoverSentiment)
  | (none, relation) => (none, relation)

namespace Registry

/-- The body of the first loop, `for key, count := range s.RaidCounts`. -/
def formPeace (tick : ℕ) (r : Registry) (key : SettRelKey) : Registry :=
  let entries := formTreaty tick (r.raidCounts.lookup key, r.peaceTreaties.lookup key)
  { r with
    raidCounts := putEntry key entries.1 r.raidCounts
    peaceTreaties := putEntry key entries.2 r.peaceTreaties }

/-- The body of the second loop, `for key, treaty := range s.PeaceTreaties`. -/
def tickPeace (r : Registry) (key : SettRelKey) : Registry :=
  let entries := tickTreaty (r.peaceTreaties.lookup key, r.relations.lookup key)
  { r with
    peaceTreaties := putEntry key entries.1 r.peaceTreaties
    relations := putEntry key entries.2 r.relations }

def processPeace (tick : ℕ) (r : Registry) : Registry :=
  let r := r.raidCounts.keys.foldl (formPeace tick) r
  r.peaceTreaties.keys.foldl tickPeace r

/-- `HasPeace`: the pair has a treaty. -/
def hasPeace (r : Registry) (a b : ℕ) : Bool :=
  (r.peaceTreaties.lookup (settRelKey a b)).isSome

/-- A pair's raid counter and treaty entries. -/
def formView (r : Registry) (key : SettRelKey) : Option ℤ × Option PeaceTreaty :=
  (r.raidCounts.lookup key, r.peaceTreaties.lookup key)

/-- A pair's treaty and relation entries. -/
def tickView (r : Registry) (key : SettRelKey) :
    Option PeaceTreaty × Option SettlementRelation :=
  (r.peaceTreaties.lookup key, r.relations.lookup key)

theorem formPeace_keyLocal (tick : ℕ) : KeyLocal formView (formPeace tick) fun _ => formTreaty tick := by
  intro r key other
  by_cases same : other = key
  · subst same
    simp [formView, formPeace]
  · simp [formView, formPeace, same]

theorem tickPeace_keyLocal : KeyLocal tickView tickPeace fun _ => tickTreaty := by
  intro r key other
  by_cases same : other = key
  · subst same
    simp [tickView, tickPeace]
  · simp [tickView, tickPeace, same]

theorem formPeace_relations (tick : ℕ) (r : Registry) (key : SettRelKey) :
    (r.formPeace tick key).relations = r.relations := rfl

/-- What `processPeace` does to one pair's treaty: formation, then one week. -/
theorem lookup_processPeace (tick : ℕ) (r : Registry) (key : SettRelKey) :
    ((r.processPeace tick).peaceTreaties.lookup key, (r.processPeace tick).relations.lookup key) =
      tickTreaty ((formTreaty tick (r.raidCounts.lookup key, r.peaceTreaties.lookup key)).2,
        r.relations.lookup key) := by
  have formed := foldl_keyLocal_of_fixed (formPeace_keyLocal tick) r.raidCounts.keys
    r.raidCounts.keys_nodup r key fun absent => by
      simp [formView, lookup_eq_none_of_not_mem_keys absent, formTreaty]
  simp only [processPeace]
  set exhausted := r.raidCounts.keys.foldl (formPeace tick) r
  have ticked := foldl_keyLocal_of_fixed tickPeace_keyLocal exhausted.peaceTreaties.keys
    exhausted.peaceTreaties.keys_nodup exhausted key fun absent => by
      simp [tickView, lookup_eq_none_of_not_mem_keys absent, tickTreaty]
  have kept : exhausted.relations = r.relations :=
    foldl_invariant (fun state => state.relations = r.relations) (formPeace tick) _ r
      (fun key _ state same => (formPeace_relations tick state key).trans same) rfl
  simp only [formView] at formed
  simp only [tickView] at ticked
  rw [ticked, ← formed, kept]

/-- A pair under a treaty keeps it one week shorter, until it runs out. -/
theorem processPeace_held (tick : ℕ) (r : Registry) (key : SettRelKey) (treaty : PeaceTreaty)
    (held : r.peaceTreaties.lookup key = some treaty) :
    (r.processPeace tick).peaceTreaties.lookup key =
      if treaty.remainingWeeks - 1 ≤ 0 then none
      else some { treaty with remainingWeeks := treaty.remainingWeeks - 1 } := by
  have week := congrArg Prod.fst (lookup_processPeace tick r key)
  rw [held] at week
  cases counted : r.raidCounts.lookup key <;> simpa [formTreaty, tickTreaty, counted] using week

/-- War exhaustion at a pair without a treaty makes one, and the same call
already counts its first week off. -/
theorem processPeace_exhausted (tick : ℕ) (r : Registry) (key : SettRelKey) (count : ℤ)
    (raided : r.raidCounts.lookup key = some count) (exhausted : peaceRaidThreshold ≤ count)
    (unpeaced : r.peaceTreaties.lookup key = none) :
    (r.processPeace tick).peaceTreaties.lookup key =
      some { remainingWeeks := peaceDurationWeeks - 1, raidCount := count, formedAtTick := tick } := by
  have week := congrArg Prod.fst (lookup_processPeace tick r key)
  simpa [raided, unpeaced, formTreaty, exhausted, tickTreaty, peaceDurationWeeks] using week

section Truce

/-! A treaty followed week by week.  `weeks i` is the registry at the
`processPeace` call of the `i`-th week after the treaty's formation; between two
calls the rest of the simulation keeps the pair's treaty (`kept`): the oracle's
`invoke_peace` writes only a pair without one, and persistence restores it as
saved. -/

variable (ticks : ℕ → ℕ) (weeks : ℕ → Registry) (key : SettRelKey)
  (kept : ∀ i treaty, ((weeks i).processPeace (ticks i)).peaceTreaties.lookup key = some treaty →
    (weeks (i + 1)).peaceTreaties.lookup key = some treaty)
  (count : ℤ) (raided : (weeks 0).raidCounts.lookup key = some count)
  (exhausted : peaceRaidThreshold ≤ count) (unpeaced : (weeks 0).peaceTreaties.lookup key = none)

include kept raided exhausted unpeaced in
/-- After the call of week `i`, up to the sixth, the treaty has `7 - i` weeks left. -/
theorem treaty_counts_down :
    ∀ i ≤ 6, ∃ treaty, ((weeks i).processPeace (ticks i)).peaceTreaties.lookup key = some treaty ∧
      treaty.remainingWeeks = 7 - i
  | 0, _ => ⟨_, processPeace_exhausted _ _ _ count raided exhausted unpeaced, by
      simp [peaceDurationWeeks]⟩
  | i + 1, within => by
    obtain ⟨treaty, held, remaining⟩ := treaty_counts_down i (by omega)
    rw [processPeace_held _ _ _ treaty (kept i treaty held), if_neg (by omega)]
    exact ⟨_, rfl, by simp only [remaining]; omega⟩

include kept raided exhausted unpeaced in
/-- The treaty bars raids at the warfare of seven weeks only: the call of the
week it is formed in already counts a week off, and the call of the seventh
week after deletes it before `processWarfare` runs. -/
theorem peace_treaty_protects_seven_weeks (a b : ℕ) (paired : key = settRelKey a b) :
    (∀ i < 7, ((weeks i).processPeace (ticks i)).hasPeace a b = true) ∧
      ((weeks 7).processPeace (ticks 7)).hasPeace a b = false := by
  subst paired
  have countdown := treaty_counts_down ticks weeks _ kept count raided exhausted unpeaced
  constructor
  · intro i before
    obtain ⟨treaty, held, -⟩ := countdown i (by omega)
    simp [hasPeace, held]
  · obtain ⟨treaty, held, remaining⟩ := countdown 6 le_rfl
    have lapsed := processPeace_held (ticks 7) (weeks 7) _ treaty (kept 6 treaty held)
    rw [if_pos (by omega)] at lapsed
    simp [hasPeace, lapsed]

end Truce

end Registry

/-- Settlements 1 and 2 after three raids, left to the weekly peace pass alone. -/
def warWearyWeeks : ℕ → Registry
  | 0 => { Registry.fresh with raidCounts := (∅ : GoMap SettRelKey ℤ).insert ⟨1, 2⟩ 3 }
  | n + 1 => (warWearyWeeks n).processPeace n

theorem warWeary_truce_lapses :
    (∀ i < 7, ((warWearyWeeks i).processPeace i).hasPeace 1 2 = true) ∧
      ((warWearyWeeks 7).processPeace 7).hasPeace 1 2 = false :=
  Registry.peace_treaty_protects_seven_weeks id warWearyWeeks ⟨1, 2⟩ (fun _ _ held => held) 3 rfl
    le_rfl rfl 1 2 rfl

end MiniWorld.Engine
