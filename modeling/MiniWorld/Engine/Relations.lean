import MiniWorld.Engine.Warfare
import MiniWorld.Engine.Migration
import MiniWorld.Persistence.WorldMeta

/-! # Settlement relations (`internal/engine/relations.go`, `diplomacy.go` `GetDiplomacyTradeBonus`,
`cognition.go` `invoke_peace`)

`computeSettlementRelations` is the weekly pass that makes the sentiments the
rest of diplomacy reads.  Every populated settlement of `Settlements` walks the
cached `SettlementNeighbors` of its ID; each populated pair is weighed once
(the `seen` set), from the dominance of its factions, its trade of the week,
the likeness of its cultures and its distance: the old sentiment keeps
`1 - Agnosis` of itself, takes the week's delta, and is clamped to `[-1, 1]`.
Then the trade tracker is emptied and the relations that are not `live`, of
sentiment below `0.001` in size and no trade, are deleted.
`computeSettlementRelations_weighs_pairs_once` is the pass pair by pair: a pair
of populated neighbours has the relation of one weighing from the state before
the pass, whichever of its two orders the loops meet first and however often;
any other pair keeps its relation; then the dead are deleted.

Five steps write `Relations`: this pass, `processPeace` (recovery under a
treaty), `processWarfare` (a raid's blow), an oracle's `invoke_peace` and the
restart, which loads the relations of the last save that wrote any.  Each keeps
`RelationsSound`: every key is in the normal form `settRelKey` gives, every
sentiment lies in `[-1, 1]`.  Over any run of these steps, the other weekly
passes and the saves (`RelationStep`), relations stay sound in the state and in
the saved row (`relations_stay_sound`); so the normal form that the raid
counter theorem of `Warfare.lean` assumes always holds, and
`GetSettlementRelations`, which files each pair under its other settlement,
reads every pair's relation whatever Go's map order (`settlementRelations_reads_pair`).

`math.Log2` is the parameter `log2`, and the cached neighbour index the
parameter `neighbors`.
-/

namespace MiniWorld.Engine

open MiniWorld.Phi MiniWorld.Run

def factionRivalryMultiplier (factionA factionB : ℤ) : ℚ :=
  -- the swap `if a > b { a, b = b, a }` orders the pair
  let a := min factionA factionB
  let b := max factionA factionB
  if a = 1 ∧ b = 5 then being
  else if a = 3 ∧ b = 4 then being
  else if a = 2 ∧ b = 5 then being
  else 1

/-- An entry of `factionData`: the settlement's dominant faction (`-1` for
none) and its share of the settlement's influence. -/
structure FactionInfo where
  dominantFaction : ℤ
  factionStrength : ℚ

/-- The faction score of a pair: shared dominance binds, rival dominance
repels. -/
def factionScore (fA fB : FactionInfo) : ℚ :=
  if fA.dominantFaction ≥ 0 ∧ fB.dominantFaction ≥ 0 then
    if fA.dominantFaction = fB.dominantFaction then fA.factionStrength * fB.factionStrength * being
    else
      let rivalryMul := factionRivalryMultiplier fA.dominantFaction fB.dominantFaction
      (-fA.factionStrength) * fB.factionStrength * matter * rivalryMul
  else 0

/-- The culture score of a pair: `Agnosis` times one less the mean difference
of the three culture axes. -/
def cultureScore (settA settB : Settlement) : ℚ :=
  let tradDiff := |settA.cultureTradition - settB.cultureTradition|
  let openDiff := |settA.cultureOpenness - settB.cultureOpenness|
  let milDiff := |settA.cultureMilitarism - settB.cultureMilitarism|
  let avgDiff := (tradDiff + openDiff + milDiff) / 3
  (1 - avgDiff) * agnosis

/-- A relation the clean-up of `computeSettlementRelations` keeps: its
sentiment at least `0.001` in size, or some trade. -/
def SettlementRelation.live (rel : SettlementRelation) : Bool :=
  !decide (|rel.sentiment| < 0.001 ∧ rel.trade = 0)

/-- A sentiment clamped to `[-1, 1]`. -/
def clampSentiment (sentiment : ℚ) : ℚ :=
  let sentiment := if sentiment > 1 then 1 else sentiment
  if sentiment < -1 then -1 else sentiment

namespace Registry

/-- `GetDiplomacyTradeBonus`. -/
def diplomacyTradeBonus (r : Registry) (a b : ℕ) : ℚ :=
  (r.getAgreement a b).elim 1 fun agreement => 1 + psyche * agreement.type * 0.5

/-- The trade score of a pair: the logarithm of its trades of the week,
scaled by its agreement and capped at `Psyche`. -/
def tradeScore (log2 : ℚ → ℚ) (r : Registry) (a b : ℕ) : ℚ :=
  (r.tradeTracker.lookup (settRelKey a b)).elim 0 fun tradeVol =>
    if tradeVol > 0 then
      let tradeScore := log2 (1 + tradeVol) * agnosis * 0.1 * r.diplomacyTradeBonus a b
      if tradeScore > psyche then psyche else tradeScore
    else 0

/-- The week's weighing of the pair of `settA` and `settB`, with `data` the
faction entries: decay, the delta, the week's trade, and the clamp. -/
def weighPair (log2 : ℚ → ℚ) (data : ℕ → FactionInfo) (settA settB : Settlement) (r : Registry) :
    Registry :=
  let key := settRelKey settA.id settB.id
  let dist := distance settA.position settB.position
  let distMod := 1 / (1 + dist * agnosis * 0.5)
  let delta := (factionScore (data settA.id) (data settB.id) + r.tradeScore log2 settA.id settB.id +
    cultureScore settA settB) * distMod * psyche
  let rel := (r.relations.lookup key).getD ⟨0, 0⟩
  let sentiment := rel.sentiment * (1 - agnosis) + delta
  let trade := (r.tradeTracker.lookup key).getD rel.trade
  { r with relations := r.relations.insert key ⟨clampSentiment sentiment, trade⟩ }

/-- The body of the clean-up loop at a pair: a relation that is not `live` is
deleted. -/
def pruneRelation (r : Registry) (key : SettRelKey) : Registry :=
  { r with relations := putEntry key ((r.relations.lookup key).filter SettlementRelation.live) r.relations }

/-- The registry side of an oracle's `invoke_peace` between `home` and
`target`: a pair with no treaty and a hostile relation gets a four-week treaty,
and its sentiment `Agnosis` more, capped at `0`. -/
def invokePeace (tick home target : ℕ) (r : Registry) : Registry :=
  let key := settRelKey home target
  if r.hasPeace home target then r
  else
    (r.relations.lookup key).elim r fun rel =>
      if rel.sentiment < 0 then
        let sentiment := rel.sentiment + agnosis
        { r with
          peaceTreaties := r.peaceTreaties.insert key ⟨4, 0, tick⟩
          relations := r.relations.insert key { rel with sentiment := if sentiment > 0 then 0 else sentiment } }
      else r

/-- The body of `GetSettlementRelations` at a pair of `Relations`: a pair of
`settID` is filed under its other settlement. -/
def collectRelation (r : Registry) (settID : ℕ) (result : GoMap ℕ SettlementRelation) (key : SettRelKey) :
    GoMap ℕ SettlementRelation :=
  (r.relations.lookup key).elim result fun rel =>
    if key.a = settID then result.insert key.b rel
    else if key.b = settID then result.insert key.a rel
    else result

/-- `GetSettlementRelations`, over the pairs of `Relations` in the order `order`. -/
def settlementRelations (r : Registry) (order : List SettRelKey) (settID : ℕ) : GoMap ℕ SettlementRelation :=
  order.foldl (r.collectRelation settID) ∅

end Registry

namespace Simulation

/-- The faction scan of one settlement: the faction of strictly greatest
influence from `-1` and `0`, and the total influence. -/
def factionScan (s : Simulation) (settID : ℕ) : ℤ × ℚ × ℚ :=
  s.factions.foldl (fun (best : ℤ × ℚ × ℚ) f =>
    let inf := ((s.factionAt f).influence.lookup settID).getD 0
    let total := best.2.2 + inf
    if inf > best.2.1 then (((s.factionAt f).id : ℤ), inf, total) else (best.1, best.2.1, total)) (-1, 0, 0)

/-- The entry of one settlement in `factionData`. -/
def factionInfo (s : Simulation) (settID : ℕ) : FactionInfo :=
  let scan := s.factionScan settID
  ⟨scan.1, if scan.2.2 > 0 then scan.2.1 / scan.2.2 else 0⟩

/-- `factionData`: the entry of every populated settlement of `Settlements`, a
later one of the same ID overwriting; an ID without one reads as Go's zero
value. -/
def factionData (s : Simulation) : ℕ → FactionInfo :=
  s.settlements.foldl (fun data q =>
    if (s.settlementAt q).population = 0 then data
    else Function.update data (s.settlementAt q).id (s.factionInfo (s.settlementAt q).id)) fun _ => ⟨0, 0⟩

/-- The body of the inner loop of `computeSettlementRelations` for `settA`, at
the neighbour `qb`: a populated pair is weighed the first time it is seen. -/
def weighNeighbor (log2 : ℚ → ℚ) (data : ℕ → FactionInfo) (s : Simulation) (settA : Settlement)
    (acc : Registry × List SettRelKey) (qb : SettRef) : Registry × List SettRelKey :=
  let settB := s.settlementAt qb
  if settB.population = 0 then acc
  else
    let key := settRelKey settA.id settB.id
    if key ∈ acc.2 then acc
    else (acc.1.weighPair log2 data settA settB, key :: acc.2)

/-- The body of the outer loop at `qa`: a populated settlement walks its cached
neighbours. -/
def weighSettlement (log2 : ℚ → ℚ) (neighbors : ℕ → Option (List SettRef)) (data : ℕ → FactionInfo)
    (s : Simulation) (acc : Registry × List SettRelKey) (qa : SettRef) : Registry × List SettRelKey :=
  let settA := s.settlementAt qa
  if settA.population = 0 then acc
  else ((neighbors settA.id).getD []).foldl (s.weighNeighbor log2 data settA) acc

/-- The pair loops of `computeSettlementRelations`, from the registry `r` and
no pair seen. -/
def weighRelations (log2 : ℚ → ℚ) (neighbors : ℕ → Option (List SettRef)) (s : Simulation)
    (r : Registry) : Registry × List SettRelKey :=
  s.settlements.foldl (s.weighSettlement log2 neighbors s.factionData) (r, [])

/-- `computeSettlementRelations`, with the cached neighbour index `neighbors`. -/
def computeSettlementRelations (log2 : ℚ → ℚ) (neighbors : ℕ → Option (List SettRef))
    (s : Simulation) : Simulation :=
  let r := (s.weighRelations log2 neighbors s.registry).1
  let r := { r with tradeTracker := ∅ }
  { s with registry := r.relations.keys.foldl Registry.pruneRelation r }

/-- An oracle's `invoke_peace` vision: the oracle's home and the first
settlement of `Settlements` bearing the target's name. -/
def invokePeaceVision (s : Simulation) (oracle : AgentRef) (target : String) (tick : ℕ) : Simulation :=
  (s.agentAt oracle).homeSettID.elim s fun home =>
    (s.findSettlementByName target).elim s fun q =>
      { s with registry := s.registry.invokePeace tick home (s.settlementAt q).id }

end Simulation

/-! ## Sound relations -/

/-- A sentiment within `[-1, 1]`. -/
def SettlementRelation.Bounded (rel : SettlementRelation) : Prop :=
  -1 ≤ rel.sentiment ∧ rel.sentiment ≤ 1

/-- `Relations` as its writers keep it: every key in the normal form of
`settRelKey`, every sentiment bounded. -/
def RelationsSound (relations : GoMap SettRelKey SettlementRelation) : Prop :=
  ∀ key rel, relations.lookup key = some rel → settRelKey key.a key.b = key ∧ rel.Bounded

theorem settRelKey_normal (a b : ℕ) :
    settRelKey (settRelKey a b).a (settRelKey a b).b = settRelKey a b := by
  by_cases swap : a > b
  · have kept : ¬ b > a := by omega
    simp [settRelKey, swap, kept]
  · simp [settRelKey, swap]

/-- A key in normal form is the key of a pair exactly when it holds the pair,
in either order. -/
theorem eq_settRelKey_iff {key : SettRelKey} (normal : settRelKey key.a key.b = key) (x y : ℕ) :
    key = settRelKey x y ↔ key.a = x ∧ key.b = y ∨ key.a = y ∧ key.b = x := by
  constructor
  · rintro rfl
    by_cases swap : x > y <;> simp [settRelKey, swap]
  · rintro (⟨first, second⟩ | ⟨first, second⟩)
    · rw [← normal, first, second]
    · rw [← normal, first, second, settRelKey_comm]

theorem clampSentiment_bounded (sentiment trade : ℚ) :
    (⟨clampSentiment sentiment, trade⟩ : SettlementRelation).Bounded := by
  simp only [SettlementRelation.Bounded, clampSentiment]
  split_ifs <;> constructor <;> linarith

theorem SettlementRelation.Bounded.recoverSentiment {rel : SettlementRelation} (bounded : rel.Bounded) :
    (MiniWorld.Engine.recoverSentiment rel).Bounded := by
  obtain ⟨lower, upper⟩ := bounded
  have rise := agnosis_pos
  simp only [SettlementRelation.Bounded, MiniWorld.Engine.recoverSentiment]
  split_ifs <;> constructor <;> linarith

theorem SettlementRelation.Bounded.raidSentiment {rel : SettlementRelation} (bounded : rel.Bounded) :
    (MiniWorld.Engine.raidSentiment rel).Bounded := by
  obtain ⟨lower, upper⟩ := bounded
  have blow := psyche_pos
  simp only [SettlementRelation.Bounded, MiniWorld.Engine.raidSentiment]
  split_ifs <;> constructor <;> linarith

namespace RelationsSound

variable {relations : GoMap SettRelKey SettlementRelation}

theorem empty : RelationsSound ∅ := fun _ _ found => by simp at found

theorem insert (sound : RelationsSound relations) {key : SettRelKey} {rel : SettlementRelation}
    (normal : settRelKey key.a key.b = key) (bounded : rel.Bounded) :
    RelationsSound (relations.insert key rel) := by
  intro k found stored
  by_cases here : k = key
  · subst here
    rw [AList.lookup_insert, Option.some.injEq] at stored
    exact stored ▸ ⟨normal, bounded⟩
  · rw [AList.lookup_insert_ne here] at stored
    exact sound k found stored

/-- The write-back of a pair's entry keeps the relations sound when the entry written is fit. -/
theorem put (sound : RelationsSound relations) {key : SettRelKey} {entry : Option SettlementRelation}
    (fit : ∀ rel, entry = some rel → settRelKey key.a key.b = key ∧ rel.Bounded) :
    RelationsSound (putEntry key entry relations) := by
  intro k found stored
  rw [lookup_putEntry] at stored
  split_ifs at stored with here
  · subst here
    exact fit found stored
  · exact sound k found stored

/-- A pair's own relation written back, changed by a map that keeps sentiments bounded. -/
theorem put_map (sound : RelationsSound relations) (key : SettRelKey)
    {change : SettlementRelation → SettlementRelation} (keeps : ∀ rel, rel.Bounded → (change rel).Bounded) :
    RelationsSound (putEntry key ((relations.lookup key).map change) relations) := by
  refine sound.put fun rel changed => ?_
  obtain ⟨old, found, rfl⟩ := Option.map_eq_some_iff.mp changed
  obtain ⟨normal, bounded⟩ := sound key old found
  exact ⟨normal, keeps old bounded⟩

theorem put_filter (sound : RelationsSound relations) (key : SettRelKey) (p : SettlementRelation → Bool) :
    RelationsSound (putEntry key ((relations.lookup key).filter p) relations) :=
  sound.put fun rel kept => sound key rel (Option.filter_eq_some_iff.mp kept).1

end RelationsSound

/-! ## The weekly weighing -/

namespace Registry

variable (log2 : ℚ → ℚ) (data : ℕ → FactionInfo) (settA settB : Settlement)

theorem relationsSound_weighPair {r : Registry} (sound : RelationsSound r.relations) :
    RelationsSound (r.weighPair log2 data settA settB).relations :=
  sound.insert (settRelKey_normal _ _) (clampSentiment_bounded _ _)

theorem weighPair_lookup_of_ne (r : Registry) {key : SettRelKey} (other : key ≠ settRelKey settA.id settB.id) :
    (r.weighPair log2 data settA settB).relations.lookup key = r.relations.lookup key :=
  AList.lookup_insert_ne other

/-- The weighing of a pair reads, of the registry, the pair's relation, the
tracker and the agreements. -/
theorem weighPair_congr {r r' : Registry}
    (relation : r.relations.lookup (settRelKey settA.id settB.id) =
      r'.relations.lookup (settRelKey settA.id settB.id))
    (tracker : r.tradeTracker = r'.tradeTracker) (agreements : r.agreements = r'.agreements) :
    (r.weighPair log2 data settA settB).relations.lookup (settRelKey settA.id settB.id) =
      (r'.weighPair log2 data settA settB).relations.lookup (settRelKey settA.id settB.id) := by
  simp only [weighPair, AList.lookup_insert, tradeScore, diplomacyTradeBonus, getAgreement, relation, tracker,
    agreements]
  rfl

theorem relationsSound_pruneRelation {r : Registry} (sound : RelationsSound r.relations) (key : SettRelKey) :
    RelationsSound (r.pruneRelation key).relations :=
  sound.put_filter key _

/-- The clean-up at a pair rewrites that pair's relation only. -/
theorem pruneRelation_keyLocal :
    KeyLocal (fun (r : Registry) key => r.relations.lookup key) pruneRelation
      fun _ rel => rel.filter SettlementRelation.live := by
  intro r key other
  simp [pruneRelation]

end Registry

namespace Simulation

variable (log2 : ℚ → ℚ) (neighbors : ℕ → Option (List SettRef)) (s : Simulation)

/-- `qa` and `qb` make the pair `key` that the weighing loops reach: `qa` a
populated settlement of `Settlements`, `qb` a populated cached neighbour of it. -/
def NeighborPair (key : SettRelKey) (qa qb : SettRef) : Prop :=
  qa ∈ s.settlements ∧ qb ∈ (neighbors (s.settlementAt qa).id).getD [] ∧
    (s.settlementAt qa).population ≠ 0 ∧ (s.settlementAt qb).population ≠ 0 ∧
    key = settRelKey (s.settlementAt qa).id (s.settlementAt qb).id

/-- What the pair loops keep, from the registry `r` they start with: the
tracker and the agreements they read are `r`'s, a pair not yet seen has its
relation of `r`, and a seen pair the relation of one weighing from `r`, of a
pair of neighbours that makes it. -/
structure WeighedOnce (r : Registry) (acc : Registry × List SettRelKey) : Prop where
  tradeTracker : acc.1.tradeTracker = r.tradeTracker
  agreements : acc.1.agreements = r.agreements
  unseen : ∀ key ∉ acc.2, acc.1.relations.lookup key = r.relations.lookup key
  seen : ∀ key ∈ acc.2, ∃ qa qb, s.NeighborPair neighbors key qa qb ∧
    acc.1.relations.lookup key =
      (r.weighPair log2 s.factionData (s.settlementAt qa) (s.settlementAt qb)).relations.lookup key

variable {log2 neighbors s}

theorem WeighedOnce.start (r : Registry) : s.WeighedOnce log2 neighbors r (r, []) :=
  ⟨rfl, rfl, fun _ _ => rfl, fun _ member => absurd member List.not_mem_nil⟩

/-- The inner body keeps `WeighedOnce`: a pair is weighed only while unseen, so
from the relation it had at the start. -/
theorem WeighedOnce.weighNeighbor {r : Registry} {acc : Registry × List SettRelKey} {qa qb : SettRef}
    (once : s.WeighedOnce log2 neighbors r acc) (listed : qa ∈ s.settlements)
    (neighbor : qb ∈ (neighbors (s.settlementAt qa).id).getD [])
    (populated : (s.settlementAt qa).population ≠ 0) :
    s.WeighedOnce log2 neighbors r (s.weighNeighbor log2 s.factionData (s.settlementAt qa) acc qb) := by
  simp only [Simulation.weighNeighbor]
  split_ifs with empty fresh
  · exact once
  · exact once
  · refine ⟨once.tradeTracker, once.agreements, fun key absent => ?_, fun key member => ?_⟩
    · rw [List.mem_cons, not_or] at absent
      rw [Registry.weighPair_lookup_of_ne _ _ _ _ _ absent.1]
      exact once.unseen key absent.2
    · by_cases here : key = settRelKey (s.settlementAt qa).id (s.settlementAt qb).id
      · subst here
        exact ⟨qa, qb, ⟨listed, neighbor, populated, empty, rfl⟩,
          Registry.weighPair_congr _ _ _ _ (once.unseen _ fresh) once.tradeTracker once.agreements⟩
      · rw [Registry.weighPair_lookup_of_ne _ _ _ _ _ here]
        exact once.seen key ((List.mem_cons.mp member).resolve_left here)

theorem WeighedOnce.weighSettlement {r : Registry} {acc : Registry × List SettRelKey} {qa : SettRef}
    (once : s.WeighedOnce log2 neighbors r acc) (listed : qa ∈ s.settlements) :
    s.WeighedOnce log2 neighbors r (s.weighSettlement log2 neighbors s.factionData acc qa) := by
  simp only [Simulation.weighSettlement]
  split_ifs with empty
  · exact once
  · exact foldl_invariant _ _ _ acc (fun _ neighbor _ held => held.weighNeighbor listed neighbor empty) once

theorem weighedOnce_weighRelations (r : Registry) :
    s.WeighedOnce log2 neighbors r (s.weighRelations log2 neighbors r) :=
  foldl_invariant _ _ _ _ (fun _ listed _ held => held.weighSettlement listed) (WeighedOnce.start r)

theorem mem_weighNeighbor (data : ℕ → FactionInfo) (settA : Settlement) (acc : Registry × List SettRelKey)
    (qb : SettRef) (key : SettRelKey) :
    key ∈ (s.weighNeighbor log2 data settA acc qb).2 ↔
      key ∈ acc.2 ∨ (s.settlementAt qb).population ≠ 0 ∧ key = settRelKey settA.id (s.settlementAt qb).id := by
  simp only [weighNeighbor]
  split_ifs with empty seen
  · simp [empty]
  · -- the pair was seen before
    constructor
    · exact .inl
    · rintro (member | ⟨-, rfl⟩)
      exacts [member, seen]
  · simp [empty, or_comm]

theorem mem_foldl_weighNeighbor (data : ℕ → FactionInfo) (settA : Settlement) (key : SettRelKey) :
    ∀ (nbs : List SettRef) (acc : Registry × List SettRelKey),
      key ∈ (nbs.foldl (s.weighNeighbor log2 data settA) acc).2 ↔
        key ∈ acc.2 ∨ ∃ qb ∈ nbs, (s.settlementAt qb).population ≠ 0 ∧
          key = settRelKey settA.id (s.settlementAt qb).id
  | [], acc => by simp
  | qb :: rest, acc => by
    rw [List.foldl_cons, mem_foldl_weighNeighbor data settA key rest, mem_weighNeighbor]
    simp only [List.mem_cons, exists_eq_or_imp]
    exact or_assoc

theorem mem_foldl_weighSettlement (data : ℕ → FactionInfo) (key : SettRelKey) :
    ∀ (qas : List SettRef) (acc : Registry × List SettRelKey),
      key ∈ (qas.foldl (s.weighSettlement log2 neighbors data) acc).2 ↔
        key ∈ acc.2 ∨ ∃ qa ∈ qas, (s.settlementAt qa).population ≠ 0 ∧
          ∃ qb ∈ (neighbors (s.settlementAt qa).id).getD [], (s.settlementAt qb).population ≠ 0 ∧
            key = settRelKey (s.settlementAt qa).id (s.settlementAt qb).id
  | [], acc => by simp
  | qa :: rest, acc => by
    rw [List.foldl_cons, mem_foldl_weighSettlement data key rest]
    simp only [List.mem_cons, exists_eq_or_imp]
    have here : key ∈ (s.weighSettlement log2 neighbors data acc qa).2 ↔
        key ∈ acc.2 ∨ (s.settlementAt qa).population ≠ 0 ∧
          ∃ qb ∈ (neighbors (s.settlementAt qa).id).getD [], (s.settlementAt qb).population ≠ 0 ∧
            key = settRelKey (s.settlementAt qa).id (s.settlementAt qb).id := by
      simp only [weighSettlement]
      split_ifs with empty
      · simp [empty]
      · simp [mem_foldl_weighNeighbor, empty]
    rw [here]
    exact or_assoc

/-- The pairs the loops see are the pairs of populated neighbours. -/
theorem mem_weighRelations (r : Registry) (key : SettRelKey) :
    key ∈ (s.weighRelations log2 neighbors r).2 ↔ ∃ qa qb, s.NeighborPair neighbors key qa qb := by
  rw [weighRelations, mem_foldl_weighSettlement]
  simp only [List.not_mem_nil, false_or, NeighborPair]
  constructor
  · rintro ⟨qa, listed, populated, qb, neighbor, populatedB, rfl⟩
    exact ⟨qa, qb, listed, neighbor, populated, populatedB, rfl⟩
  · rintro ⟨qa, qb, listed, neighbor, populated, populatedB, rfl⟩
    exact ⟨qa, listed, populated, qb, neighbor, populatedB, rfl⟩

/-- After the clean-up, a pair's relation is the weighed one if it is live. -/
theorem computeSettlementRelations_lookup (key : SettRelKey) :
    (s.computeSettlementRelations log2 neighbors).registry.relations.lookup key =
      ((s.weighRelations log2 neighbors s.registry).1.relations.lookup key).filter SettlementRelation.live := by
  -- the clean-up walks the keys of the map it cleans, once each
  let weighed := { (s.weighRelations log2 neighbors s.registry).1 with tradeTracker := ∅ }
  exact foldl_keyLocal_of_fixed Registry.pruneRelation_keyLocal weighed.relations.keys
    (AList.keys_nodup _) weighed key fun absent => by
      rw [lookup_eq_none_of_not_mem_keys absent, Option.filter_none]

/-- `computeSettlementRelations` weighs every pair of populated neighbours once,
from the relation it had before the pass, and leaves every other relation as
it was; then it deletes the relations that are not live. -/
theorem computeSettlementRelations_weighs_pairs_once (key : SettRelKey) :
    ((¬ ∃ qa qb, s.NeighborPair neighbors key qa qb) ∧
        (s.computeSettlementRelations log2 neighbors).registry.relations.lookup key =
          (s.registry.relations.lookup key).filter SettlementRelation.live) ∨
      ∃ qa qb, s.NeighborPair neighbors key qa qb ∧
        (s.computeSettlementRelations log2 neighbors).registry.relations.lookup key =
          ((s.registry.weighPair log2 s.factionData (s.settlementAt qa) (s.settlementAt qb)).relations.lookup
            key).filter SettlementRelation.live := by
  have once := @weighedOnce_weighRelations log2 neighbors s s.registry
  rw [computeSettlementRelations_lookup]
  by_cases reached : ∃ qa qb, s.NeighborPair neighbors key qa qb
  · obtain ⟨qa, qb, pair, weighed⟩ := once.seen key ((mem_weighRelations s.registry key).mpr reached)
    exact .inr ⟨qa, qb, pair, by rw [weighed]⟩
  · have unseen := once.unseen key (mt (mem_weighRelations s.registry key).mp reached)
    exact .inl ⟨reached, by rw [unseen]⟩

theorem relationsSound_computeSettlementRelations (sound : RelationsSound s.registry.relations) :
    RelationsSound (s.computeSettlementRelations log2 neighbors).registry.relations := by
  have weighed : RelationsSound (s.weighRelations log2 neighbors s.registry).1.relations := by
    refine foldl_invariant (fun acc : Registry × List SettRelKey => RelationsSound acc.1.relations) _ _ _
      (fun qa _ acc held => ?_) sound
    simp only [weighSettlement]
    split_ifs
    · exact held
    · refine foldl_invariant (fun acc : Registry × List SettRelKey => RelationsSound acc.1.relations) _ _ _
        (fun qb _ acc held => ?_) held
      simp only [weighNeighbor]
      split_ifs
      exacts [held, held, Registry.relationsSound_weighPair _ _ _ _ held]
  exact foldl_invariant (fun r : Registry => RelationsSound r.relations) _ _ _
    (fun key _ r held => Registry.relationsSound_pruneRelation held key) weighed

end Simulation

/-! ## The other writers of `Relations` -/

namespace Registry

/-- A week of a treaty leaves a pair's relation, or lets it recover. -/
theorem tickTreaty_relation (treaty : Option PeaceTreaty) (relation : Option SettlementRelation) :
    (tickTreaty (treaty, relation)).2 = relation ∨
      (tickTreaty (treaty, relation)).2 = relation.map recoverSentiment := by
  cases treaty with
  | none => exact .inl rfl
  | some _ => exact .inr rfl

theorem relationsSound_tickPeace {r : Registry} (sound : RelationsSound r.relations) (key : SettRelKey) :
    RelationsSound (r.tickPeace key).relations := by
  show RelationsSound (putEntry key (tickTreaty (r.peaceTreaties.lookup key, r.relations.lookup key)).2 r.relations)
  rcases tickTreaty_relation (r.peaceTreaties.lookup key) (r.relations.lookup key) with kept | recovered
  · rw [kept]
    exact sound.put fun rel found => sound key rel found
  · rw [recovered]
    exact sound.put_map key fun _ bounded => bounded.recoverSentiment

theorem relationsSound_processPeace {r : Registry} (tick : ℕ) (sound : RelationsSound r.relations) :
    RelationsSound (r.processPeace tick).relations := by
  -- the treaties are formed first, with `Relations` untouched
  have formed : RelationsSound (r.raidCounts.keys.foldl (formPeace tick) r).relations :=
    foldl_invariant (fun r : Registry => RelationsSound r.relations) _ _ _
      (fun key _ r' held => by rw [formPeace_relations]; exact held) sound
  exact foldl_invariant (fun r : Registry => RelationsSound r.relations) _ _ _
    (fun key _ r' held => relationsSound_tickPeace held key) formed

theorem relationsSound_invokePeace {r : Registry} (tick home target : ℕ) (sound : RelationsSound r.relations) :
    RelationsSound (r.invokePeace tick home target).relations := by
  simp only [invokePeace]
  split_ifs
  · exact sound
  · cases found : r.relations.lookup (settRelKey home target) with
    | none => exact sound
    | some rel =>
      obtain ⟨normal, lower, -⟩ := sound _ rel found
      have rise := agnosis_pos
      simp only [Option.elim]
      -- the boost keeps a hostile sentiment hostile or neutral
      split_ifs with hostile capped
      · exact sound.insert normal ⟨by norm_num, by norm_num⟩
      · exact sound.insert normal ⟨by dsimp only; linarith, by dsimp only; linarith⟩
      · exact sound

theorem processDiplomacy_relations (tick : ℕ) (r : Registry) :
    (r.processDiplomacy tick).relations = r.relations := by
  -- both loops write agreements only
  have weighed : (r.relations.keys.foldl (weighRelation tick) r).relations = r.relations :=
    foldl_invariant (fun r' : Registry => r'.relations = r.relations) _ _ _
      (fun key _ r' held => by rw [← held, weighRelation]; split <;> rfl) rfl
  exact foldl_invariant (fun r' : Registry => r'.relations = r.relations) _ _ _
    (fun key _ r' held => by rw [← held, pruneAgreement]; split <;> rfl) weighed

theorem processTradeRoutes_relations (name : SettRelKey → String) (r : Registry) :
    (r.processTradeRoutes name).relations = r.relations := by
  -- both loops write routes only
  have tracked : (r.tradeTracker.keys.foldl (trackRoute name) r).relations = r.relations :=
    foldl_invariant (fun r' : Registry => r'.relations = r.relations) _ _ _
      (fun key _ r' held => by rw [← held, trackRoute]; split <;> rfl) rfl
  exact foldl_invariant (fun r' : Registry => r'.relations = r.relations) _ _ _
    (fun key _ r' held => held) tracked

end Registry

namespace Simulation

variable (float32 : ℕ → ℕ → ℚ) (hexOrder : SettRelKey → List HexCoord) (tick : ℕ) {s : Simulation}

theorem relationsSound_warfarePair (key : SettRelKey) (sound : RelationsSound s.registry.relations) :
    RelationsSound (s.warfarePair float32 hexOrder tick key).registry.relations := by
  have raided : ∀ a b dist, RelationsSound (s.raid float32 (hexOrder key) tick a b dist).registry.relations := by
    intro a b dist
    rcases raid_relations float32 (hexOrder key) tick a b dist s with same | ⟨k, blow⟩
    · rw [same]
      exact sound
    · rw [blow]
      exact sound.put_map k fun _ bounded => bounded.raidSentiment
  rcases warfarePair_cases float32 hexOrder tick s key with same | ⟨pair, -, forward | backward⟩
  · rw [same]
    exact sound
  · rw [forward]
    exact raided _ _ _
  · rw [backward]
    exact raided _ _ _

theorem relationsSound_processWarfare (order : List SettRelKey) (sound : RelationsSound s.registry.relations) :
    RelationsSound (s.processWarfare float32 hexOrder order tick).registry.relations :=
  foldl_invariant (fun t : Simulation => RelationsSound t.registry.relations) _ _ _
    (fun key _ _ held => relationsSound_warfarePair float32 hexOrder tick key held) sound

theorem relationsSound_invokePeaceVision (oracle : AgentRef) (target : String)
    (sound : RelationsSound s.registry.relations) :
    RelationsSound (s.invokePeaceVision oracle target tick).registry.relations := by
  simp only [invokePeaceVision]
  cases (s.agentAt oracle).homeSettID with
  | none => exact sound
  | some home =>
    cases s.findSettlementByName target with
    | none => exact sound
    | some q => exact Registry.relationsSound_invokePeace tick home _ sound

end Simulation

/-! ## The saved relations -/

/-- What a restart would load as `Relations` from the table is sound. -/
def TableSound (table : WorldMeta) : Prop :=
  ∀ rels, table "settlement_relations" = some (.relations rels) →
    RelationsSound (mapOfEntries (rels.map fun e => ((⟨e.a, e.b⟩ : SettRelKey), (⟨e.s, e.t⟩ : SettlementRelation))))

/-- Of the save closures, only `saveSettlementRelations` writes the relations row. -/
theorem persistedFields_save_relations_row :
    ∀ f ∈ persistedFields, f.save = saveSettlementRelations ∨
      ∀ r table, f.save r table "settlement_relations" = table "settlement_relations" := by
  simp only [persistedFields, List.forall_mem_cons, List.mem_nil_iff, false_imp_iff, implies_true,
    true_or, true_and, and_true]
  and_intros
  all_goals
    refine .inr fun r table => ?_
    simp only [saveNonViableWeeks, saveAbandonedWeeks, saveTradeRoutes, saveTradeTracker, saveAgreements,
      savePeaceTreaties, saveRaidCounts, saveBirths, saveTradeVolume, saveDeaths, saveHeatStreakHours,
      saveLastNewspaper, saveLiberatedSpiritsPool, saveMeta]
    (try split_ifs) <;> simp

/-- Of the load closures, only `loadSettlementRelations` writes `Relations`. -/
theorem persistedFields_load_relations :
    ∀ f ∈ persistedFields, f.load = loadSettlementRelations ∨
      ∀ table r, (f.load table r).relations = r.relations := by
  simp only [persistedFields, List.forall_mem_cons, List.mem_nil_iff, false_imp_iff, implies_true,
    true_or, true_and, and_true]
  and_intros
  all_goals
    refine .inr fun table r => ?_
    simp only [loadNonViableWeeks, loadAbandonedWeeks, loadTradeRoutes, loadTradeTracker, loadAgreements,
      loadPeaceTreaties, loadRaidCounts, loadBirths, loadTradeVolume, loadDeaths, loadHeatStreakHours,
      loadLastNewspaper, loadLiberatedSpiritsPool]
    split <;> (try split_ifs) <;> rfl

/-- The saved relations decode to the map they were saved from. -/
theorem lookup_savedRelations (relations : GoMap SettRelKey SettlementRelation) (key : SettRelKey) :
    (mapOfEntries (((relations.entries.map fun e => (⟨e.1.a, e.1.b, e.2.sentiment, e.2.trade⟩ : RelEntry)).map
      fun e => ((⟨e.a, e.b⟩ : SettRelKey), (⟨e.s, e.t⟩ : SettlementRelation))))).lookup key =
      relations.lookup key := by
  rw [mapOfEntries, List.map_map]
  exact lookup_foldl_insert_entries relations key

namespace TableSound

variable {table : WorldMeta} {r : Registry}

theorem save_relations (saved : TableSound table) (sound : RelationsSound r.relations) :
    TableSound (saveSettlementRelations r table) := by
  intro rels stored
  simp only [saveSettlementRelations] at stored
  split_ifs at stored
  · exact saved rels stored
  · simp only [saveMeta, Function.update_self, Option.some.injEq, MetaValue.relations.injEq] at stored
    subst stored
    intro key rel found
    rw [lookup_savedRelations] at found
    exact sound key rel found

theorem saveLatePersisted (saved : TableSound table) (sound : RelationsSound r.relations) :
    TableSound (MiniWorld.Engine.saveLatePersisted r table) := by
  refine foldl_invariant TableSound (fun table f => f.save r table) persistedFields table
    (fun f member t held => ?_) saved
  rcases persistedFields_save_relations_row f member with writes | leaves
  · rw [writes]
    exact held.save_relations sound
  · intro rels stored
    rw [leaves] at stored
    exact held rels stored

theorem loadSettlementRelations (saved : TableSound table) (sound : RelationsSound r.relations) :
    RelationsSound (MiniWorld.Engine.loadSettlementRelations table r).relations := by
  simp only [MiniWorld.Engine.loadSettlementRelations]
  split
  next rels stored =>
    split_ifs
    · exact saved rels stored
    · exact sound
  next => exact sound

theorem restoreLatePersisted (saved : TableSound table) (sound : RelationsSound r.relations) :
    RelationsSound (MiniWorld.Engine.restoreLatePersisted table r).relations := by
  refine foldl_invariant (fun r : Registry => RelationsSound r.relations) (fun r f => f.load table r)
    persistedFields r (fun f member r' held => ?_) sound
  rcases persistedFields_load_relations f member with loads | leaves
  · rw [loads]
    exact saved.loadSettlementRelations held
  · rw [leaves]
    exact held

end TableSound

/-! ## Reading the relations of a settlement -/

namespace Registry

variable {r : Registry} (settID : ℕ)

/-- Under normal keys, the body of `GetSettlementRelations` at a pair writes the
entry of `other` only if the pair is that of `settID` and `other`, and there
the pair's relation. -/
theorem collectRelation_lookup (sound : RelationsSound r.relations) (result : GoMap ℕ SettlementRelation)
    (key : SettRelKey) (other : ℕ) :
    (r.collectRelation settID result key).lookup other =
      if key = settRelKey settID other then (r.relations.lookup key).or (result.lookup other)
      else result.lookup other := by
  cases found : r.relations.lookup key with
  | none => simp [collectRelation, found]
  | some rel =>
    have normal := (sound key rel found).1
    simp only [collectRelation, found, Option.elim, eq_settRelKey_iff normal, Option.some_or]
    -- the pair is filed under the settlement of it that is not `settID`
    by_cases first : key.a = settID
    · rw [if_pos first]
      by_cases here : other = key.b
      · subst here
        rw [AList.lookup_insert, if_pos (by omega)]
      · rw [AList.lookup_insert_ne here, if_neg (by omega)]
    · by_cases second : key.b = settID
      · rw [if_neg first, if_pos second]
        by_cases here : other = key.a
        · subst here
          rw [AList.lookup_insert, if_pos (by omega)]
        · rw [AList.lookup_insert_ne here, if_neg (by omega)]
      · rw [if_neg first, if_neg second, if_neg (by omega)]

theorem foldl_collectRelation_lookup (sound : RelationsSound r.relations) (other : ℕ) :
    ∀ (order : List SettRelKey) (result : GoMap ℕ SettlementRelation),
      (order.foldl (r.collectRelation settID) result).lookup other =
        if settRelKey settID other ∈ order then
          (r.relations.lookup (settRelKey settID other)).or (result.lookup other)
        else result.lookup other
  | [], result => by simp
  | key :: rest, result => by
    rw [List.foldl_cons, foldl_collectRelation_lookup sound other rest, collectRelation_lookup settID sound]
    by_cases here : key = settRelKey settID other
    · -- a pair walked again files the same relation again
      subst here
      by_cases later : settRelKey settID other ∈ rest
      · simp only [later, if_true, List.mem_cons_self]
        cases r.relations.lookup (settRelKey settID other) <;> rfl
      · simp [later]
    · simp [here, Ne.symm here]

/-- Under normal keys and an order that walks every pair of `Relations`,
`GetSettlementRelations` files under every other settlement the relation of its
pair with `settID`. -/
theorem settlementRelations_lookup (sound : RelationsSound r.relations) {order : List SettRelKey}
    (walks : ∀ key ∈ r.relations.keys, key ∈ order) (other : ℕ) :
    (r.settlementRelations order settID).lookup other = r.relations.lookup (settRelKey settID other) := by
  rw [settlementRelations, foldl_collectRelation_lookup settID sound, AList.lookup_empty, Option.or_none]
  split_ifs with walked
  · rfl
  · exact (lookup_eq_none_of_not_mem_keys (mt (walks _) walked)).symm

end Registry

/-! ## The run -/

/-- The running world and the `world_meta` table of its database. -/
structure MetaDeployment where
  sim : Simulation
  table : WorldMeta

/-- The steps of a deployment, as far as `Relations` and its saved row go. -/
inductive RelationStep : MetaDeployment → MetaDeployment → Prop
  /-- `computeSettlementRelations`. -/
  | relations (log2 : ℚ → ℚ) (neighbors : ℕ → Option (List SettRef)) (world : Simulation) (table : WorldMeta) :
      RelationStep ⟨world, table⟩ ⟨world.computeSettlementRelations log2 neighbors, table⟩
  /-- `processDiplomacy`. -/
  | diplomacy (tick : ℕ) (world : Simulation) (table : WorldMeta) :
      RelationStep ⟨world, table⟩ ⟨{ world with registry := world.registry.processDiplomacy tick }, table⟩
  /-- `processTradeRoutes`. -/
  | routes (name : SettRelKey → String) (world : Simulation) (table : WorldMeta) :
      RelationStep ⟨world, table⟩ ⟨{ world with registry := world.registry.processTradeRoutes name }, table⟩
  /-- `processPeace`. -/
  | peace (tick : ℕ) (world : Simulation) (table : WorldMeta) :
      RelationStep ⟨world, table⟩ ⟨{ world with registry := world.registry.processPeace tick }, table⟩
  /-- `processWarfare`, over the pairs in any order. -/
  | warfare (float32 : ℕ → ℕ → ℚ) (hexOrder : SettRelKey → List HexCoord) (order : List SettRelKey) (tick : ℕ)
      (world : Simulation) (table : WorldMeta) :
      RelationStep ⟨world, table⟩ ⟨world.processWarfare float32 hexOrder order tick, table⟩
  /-- An oracle's `invoke_peace` vision. -/
  | oracle (oracle : AgentRef) (target : String) (tick : ℕ) (world : Simulation) (table : WorldMeta) :
      RelationStep ⟨world, table⟩ ⟨world.invokePeaceVision oracle target tick, table⟩
  /-- Any other step of the world, which leaves `Relations` alone. -/
  | other {world next : Simulation} (kept : next.registry.relations = world.registry.relations)
      (table : WorldMeta) : RelationStep ⟨world, table⟩ ⟨next, table⟩
  /-- `SaveLatePersisted`. -/
  | save (world : Simulation) (table : WorldMeta) :
      RelationStep ⟨world, table⟩ ⟨world, saveLatePersisted world.registry table⟩
  /-- A restart: a new world with no relations, then `RestoreLatePersisted` from the table. -/
  | restart (world fresh : Simulation) (empty : fresh.registry.relations = ∅) (table : WorldMeta) :
      RelationStep ⟨world, table⟩ ⟨{ fresh with registry := restoreLatePersisted table fresh.registry }, table⟩

namespace MetaDeployment

/-- What every step keeps: sound relations in the world and in the saved row. -/
structure Sound (d : MetaDeployment) : Prop where
  relations : RelationsSound d.sim.registry.relations
  saved : TableSound d.table

/-- A first start: no relations, and no saved row. -/
structure Fresh (d : MetaDeployment) : Prop where
  empty : d.sim.registry.relations = ∅
  unsaved : d.table "settlement_relations" = none

theorem Fresh.sound {d : MetaDeployment} (fresh : d.Fresh) : d.Sound where
  relations := by
    rw [fresh.empty]
    exact RelationsSound.empty
  saved rels stored := by
    rw [fresh.unsaved] at stored
    cases stored

end MetaDeployment

/-- Every step keeps `Sound`. -/
theorem RelationStep.sound {d e : MetaDeployment} (step : RelationStep d e) (sound : d.Sound) : e.Sound := by
  cases step with
  | relations log2 neighbors world table =>
    exact ⟨Simulation.relationsSound_computeSettlementRelations sound.relations, sound.saved⟩
  | diplomacy tick world table =>
    refine ⟨?_, sound.saved⟩
    show RelationsSound (world.registry.processDiplomacy tick).relations
    rw [Registry.processDiplomacy_relations]
    exact sound.relations
  | routes name world table =>
    refine ⟨?_, sound.saved⟩
    show RelationsSound (world.registry.processTradeRoutes name).relations
    rw [Registry.processTradeRoutes_relations]
    exact sound.relations
  | peace tick world table =>
    exact ⟨Registry.relationsSound_processPeace tick sound.relations, sound.saved⟩
  | warfare float32 hexOrder order tick world table =>
    exact ⟨Simulation.relationsSound_processWarfare float32 hexOrder tick order sound.relations, sound.saved⟩
  | oracle oracle target tick world table =>
    exact ⟨Simulation.relationsSound_invokePeaceVision tick oracle target sound.relations, sound.saved⟩
  | other kept table =>
    refine ⟨?_, sound.saved⟩
    show RelationsSound _
    rw [kept]
    exact sound.relations
  | save world table =>
    exact ⟨sound.relations, sound.saved.saveLatePersisted sound.relations⟩
  | restart world fresh empty table =>
    -- what the restart loads comes from the saved row, or is the new world's nothing
    have none : RelationsSound fresh.registry.relations := by
      rw [empty]
      exact RelationsSound.empty
    exact ⟨sound.saved.restoreLatePersisted none, sound.saved⟩

/-- Over every run from a first start, through the weekly passes that write
`Relations`, any other step, saves and restarts, every relation of the world
has its key in normal form and its sentiment in `[-1, 1]`, and so does every
relation a restart would load from the table. -/
theorem relations_stay_sound {d : MetaDeployment}
    (reachable : Reachable RelationStep MetaDeployment.Fresh d) :
    RelationsSound d.sim.registry.relations ∧ TableSound d.table := by
  have sound : d.Sound :=
    reachable_invariant (fun _ fresh => fresh.sound) (fun _ _ held step => step.sound held) reachable
  exact ⟨sound.relations, sound.saved⟩

/-- Two towns of sixty three hexes apart, each the other's neighbour, with no relation yet. -/
def twinTowns : Simulation :=
  Simulation.newSimulation (fun _ => none) []
    [{ (default : Settlement) with id := 1, population := 60 },
     { (default : Settlement) with id := 2, position := ⟨3, 0⟩, population := 60 }]

/-- The `SettlementNeighbors` cache of the twin towns. -/
def twinNeighbors (k : ℕ) : Option (List SettRef) :=
  if k = 1 then some [1] else if k = 2 then some [0] else none

/-- The twin towns' row of `world_meta` after their relation is weighed and saved. -/
def twinTable : WorldMeta :=
  saveLatePersisted (twinTowns.computeSettlementRelations id twinNeighbors).registry fun _ => none

/-- The towns' relation is weighed and saved, and a restart loads it back into a new world. -/
def twinRestart : MetaDeployment :=
  ⟨{ twinTowns with registry := restoreLatePersisted twinTable twinTowns.registry }, twinTable⟩

theorem twinRestart_reachable : Reachable RelationStep MetaDeployment.Fresh twinRestart :=
  ⟨_, ⟨rfl, rfl⟩, ((Relation.ReflTransGen.single (RelationStep.relations id twinNeighbors twinTowns _)).tail
    (RelationStep.save _ _)).tail (RelationStep.restart _ twinTowns rfl _)⟩

theorem twinRestart_relations_stay_sound :
    Reachable RelationStep MetaDeployment.Fresh twinRestart ∧
      (twinRestart.sim.registry.relations.lookup ⟨1, 2⟩).isSome = true ∧
      (RelationsSound twinRestart.sim.registry.relations ∧ TableSound twinRestart.table) :=
  -- the restored relation is the weighed one
  ⟨twinRestart_reachable, by decide +kernel, relations_stay_sound twinRestart_reachable⟩

/-- Over every run from a first start, `GetSettlementRelations` of a
settlement, over any order that walks every pair of `Relations`, files under
every other settlement the relation of their pair: the result does not depend
on Go's map order. -/
theorem settlementRelations_reads_pair {d : MetaDeployment}
    (reachable : Reachable RelationStep MetaDeployment.Fresh d) {order : List SettRelKey}
    (walks : ∀ key ∈ d.sim.registry.relations.keys, key ∈ order) (settID other : ℕ) :
    (d.sim.registry.settlementRelations order settID).lookup other =
      d.sim.registry.relations.lookup (settRelKey settID other) := by
  have sound : d.Sound :=
    reachable_invariant (fun _ fresh => fresh.sound) (fun _ _ held step => step.sound held) reachable
  exact Registry.settlementRelations_lookup settID sound.relations walks other

/-- The restarted twin towns file their relation under each other. -/
theorem twinRestart_settlementRelations_reads_pair :
    Reachable RelationStep MetaDeployment.Fresh twinRestart ∧
      (∀ key ∈ twinRestart.sim.registry.relations.keys, key ∈ [(⟨1, 2⟩ : SettRelKey)]) ∧
      (twinRestart.sim.registry.relations.lookup (settRelKey 1 2)).isSome = true ∧
      (twinRestart.sim.registry.settlementRelations [⟨1, 2⟩] 1).lookup 2 =
        twinRestart.sim.registry.relations.lookup (settRelKey 1 2) := by
  have keys : twinRestart.sim.registry.relations.keys = [⟨1, 2⟩] := by decide +kernel
  have walks : ∀ key ∈ twinRestart.sim.registry.relations.keys, key ∈ [(⟨1, 2⟩ : SettRelKey)] :=
    fun key member => keys ▸ member
  exact ⟨twinRestart_reachable, walks, by decide +kernel,
    settlementRelations_reads_pair twinRestart_reachable walks 1 2⟩

end MiniWorld.Engine
