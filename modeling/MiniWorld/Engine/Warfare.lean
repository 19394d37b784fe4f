import MiniWorld.Engine.Deaths
import MiniWorld.Engine.Diplomacy
import MiniWorld.Run.FirstMin

/-! # Raids between settlements (`internal/engine/warfare.go`, `peace.go` `RecordRaid`,
`diplomacy.go` `GetAgreement` and `HasMutualDefense`, `trauma_decay.go`
`applyTraumaToWitnesses`)

`processWarfare` walks the settlement pairs of `Relations`.  A pair passes its
guards (`warPair`) when it is hostile, both settlements are indexed with fifty
people or more, they lie within five hexes, and neither an alliance nor a peace
treaty binds them; then each side in turn asks `evaluateRaid`, and the first
that says yes raids the other (`resolveRaid`) and has the raid counted
(`RecordRaid`).  A raid sends casualties through `applyCasualties`, moves
plunder between the treasuries, lets a victorious attacker take one border hex
(`captureHex`), lifts or lowers the soldiers' needs, costs both sides'
witnesses coherence, and deepens the pair's hostility.

Go ranges over three maps here, in an order of its own: the pairs of
`Relations`, the agreements (in a sum, where the order does not matter), and
the hexes of the world map.  The pairs' order is the list `order`, and the
hexes' order in the capture of the raid at a pair is `hexOrder key`; every
result holds for every such order.  The draws of the random source seeded in
`applyTraumaToWitnesses` are the parameter `float32`: `float32 seed n` is the
`n`-th `rng.Float32()` of the source seeded by `seed`.

What a raid can do is said once, as a frame: the fighting (`Fought`) touches
lives, crowns, markets, needs and souls; the capture touches one hex; the last
two writes touch the pair's relation and raid counter.  From it, over the whole
weekly loop and any order:

* a pair's raid counter moves only when the pair passed the guards at the
  start of the week, and by one at most (`processWarfare_raids_eligible_pairs`);
* claims only change hands: no hex is freed or newly claimed, a settlement
  holding a hex still holds one, and a settlement's own home hex stays its own
  (`processWarfare_keeps_territory`);
* the week buries the soldiers it kills, and only soldiers
  (`processWarfare_buries_soldiers`).

The events and log lines are not modelled.
-/

namespace MiniWorld.Engine

open MiniWorld.Agents MiniWorld.Phi MiniWorld.Run

def agreementAlliance : ℕ := 3

namespace Registry

/-- `GetAgreement`: the pair's agreement, unless it has type `0`. -/
def getAgreement (r : Registry) (a b : ℕ) : Option Agreement :=
  (r.agreements.lookup (settRelKey a b)).filter fun agreement => agreement.type ≠ 0

/-- `HasMutualDefense`: the pair is allied. -/
def hasMutualDefense (r : Registry) (a b : ℕ) : Bool :=
  (r.getAgreement a b).any fun agreement => agreementAlliance ≤ agreement.type

/-- `s.RaidCounts[key]`, zero for a pair never raided. -/
def raidCount (r : Registry) (key : SettRelKey) : ℤ := (r.raidCounts.lookup key).getD 0

/-- `RecordRaid`: `s.RaidCounts[settRelKey(a, b)]++`. -/
def recordRaid (r : Registry) (a b : ℕ) : Registry :=
  { r with raidCounts := r.raidCounts.insert (settRelKey a b) (r.raidCount (settRelKey a b) + 1) }

end Registry

/-! ## The hex captured -/

section Capture

variable (hexAt : HexCoord → Option Hex) (landAt : HexCoord → HexLand)

/-- Whether the hex at `c` is claimed by the settlement `settID`. -/
def heldBy (settID : ℕ) (c : HexCoord) : Bool :=
  (hexAt c).any fun hex => decide (hex.claimedBy = some settID)

/-- The hexes the third loop of `captureHex` does not skip: held by the loser,
not its settlement hex, and next to one of `attackerClaims`. -/
def captureCandidate (loser : ℕ) (attackerClaims : List HexCoord) (c : HexCoord) : Bool :=
  heldBy hexAt loser c && !((hexAt c).any fun hex => decide (hex.settlementID = some loser)) &&
    c.neighbors.any fun n => decide (n ∈ attackerClaims)

/-- `captureHex` over the world map's hexes in the order `hexes`: a loser with
two hexes or more gives the winner its first hex of greatest health among the
candidates.  The map's hexes and their health are `hexAt` and `landAt`; the
result is the new map and the hex taken. -/
def captureHex (hexes : List HexCoord) (winner loser : ℕ) : (HexCoord → Option Hex) × Option HexCoord :=
  let defenderHexes := (hexes.filter (heldBy hexAt loser)).length
  if defenderHexes ≤ 1 then (hexAt, none)
  else
    let attackerClaims := hexes.filter (heldBy hexAt winner)
    -- the skipped hexes of the loop are the filter; the rest is the scan for the best
    let bestHex := scanMax (fun c => (landAt c).health)
      (hexes.filter (captureCandidate hexAt loser attackerClaims)) none
    bestHex.elim (hexAt, none) fun c =>
      (Function.update hexAt c ((hexAt c).map fun hex => { hex with claimedBy := some winner }), some c)

end Capture

/-! ## Evaluating a raid -/

def traumaWitnessBase : ℚ := agnosis * 0.05

def traumaWitnessCap : ℚ := agnosis * 0.5

def traumaLibMult : ℚ := 2.0

/-- The coherence one alive witness loses in `applyTraumaToWitnesses`, with
`draw` the `rng.Float32()` of its turn. -/
def witnessDecay (intensity draw : ℚ) (a : Agent) : ℚ :=
  let jitter := 0.7 + draw * 0.3
  let decay := traumaWitnessBase * intensity * jitter
  let decay := if a.soul.cittaCoherence ≥ 0.7 then decay * traumaLibMult else decay
  if decay > traumaWitnessCap then traumaWitnessCap else decay

/-- A soldier's needs after a victory. -/
def victoryMorale (a : Agent) : Agent :=
  { a with needs := { a.needs with purpose := a.needs.purpose + agnosis * 0.5,
                                   esteem := a.needs.esteem + agnosis * 0.3 } }

/-- A soldier's needs after a defeat. -/
def defeatMorale (a : Agent) : Agent :=
  { a with needs := { a.needs with belonging := a.needs.belonging + agnosis * 0.3,
                                   safety := a.needs.safety - agnosis * 0.5 } }

/-- A raid's blow to the pair's sentiment: `-Psyche`, floored at `-1`. -/
def raidSentiment (rel : SettlementRelation) : SettlementRelation :=
  let sentiment := rel.sentiment - psyche
  { rel with sentiment := if sentiment < -1 then -1 else sentiment }

namespace Simulation

/-- The alive soldiers of `SettlementAgents[settID]`, in order. -/
def soldiers (s : Simulation) (settID : ℕ) : List AgentRef :=
  (s.settlementAgents settID).filter fun p =>
    (s.agentAt p).alive && decide ((s.agentAt p).occupation = .soldier)

/-- The sum of the `Combat` skills of a list of agents. -/
def combatSum (s : Simulation) (refs : List AgentRef) : ℚ :=
  (refs.map fun p => (s.agentAt p).combatSkill).sum

/-- The Iron Brotherhood bonus of `evaluateRaid`: `Agnosis` once a faction of
that name has an influence above `30` in the settlement. -/
def ironBrotherhoodBonus (s : Simulation) (settID : ℕ) : ℚ :=
  s.factions.foldl (fun ibBonus f =>
    if (s.factionAt f).name = "Iron Brotherhood" ∧
        ((s.factionAt f).influence.lookup settID).any fun inf => decide (inf > 30) then agnosis
    else ibBonus) 0

/-- `evaluateRaid`: enough soldiers, then the raid chance of hostility,
militarism, soldiers and the Iron Brotherhood against the week's hash gate. -/
def evaluateRaid (s : Simulation) (simWeek : ℕ) (attacker defender : Settlement)
    (rel : SettlementRelation) : Bool :=
  let soldierCount := (s.soldiers attacker.id).length
  let soldierRatio : ℚ := soldierCount / (attacker.population + 1)
  if soldierRatio < agnosis * 0.1 then false
  else
    let hostility := |rel.sentiment| - agnosis
    let hostility := if hostility < 0 then 0 else hostility
    let militarism := if attacker.cultureMilitarism < 0 then 0 else attacker.cultureMilitarism
    let ibBonus := s.ironBrotherhoodBonus attacker.id
    let raidChance := hostility * (militarism * agnosis + soldierRatio + ibBonus) * agnosis
    let hash : ℕ := (simWeek * 31 + attacker.id * 17 + defender.id * 7) % 2 ^ 64 % 1000
    decide (raidChance > (hash : ℚ) / 1000)

/-- The attack strength of `resolveRaid`: the soldiers' combat, the
militaristic bonus (at least `0.5`), `Being`, and the march's penalty. -/
def attackStrength (s : Simulation) (attacker : Settlement) (dist : ℕ) : ℚ :=
  let militaristicBonus := 1 + attacker.cultureMilitarism * agnosis * 0.5
  let militaristicBonus := if militaristicBonus < 0.5 then 0.5 else militaristicBonus
  let distPenalty := 1 / (1 + dist * agnosis * 0.3)
  s.combatSum (s.soldiers attacker.id) * (militaristicBonus * being) * distPenalty

/-- The reinforcement of one agreement to the defence: an alliance of the
defender with another settlement than the attacker, indexed and within eight
hexes, sends its soldiers at `Psyche` efficiency, attenuated by distance.  An
ally of ID `0` is read as no ally, as the Go code does. -/
def allyStrength (s : Simulation) (attacker defender : Settlement) (key : SettRelKey)
    (agreement : Agreement) : ℚ :=
  if agreement.type < agreementAlliance then 0
  else
    let allyID := if key.a = defender.id then key.b else if key.b = defender.id then key.a else 0
    if allyID = 0 ∨ allyID = attacker.id then 0
    else
      (s.settlementIndex allyID).elim 0 fun allySett =>
        let allyDist := distance (s.settlementAt allySett).position defender.position
        if allyDist > 8 then 0
        else
          let allyAttenuation := 1 / (1 + allyDist * agnosis * 0.5)
          ((s.soldiers allyID).map fun p => (s.agentAt p).combatSkill * allyAttenuation * psyche).sum

/-- The defence strength of `resolveRaid`: the soldiers' combat times the walls
and the governance, plus the allies, times `Being`. -/
def defenseStrength (s : Simulation) (attacker defender : Settlement) : ℚ :=
  let wallBonus := 1 + defender.wallLevel * being
  let strength := s.combatSum (s.soldiers defender.id) * wallBonus * (1 + defender.governanceScore)
  let strength := s.registry.agreements.entries.foldl
    (fun strength entry => strength + s.allyStrength attacker defender entry.1 entry.2) strength
  strength * being

/-- The treasury plunder: `Agnosis·0.5` of the loser's treasury, truncated,
moved to the winner. -/
def plunder (s : Simulation) (winner loser : SettRef) : Simulation :=
  let treasury := (s.settlementAt loser).treasury
  let plunder := ⌊(treasury : ℚ) * agnosis * 0.5⌋₊
  let plunder := if plunder > treasury then treasury else plunder
  (s.debitSettlement loser plunder).creditSettlement winner plunder

/-- A morale loop of `resolveRaid`: every soldier of the list still alive gets
`change`. -/
def boostSurvivors (soldiers : List AgentRef) (change : Agent → Agent) (s : Simulation) :
    Simulation :=
  soldiers.foldl (fun s p => if (s.agentAt p).alive then s.modifyAgent p change else s) s

/-- `applyTraumaToWitnesses`: every alive agent listed in the settlement loses
coherence, each with the next draw of the source seeded by `tick + settID`. -/
def applyTraumaToWitnesses (float32 : ℕ → ℕ → ℚ) (settID : ℕ) (intensity : ℚ) (tick : ℕ)
    (s : Simulation) : Simulation :=
  if intensity ≤ 0 then s
  else
    let seed := (tick + settID) % 2 ^ 64
    ((s.settlementAgents settID).foldl (fun (acc : Simulation × ℕ) w =>
      if (acc.1.agentAt w).alive then
        (acc.1.modifyAgent w fun a =>
          { a with soul := a.soul.adjustCoherence (-witnessDecay intensity (float32 seed acc.2) a) },
          acc.2 + 1)
      else acc) (s, 0)).1

/-- The capture of a raid: the map after `captureHex`. -/
def captureHexAt (hexes : List HexCoord) (winner loser : ℕ) (s : Simulation) : Simulation :=
  { s with hexAt := (captureHex s.hexAt s.landAt hexes winner loser).1 }

/-- The fighting of `resolveRaid` once the attacker has soldiers and the two
sides have some strength: casualties, plunder, the capture, morale and trauma. -/
def fight (float32 : ℕ → ℕ → ℚ) (hexes : List HexCoord) (tick : ℕ) (attacker defender : SettRef)
    (attackStrength defenseStrength : ℚ) (attackerWins : Bool) (s : Simulation) : Simulation :=
  let attackSoldiers := s.soldiers (s.settlementAt attacker).id
  let defenderSoldiers := s.soldiers (s.settlementAt defender).id
  let balance := min attackStrength defenseStrength / max attackStrength defenseStrength
  let intensity := balance * psyche
  let loserSoldiers := if attackerWins then defenderSoldiers else attackSoldiers
  let winnerSoldiers := if attackerWins then attackSoldiers else defenderSoldiers
  let s := (applyCasualties tick loserSoldiers (intensity * agnosis) s).1
  let s := (applyCasualties tick winnerSoldiers (intensity * agnosis * 0.5) s).1
  let winnerSett := if attackerWins then attacker else defender
  let loserSett := if attackerWins then defender else attacker
  let s := s.plunder winnerSett loserSett
  let s := if attackerWins then
      s.captureHexAt hexes (s.settlementAt winnerSett).id (s.settlementAt loserSett).id
    else s
  let s := s.boostSurvivors winnerSoldiers victoryMorale
  let s := s.boostSurvivors loserSoldiers defeatMorale
  let s := s.applyTraumaToWitnesses float32 (s.settlementAt winnerSett).id (intensity * 0.4) tick
  s.applyTraumaToWitnesses float32 (s.settlementAt loserSett).id (intensity * 0.8) tick

/-- War deepens the pair's hostility, when the pair has a relation. -/
def deepenHostility (a b : ℕ) (s : Simulation) : Simulation :=
  let key := settRelKey a b
  { s with registry := { s.registry with
      relations := putEntry key ((s.registry.relations.lookup key).map raidSentiment)
        s.registry.relations } }

/-- `resolveRaid`: the state after the raid and whether the attacker won. -/
def resolveRaid (float32 : ℕ → ℕ → ℚ) (hexes : List HexCoord) (tick : ℕ) (attacker defender : SettRef)
    (dist : ℕ) (s : Simulation) : Simulation × Bool :=
  let attackerSett := s.settlementAt attacker
  let defenderSett := s.settlementAt defender
  if (s.soldiers attackerSett.id).length = 0 then (s, false)
  else
    let attackStrength := s.attackStrength attackerSett dist
    let defenseStrength := s.defenseStrength attackerSett defenderSett
    let totalStrength := attackStrength + defenseStrength
    if totalStrength < 0.01 then (s, false)
    else
      let victoryChance := attackStrength / totalStrength
      let outcomeHash : ℕ := (tick * 13 + attackerSett.id * 23 + defenderSett.id * 37) % 2 ^ 64 % 1000
      let attackerWins := decide (((outcomeHash : ℚ) / 1000) < victoryChance)
      let s := s.fight float32 hexes tick attacker defender attackStrength defenseStrength attackerWins
      (s.deepenHostility attackerSett.id defenderSett.id, attackerWins)

/-- A raid and its `RecordRaid`. -/
def raid (float32 : ℕ → ℕ → ℚ) (hexes : List HexCoord) (tick : ℕ) (attacker defender : SettRef)
    (dist : ℕ) (s : Simulation) : Simulation :=
  let s := (s.resolveRaid float32 hexes tick attacker defender dist).1
  { s with registry :=
      s.registry.recordRaid (s.settlementAt attacker).id (s.settlementAt defender).id }

end Simulation

/-- A pair that passed the guards of `processWarfare`: its relation, its two
settlements, and their distance. -/
structure WarPair where
  rel : SettlementRelation
  a : SettRef
  b : SettRef
  dist : ℕ

namespace Simulation

/-- The guards of the pair `key` in `processWarfare`: hostile, both settlements
indexed with fifty people or more, within five hexes, no alliance and no peace
treaty. -/
def warPair (s : Simulation) (key : SettRelKey) : Option WarPair :=
  (s.registry.relations.lookup key).bind fun rel =>
    if rel.sentiment ≥ -agnosis then none
    else
      (s.settlementIndex key.a).bind fun settA =>
        (s.settlementIndex key.b).bind fun settB =>
          if (s.settlementAt settA).population < 50 ∨ (s.settlementAt settB).population < 50 then none
          else
            let dist := distance (s.settlementAt settA).position (s.settlementAt settB).position
            if dist > 5 then none
            else if s.registry.hasMutualDefense (s.settlementAt settA).id (s.settlementAt settB).id then none
            else if s.registry.hasPeace (s.settlementAt settA).id (s.settlementAt settB).id then none
            else some ⟨rel, settA, settB, dist⟩

/-- The body of `processWarfare` at the pair `key`: both directions in turn,
and the first `evaluateRaid` that passes raids, once. -/
def warfarePair (float32 : ℕ → ℕ → ℚ) (hexOrder : SettRelKey → List HexCoord) (tick : ℕ)
    (s : Simulation) (key : SettRelKey) : Simulation :=
  (s.warPair key).elim s fun pair =>
    let simWeek := tick / ticksPerSimWeek
    if s.evaluateRaid simWeek (s.settlementAt pair.a) (s.settlementAt pair.b) pair.rel then
      s.raid float32 (hexOrder key) tick pair.a pair.b pair.dist
    else if s.evaluateRaid simWeek (s.settlementAt pair.b) (s.settlementAt pair.a) pair.rel then
      s.raid float32 (hexOrder key) tick pair.b pair.a pair.dist
    else s

/-- `processWarfare`, over the pairs of `Relations` in the order `order`. -/
def processWarfare (float32 : ℕ → ℕ → ℚ) (hexOrder : SettRelKey → List HexCoord)
    (order : List SettRelKey) (tick : ℕ) (s : Simulation) : Simulation :=
  order.foldl (warfarePair float32 hexOrder tick) s

end Simulation

/-! ## Pair keys and raid counters -/

theorem settRelKey_comm (a b : ℕ) : settRelKey a b = settRelKey b a := by
  unfold settRelKey
  split_ifs <;> simp only [SettRelKey.mk.injEq] <;> omega

namespace Registry

theorem raidCount_recordRaid (r : Registry) (a b : ℕ) (key : SettRelKey) :
    (r.recordRaid a b).raidCount key =
      if key = settRelKey a b then r.raidCount key + 1 else r.raidCount key := by
  by_cases same : key = settRelKey a b
  · subst same
    simp [raidCount, recordRaid]
  · simp [raidCount, recordRaid, same, AList.lookup_insert_ne same]

end Registry

/-! ## One capture

`captureHex` either leaves the map alone or passes one hex from the loser to
the winner (`captureHex_cases`), and such a pass is a `Territory` step. -/

section Capture

variable (hexAt : HexCoord → Option Hex) (landAt : HexCoord → HexLand)

theorem captureCandidate_iff (loser : ℕ) (attackerClaims : List HexCoord) (c : HexCoord) :
    captureCandidate hexAt loser attackerClaims c = true ↔
      ∃ hex, hexAt c = some hex ∧ hex.claimedBy = some loser ∧ hex.settlementID ≠ some loser ∧
        ∃ n ∈ c.neighbors, n ∈ attackerClaims := by
  unfold captureCandidate heldBy
  cases hexAt c <;> simp [and_assoc]

/-- A list without repeats holding two elements of a kind holds one besides any
given element. -/
theorem exists_ne_of_one_lt_length_filter {xs : List HexCoord} (distinct : xs.Nodup)
    {p : HexCoord → Bool} (two : 1 < (xs.filter p).length) (c : HexCoord) :
    ∃ c' ∈ xs, c' ≠ c ∧ p c' = true := by
  by_contra none
  simp only [not_exists, not_and] at none
  -- every element of the kind is `c`, and the kind has no repeats
  have only : xs.filter p = List.replicate (xs.filter p).length c :=
    List.eq_replicate_iff.mpr ⟨rfl, fun y member => by
      obtain ⟨listed, kind⟩ := List.mem_filter.mp member
      by_contra other
      exact none y listed other kind⟩
  have repeats := distinct.filter p
  rw [only, List.nodup_replicate] at repeats
  omega

/-- What `captureHex` can do: nothing, or pass a candidate of greatest health
from a loser holding two hexes or more to the winner. -/
theorem captureHex_cases (hexes : List HexCoord) (winner loser : ℕ) :
    captureHex hexAt landAt hexes winner loser = (hexAt, none) ∨
      ∃ c hex, captureHex hexAt landAt hexes winner loser =
          (Function.update hexAt c (some { hex with claimedBy := some winner }), some c) ∧
        hexAt c = some hex ∧ hex.claimedBy = some loser ∧ hex.settlementID ≠ some loser ∧
        1 < (hexes.filter (heldBy hexAt loser)).length ∧ c ∈ hexes ∧
        (∃ n ∈ c.neighbors, n ∈ hexes ∧ heldBy hexAt winner n = true) ∧
        ∀ c' ∈ hexes, captureCandidate hexAt loser (hexes.filter (heldBy hexAt winner)) c' = true →
          (landAt c').health ≤ (landAt c).health := by
  unfold captureHex
  dsimp only
  split_ifs with few
  · exact .inl rfl
  · set candidates := hexes.filter (captureCandidate hexAt loser (hexes.filter (heldBy hexAt winner)))
    rcases scanMax_cases (fun c => (landAt c).health) candidates none with empty | ⟨c, picked, best⟩
    · rw [empty]
      exact .inl rfl
    · obtain ⟨listed, candidate⟩ := List.mem_filter.mp picked
      obtain ⟨hex, found, held, away, n, near, claimed⟩ :=
        (captureCandidate_iff hexAt loser _ c).mp candidate
      refine .inr ⟨c, hex, ?_, found, held, away, by omega, listed, ?_, ?_⟩
      · rw [best]
        simp [found]
      · obtain ⟨inList, winnerHeld⟩ := List.mem_filter.mp claimed
        exact ⟨n, near, inList, winnerHeld⟩
      · intro c' member candidate'
        exact scanMax_le_of_mem _ candidates none best c' (List.mem_filter.mpr ⟨member, candidate'⟩)

end Capture

/-! ## Territory -/

/-- How the hex map may change in a week of raids: every hex keeps its terrain,
its settlement and whether it is claimed; a settlement that holds a hex still
holds one; and a hex that is its own settlement's home stays as it was. -/
structure Territory (before after : HexCoord → Option Hex) : Prop where
  shape : ∀ c, (after c).map (fun hex => (hex.terrain, hex.settlementID, hex.claimedBy.isSome)) =
    (before c).map fun hex => (hex.terrain, hex.settlementID, hex.claimedBy.isSome)
  holds : ∀ settID, (∃ c, heldBy before settID c = true) → ∃ c, heldBy after settID c = true
  home : ∀ c hex settID, before c = some hex → hex.settlementID = some settID →
    hex.claimedBy = some settID → after c = some hex

section TerritorySteps

variable {hexAt hexAt' hexAt'' : HexCoord → Option Hex}

theorem Territory.refl (hexAt : HexCoord → Option Hex) : Territory hexAt hexAt :=
  ⟨fun _ => rfl, fun _ held => held, fun _ _ _ found _ _ => found⟩

theorem Territory.trans (first : Territory hexAt hexAt') (second : Territory hexAt' hexAt'') :
    Territory hexAt hexAt'' where
  shape c := (second.shape c).trans (first.shape c)
  holds settID held := second.holds settID (first.holds settID held)
  home c hex settID found own claimed := second.home c hex settID (first.home c hex settID found own claimed) own claimed

/-- A hex passed from a loser holding another one, and not the loser's home,
is a territory step. -/
theorem territory_pass {c c' : HexCoord} {hex : Hex} {winner loser : ℕ} (found : hexAt c = some hex)
    (held : hex.claimedBy = some loser) (away : hex.settlementID ≠ some loser) (other : c' ≠ c)
    (kept : heldBy hexAt loser c' = true) :
    Territory hexAt (Function.update hexAt c (some { hex with claimedBy := some winner })) where
  shape c'' := by
    by_cases here : c'' = c
    · subst here
      simp [found, held]
    · simp [Function.update_of_ne here]
  holds settID := by
    rintro ⟨c'', heldThere⟩
    by_cases here : c'' = c
    · -- the hex taken was the loser's; its other hex stays
      subst here
      have lost : settID = loser := by
        simp only [heldBy, found, Option.any_some, decide_eq_true_eq, held, Option.some.injEq] at heldThere
        exact heldThere.symm
      subst lost
      exact ⟨c', by simpa [heldBy, Function.update_of_ne other] using kept⟩
    · exact ⟨c'', by simpa [heldBy, Function.update_of_ne here] using heldThere⟩
  home c'' hex' settID found' own claimed := by
    by_cases here : c'' = c
    · subst here
      rw [found, Option.some.injEq] at found'
      subst found'
      rw [held, Option.some.injEq] at claimed
      subst claimed
      exact absurd own away
    · rwa [Function.update_of_ne here]

/-- A capture over hexes listed once each is a territory step. -/
theorem captureHex_territory (landAt : HexCoord → HexLand) {hexes : List HexCoord} (distinct : hexes.Nodup)
    (winner loser : ℕ) : Territory hexAt (captureHex hexAt landAt hexes winner loser).1 := by
  rcases captureHex_cases hexAt landAt hexes winner loser with same | ⟨c, hex, taken, found, held, away, two, -, -, -⟩
  · rw [same]
    exact Territory.refl hexAt
  · obtain ⟨c', -, other, kept⟩ := exists_ne_of_one_lt_length_filter distinct two c
    rw [taken]
    exact territory_pass found held away other kept

end TerritorySteps

/-! ## What a raid leaves alone -/

/-- A settlement without its treasury and market, the two fields a raid writes. -/
def Settlement.standing (st : Settlement) : Settlement := { st with treasury := 0, market := none }

namespace Simulation

/-- What a week of raids leaves as it was: the settlements but their treasuries
and markets, the indexes, the agreements and treaties, every agent's
occupation and the land. -/
structure Marched (s t : Simulation) : Prop where
  settlementIndex : t.settlementIndex = s.settlementIndex
  settlementAgents : t.settlementAgents = s.settlementAgents
  standing : ∀ q, (t.settlementAt q).standing = (s.settlementAt q).standing
  agreements : t.registry.agreements = s.registry.agreements
  peaceTreaties : t.registry.peaceTreaties = s.registry.peaceTreaties
  occupation : ∀ p, (t.agentAt p).occupation = (s.agentAt p).occupation
  landAt : t.landAt = s.landAt

/-- What the fighting of one raid around its capture leaves as it was besides:
the relations, the raid counters and the hex map. -/
structure Fought (s t : Simulation) : Prop extends Marched s t where
  relations : t.registry.relations = s.registry.relations
  raidCounts : t.registry.raidCounts = s.registry.raidCounts
  hexAt : t.hexAt = s.hexAt

section Frames

variable {s t u : Simulation}

theorem Marched.refl (s : Simulation) : Marched s s :=
  ⟨rfl, rfl, fun _ => rfl, rfl, rfl, fun _ => rfl, rfl⟩

theorem Marched.trans (first : Marched s t) (second : Marched t u) : Marched s u :=
  ⟨second.settlementIndex.trans first.settlementIndex, second.settlementAgents.trans first.settlementAgents,
    fun q => (second.standing q).trans (first.standing q), second.agreements.trans first.agreements,
    second.peaceTreaties.trans first.peaceTreaties, fun p => (second.occupation p).trans (first.occupation p),
    second.landAt.trans first.landAt⟩

theorem Fought.refl (s : Simulation) : Fought s s := ⟨Marched.refl s, rfl, rfl, rfl⟩

theorem Fought.trans (first : Fought s t) (second : Fought t u) : Fought s u :=
  ⟨first.toMarched.trans second.toMarched, second.relations.trans first.relations,
    second.raidCounts.trans first.raidCounts, second.hexAt.trans first.hexAt⟩

theorem Marched.id (marched : Marched s t) (q : SettRef) : (t.settlementAt q).id = (s.settlementAt q).id := by
  have same := congrArg Settlement.id (marched.standing q)
  exact same

theorem Marched.population (marched : Marched s t) (q : SettRef) :
    (t.settlementAt q).population = (s.settlementAt q).population := by
  have same := congrArg Settlement.population (marched.standing q)
  exact same

theorem Marched.position (marched : Marched s t) (q : SettRef) :
    (t.settlementAt q).position = (s.settlementAt q).position := by
  have same := congrArg Settlement.position (marched.standing q)
  exact same

theorem fought_modifyAgent (s : Simulation) (p : AgentRef) {change : Agent → Agent}
    (keeps : (change (s.agentAt p)).occupation = (s.agentAt p).occupation) :
    Fought s (s.modifyAgent p change) := by
  refine ⟨⟨rfl, rfl, fun _ => rfl, rfl, rfl, fun p' => ?_, rfl⟩, rfl, rfl, rfl⟩
  by_cases same : p' = p
  · subst same
    simpa using keeps
  · simp [modifyAgent_agentAt, same]

theorem fought_modifySettlement (s : Simulation) (q : SettRef) {change : Settlement → Settlement}
    (keeps : (change (s.settlementAt q)).standing = (s.settlementAt q).standing) :
    Fought s (s.modifySettlement q change) := by
  refine ⟨⟨rfl, rfl, fun q' => ?_, rfl, rfl, fun _ => rfl, rfl⟩, rfl, rfl, rfl⟩
  by_cases same : q' = q
  · subst same
    simpa [modifySettlement_settlementAt_apply] using keeps
  · simp [modifySettlement_settlementAt_apply, same]

theorem fought_creditAgent (s : Simulation) (p : AgentRef) (amount : ℕ) :
    Fought s (s.creditAgent p amount) := fought_modifyAgent s p rfl

theorem fought_creditSettlement (s : Simulation) (q : SettRef) (amount : ℕ) :
    Fought s (s.creditSettlement q amount) := fought_modifySettlement s q rfl

theorem fought_debitSettlement (s : Simulation) (q : SettRef) (amount : ℕ) :
    Fought s (s.debitSettlement q amount) := fought_modifySettlement s q rfl

theorem fought_modifyMarket (s : Simulation) (q : SettRef) (change : Market → Market) :
    Fought s (s.modifyMarket q change) := fought_modifySettlement s q rfl

/-! ### The casualties -/

theorem fought_bequeath (a : Agent) (q : SettRef) (s : Simulation) : Fought s (bequeath a q s) := by
  unfold bequeath
  dsimp only
  refine Fought.trans ?_ (fought_modifyMarket _ q _)
  refine (fought_creditSettlement s q (a.wealth / 2)).trans ?_
  split
  · exact fought_creditAgent _ _ _
  · split_ifs
    · exact fought_creditSettlement _ q _
    · exact Fought.refl _

theorem fought_inheritWealth (s : Simulation) (p : AgentRef) : Fought s (s.inheritWealth p) := by
  have logged : Fought s { s with inheritLog := p :: s.inheritLog } :=
    ⟨⟨rfl, rfl, fun _ => rfl, rfl, rfl, fun _ => rfl, rfl⟩, rfl, rfl, rfl⟩
  unfold inheritWealth
  extract_lets a logged' estate
  split_ifs
  · exact logged
  · refine logged.trans (Fought.trans ?_ (fought_modifyAgent _ p rfl))
    simp only [estate]
    split
    · exact fought_bequeath _ _ _
    · exact Fought.refl _

theorem fought_touchWitnesses (deadID : AgentID) (k : ℕ) (gate : Agent → Bool) (drift : Agent → ℚ)
    (s : Simulation) : Fought s (touchWitnesses deadID k gate drift s) := by
  unfold touchWitnesses
  refine foldl_invariant (Fought s) _ _ s (fun w _ t fought => ?_) (Fought.refl s)
  dsimp only
  split_ifs
  · exact fought.trans (fought_modifyAgent t w rfl)
  · exact fought

theorem fought_handleAgentDeath (s : Simulation) (p : AgentRef) : Fought s (s.handleAgentDeath p) := by
  have counted : Fought s s.countDeath :=
    ⟨⟨rfl, rfl, fun _ => rfl, rfl, rfl, fun _ => rfl, rfl⟩, rfl, rfl, rfl⟩
  have inherited := counted.trans (fought_inheritWealth s.countDeath p)
  unfold handleAgentDeath
  dsimp only
  split
  · exact inherited.trans (fought_touchWitnesses _ _ _ _ _)
  · exact inherited

theorem fought_casualtyLoop (tick : ℕ) (targetCasualties : ℤ) :
    ∀ (soldiers : List AgentRef) (acc : Simulation × ℕ),
      Fought acc.1 (casualtyLoop tick targetCasualties acc soldiers).1
  | [], acc => Fought.refl acc.1
  | p :: rest, (s, casualties) => by
    have later := fought_casualtyLoop tick targetCasualties rest
    unfold casualtyLoop
    dsimp only
    split_ifs
    · exact Fought.refl s
    · exact later (s, casualties)
    · -- a casualty, handed to `handleAgentDeath`
      have killed := (@fought_modifyAgent s p (fun a => { a with alive := false }) rfl).trans
        (fought_handleAgentDeath _ p)
      exact killed.trans (later (_, casualties + 1))
    · exact later (s, casualties)

theorem fought_applyCasualties (tick : ℕ) (soldiers : List AgentRef) (rate : ℚ) (s : Simulation) :
    Fought s (applyCasualties tick soldiers rate s).1 := by
  unfold applyCasualties
  split
  · exact Fought.refl s
  · exact fought_casualtyLoop tick _ soldiers (s, 0)

/-- The casualty loop kills from its list only. -/
theorem casualtyLoop_alive_of_not_mem (tick : ℕ) (targetCasualties : ℤ) {p : AgentRef} :
    ∀ (soldiers : List AgentRef) (acc : Simulation × ℕ), p ∉ soldiers →
      ((casualtyLoop tick targetCasualties acc soldiers).1.agentAt p).alive = (acc.1.agentAt p).alive
  | [], _, _ => rfl
  | q :: rest, (s, casualties), absent => by
    rw [List.mem_cons, not_or] at absent
    obtain ⟨other, absentLater⟩ := absent
    have later := casualtyLoop_alive_of_not_mem tick targetCasualties (p := p) rest
    unfold casualtyLoop
    dsimp only
    split_ifs
    · rfl
    · exact later _ absentLater
    · rw [later _ absentLater]
      dsimp only
      rw [(handleAgentDeath_processed _ q).alive p]
      simp [modifyAgent_agentAt, other]
    · exact later _ absentLater

theorem applyCasualties_alive_of_not_mem (tick : ℕ) {soldiers : List AgentRef} (rate : ℚ) (s : Simulation)
    {p : AgentRef} (absent : p ∉ soldiers) :
    ((applyCasualties tick soldiers rate s).1.agentAt p).alive = (s.agentAt p).alive := by
  unfold applyCasualties
  split
  · rfl
  · exact casualtyLoop_alive_of_not_mem tick _ soldiers (s, 0) absent

/-! ### The rest of the fighting -/

theorem fought_plunder (s : Simulation) (winner loser : SettRef) : Fought s (s.plunder winner loser) :=
  (fought_debitSettlement s loser _).trans (fought_creditSettlement _ winner _)

theorem marched_captureHexAt (hexes : List HexCoord) (winner loser : ℕ) (s : Simulation) :
    Marched s (s.captureHexAt hexes winner loser) := ⟨rfl, rfl, fun _ => rfl, rfl, rfl, fun _ => rfl, rfl⟩

/-! ### The two loops over agents after the fighting

Both loops only update agents one at a time, so any reflexive and transitive
relation that each update keeps holds across them: the frames below and
`LivesKept` are two such. -/

section Loops

variable {R : Simulation → Simulation → Prop} (refl : ∀ s, R s s)
  (trans : ∀ {s t u}, R s t → R t u → R s u)
include refl trans

theorem boostSurvivors_keeps (soldiers : List AgentRef) (change : Agent → Agent)
    (step : ∀ t p, R t (t.modifyAgent p change)) (s : Simulation) :
    R s (s.boostSurvivors soldiers change) := by
  unfold boostSurvivors
  refine foldl_invariant (R s) _ _ s (fun p _ t kept => ?_) (refl s)
  split_ifs
  · exact trans kept (step t p)
  · exact kept

theorem applyTraumaToWitnesses_keeps (float32 : ℕ → ℕ → ℚ) (settID : ℕ) (intensity : ℚ) (tick : ℕ)
    (step : ∀ t w (drift : Agent → ℚ),
      R t (t.modifyAgent w fun a => { a with soul := a.soul.adjustCoherence (drift a) }))
    (s : Simulation) : R s (s.applyTraumaToWitnesses float32 settID intensity tick) := by
  unfold applyTraumaToWitnesses
  split_ifs
  · exact refl s
  · -- the loop carries its draw counter beside the state
    refine foldl_invariant (fun acc : Simulation × ℕ => R s acc.1) _ _ (s, 0)
      (fun w _ acc kept => ?_) (refl s)
    split_ifs
    · dsimp only
      exact trans kept (step acc.1 w _)
    · exact kept

end Loops

theorem fought_boostSurvivors (soldiers : List AgentRef) {change : Agent → Agent}
    (keeps : ∀ a, (change a).occupation = a.occupation) (s : Simulation) :
    Fought s (s.boostSurvivors soldiers change) :=
  boostSurvivors_keeps Fought.refl Fought.trans soldiers change (fun t p => fought_modifyAgent t p (keeps _)) s

theorem fought_applyTraumaToWitnesses (float32 : ℕ → ℕ → ℚ) (settID : ℕ) (intensity : ℚ) (tick : ℕ)
    (s : Simulation) : Fought s (s.applyTraumaToWitnesses float32 settID intensity tick) :=
  applyTraumaToWitnesses_keeps Fought.refl Fought.trans float32 settID intensity tick
    (fun t w _ => fought_modifyAgent t w rfl) s

/-- What the fighting can do: a fight, the capture of a victorious attacker,
and a fight again. -/
theorem fight_cases (float32 : ℕ → ℕ → ℚ) (hexes : List HexCoord) (tick : ℕ)
    (attacker defender : SettRef) (attackStrength defenseStrength : ℚ) (attackerWins : Bool)
    (s : Simulation) :
    ∃ u, Fought s u ∧ Fought
      (if attackerWins then u.captureHexAt hexes (u.settlementAt attacker).id (u.settlementAt defender).id else u)
      (s.fight float32 hexes tick attacker defender attackStrength defenseStrength attackerWins) := by
  unfold fight
  extract_lets attackSoldiers defenderSoldiers balance intensity loserSoldiers winnerSoldiers
    wounded fallen winnerSett loserSett plundered captured cheered shaken witnessed
  refine ⟨plundered, (fought_applyCasualties _ _ _ s).trans ((fought_applyCasualties _ _ _ wounded).trans
    (fought_plunder fallen _ _)), ?_⟩
  have captures : captured =
      if attackerWins then plundered.captureHexAt hexes (plundered.settlementAt attacker).id
        (plundered.settlementAt defender).id else plundered := by
    simp only [captured, winnerSett, loserSett]
    cases attackerWins <;> rfl
  rw [← captures]
  refine (@fought_boostSurvivors winnerSoldiers victoryMorale (fun _ => rfl) captured).trans
    ((@fought_boostSurvivors loserSoldiers defeatMorale (fun _ => rfl) cheered).trans ?_)
  exact (fought_applyTraumaToWitnesses _ _ _ _ shaken).trans (fought_applyTraumaToWitnesses _ _ _ _ witnessed)

end Frames

/-! ## The dead of a raid -/

section Lives

variable {s t u : Simulation} {died : List AgentRef}

theorem Buries.livesKept (buried : Buries s t died) (kept : LivesKept t u) : Buries s u died := by
  have joined := buried.trans kept.buries
  rwa [List.nil_append] at joined

/-- An agent of a burying step outside a list whose flags alone the step may
clear died on the list. -/
theorem Buries.mem_of_alive (listed : List AgentRef) (buried : Buries s t died)
    (others : ∀ p, p ∉ listed → (t.agentAt p).alive = (s.agentAt p).alive) :
    ∀ p ∈ died, p ∈ listed := by
  intro p member
  by_contra absent
  obtain ⟨alive, dead⟩ := (buried.mem_iff p).mp member
  rw [others p absent, alive] at dead
  exact Bool.noConfusion dead

theorem livesKept_plunder (s : Simulation) (winner loser : SettRef) :
    LivesKept s (s.plunder winner loser) :=
  (livesKept_modifySettlement s loser _).trans (livesKept_creditSettlement _ winner _)

theorem livesKept_captureHexAt (hexes : List HexCoord) (winner loser : ℕ) (s : Simulation) :
    LivesKept s (s.captureHexAt hexes winner loser) := ⟨fun _ => rfl, rfl, rfl⟩

theorem livesKept_boostSurvivors (soldiers : List AgentRef) {change : Agent → Agent}
    (keeps : ∀ a, (change a).alive = a.alive) (s : Simulation) :
    LivesKept s (s.boostSurvivors soldiers change) :=
  boostSurvivors_keeps LivesKept.refl LivesKept.trans soldiers change
    (fun t p => livesKept_modifyAgent t p (keeps _)) s

theorem livesKept_applyTraumaToWitnesses (float32 : ℕ → ℕ → ℚ) (settID : ℕ) (intensity : ℚ) (tick : ℕ)
    (s : Simulation) : LivesKept s (s.applyTraumaToWitnesses float32 settID intensity tick) :=
  applyTraumaToWitnesses_keeps LivesKept.refl LivesKept.trans float32 settID intensity tick
    (fun t w _ => livesKept_modifyAgent t w rfl) s

/-- The fighting buries its casualties, and they are soldiers of the two sides. -/
theorem fight_buries (float32 : ℕ → ℕ → ℚ) (hexes : List HexCoord) (tick : ℕ)
    (attacker defender : SettRef) (attackStrength defenseStrength : ℚ) (attackerWins : Bool)
    (s : Simulation) :
    ∃ died, Buries s (s.fight float32 hexes tick attacker defender attackStrength defenseStrength
        attackerWins) died ∧
      ∀ p ∈ died, p ∈ s.soldiers (s.settlementAt attacker).id ∨ p ∈ s.soldiers (s.settlementAt defender).id := by
  unfold fight
  extract_lets attackSoldiers defenderSoldiers balance intensity loserSoldiers winnerSoldiers
    wounded fallen winnerSett loserSett plundered captured cheered shaken witnessed
  -- after the two casualty loops no flag changes
  have captures : LivesKept plundered captured := by
    simp only [captured]
    split_ifs
    · exact livesKept_captureHexAt _ _ _ plundered
    · exact LivesKept.refl plundered
  have quiet : LivesKept fallen
      (witnessed.applyTraumaToWitnesses float32 (witnessed.settlementAt loserSett).id (intensity * 0.8) tick) :=
    (livesKept_plunder fallen _ _).trans (captures.trans
      ((@livesKept_boostSurvivors winnerSoldiers victoryMorale (fun _ => rfl) captured).trans
      ((@livesKept_boostSurvivors loserSoldiers defeatMorale (fun _ => rfl) cheered).trans
      ((livesKept_applyTraumaToWitnesses _ _ _ _ shaken).trans
        (livesKept_applyTraumaToWitnesses _ _ _ _ witnessed)))))
  obtain ⟨died, first⟩ := applyCasualties_buries tick loserSoldiers (intensity * agnosis) s
  obtain ⟨died', second⟩ := applyCasualties_buries tick winnerSoldiers (intensity * agnosis * 0.5) wounded
  have buried := (first.trans second).livesKept quiet
  refine ⟨died' ++ died, buried, fun p member => ?_⟩
  have listed := Buries.mem_of_alive (attackSoldiers ++ defenderSoldiers) buried (fun p absent => by
    -- an agent of neither side is on neither casualty list
    have sides : p ∉ loserSoldiers ∧ p ∉ winnerSoldiers := by
      simp only [List.mem_append, not_or] at absent
      simp only [loserSoldiers, winnerSoldiers]
      cases attackerWins <;> simp [absent.1, absent.2]
    rw [quiet.alive, applyCasualties_alive_of_not_mem tick _ wounded sides.2,
      applyCasualties_alive_of_not_mem tick _ s sides.1]) p member
  exact List.mem_append.mp listed

end Lives

/-! ## One raid -/

section Raid

variable (float32 : ℕ → ℕ → ℚ) (hexes : List HexCoord) (tick : ℕ) (attacker defender : SettRef)
  (dist : ℕ) (s : Simulation)

theorem marched_fight (attackStrength defenseStrength : ℚ) (attackerWins : Bool) :
    Marched s (s.fight float32 hexes tick attacker defender attackStrength defenseStrength attackerWins) := by
  obtain ⟨u, before, after⟩ := fight_cases float32 hexes tick attacker defender attackStrength defenseStrength
    attackerWins s
  have captures : Marched u (if attackerWins then
      u.captureHexAt hexes (u.settlementAt attacker).id (u.settlementAt defender).id else u) := by
    split_ifs
    · exact marched_captureHexAt _ _ _ u
    · exact Marched.refl u
  exact before.toMarched.trans (captures.trans after.toMarched)

/-- The fighting leaves the relations and the raid counters alone, and the hex
map to the capture. -/
theorem fight_registry_hexAt (attackStrength defenseStrength : ℚ) (attackerWins : Bool) :
    let t := s.fight float32 hexes tick attacker defender attackStrength defenseStrength attackerWins
    t.registry.relations = s.registry.relations ∧ t.registry.raidCounts = s.registry.raidCounts ∧
      t.hexAt = if attackerWins then
        (captureHex s.hexAt s.landAt hexes (s.settlementAt attacker).id (s.settlementAt defender).id).1
      else s.hexAt := by
  obtain ⟨u, before, after⟩ := fight_cases float32 hexes tick attacker defender attackStrength defenseStrength
    attackerWins s
  refine ⟨?_, ?_, ?_⟩
  · -- the capture writes hexes only
    rw [after.relations, ← before.relations]
    split_ifs <;> rfl
  · rw [after.raidCounts, ← before.raidCounts]
    split_ifs <;> rfl
  · rw [after.hexAt]
    split_ifs
    · simp only [captureHexAt, before.hexAt, before.landAt, before.toMarched.id]
    · exact before.hexAt

/-- What `resolveRaid` can do: nothing, or a fight and the blow to the pair's
sentiment, reporting who won. -/
theorem resolveRaid_cases :
    s.resolveRaid float32 hexes tick attacker defender dist = (s, false) ∨
      ∃ attackStrength defenseStrength attackerWins,
        s.resolveRaid float32 hexes tick attacker defender dist =
          ((s.fight float32 hexes tick attacker defender attackStrength defenseStrength
            attackerWins).deepenHostility (s.settlementAt attacker).id (s.settlementAt defender).id,
            attackerWins) := by
  unfold resolveRaid
  dsimp only
  split_ifs
  · exact .inl rfl
  · exact .inl rfl
  · exact .inr ⟨_, _, _, rfl⟩

/-- A raid takes a hex only when the attacker wins, and then for the attacker:
a border hex of the defender's, next to the attacker's land, of greatest health
among those, not the defender's home, and only from a defender holding two
hexes or more.  Everything else on the map stays. -/
theorem resolveRaid_captures_border_hex :
    (s.resolveRaid float32 hexes tick attacker defender dist).1.hexAt = s.hexAt ∨
      ((s.resolveRaid float32 hexes tick attacker defender dist).2 = true ∧
        ∃ c hex, (s.resolveRaid float32 hexes tick attacker defender dist).1.hexAt =
            Function.update s.hexAt c (some { hex with claimedBy := some (s.settlementAt attacker).id }) ∧
          s.hexAt c = some hex ∧ hex.claimedBy = some (s.settlementAt defender).id ∧
          hex.settlementID ≠ some (s.settlementAt defender).id ∧
          1 < (hexes.filter (heldBy s.hexAt (s.settlementAt defender).id)).length ∧ c ∈ hexes ∧
          (∃ n ∈ c.neighbors, n ∈ hexes ∧ heldBy s.hexAt (s.settlementAt attacker).id n = true) ∧
          ∀ c' ∈ hexes, captureCandidate s.hexAt (s.settlementAt defender).id
              (hexes.filter (heldBy s.hexAt (s.settlementAt attacker).id)) c' = true →
            (s.landAt c').health ≤ (s.landAt c).health) := by
  rcases resolveRaid_cases float32 hexes tick attacker defender dist s with same | ⟨_, _, attackerWins, fought⟩
  · exact .inl (by rw [same])
  · -- the map after the fight is the capture's, when the attacker wins
    have map : (s.resolveRaid float32 hexes tick attacker defender dist).1.hexAt = if attackerWins then
        (captureHex s.hexAt s.landAt hexes (s.settlementAt attacker).id (s.settlementAt defender).id).1
        else s.hexAt := by
      rw [fought]
      exact (fight_registry_hexAt _ _ _ _ _ _ _ _ _).2.2
    rw [map, fought]
    cases attackerWins with
    | false => exact .inl rfl
    | true =>
      rcases captureHex_cases s.hexAt s.landAt hexes (s.settlementAt attacker).id (s.settlementAt defender).id
        with same | ⟨c, hex, taken, spec⟩
      · exact .inl (by rw [if_pos rfl, same])
      · exact .inr ⟨rfl, c, hex, by rw [if_pos rfl, taken], spec⟩

theorem marched_deepenHostility (a b : ℕ) : Marched s (s.deepenHostility a b) :=
  ⟨rfl, rfl, fun _ => rfl, rfl, rfl, fun _ => rfl, rfl⟩

theorem deepenHostility_lookup (a b : ℕ) (key : SettRelKey) :
    (s.deepenHostility a b).registry.relations.lookup key =
      if key = settRelKey a b then (s.registry.relations.lookup (settRelKey a b)).map raidSentiment
      else s.registry.relations.lookup key := by
  simp [deepenHostility]

/-- A raid leaves what `Marched` keeps. -/
theorem marched_raid : Marched s (s.raid float32 hexes tick attacker defender dist) := by
  have resolved : Marched s (s.resolveRaid float32 hexes tick attacker defender dist).1 := by
    rcases resolveRaid_cases float32 hexes tick attacker defender dist s with same | ⟨_, _, _, fought⟩
    · rw [same]
      exact Marched.refl s
    · rw [fought]
      exact (marched_fight _ _ _ _ _ _ _ _ _).trans (marched_deepenHostility _ _ _)
  exact resolved.trans ⟨rfl, rfl, fun _ => rfl, rfl, rfl, fun _ => rfl, rfl⟩

/-- A raid writes the relation of its own pair only. -/
theorem raid_lookup_of_ne {key : SettRelKey}
    (other : key ≠ settRelKey (s.settlementAt attacker).id (s.settlementAt defender).id) :
    (s.raid float32 hexes tick attacker defender dist).registry.relations.lookup key =
      s.registry.relations.lookup key := by
  show (s.resolveRaid float32 hexes tick attacker defender dist).1.registry.relations.lookup key = _
  rcases resolveRaid_cases float32 hexes tick attacker defender dist s with same | ⟨_, _, _, fought⟩
  · rw [same]
  · rw [fought, deepenHostility_lookup, if_neg other, (fight_registry_hexAt _ _ _ _ _ _ _ _ _).1]

/-- A raid writes `Relations` by the blow of `deepenHostility` at one pair, if at all. -/
theorem raid_relations :
    (s.raid float32 hexes tick attacker defender dist).registry.relations = s.registry.relations ∨
      ∃ key, (s.raid float32 hexes tick attacker defender dist).registry.relations =
        putEntry key ((s.registry.relations.lookup key).map raidSentiment) s.registry.relations := by
  show (s.resolveRaid float32 hexes tick attacker defender dist).1.registry.relations = _ ∨
    ∃ key, (s.resolveRaid float32 hexes tick attacker defender dist).1.registry.relations = _
  rcases resolveRaid_cases float32 hexes tick attacker defender dist s with same | ⟨_, _, _, fought⟩
  · exact .inl (by rw [same])
  · refine .inr ⟨settRelKey (s.settlementAt attacker).id (s.settlementAt defender).id, ?_⟩
    rw [fought]
    simp only [deepenHostility]
    rw [(fight_registry_hexAt _ _ _ _ _ _ _ _ _).1]

/-- A raid counts itself at its own pair. -/
theorem raid_raidCount (key : SettRelKey) :
    (s.raid float32 hexes tick attacker defender dist).registry.raidCount key =
      if key = settRelKey (s.settlementAt attacker).id (s.settlementAt defender).id then
        s.registry.raidCount key + 1
      else s.registry.raidCount key := by
  have marched := marched_raid float32 hexes tick attacker defender dist s
  have counts : (s.resolveRaid float32 hexes tick attacker defender dist).1.registry.raidCounts =
      s.registry.raidCounts := by
    rcases resolveRaid_cases float32 hexes tick attacker defender dist s with same | ⟨_, _, _, fought⟩
    · rw [same]
    · rw [fought]
      exact (fight_registry_hexAt _ _ _ _ _ _ _ _ _).2.1
  simp only [raid, Registry.raidCount_recordRaid]
  rw [show (s.resolveRaid float32 hexes tick attacker defender dist).1.settlementAt =
      (s.raid float32 hexes tick attacker defender dist).settlementAt from rfl, marched.id, marched.id]
  simp only [Registry.raidCount, counts]

/-- A raid over hexes listed once each moves territory as `Territory` allows. -/
theorem raid_territory {hexes : List HexCoord} (distinct : hexes.Nodup) :
    Territory s.hexAt (s.raid float32 hexes tick attacker defender dist).hexAt := by
  show Territory s.hexAt (s.resolveRaid float32 hexes tick attacker defender dist).1.hexAt
  rcases resolveRaid_cases float32 hexes tick attacker defender dist s with same | ⟨_, _, attackerWins, fought⟩
  · rw [same]
    exact Territory.refl _
  · rw [fought]
    show Territory s.hexAt (s.fight _ _ _ _ _ _ _ _).hexAt
    rw [(fight_registry_hexAt _ _ _ _ _ _ _ _ _).2.2]
    split_ifs
    · exact captureHex_territory s.landAt distinct _ _
    · exact Territory.refl _

/-- A raid buries its casualties, soldiers of the two sides. -/
theorem raid_buries :
    ∃ died, Buries s (s.raid float32 hexes tick attacker defender dist) died ∧
      ∀ p ∈ died, p ∈ s.soldiers (s.settlementAt attacker).id ∨ p ∈ s.soldiers (s.settlementAt defender).id := by
  obtain ⟨died, buried, sides⟩ : ∃ died, Buries s (s.resolveRaid float32 hexes tick attacker defender dist).1 died ∧
      ∀ p ∈ died, p ∈ s.soldiers (s.settlementAt attacker).id ∨ p ∈ s.soldiers (s.settlementAt defender).id := by
    rcases resolveRaid_cases float32 hexes tick attacker defender dist s with same | ⟨_, _, _, fought⟩
    · rw [same]
      exact ⟨[], Buries.refl s, by simp⟩
    · rw [fought]
      obtain ⟨died, buried, sides⟩ := fight_buries float32 hexes tick attacker defender _ _ _ s
      exact ⟨died, buried.livesKept ⟨fun _ => rfl, rfl, rfl⟩, sides⟩
  -- the count of the raid touches no life
  exact ⟨died, buried.livesKept ⟨fun _ => rfl, rfl, rfl⟩, sides⟩

end Raid

theorem mem_soldiers {s : Simulation} {settID : ℕ} {p : AgentRef} (member : p ∈ s.soldiers settID) :
    (s.agentAt p).alive = true ∧ (s.agentAt p).occupation = .soldier := by
  simpa [soldiers] using (List.mem_filter.mp member).2

/-! ## The guards of a pair -/

section Guards

variable {s t : Simulation} {key : SettRelKey} {pair : WarPair}

/-- A pair that passes the guards has both its settlements indexed. -/
theorem warPair_indexed (passed : s.warPair key = some pair) :
    s.settlementIndex key.a = some pair.a ∧ s.settlementIndex key.b = some pair.b := by
  unfold warPair at passed
  obtain ⟨rel, -, passed⟩ := Option.bind_eq_some_iff.mp passed
  split_ifs at passed
  obtain ⟨settA, indexedA, passed⟩ := Option.bind_eq_some_iff.mp passed
  obtain ⟨settB, indexedB, passed⟩ := Option.bind_eq_some_iff.mp passed
  dsimp only at passed
  split_ifs at passed
  cases passed
  exact ⟨indexedA, indexedB⟩

/-- The guards read only what a week of raids keeps, and the pair's relation. -/
theorem warPair_congr (marched : Marched s t)
    (same : t.registry.relations.lookup key = s.registry.relations.lookup key) :
    t.warPair key = s.warPair key := by
  -- the IDs first: under the lookups they sit in a dependent position
  simp only [warPair, same, marched.settlementIndex, marched.population, marched.position, marched.id]
  simp only [Registry.hasMutualDefense, Registry.getAgreement, Registry.hasPeace, marched.agreements,
    marched.peaceTreaties]
  rfl

/-- Under a sound index and a pair key in normal form, the raids of a pair are
counted and felt at the pair itself, in either direction. -/
theorem warPair_settRelKey (sound : ∀ k q, s.settlementIndex k = some q → (s.settlementAt q).id = k)
    (normal : settRelKey key.a key.b = key) (passed : s.warPair key = some pair) :
    settRelKey (s.settlementAt pair.a).id (s.settlementAt pair.b).id = key ∧
      settRelKey (s.settlementAt pair.b).id (s.settlementAt pair.a).id = key := by
  obtain ⟨indexedA, indexedB⟩ := warPair_indexed passed
  rw [sound _ _ indexedA, sound _ _ indexedB]
  exact ⟨normal, (settRelKey_comm _ _).trans normal⟩

end Guards

/-! ## One pair of the week -/

section Pair

variable (float32 : ℕ → ℕ → ℚ) (hexOrder : SettRelKey → List HexCoord) (tick : ℕ) (s : Simulation)
  (key : SettRelKey)

/-- What the body at a pair can do: nothing, or one raid of the pair in one
direction. -/
theorem warfarePair_cases :
    s.warfarePair float32 hexOrder tick key = s ∨
      ∃ pair, s.warPair key = some pair ∧
        (s.warfarePair float32 hexOrder tick key = s.raid float32 (hexOrder key) tick pair.a pair.b pair.dist ∨
          s.warfarePair float32 hexOrder tick key = s.raid float32 (hexOrder key) tick pair.b pair.a pair.dist) := by
  unfold warfarePair
  cases passed : s.warPair key with
  | none => exact .inl rfl
  | some pair =>
    dsimp only [Option.elim]
    split_ifs
    · exact .inr ⟨pair, rfl, .inl rfl⟩
    · exact .inr ⟨pair, rfl, .inr rfl⟩
    · exact .inl rfl

theorem marched_warfarePair : Marched s (s.warfarePair float32 hexOrder tick key) := by
  rcases warfarePair_cases float32 hexOrder tick s key with raided | ⟨pair, -, raided | raided⟩ <;> rw [raided]
  · exact Marched.refl s
  all_goals exact marched_raid _ _ _ _ _ _ s

theorem warfarePair_territory (distinct : (hexOrder key).Nodup) :
    Territory s.hexAt (s.warfarePair float32 hexOrder tick key).hexAt := by
  rcases warfarePair_cases float32 hexOrder tick s key with raided | ⟨pair, -, raided | raided⟩ <;> rw [raided]
  · exact Territory.refl _
  all_goals exact raid_territory _ _ _ _ _ _ distinct

theorem warfarePair_buries :
    ∃ died, Buries s (s.warfarePair float32 hexOrder tick key) died ∧
      ∀ p ∈ died, (s.agentAt p).occupation = .soldier := by
  rcases warfarePair_cases float32 hexOrder tick s key with raided | ⟨pair, -, raided | raided⟩ <;> rw [raided]
  · exact ⟨[], Buries.refl s, by simp⟩
  all_goals
    obtain ⟨died, buried, sides⟩ := raid_buries float32 (hexOrder key) tick _ _ _ s
    refine ⟨died, buried, fun p member => ?_⟩
    rcases sides p member with side | side
    · exact (mem_soldiers side).2
    · exact (mem_soldiers side).2

variable {s key}

/-- Under a sound index and a pair key in normal form, the body at a pair
writes the relation of that pair only, and raises its raid counter by one when
it raids, which it does only when the pair passes the guards. -/
theorem warfarePair_counts (sound : ∀ k q, s.settlementIndex k = some q → (s.settlementAt q).id = k)
    (normal : settRelKey key.a key.b = key) :
    (∀ k ≠ key, (s.warfarePair float32 hexOrder tick key).registry.relations.lookup k =
      s.registry.relations.lookup k) ∧
    ∀ k, (s.warfarePair float32 hexOrder tick key).registry.raidCount k = s.registry.raidCount k ∨
      (k = key ∧ (s.warfarePair float32 hexOrder tick key).registry.raidCount k = s.registry.raidCount k + 1 ∧
        (s.warPair key).isSome) := by
  rcases warfarePair_cases float32 hexOrder tick s key with same | ⟨pair, passed, raided | raided⟩
  · rw [same]
    exact ⟨fun _ _ => rfl, fun _ => .inl rfl⟩
  all_goals
    obtain ⟨forward, backward⟩ := warPair_settRelKey sound normal passed
    rw [raided]
    refine ⟨fun k other => raid_lookup_of_ne _ _ _ _ _ _ s (by simpa only [forward, backward] using other),
      fun k => ?_⟩
    rw [raid_raidCount]
    split_ifs with here
    · simp only [forward, backward] at here
      exact .inr ⟨here, rfl, by simp [passed]⟩
    · exact .inl rfl

end Pair

/-! ## The week -/

section Week

variable (float32 : ℕ → ℕ → ℚ) (hexOrder : SettRelKey → List HexCoord) (tick : ℕ)

/-- A week of raids moves a pair's raid counter only when the pair passed the
guards of `processWarfare` at the start of the week (hostile, both settlements
indexed with fifty people or more, within five hexes, no alliance, no treaty),
and then by one: one raid per pair and week, in whatever order Go ranges over
`Relations`.  The index is sound and the pair keys are in the normal form
`settRelKey` gives them. -/
theorem processWarfare_raids_eligible_pairs :
    ∀ (order : List SettRelKey) (s : Simulation), order.Nodup →
      (∀ key ∈ order, settRelKey key.a key.b = key) →
      (∀ k q, s.settlementIndex k = some q → (s.settlementAt q).id = k) → ∀ key,
      (s.processWarfare float32 hexOrder order tick).registry.raidCount key = s.registry.raidCount key ∨
        ((s.processWarfare float32 hexOrder order tick).registry.raidCount key = s.registry.raidCount key + 1 ∧
          key ∈ order ∧ (s.warPair key).isSome)
  | [], _, _, _, _, _ => .inl rfl
  | head :: rest, s, nodup, normal, sound, key => by
    obtain ⟨fresh, distinct⟩ := List.nodup_cons.mp nodup
    have marched := marched_warfarePair float32 hexOrder tick s head
    obtain ⟨others, counted⟩ := warfarePair_counts float32 hexOrder tick sound (normal head List.mem_cons_self)
    have soundAfter : ∀ k q, (s.warfarePair float32 hexOrder tick head).settlementIndex k = some q →
        ((s.warfarePair float32 hexOrder tick head).settlementAt q).id = k := by
      intro k q indexed
      rw [marched.id]
      exact sound k q (marched.settlementIndex ▸ indexed)
    -- the rest of the week, from the state after the head pair
    have later := processWarfare_raids_eligible_pairs rest _ distinct
      (fun k member => normal k (List.mem_cons_of_mem head member)) soundAfter key
    change ((s.warfarePair float32 hexOrder tick head).processWarfare float32 hexOrder rest tick).registry.raidCount
        key = _ ∨ (_ = _ ∧ _ ∧ _)
    by_cases here : key = head
    · -- the rest of the week does not come back to the pair
      subst here
      rcases later with same | ⟨-, visited, -⟩
      · rcases counted key with unchanged | ⟨-, raised, passed⟩
        · exact .inl (same.trans unchanged)
        · exact .inr ⟨same.trans raised, List.mem_cons_self, passed⟩
      · exact absurd visited fresh
    · have kept : (s.warfarePair float32 hexOrder tick head).registry.raidCount key = s.registry.raidCount key := by
        rcases counted key with unchanged | ⟨other, -, -⟩
        · exact unchanged
        · exact absurd other here
      rcases later with same | ⟨raised, visited, passed⟩
      · exact .inl (same.trans kept)
      · refine .inr ⟨raised.trans (by rw [kept]), List.mem_cons_of_mem head visited, ?_⟩
        rwa [warPair_congr marched (others key here)] at passed

/-- A week of raids only moves claims between settlements: every hex keeps its
terrain, its settlement and whether it is claimed, a settlement that held a hex
still holds one, and a settlement's own home hex stays its own; for the hexes
of each capture listed once each, as Go ranges over the world map. -/
theorem processWarfare_keeps_territory (order : List SettRelKey) (s : Simulation)
    (distinct : ∀ key ∈ order, (hexOrder key).Nodup) :
    Territory s.hexAt (s.processWarfare float32 hexOrder order tick).hexAt :=
  foldl_invariant (fun t : Simulation => Territory s.hexAt t.hexAt) _ order s
    (fun key member t held => held.trans (warfarePair_territory float32 hexOrder tick t key (distinct key member)))
    (Territory.refl s.hexAt)

/-- A week of raids buries the agents it kills, each counted once in `Deaths`
and inherited once, and they were all soldiers. -/
theorem processWarfare_buries_soldiers (order : List SettRelKey) (s : Simulation) :
    ∃ died, Buries s (s.processWarfare float32 hexOrder order tick) died ∧
      ∀ p ∈ died, (s.agentAt p).occupation = .soldier := by
  -- occupations never change in a raid, so a soldier when it fell was one at the start
  refine (foldl_invariant (fun t : Simulation => Marched s t ∧ ∃ died, Buries s t died ∧
      ∀ p ∈ died, (s.agentAt p).occupation = .soldier) _ order s ?_
      ⟨Marched.refl s, [], Buries.refl s, by simp⟩).2
  rintro key - t ⟨marched, died, buried, soldiers⟩
  obtain ⟨died', buried', soldiers'⟩ := warfarePair_buries float32 hexOrder tick t key
  refine ⟨marched.trans (marched_warfarePair float32 hexOrder tick t key), died' ++ died, buried.trans buried',
    fun p member => ?_⟩
  rcases List.mem_append.mp member with now | before
  · rw [← marched.occupation p]
    exact soldiers' p now
  · exact soldiers p before

end Week

/-- A soldier of twenty-five at home in the settlement with ID `home`. -/
def raidSoldier (id home : ℕ) (combat : ℚ) : Agent :=
  { (default : Agent) with
    id := id, alive := true, age := 25, homeSettID := some home, occupation := .soldier, combatSkill := combat }

/-- Two hostile towns of sixty, three hexes apart on a plains map of their two rings, each holding
its ring: the militaristic first with two soldiers, the second with one weak soldier. -/
def raidWorld : Simulation :=
  { newSimulation
      (fun c => if distance c ⟨0, 0⟩ ≤ 1 then some ⟨.plains, if c = ⟨0, 0⟩ then some 1 else none, some 1⟩
        else if distance c ⟨3, 0⟩ ≤ 1 then some ⟨.plains, if c = ⟨3, 0⟩ then some 2 else none, some 2⟩
        else none)
      [raidSoldier 1 1 1, raidSoldier 2 1 1, raidSoldier 3 2 (1 / 10)]
      [{ (default : Settlement) with id := 1, population := 60, cultureMilitarism := 1 },
       { (default : Settlement) with id := 2, position := ⟨3, 0⟩, population := 60 }] with
    registry := { Registry.fresh with
      relations := (∅ : GoMap SettRelKey SettlementRelation).insert ⟨1, 2⟩ ⟨-9 / 10, 0⟩ } }

/-- The hexes of the map, the two rings, in the order the capture walks them. -/
def raidHexes : List HexCoord :=
  [⟨0, 0⟩, ⟨1, 0⟩, ⟨1, -1⟩, ⟨0, -1⟩, ⟨-1, 0⟩, ⟨-1, 1⟩, ⟨0, 1⟩,
    ⟨3, 0⟩, ⟨4, 0⟩, ⟨4, -1⟩, ⟨3, -1⟩, ⟨2, 0⟩, ⟨2, 1⟩, ⟨3, 1⟩]

theorem raidWorld_index_sound :
    ∀ k q, raidWorld.settlementIndex k = some q → (raidWorld.settlementAt q).id = k :=
  fun _ _ indexed => (MiniWorld.Index.buildIndex_sound _ indexed).2

/-- The first town raids the second in the first week: the pair's counter moves to one. -/
theorem raidWorld_raids_eligible_pairs :
    [(⟨1, 2⟩ : SettRelKey)].Nodup ∧ (∀ key ∈ [(⟨1, 2⟩ : SettRelKey)], settRelKey key.a key.b = key) ∧
      (∀ k q, raidWorld.settlementIndex k = some q → (raidWorld.settlementAt q).id = k) ∧
      (raidWorld.processWarfare (fun _ _ => 0) (fun _ => raidHexes) [⟨1, 2⟩] 0).registry.raidCount ⟨1, 2⟩ = 1 ∧
      (∀ key, (raidWorld.processWarfare (fun _ _ => 0) (fun _ => raidHexes) [⟨1, 2⟩] 0).registry.raidCount key =
          raidWorld.registry.raidCount key ∨
        ((raidWorld.processWarfare (fun _ _ => 0) (fun _ => raidHexes) [⟨1, 2⟩] 0).registry.raidCount key =
            raidWorld.registry.raidCount key + 1 ∧ key ∈ [(⟨1, 2⟩ : SettRelKey)] ∧ (raidWorld.warPair key).isSome)) :=
  ⟨by decide, by decide, raidWorld_index_sound, by decide +kernel,
    processWarfare_raids_eligible_pairs _ _ 0 [⟨1, 2⟩] raidWorld (by decide) (by decide) raidWorld_index_sound⟩

/-- The raid takes the second town's border hex `(2, 0)`, next to the first town's ring, and the
territory of both is kept. -/
theorem raidWorld_keeps_territory :
    (∀ key ∈ [(⟨1, 2⟩ : SettRelKey)], raidHexes.Nodup) ∧
      ((raidWorld.processWarfare (fun _ _ => 0) (fun _ => raidHexes) [⟨1, 2⟩] 0).hexAt ⟨2, 0⟩).map
          (·.claimedBy) = some (some 1) ∧
      Territory raidWorld.hexAt (raidWorld.processWarfare (fun _ _ => 0) (fun _ => raidHexes) [⟨1, 2⟩] 0).hexAt :=
  ⟨fun _ _ => by decide, by decide +kernel, processWarfare_keeps_territory _ _ 0 [⟨1, 2⟩] raidWorld fun _ _ => by decide⟩

end Simulation

end MiniWorld.Engine
