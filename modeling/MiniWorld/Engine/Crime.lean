import MiniWorld.Engine.Stock

/-! # Crime (`crime.go`, with `adjustFactionInfluenceFromCrime` of `factions.go`
and `ProcessBetrayalExpulsion` of `relationships.go`)

Once a day every settlement with residents weighs its law: the deterrence
`guardStrength / (guardStrength + Totality)` grows with the treasury per head,
governance, soldiers, walls, militarism and agreements.  Soldiers are honoured
for it, and then each desperate resident, in list order, may steal from the
neighbour `(simDay + 7i) mod n`: one unit of grain, else of fish, from a victim
holding more than one, when it is starving; else up to three crowns from a
victim richer than twenty, when it is poor.  A thief of its own faction's
member is expelled from the faction, and a caught thief becomes an outlaw and
pays a fine to the treasury.

Theft takes goods only from a victim holding more than one unit, and never from
the thief itself (`theft_stocked`): crime keeps every stock non-negative
(`processCrime_stocked`).

Not modelled: the events, the satisfaction bump of a caught thief, and
`GetDiplomacyCrimeBonus`, the weekly cache of agreement bonuses (a parameter).
-/

namespace MiniWorld.Engine

open MiniWorld.Agents MiniWorld.Phi MiniWorld.Run

/-- The deterrence of a settlement's law enforcement, from `0` (no law) toward
`1`, given its alive soldiers and its agreement bonus. -/
def crimeDeterrence (sett : Settlement) (soldierCount : ℕ) (diplomacyBonus : ℚ) : ℚ :=
  let soldierRatio := (soldierCount : ℚ) / ((sett.population : ℚ) + 1)
  let militaryBonus := 1 + soldierRatio * being * 10
  let wallBonus := 1 + (sett.wallLevel : ℚ) * psyche
  let cultureBonus := 1 + sett.cultureMilitarism * agnosis * 0.5
  let diplomacyBonus := 1 + diplomacyBonus
  let guardStrength := (sett.treasury : ℚ) / ((sett.population : ℚ) + 1) * sett.governanceScore *
    militaryBonus * wallBonus * cultureBonus * diplomacyBonus
  guardStrength / (guardStrength + totality)

/-- The relationships after a crime against their holder by `targetID`: the
first bond with it loses sentiment and trust, clamped at `-1` and `0`; `none`
when there is no such bond. -/
def damageRelationships (targetID : AgentID) (sentimentDmg trustDmg : ℚ) :
    List Relationship → Option (List Relationship)
  | [] => none
  | r :: rest =>
    if r.targetID = targetID then
      some ({ r with sentiment := max (r.sentiment - sentimentDmg) (-1),
                     trust := max (r.trust - trustDmg) 0 } :: rest)
    else (damageRelationships targetID sentimentDmg trustDmg rest).map (r :: ·)

/-- `damageRelationship`: the bond with the offender is damaged, or, with none,
a hostile one is made while fewer than twenty are held. -/
def damageRelationship (a : Agent) (targetID : AgentID) (sentimentDmg trustDmg : ℚ) : Agent :=
  match damageRelationships targetID sentimentDmg trustDmg a.relationships with
  | some rels => { a with relationships := rels }
  | none =>
    if a.relationships.length < 20 then
      { a with relationships := a.relationships ++ [{ targetID, sentiment := -sentimentDmg, trust := 0 }] }
    else a

/-- A damaged bond is all that changes: goods and cargo stay. -/
theorem damageRelationship_goods (a : Agent) (targetID : AgentID) (sentimentDmg trustDmg : ℚ) :
    (damageRelationship a targetID sentimentDmg trustDmg).inventory = a.inventory ∧
      (damageRelationship a targetID sentimentDmg trustDmg).tradeCargo = a.tradeCargo := by
  unfold damageRelationship
  split
  · exact ⟨rfl, rfl⟩
  · split_ifs <;> exact ⟨rfl, rfl⟩

namespace Simulation

/-- `adjustFactionInfluenceFromCrime`: the Crown (ID 1) loses half a point in
the settlement where it holds more than one, and the Ashen Path (ID 5) gains
`0.3` there, from zero when it held none. -/
def adjustFactionInfluenceFromCrime (s : Simulation) (settID : ℕ) : Simulation :=
  s.factions.foldl (fun s f =>
    let fac := s.factionAt f
    if fac.id = 1 then
      match fac.influence.lookup settID with
      | some inf =>
        if inf > 1 then s.modifyFaction f fun t => { t with influence := t.influence.insert settID (inf - 0.5) }
        else s
      | none => s
    else if fac.id = 5 then
      s.modifyFaction f fun t =>
        { t with influence := t.influence.insert settID ((t.influence.lookup settID).getD 0 + 0.3) }
    else s) s

/-- `ProcessBetrayalExpulsion`: a criminal that wronged a member of its own
faction loses the faction. -/
def processBetrayalExpulsion (s : Simulation) (criminal victim : AgentRef) : Simulation :=
  match (s.agentAt criminal).factionID, (s.agentAt victim).factionID with
  | some c, some v => if c = v then s.modifyAgent criminal fun a => { a with factionID := none } else s
  | _, _ => s

/-- The food theft of a starving thief: a unit of grain, else of fish, from a
victim holding more than one; `none` when the victim has neither to spare. -/
def stealFood (s : Simulation) (thief victim : AgentRef) : Option Simulation :=
  if (s.agentAt victim).inventory goodGrain > 1 then
    some ((s.addInventory victim goodGrain (-1)).addInventory thief goodGrain 1)
  else if (s.agentAt victim).inventory goodFish > 1 then
    some ((s.addInventory victim goodFish (-1)).addInventory thief goodFish 1)
  else none

/-- The crown theft of a poor thief: three crowns, or all the victim has. -/
def stealCrowns (s : Simulation) (thief victim : AgentRef) : Simulation :=
  let stolen := min 3 (s.agentAt victim).wealth
  (s.debitAgent victim stolen).creditAgent thief stolen

/-- The theft itself, and the damage it does to the victim's bond with the thief
and to the factions of settlement `settID`. -/
def theft (s : Simulation) (settID : ℕ) (thief victim : AgentRef) : Simulation :=
  let a := s.agentAt thief
  if a.needs.survival < 0.2 then
    match s.stealFood thief victim with
    | some stolen =>
      (stolen.modifyAgent victim fun v => damageRelationship v a.id 0.3 0.2).adjustFactionInfluenceFromCrime
        settID
    | none => s
  else if a.wealth < 5 ∧ (s.agentAt victim).wealth > 20 then
    ((s.stealCrowns thief victim).modifyAgent victim fun v => damageRelationship v a.id 0.4 0.3
      ).adjustFactionInfluenceFromCrime settID
  else s

/-- A thief caught on day `simDay`: branded an outlaw and fined `Agnosis` of its
wealth, rounded down, into the treasury of `q`. -/
def catchThief (s : Simulation) (q : SettRef) (p : AgentRef) (deterrence : ℚ) (simDay : ℕ) :
    Simulation :=
  let a := s.agentAt p
  if deterrence > 0.3 ∧ (((simDay + a.id * 3) % 2 ^ 64 % 100 : ℕ) : ℚ) / 100 < deterrence then
    let fine := min ⌊(a.wealth : ℚ) * agnosis⌋₊ a.wealth
    (s.modifyAgent p fun a => { a with role := .outlaw, wealth := a.wealth - fine }).creditSettlement q fine
  else s

/-- The soldiers' daily honour: purpose and esteem rise with the deterrence,
capped at `1`. -/
def honorSoldier (purposeBoost esteemBoost : ℚ) (s : Simulation) (p : AgentRef) : Simulation :=
  let a := s.agentAt p
  if a.alive ∧ a.occupation = .soldier then
    s.modifyAgent p fun a => { a with
      needs := { a.needs with purpose := min (a.needs.purpose + purposeBoost) 1,
                              esteem := min (a.needs.esteem + esteemBoost) 1 } }
  else s

/-- The body of the crime loop for the resident `p` at index `i` of
`settAgents`: a desperate, incoherent resident whose chance beats the day's
threshold picks its victim by index; a victim that is itself or dead is spared. -/
def commitCrime (q : SettRef) (settAgents : List AgentRef) (deterrence : ℚ) (simDay : ℕ)
    (s : Simulation) (entry : AgentRef × ℕ) : Simulation :=
  let p := entry.1
  let a := s.agentAt p
  if !a.alive then s
  else if a.needs.survival > 0.3 ∧ a.needs.safety > 0.2 then s
  else if a.soul.cittaCoherence > matter then s
  else
    let crimeChance := (1 - a.needs.survival) * (1 - deterrence) * agnosis
    let threshold := (((simDay * a.id) % 2 ^ 64 % 100 : ℕ) : ℚ) / 100
    if crimeChance < threshold then s
    else
      match settAgents[(simDay + entry.2 * 7) % 2 ^ 64 % settAgents.length]? with
      | none => s
      | some victim =>
        if (s.agentAt victim).id = a.id ∨ !(s.agentAt victim).alive then s
        else
          let s := s.theft (s.settlementAt q).id p victim
          let s := s.processBetrayalExpulsion p victim
          s.catchThief q p deterrence simDay

/-- One settlement's day of crime. -/
def settlementCrime (diplomacyBonus : ℕ → ℚ) (simDay : ℕ) (s : Simulation) (q : SettRef) : Simulation :=
  let sett := s.settlementAt q
  let settAgents := s.settlementAgents sett.id
  if settAgents = [] then s
  else
    let soldierCount :=
      (settAgents.filter fun p => (s.agentAt p).alive && (s.agentAt p).occupation == .soldier).length
    let deterrence := crimeDeterrence sett soldierCount (diplomacyBonus sett.id)
    let s := if soldierCount > 0 then
        settAgents.foldl (honorSoldier (deterrence * agnosis * 0.3) (deterrence * agnosis * 0.2)) s
      else s
    settAgents.zipIdx.foldl (commitCrime q settAgents deterrence simDay) s

/-- `processCrime` at `tick`, with `diplomacyBonus` the agreement bonus of each
settlement ID. -/
def processCrime (diplomacyBonus : ℕ → ℚ) (tick : ℕ) (s : Simulation) : Simulation :=
  s.settlements.foldl (settlementCrime diplomacyBonus (tick / ticksPerSimDay)) s

/-! ## Crime keeps the stock -/

section Stocked

variable {s : Simulation}

theorem adjustFactionInfluenceFromCrime_agentAt (s : Simulation) (settID : ℕ) :
    (s.adjustFactionInfluenceFromCrime settID).agentAt = s.agentAt := by
  apply foldl_invariant (fun t : Simulation => t.agentAt = s.agentAt) _ s.factions s _ rfl
  rintro f - t same
  dsimp only
  split_ifs
  · split
    · split_ifs
      · exact same
      · exact same
    · exact same
  · exact same
  · exact same

theorem Stocked.damageRelationship (stocked : s.Stocked) (p : AgentRef) (targetID : AgentID)
    (sentimentDmg trustDmg : ℚ) :
    (s.modifyAgent p fun v => MiniWorld.Engine.damageRelationship v targetID sentimentDmg trustDmg).Stocked :=
  stocked.modifyAgent_goods p (fun a => (damageRelationship_goods a _ _ _).1)
    (fun a => (damageRelationship_goods a _ _ _).2)

/-- Food is taken only from a victim holding more than one unit. -/
theorem stealFood_stocked (stocked : s.Stocked) {thief victim : AgentRef} {stolen : Simulation}
    (taken : s.stealFood thief victim = some stolen) : stolen.Stocked := by
  unfold stealFood at taken
  split_ifs at taken with grain fish
  · cases taken
    have left : (s.addInventory victim goodGrain (-1)).Stocked := stocked.addInventory (by omega)
    exact left.addInventory_of_nonneg thief goodGrain Int.one_pos.le
  · cases taken
    have left : (s.addInventory victim goodFish (-1)).Stocked := stocked.addInventory (by omega)
    exact left.addInventory_of_nonneg thief goodFish Int.one_pos.le

theorem theft_stocked (stocked : s.Stocked) (settID : ℕ) (thief victim : AgentRef) :
    (s.theft settID thief victim).Stocked := by
  unfold theft
  dsimp only
  split_ifs
  · split
    · next stolen taken =>
      exact ((stealFood_stocked stocked taken).damageRelationship victim _ _ _).of_agentAt
        (adjustFactionInfluenceFromCrime_agentAt _ _)
    · exact stocked
  · -- crowns only: the thief's and the victim's goods stay
    have robbed : (s.stealCrowns thief victim).Stocked := (stocked.debitAgent victim _).creditAgent thief _
    exact (robbed.damageRelationship victim _ _ _).of_agentAt (adjustFactionInfluenceFromCrime_agentAt _ _)
  · exact stocked

theorem processBetrayalExpulsion_stocked (stocked : s.Stocked) (criminal victim : AgentRef) :
    (s.processBetrayalExpulsion criminal victim).Stocked := by
  unfold processBetrayalExpulsion
  split
  · split_ifs
    · exact stocked.modifyAgent_goods criminal (fun _ => rfl) (fun _ => rfl)
    · exact stocked
  · exact stocked

theorem catchThief_stocked (stocked : s.Stocked) (q : SettRef) (p : AgentRef) (deterrence : ℚ)
    (simDay : ℕ) : (s.catchThief q p deterrence simDay).Stocked := by
  unfold catchThief
  dsimp only
  split_ifs
  · refine Stocked.creditSettlement ?_ q _
    exact stocked.modifyAgent_goods p (fun _ => rfl) (fun _ => rfl)
  · exact stocked

theorem commitCrime_stocked (q : SettRef) (settAgents : List AgentRef) (deterrence : ℚ) (simDay : ℕ)
    (entry : AgentRef × ℕ) (stocked : s.Stocked) :
    (commitCrime q settAgents deterrence simDay s entry).Stocked := by
  unfold commitCrime
  dsimp only
  split_ifs
  any_goals exact stocked
  split
  · exact stocked
  · split_ifs
    · exact stocked
    · exact catchThief_stocked (processBetrayalExpulsion_stocked (theft_stocked stocked _ _ _) _ _) _ _ _ _

theorem settlementCrime_stocked (diplomacyBonus : ℕ → ℚ) (simDay : ℕ) (q : SettRef) (stocked : s.Stocked) :
    (settlementCrime diplomacyBonus simDay s q).Stocked := by
  unfold settlementCrime
  extract_lets sett settAgents soldierCount deterrence honored
  split_ifs
  · exact stocked
  · have honoredStocked : honored.Stocked := by
      simp only [honored]
      split_ifs
      · apply foldl_invariant Stocked _ settAgents s _ stocked
        intro p _ t tStocked
        unfold honorSoldier
        extract_lets a
        split_ifs
        · exact tStocked.modifyAgent_goods p (fun _ => rfl) (fun _ => rfl)
        · exact tStocked
      · exact stocked
    apply foldl_invariant Stocked _ _ honored _ honoredStocked
    intro entry _ t tStocked
    exact commitCrime_stocked q settAgents deterrence simDay entry tStocked

theorem processCrime_stocked (diplomacyBonus : ℕ → ℚ) (tick : ℕ) (stocked : s.Stocked) :
    (s.processCrime diplomacyBonus tick).Stocked := by
  apply foldl_invariant Stocked _ s.settlements s _ stocked
  intro q _ t tStocked
  exact settlementCrime_stocked diplomacyBonus _ q tStocked

end Stocked

end Simulation

end MiniWorld.Engine
