import MiniWorld.Engine.Crime
import MiniWorld.Engine.Membership
import MiniWorld.Engine.Compaction
import MiniWorld.Persistence.Agents
import MiniWorld.Persistence.Relationships

/-! # Relationships (`relationships.go`, with `damageRelationship` of `crime.go`)

Every day each settlement's living agents of age ten and up interact a few
times: two distinct positions of the list, taken from the day and the
settlement, each strengthen their bond with the other (`strengthenBond`).  Once
a week compatible single adults with mutual bonds form families
(`boostRelationship`), mentors of high coherence are paired with mentees of low
coherence (`strengthenBond` both ways), and faction members recruit their
friends; rivals gain trade skill every day.

A relationship list is appended to at three places: `strengthenBond` and
`damageRelationship`, which look for the bond first and append only while
fewer than twenty are held, and `LoadRelationships`, which appends every row it
reads.  `Bonds` is what a list may hold: at most twenty bonds, to distinct
targets, none to the holder itself.

* the daily pass keeps it (`processRelationships_settledBonded`): the two
  positions of an interaction differ, and, no agent being listed twice and no
  two sharing an ID (`Membership`), they are two agents with two IDs; a mentor
  and its mentee are told apart by their coherence;
* crime keeps it: the victim is spared when it has the thief's ID
  (`processCrime_settledBonded`);
* the compaction of the dead only drops bonds (`compactDeadAgents_pruned`).

Every other writer of an agent keeps the targets of its bonds (`Steady`).  The
save, the restart and the run over both are in `Deployment`.

Not modelled: the events, the memories imprinted at a marriage or a first
mentoring, and the satisfaction cost of a rivalry.  The model's `Agent` has no
sex, so `formFamilies` reads it through a parameter.
-/

namespace MiniWorld.Engine

open MiniWorld.Agents MiniWorld.Phi MiniWorld.Run MiniWorld.Index

inductive Sex where
  | male
  | female
  deriving DecidableEq

/-! ## The writers of one list -/

/-- The find loop of `strengthenBond`, `boostRelationship` and
`damageRelationship`: the first bond with `targetID`, changed by `adjust`;
`none` when there is no such bond. -/
def adjustBond (adjust : Relationship → Relationship) (targetID : AgentID) (rels : List Relationship) :
    Option (List Relationship) :=
  (rels.findIdx? fun r => r.targetID = targetID).map fun i => rels.modify i adjust

/-- A bond raised by the boosts, sentiment and trust each capped at `1`. -/
def boost (sentimentBoost trustBoost : ℚ) (r : Relationship) : Relationship :=
  { r with sentiment := min (r.sentiment + sentimentBoost) 1, trust := min (r.trust + trustBoost) 1 }

/-- A bond damaged as `damageRelationship` does: sentiment floored at `-1`, trust at `0`. -/
def damage (sentimentDmg trustDmg : ℚ) (r : Relationship) : Relationship :=
  { r with sentiment := max (r.sentiment - sentimentDmg) (-1), trust := max (r.trust - trustDmg) 0 }

@[simp] theorem boost_targetID (sentimentBoost trustBoost : ℚ) (r : Relationship) :
    (boost sentimentBoost trustBoost r).targetID = r.targetID := rfl

@[simp] theorem damage_targetID (sentimentDmg trustDmg : ℚ) (r : Relationship) :
    (damage sentimentDmg trustDmg r).targetID = r.targetID := rfl

/-- `strengthenBond`: the bond of `fromAgent` with `toAgent` gains `Agnosis·0.1`
of sentiment and `Agnosis·0.05` of trust; with none, a slightly positive one is
made, unless twenty are held. -/
def strengthenBond (fromAgent toAgent : Agent) : Agent :=
  (adjustBond (boost (agnosis * 0.1) (agnosis * 0.05)) toAgent.id fromAgent.relationships).elim
    (if fromAgent.relationships.length ≥ 20 then fromAgent
    else { fromAgent with relationships := fromAgent.relationships ++
      [{ targetID := toAgent.id, sentiment := agnosis * 0.2, trust := agnosis * 0.1 }] })
    fun rels => { fromAgent with relationships := rels }

/-- `boostRelationship`: the bond with `targetID` rises; with none, nothing changes. -/
def boostRelationship (a : Agent) (targetID : AgentID) (sentimentBoost trustBoost : ℚ) : Agent :=
  (adjustBond (boost sentimentBoost trustBoost) targetID a.relationships).elim a
    fun rels => { a with relationships := rels }

/-! ## The daily pass -/

namespace Simulation

/-- The `i`-th interaction of day `simDay` among `alive`, the living agents of
age ten and up of the settlement with ID `settID`: two positions from the day
and the settlement, the second moved on by one when they coincide, and each
agent strengthens its bond with the other. -/
def interact (alive : List AgentRef) (settID simDay : ℕ) (s : Simulation) (i : ℕ) : Simulation :=
  let idx1 := (simDay * (i + 1) + settID * 7) % 2 ^ 64 % alive.length
  let idx2 := (simDay * (i + 1) * 3 + settID * 13 + 1) % 2 ^ 64 % alive.length
  let idx2 := if idx1 = idx2 then (idx2 + 1) % alive.length else idx2
  let a1 := alive.getD idx1 0
  let a2 := alive.getD idx2 0
  let s := s.modifyAgent a1 fun a => strengthenBond a (s.agentAt a2)
  s.modifyAgent a2 fun a => strengthenBond a (s.agentAt a1)

/-- The partner search of `formFamilies` for `p`: over `p`'s relationships in
order, a bond of sentiment above the best score so far (from `0.4`) with a
living agent of age eighteen and up, of the other sex, that holds a bond of
sentiment above `0.3` back, makes that agent the best match. -/
def bestMatch (sexOf : Agent → Sex) (s : Simulation) (p : AgentRef) : Option AgentRef :=
  let a := s.agentAt p
  (a.relationships.foldl (fun (best : Option AgentRef × ℚ) rel =>
    if rel.sentiment ≤ best.2 then best
    else (s.agentIndex rel.targetID).elim best fun q =>
      let partner := s.agentAt q
      if !partner.alive ∨ partner.age < 18 ∨ sexOf partner = sexOf a then best
      else if partner.relationships.any fun partnerRel =>
          partnerRel.targetID = a.id ∧ partnerRel.sentiment > 0.3 then (some q, rel.sentiment)
      else best) (none, 0.4)).1

/-- The body of `formFamilies` for `p`: a single adult of eighteen to fifty with
a best match boosts the bond both ways, and both gain belonging, capped at `1`
after both gains. -/
def formFamily (sexOf : Agent → Sex) (s : Simulation) (p : AgentRef) : Simulation :=
  let a := s.agentAt p
  if a.age < 18 ∨ a.age > 50 then s
  else if a.relationships.any fun rel => rel.sentiment > 0.7 ∧ rel.trust > 0.5 then s
  else (bestMatch sexOf s p).elim s fun q =>
    let bestID := (s.agentAt q).id
    let s := s.modifyAgent p fun a => boostRelationship a bestID 0.3 0.2
    let s := s.modifyAgent q fun b => boostRelationship b a.id 0.3 0.2
    let s := s.modifyAgent p fun a =>
      { a with needs := { a.needs with belonging := a.needs.belonging + agnosis * 0.3 } }
    let s := s.modifyAgent q fun b =>
      { b with needs := { b.needs with belonging := b.needs.belonging + agnosis * 0.3 } }
    let s := s.modifyAgent p fun a => { a with needs := { a.needs with belonging := min a.needs.belonging 1 } }
    s.modifyAgent q fun b => { b with needs := { b.needs with belonging := min b.needs.belonging 1 } }

def formFamilies (sexOf : Agent → Sex) (alive : List AgentRef) (s : Simulation) : Simulation :=
  alive.foldl (formFamily sexOf) s

/-- The pair loop body of `processMentorship`, for a mentee and its mentor: the
mentee's coherence grows by `Agnosis·0.025`, the mentor's purpose by
`Agnosis·0.1` up to `1`, and each strengthens its bond with the other. -/
def mentorPair (s : Simulation) (pair : AgentRef × AgentRef) : Simulation :=
  let s := s.modifyAgent pair.1 fun a => { a with soul := a.soul.adjustCoherence (agnosis * 0.025) }
  let s := s.modifyAgent pair.2 fun a =>
    { a with needs := { a.needs with purpose := min (a.needs.purpose + agnosis * 0.1) 1 } }
  let s := s.modifyAgent pair.1 fun a => strengthenBond a (s.agentAt pair.2)
  s.modifyAgent pair.2 fun a => strengthenBond a (s.agentAt pair.1)

/-- `processMentorship`: the agents of coherence above `0.6` mentor, in order,
those of coherence below `0.3`, one each. -/
def processMentorship (alive : List AgentRef) (s : Simulation) : Simulation :=
  let mentors := alive.filter fun p => (s.agentAt p).soul.cittaCoherence > 0.6
  let mentees := alive.filter fun p =>
    ¬(s.agentAt p).soul.cittaCoherence > 0.6 ∧ (s.agentAt p).soul.cittaCoherence < 0.3
  (mentees.zip mentors).foldl mentorPair s

/-- `processFactionRecruitment`: a faction member recruits, into its faction,
every living agent of no faction it holds a bond of sentiment above `0.6` with. -/
def processFactionRecruitment (alive : List AgentRef) (s : Simulation) : Simulation :=
  alive.foldl (fun s p =>
    (s.agentAt p).factionID.elim s fun _ =>
      (s.agentAt p).relationships.foldl (fun s rel =>
        if rel.sentiment ≤ 0.6 then s
        else (s.agentIndex rel.targetID).elim s fun q =>
          if !(s.agentAt q).alive ∨ (s.agentAt q).factionID.isSome then s
          else s.modifyAgent q fun t => { t with factionID := (s.agentAt p).factionID }) s) s

/-- `processRivalries`: each bond of sentiment below `-0.5` with a living agent,
both holding more than a hundred crowns, gives the holder `0.002` of trade
skill. -/
def processRivalries (alive : List AgentRef) (s : Simulation) : Simulation :=
  alive.foldl (fun s p =>
    (s.agentAt p).relationships.foldl (fun s rel =>
      if rel.sentiment ≥ -0.5 then s
      else (s.agentIndex rel.targetID).elim s fun q =>
        if !(s.agentAt q).alive then s
        else if (s.agentAt p).wealth ≤ 100 ∨ (s.agentAt q).wealth ≤ 100 then s
        else s.modifyAgent p fun a => { a with tradeSkill := a.tradeSkill + 0.002 }) s) s

/-- One settlement's day of `processRelationships`: one interaction per ten
living agents of age ten and up, at least one and at most twenty; the weekly
families, mentoring and recruitment; and the rivalries. -/
def settlementRelationships (sexOf : Agent → Sex) (simDay : ℕ) (s : Simulation) (q : SettRef) :
    Simulation :=
  let sett := s.settlementAt q
  let alive := (s.settlementAgents sett.id).filter fun p => (s.agentAt p).alive ∧ (s.agentAt p).age ≥ 10
  if alive.length < 2 then s
  else
    let interactions := min (max (alive.length / 10) 1) 20
    let s := (List.range interactions).foldl (interact alive sett.id simDay) s
    let s := if simDay % 7 = 0 then
        ((s.formFamilies sexOf alive).processMentorship alive).processFactionRecruitment alive
      else s
    s.processRivalries alive

/-- `processRelationships` at `tick`. -/
def processRelationships (sexOf : Agent → Sex) (tick : ℕ) (s : Simulation) : Simulation :=
  s.settlements.foldl (settlementRelationships sexOf (tick / ticksPerSimDay)) s

end Simulation

/-! ## What a list may hold -/

/-- The relationships an agent with ID `holder` may hold: at most twenty, to
distinct targets, none to itself. -/
structure Bonds (holder : AgentID) (rels : List Relationship) : Prop where
  bounded : rels.length ≤ 20
  distinct : (rels.map (·.targetID)).Nodup
  not_self : holder ∉ rels.map (·.targetID)

section Bonds

variable {holder : AgentID} {rels rels' : List Relationship}

theorem Bonds.nil (holder : AgentID) : Bonds holder [] := ⟨by simp, List.nodup_nil, by simp⟩

theorem Bonds.of_targets (bonds : Bonds holder rels) (same : rels'.map (·.targetID) = rels.map (·.targetID)) :
    Bonds holder rels' := by
  have lengths : rels'.length = rels.length := by simpa using congrArg List.length same
  exact ⟨lengths ▸ bonds.bounded, same ▸ bonds.distinct, same ▸ bonds.not_self⟩

theorem Bonds.sublist (bonds : Bonds holder rels) (sub : rels'.Sublist rels) : Bonds holder rels' :=
  ⟨sub.length_le.trans bonds.bounded, (sub.map _).nodup bonds.distinct,
    fun member => bonds.not_self ((sub.map _).subset member)⟩

theorem Bonds.perm (bonds : Bonds holder rels) (perm : rels'.Perm rels) : Bonds holder rels' :=
  ⟨perm.length_eq ▸ bonds.bounded, (perm.map _).nodup_iff.mpr bonds.distinct,
    fun member => bonds.not_self ((perm.map _).mem_iff.mp member)⟩

/-- A new bond to a target not yet held and not the holder, while fewer than twenty are held. -/
theorem Bonds.append (bonds : Bonds holder rels) {r : Relationship} (room : rels.length < 20)
    (fresh : r.targetID ∉ rels.map (·.targetID)) (other : r.targetID ≠ holder) : Bonds holder (rels ++ [r]) := by
  refine ⟨by simp; omega, ?_, ?_⟩
  · rw [List.map_append, List.map_singleton, List.nodup_append]
    exact ⟨bonds.distinct, List.nodup_singleton _, fun a held b last => by
      rw [List.mem_singleton.mp last]
      rintro rfl
      exact fresh held⟩
  · rw [List.map_append, List.map_singleton, List.mem_append, List.mem_singleton, not_or]
    exact ⟨bonds.not_self, Ne.symm other⟩

end Bonds

/-! ## The find loop -/

section AdjustBond

variable {adjust : Relationship → Relationship} {targetID : AgentID} {rels rels' : List Relationship}

/-- An adjustment that keeps the target keeps the targets of the list, in order. -/
theorem adjustBond_targets (keeps : ∀ r, (adjust r).targetID = r.targetID)
    (found : adjustBond adjust targetID rels = some rels') : rels'.map (·.targetID) = rels.map (·.targetID) := by
  obtain ⟨i, -, rfl⟩ := Option.map_eq_some_iff.mp found
  apply List.ext_getElem (by simp)
  intro j inside _
  simp only [List.getElem_map, List.getElem_modify]
  split_ifs
  · exact keeps _
  · rfl

theorem adjustBond_eq_none : adjustBond adjust targetID rels = none ↔ targetID ∉ rels.map (·.targetID) := by
  simp [adjustBond, List.findIdx?_eq_none_iff]

theorem Bonds.adjustBond {holder : AgentID} (bonds : Bonds holder rels)
    (keeps : ∀ r, (adjust r).targetID = r.targetID)
    (found : adjustBond adjust targetID rels = some rels') : Bonds holder rels' :=
  bonds.of_targets (adjustBond_targets keeps found)

/-- `damageRelationship`'s own loop is the find loop with `damage`. -/
theorem damageRelationships_eq_adjustBond (sentimentDmg trustDmg : ℚ) :
    ∀ rels, damageRelationships targetID sentimentDmg trustDmg rels =
      adjustBond (damage sentimentDmg trustDmg) targetID rels
  | [] => rfl
  | r :: rest => by
    rw [damageRelationships, damageRelationships_eq_adjustBond sentimentDmg trustDmg rest]
    unfold adjustBond
    rw [List.findIdx?_cons]
    by_cases here : r.targetID = targetID
    · simp [here, damage]
    · simp [here, Option.map_map, Function.comp_def]

end AdjustBond

/-! ## Writers of one agent -/

/-- A change of an agent's relationships and of nothing else. -/
def RelationshipsOnly (change : Agent → Agent) : Prop :=
  ∀ a, change a = { a with relationships := (change a).relationships }

theorem strengthenBond_only (toAgent : Agent) : RelationshipsOnly fun a => strengthenBond a toAgent := by
  intro a
  dsimp only
  unfold strengthenBond
  cases adjustBond (boost (agnosis * 0.1) (agnosis * 0.05)) toAgent.id a.relationships with
  | none =>
    dsimp only [Option.elim]
    split_ifs <;> rfl
  | some rels => rfl

theorem boostRelationship_only (targetID : AgentID) (sentimentBoost trustBoost : ℚ) :
    RelationshipsOnly fun a => boostRelationship a targetID sentimentBoost trustBoost := by
  intro a
  dsimp only
  unfold boostRelationship
  cases adjustBond (boost sentimentBoost trustBoost) targetID a.relationships <;> rfl

theorem damageRelationship_only (targetID : AgentID) (sentimentDmg trustDmg : ℚ) :
    RelationshipsOnly fun a => damageRelationship a targetID sentimentDmg trustDmg := by
  intro a
  dsimp only
  unfold damageRelationship
  split
  · rfl
  · split_ifs <;> rfl

theorem RelationshipsOnly.id {change : Agent → Agent} (only : RelationshipsOnly change) (a : Agent) :
    (change a).id = a.id :=
  (congrArg Agent.id (only a)).trans rfl

theorem RelationshipsOnly.homeSettID {change : Agent → Agent} (only : RelationshipsOnly change) (a : Agent) :
    (change a).homeSettID = a.homeSettID :=
  (congrArg Agent.homeSettID (only a)).trans rfl

theorem RelationshipsOnly.alive {change : Agent → Agent} (only : RelationshipsOnly change) (a : Agent) :
    (change a).alive = a.alive :=
  (congrArg Agent.alive (only a)).trans rfl

/-- `strengthenBond` keeps what its holder may hold, when the other agent has another ID. -/
theorem strengthenBond_bonds {a b : Agent} (bonds : Bonds a.id a.relationships) (other : b.id ≠ a.id) :
    Bonds (strengthenBond a b).id (strengthenBond a b).relationships := by
  rw [(strengthenBond_only b).id a]
  unfold strengthenBond
  cases found : adjustBond (boost (agnosis * 0.1) (agnosis * 0.05)) b.id a.relationships with
  | some rels =>
    dsimp only [Option.elim]
    exact bonds.adjustBond (boost_targetID _ _) found
  | none =>
    -- no bond with `b` yet: one is made while there is room
    dsimp only [Option.elim]
    split_ifs with full
    · exact bonds
    · exact bonds.append (by omega) (adjustBond_eq_none.mp found) other

/-- `damageRelationship` keeps what its holder may hold, when the offender has another ID. -/
theorem damageRelationship_bonds {a : Agent} {targetID : AgentID} (bonds : Bonds a.id a.relationships)
    (other : targetID ≠ a.id) (sentimentDmg trustDmg : ℚ) :
    Bonds (damageRelationship a targetID sentimentDmg trustDmg).id
      (damageRelationship a targetID sentimentDmg trustDmg).relationships := by
  rw [(damageRelationship_only targetID sentimentDmg trustDmg).id a]
  unfold damageRelationship
  rw [damageRelationships_eq_adjustBond]
  split
  · next rels found => exact bonds.adjustBond (damage_targetID _ _) found
  · next found =>
    split_ifs with room
    · exact bonds.append room (adjustBond_eq_none.mp found) other
    · exact bonds

/-- `boostRelationship` keeps the targets, in order. -/
theorem boostRelationship_targets (a : Agent) (targetID : AgentID) (sentimentBoost trustBoost : ℚ) :
    (boostRelationship a targetID sentimentBoost trustBoost).relationships.map (·.targetID) =
      a.relationships.map (·.targetID) := by
  unfold boostRelationship
  cases found : adjustBond (boost sentimentBoost trustBoost) targetID a.relationships with
  | none => rfl
  | some rels =>
    dsimp only [Option.elim]
    exact adjustBond_targets (boost_targetID _ _) found

namespace Simulation

/-! ## Steps that keep every bond's target -/

/-- `t` holds every record of `s` under its ID, with the targets of its
relationships, in order. -/
def BondsKept (s t : Simulation) : Prop :=
  ∀ p, (t.agentAt p).id = (s.agentAt p).id ∧
    (t.agentAt p).relationships.map (·.targetID) = (s.agentAt p).relationships.map (·.targetID)

/-- Every record holds relationships its agent may hold. -/
def Bonded (s : Simulation) : Prop := ∀ p, Bonds (s.agentAt p).id (s.agentAt p).relationships

/-- A step that leaves the membership alone (`Settled`) and keeps every bond's target. -/
def Steady (s t : Simulation) : Prop := Settled s t ∧ BondsKept s t

/-- `t` keeps the membership of `s`, and every agent of `t` holds what it may: what each
writer of the daily pass and of crime leaves of a world whose agents hold what they may. -/
def SettledBonded (s t : Simulation) : Prop := Settled s t ∧ t.Bonded

section Steady

variable {s t u : Simulation}

theorem BondsKept.refl (s : Simulation) : BondsKept s s := fun _ => ⟨rfl, rfl⟩

theorem BondsKept.trans (first : BondsKept s t) (second : BondsKept t u) : BondsKept s u :=
  fun p => ⟨(second p).1.trans (first p).1, (second p).2.trans (first p).2⟩

theorem Steady.refl (s : Simulation) : Steady s s := ⟨Settled.refl s, BondsKept.refl s⟩

theorem Steady.trans (first : Steady s t) (second : Steady t u) : Steady s u :=
  ⟨first.1.trans second.1, first.2.trans second.2⟩

theorem steady_foldl {α : Type} (body : Simulation → α → Simulation) (each : ∀ t a, Steady t (body t a))
    (items : List α) (s : Simulation) : Steady s (items.foldl body s) :=
  foldl_invariant (Steady s) body items s (fun a _ t kept => kept.trans (each t a)) (Steady.refl s)

/-- A write that keeps an agent's ID, home, `Alive` flag and targets. -/
theorem steady_modifyAgent (s : Simulation) (p : AgentRef) {change : Agent → Agent}
    (keepsId : (change (s.agentAt p)).id = (s.agentAt p).id)
    (keepsHome : (change (s.agentAt p)).homeSettID = (s.agentAt p).homeSettID)
    (keepsAlive : (change (s.agentAt p)).alive = (s.agentAt p).alive)
    (keepsTargets : (change (s.agentAt p)).relationships.map (·.targetID) =
      (s.agentAt p).relationships.map (·.targetID)) :
    Steady s (s.modifyAgent p change) := by
  refine ⟨settled_modifyAgent s p keepsId keepsHome fun alive => keepsAlive.symm.trans alive, fun p' => ?_⟩
  by_cases here : p' = p
  · subst here
    simp [keepsId, keepsTargets]
  · simp [modifyAgent_agentAt, here]

theorem RelationshipsOnly.settled {change : Agent → Agent} (only : RelationshipsOnly change)
    (s : Simulation) (p : AgentRef) : Settled s (s.modifyAgent p change) :=
  settled_modifyAgent s p (only.id _) (only.homeSettID _) fun alive => (only.alive _).symm.trans alive

theorem steady_boostRelationship (s : Simulation) (p : AgentRef) (targetID : AgentID)
    (sentimentBoost trustBoost : ℚ) :
    Steady s (s.modifyAgent p fun a => boostRelationship a targetID sentimentBoost trustBoost) :=
  have only := boostRelationship_only targetID sentimentBoost trustBoost
  steady_modifyAgent s p (only.id _) (only.homeSettID _) (only.alive _) (boostRelationship_targets _ _ _ _)

theorem steady_of_factions {fa : FactionRef → Faction} : Steady s { s with factionAt := fa } :=
  ⟨⟨List.Perm.refl _, rfl, fun _ => rfl, fun _ => rfl, fun _ alive => alive, rfl, rfl, rfl, rfl, rfl,
    fun _ => rfl, fun _ => rfl⟩, BondsKept.refl s⟩

theorem Bonded.of_kept (bonded : s.Bonded) (kept : BondsKept s t) : t.Bonded := fun p => by
  rw [(kept p).1]
  exact (bonded p).of_targets (kept p).2

/-- A write that leaves its agent with relationships it may hold. -/
theorem Bonded.modifyAgent (bonded : s.Bonded) (p : AgentRef) {change : Agent → Agent}
    (bonds : Bonds (change (s.agentAt p)).id (change (s.agentAt p)).relationships) :
    (s.modifyAgent p change).Bonded := by
  intro p'
  by_cases here : p' = p
  · subst here
    simpa using bonds
  · simpa [modifyAgent_agentAt, here] using bonded p'

theorem SettledBonded.refl (bonded : s.Bonded) : SettledBonded s s := ⟨Settled.refl s, bonded⟩

theorem SettledBonded.trans (first : SettledBonded s t) (second : SettledBonded t u) : SettledBonded s u :=
  ⟨first.1.trans second.1, second.2⟩

theorem Steady.settledBonded (step : Steady s t) (bonded : s.Bonded) : SettledBonded s t :=
  ⟨step.1, bonded.of_kept step.2⟩

theorem SettledBonded.steady (kept : SettledBonded s t) (step : Steady t u) : SettledBonded s u :=
  kept.trans (step.settledBonded kept.2)

/-- A loop whose every iteration keeps the bonds, from any state the loop has reached. -/
theorem settledBonded_foldl {α : Type} (body : Simulation → α → Simulation) (items : List α)
    (each : ∀ a ∈ items, ∀ t, SettledBonded s t → SettledBonded t (body t a)) (bonded : s.Bonded) :
    SettledBonded s (items.foldl body s) :=
  foldl_invariant (SettledBonded s) body items s (fun a member t kept => kept.trans (each a member t kept))
    (SettledBonded.refl bonded)

end Steady

end Simulation

/-! ## The daily pass keeps every bond -/

namespace Simulation

section Daily

variable {s : Simulation}

/-- The second position of an interaction differs from the first. -/
theorem pairIndex_ne {n idx1 idx2 : ℕ} (two : 2 ≤ n) (inside1 : idx1 < n) (inside2 : idx2 < n) :
    idx1 ≠ if idx1 = idx2 then (idx2 + 1) % n else idx2 := by
  split_ifs with same
  · subst same
    rcases Nat.lt_or_ge (idx1 + 1) n with below | last
    · rw [Nat.mod_eq_of_lt below]
      omega
    · -- the last position moves on to the first
      rw [show idx1 + 1 = n by omega, Nat.mod_self]
      omega
  · exact same

/-- Two agents of two IDs strengthening their bonds with each other, one after the other, as
an interaction and a mentoring do. -/
theorem strengthenBoth_settledBonded (bonded : s.Bonded) {p p' : AgentRef}
    (other : (s.agentAt p).id ≠ (s.agentAt p').id) :
    SettledBonded s ((s.modifyAgent p fun a => strengthenBond a (s.agentAt p')).modifyAgent p' fun a =>
      strengthenBond a ((s.modifyAgent p fun a => strengthenBond a (s.agentAt p')).agentAt p)) := by
  have first := RelationshipsOnly.settled (strengthenBond_only (s.agentAt p')) s p
  have firstBonded : (s.modifyAgent p fun a => strengthenBond a (s.agentAt p')).Bonded :=
    bonded.modifyAgent p (strengthenBond_bonds (bonded p) (Ne.symm other))
  refine ⟨first.trans (RelationshipsOnly.settled (strengthenBond_only _) _ p'), ?_⟩
  exact firstBonded.modifyAgent p'
    (strengthenBond_bonds (firstBonded p') (by rw [first.id, first.id]; exact other))

/-- An interaction among agents listed once, under distinct IDs, keeps every bond. -/
theorem interact_settledBonded {alive : List AgentRef} (nodup : alive.Nodup) (two : 2 ≤ alive.length)
    (distinct : ∀ p ∈ alive, ∀ p' ∈ alive, (s.agentAt p).id = (s.agentAt p').id → p = p')
    (bonded : s.Bonded) (settID simDay i : ℕ) : SettledBonded s (interact alive settID simDay s i) := by
  unfold interact
  extract_lets idx1 idx2 second a1 a2
  have inside1 : idx1 < alive.length := Nat.mod_lt _ (by omega)
  have inside2 : idx2 < alive.length := Nat.mod_lt _ (by omega)
  have insideSecond : second < alive.length := by
    simp only [second]
    split_ifs
    · exact Nat.mod_lt _ (by omega)
    · exact inside2
  -- two positions of a list without repeats: two agents, and so two IDs
  have member1 : a1 ∈ alive := by
    simp only [a1, List.getD_eq_getElem _ _ inside1]
    exact List.getElem_mem inside1
  have member2 : a2 ∈ alive := by
    simp only [a2, List.getD_eq_getElem _ _ insideSecond]
    exact List.getElem_mem insideSecond
  have apart : a1 ≠ a2 := by
    simp only [a1, a2, List.getD_eq_getElem _ _ inside1, List.getD_eq_getElem _ _ insideSecond]
    exact fun same => pairIndex_ne two inside1 inside2 ((nodup.getElem_inj_iff).mp same)
  exact strengthenBoth_settledBonded bonded fun same => apart (distinct _ member1 _ member2 same)

theorem steady_formFamily (sexOf : Agent → Sex) (s : Simulation) (p : AgentRef) :
    Steady s (formFamily sexOf s p) := by
  unfold formFamily
  dsimp only
  split_ifs
  · exact Steady.refl s
  · exact Steady.refl s
  · cases bestMatch sexOf s p with
    | none => exact Steady.refl s
    | some q =>
      dsimp only [Option.elim]
      -- the two boosts, then the belonging of both, each a write of one agent
      refine Steady.trans ?_ (steady_modifyAgent _ q rfl rfl rfl rfl)
      refine Steady.trans ?_ (steady_modifyAgent _ p rfl rfl rfl rfl)
      refine Steady.trans ?_ (steady_modifyAgent _ q rfl rfl rfl rfl)
      refine Steady.trans ?_ (steady_modifyAgent _ p rfl rfl rfl rfl)
      exact (steady_boostRelationship s p _ _ _).trans (steady_boostRelationship _ q _ _ _)

theorem steady_formFamilies (sexOf : Agent → Sex) (alive : List AgentRef) (s : Simulation) :
    Steady s (s.formFamilies sexOf alive) :=
  steady_foldl _ (steady_formFamily sexOf) alive s

/-- Mentoring between two agents of two IDs keeps every bond. -/
theorem mentorPair_settledBonded (bonded : s.Bonded) {pair : AgentRef × AgentRef}
    (other : (s.agentAt pair.1).id ≠ (s.agentAt pair.2).id) : SettledBonded s (mentorPair s pair) := by
  unfold mentorPair
  extract_lets grown taught
  -- the coherence and the purpose first, then the two bonds
  have taughtSteady : Steady s taught :=
    (steady_modifyAgent s pair.1 rfl rfl rfl rfl).trans (steady_modifyAgent _ pair.2 rfl rfl rfl rfl)
  have kept := taughtSteady.settledBonded bonded
  exact kept.trans
    (strengthenBoth_settledBonded kept.2 (by rw [taughtSteady.1.id, taughtSteady.1.id]; exact other))

/-- Mentoring among agents of distinct IDs keeps every bond: a mentor's coherence
is above `0.6` and a mentee's is not, so no agent mentors itself. -/
theorem processMentorship_settledBonded {alive : List AgentRef} (bonded : s.Bonded)
    (distinct : ∀ p ∈ alive, ∀ p' ∈ alive, (s.agentAt p).id = (s.agentAt p').id → p = p') :
    SettledBonded s (s.processMentorship alive) := by
  unfold processMentorship
  extract_lets mentors mentees
  refine settledBonded_foldl mentorPair _ ?_ bonded
  rintro ⟨mentee, mentor⟩ paired t ⟨kept, tBonded⟩
  obtain ⟨isMentee, isMentor⟩ := List.of_mem_zip paired
  simp only [mentees, mentors, List.mem_filter, decide_eq_true_eq] at isMentee isMentor
  have two : mentee ≠ mentor := by
    rintro rfl
    exact isMentee.2.1 isMentor.2
  have other : (t.agentAt mentee).id ≠ (t.agentAt mentor).id := by
    rw [kept.id, kept.id]
    exact fun same => two (distinct _ isMentee.1 _ isMentor.1 same)
  exact mentorPair_settledBonded tBonded other

theorem steady_processFactionRecruitment (alive : List AgentRef) (s : Simulation) :
    Steady s (s.processFactionRecruitment alive) := by
  unfold processFactionRecruitment
  refine steady_foldl _ (fun t p => ?_) alive s
  cases (t.agentAt p).factionID with
  | none => exact Steady.refl t
  | some _ =>
    dsimp only [Option.elim]
    refine steady_foldl _ (fun u rel => ?_) _ t
    split_ifs
    · exact Steady.refl u
    · cases u.agentIndex rel.targetID with
      | none => exact Steady.refl u
      | some q =>
        dsimp only [Option.elim]
        split_ifs
        · exact Steady.refl u
        · exact steady_modifyAgent u q rfl rfl rfl rfl

theorem steady_processRivalries (alive : List AgentRef) (s : Simulation) :
    Steady s (s.processRivalries alive) := by
  unfold processRivalries
  refine steady_foldl _ (fun t p => steady_foldl _ (fun u rel => ?_) _ t) alive s
  split_ifs
  · exact Steady.refl u
  · cases u.agentIndex rel.targetID with
    | none => exact Steady.refl u
    | some q =>
      dsimp only [Option.elim]
      split_ifs
      · exact Steady.refl u
      · exact Steady.refl u
      · exact steady_modifyAgent u p rfl rfl rfl rfl

theorem Membership.adults_nodup (m : s.Membership) (k : ℕ) :
    ((s.settlementAgents k).filter fun p => (s.agentAt p).alive ∧ (s.agentAt p).age ≥ 10).Nodup :=
  (List.monotone_filter_right _ fun p adult => by simp_all).nodup (m.listed_once k)

/-- Listed agents with one ID are one agent. -/
theorem Membership.listed_distinct (m : s.Membership) (k : ℕ) (test : AgentRef → Bool) :
    ∀ p ∈ (s.settlementAgents k).filter test, ∀ p' ∈ (s.settlementAgents k).filter test,
      (s.agentAt p).id = (s.agentAt p').id → p = p' := fun p member p' member' same =>
  m.ids_distinct p (m.listed_agents k p (List.mem_filter.mp member).1) p'
    (m.listed_agents k p' (List.mem_filter.mp member').1) same

/-- One settlement's day keeps every bond, from a state whose membership is exact. -/
theorem settlementRelationships_settledBonded (sexOf : Agent → Sex) (simDay : ℕ) (m : s.Membership)
    (bonded : s.Bonded) (q : SettRef) : SettledBonded s (settlementRelationships sexOf simDay s q) := by
  have nodup := m.adults_nodup (s.settlementAt q).id
  have distinct := m.listed_distinct (s.settlementAt q).id
    fun p => (s.agentAt p).alive ∧ (s.agentAt p).age ≥ 10
  unfold settlementRelationships
  extract_lets sett alive interactions paired weekly
  split_ifs with few
  · exact SettledBonded.refl bonded
  · -- every later state keeps the IDs, so the adults stay apart
    have apart : ∀ t, Settled s t →
        ∀ p ∈ alive, ∀ p' ∈ alive, (t.agentAt p).id = (t.agentAt p').id → p = p' := by
      intro t kept p member p' member' same
      rw [kept.id, kept.id] at same
      exact distinct p member p' member' same
    have afterPairs : SettledBonded s paired :=
      settledBonded_foldl _ _ (fun _ _ t kept =>
        interact_settledBonded nodup (not_lt.mp few) (apart t kept.1) kept.2 _ _ _) bonded
    have afterWeek : SettledBonded s weekly := by
      simp only [weekly]
      split_ifs
      · -- the families, the mentoring, the recruitment
        have families := afterPairs.steady (steady_formFamilies sexOf alive paired)
        exact (families.trans (processMentorship_settledBonded families.2 (apart _ families.1))).steady
          (steady_processFactionRecruitment alive _)
      · exact afterPairs
    exact afterWeek.steady (steady_processRivalries alive weekly)

/-- The daily pass keeps every bond, from a state whose membership is exact. -/
theorem processRelationships_settledBonded (sexOf : Agent → Sex) (tick : ℕ) (m : s.Membership)
    (bonded : s.Bonded) : SettledBonded s (s.processRelationships sexOf tick) :=
  settledBonded_foldl _ _ (fun q _ _ kept =>
    settlementRelationships_settledBonded sexOf _ (m.settled kept.1) kept.2 q) bonded

end Daily

end Simulation

/-! ## Crime and the compaction keep every bond -/

namespace Simulation

section Crime

variable {s t : Simulation}

theorem steady_creditSettlement (s : Simulation) (q : SettRef) (amount : ℕ) :
    Steady s (s.creditSettlement q amount) :=
  ⟨settled_creditSettlement s q amount, fun _ => ⟨rfl, rfl⟩⟩

/-- `adjustFactionInfluenceFromCrime` writes the factions only. -/
theorem adjustFactionInfluenceFromCrime_factions (s : Simulation) (settID : ℕ) :
    ∃ fa, s.adjustFactionInfluenceFromCrime settID = { s with factionAt := fa } := by
  refine foldl_invariant (fun t => ∃ fa, t = { s with factionAt := fa }) _ s.factions s ?_
    ⟨s.factionAt, rfl⟩
  rintro f - t ⟨fa, rfl⟩
  dsimp only
  split_ifs
  · split
    · split_ifs
      · exact ⟨_, rfl⟩
      · exact ⟨fa, rfl⟩
    · exact ⟨fa, rfl⟩
  · exact ⟨_, rfl⟩
  · exact ⟨fa, rfl⟩

theorem steady_adjustFactionInfluenceFromCrime (s : Simulation) (settID : ℕ) :
    Steady s (s.adjustFactionInfluenceFromCrime settID) := by
  obtain ⟨fa, written⟩ := adjustFactionInfluenceFromCrime_factions s settID
  rw [written]
  exact steady_of_factions

theorem steady_addInventory (s : Simulation) (p : AgentRef) (good : GoodType) (delta : ℤ) :
    Steady s (s.addInventory p good delta) :=
  steady_modifyAgent s p rfl rfl rfl rfl

theorem steady_stealFood {thief victim : AgentRef} {stolen : Simulation}
    (taken : s.stealFood thief victim = some stolen) : Steady s stolen := by
  unfold stealFood at taken
  -- a unit from the victim and a unit to the thief, of grain or of fish
  split_ifs at taken <;> cases taken <;>
    exact (steady_addInventory s victim _ _).trans (steady_addInventory _ thief _ _)

theorem steady_stealCrowns (s : Simulation) (thief victim : AgentRef) :
    Steady s (s.stealCrowns thief victim) := by
  unfold stealCrowns debitAgent creditAgent
  refine Steady.trans ?_ (steady_modifyAgent _ thief rfl rfl rfl rfl)
  exact steady_modifyAgent s victim rfl rfl rfl rfl

theorem steady_processBetrayalExpulsion (s : Simulation) (criminal victim : AgentRef) :
    Steady s (s.processBetrayalExpulsion criminal victim) := by
  unfold processBetrayalExpulsion
  split
  · split_ifs
    · exact steady_modifyAgent s criminal rfl rfl rfl rfl
    · exact Steady.refl s
  · exact Steady.refl s

theorem steady_catchThief (s : Simulation) (q : SettRef) (p : AgentRef) (deterrence : ℚ) (simDay : ℕ) :
    Steady s (s.catchThief q p deterrence simDay) := by
  unfold catchThief
  dsimp only
  split_ifs
  · refine Steady.trans ?_ (steady_creditSettlement _ q _)
    exact steady_modifyAgent s p rfl rfl rfl rfl
  · exact Steady.refl s

theorem steady_honorSoldier (purposeBoost esteemBoost : ℚ) (s : Simulation) (p : AgentRef) :
    Steady s (honorSoldier purposeBoost esteemBoost s p) := by
  unfold honorSoldier
  dsimp only
  split_ifs
  · exact steady_modifyAgent s p rfl rfl rfl rfl
  · exact Steady.refl s

/-- The victim's bond with the thief damaged, after a theft that kept the IDs, when the two
IDs differ. -/
theorem settledBonded_damage (bonded : s.Bonded) (robbed : Steady s t) {thief victim : AgentRef}
    (other : (s.agentAt victim).id ≠ (s.agentAt thief).id) (sentimentDmg trustDmg : ℚ) :
    SettledBonded s
      (t.modifyAgent victim fun v => damageRelationship v (s.agentAt thief).id sentimentDmg trustDmg) :=
  have robbedBonded := bonded.of_kept robbed.2
  ⟨robbed.1.trans (RelationshipsOnly.settled (damageRelationship_only _ _ _) t victim),
    robbedBonded.modifyAgent victim
      (damageRelationship_bonds (robbedBonded victim) (by rw [robbed.1.id]; exact Ne.symm other) _ _)⟩

/-- A theft keeps every bond when the victim has another ID than the thief. -/
theorem theft_settledBonded (bonded : s.Bonded) (settID : ℕ) {thief victim : AgentRef}
    (other : (s.agentAt victim).id ≠ (s.agentAt thief).id) :
    SettledBonded s (s.theft settID thief victim) := by
  unfold theft
  dsimp only
  split_ifs
  · split
    · next stolen taken =>
      exact (settledBonded_damage bonded (steady_stealFood taken) other _ _).steady
        (steady_adjustFactionInfluenceFromCrime _ _)
    · exact SettledBonded.refl bonded
  · exact (settledBonded_damage bonded (steady_stealCrowns s thief victim) other _ _).steady
      (steady_adjustFactionInfluenceFromCrime _ _)
  · exact SettledBonded.refl bonded

/-- A resident's crime keeps every bond: a victim under the thief's own ID is spared. -/
theorem commitCrime_settledBonded (q : SettRef) (settAgents : List AgentRef) (deterrence : ℚ) (simDay : ℕ)
    (entry : AgentRef × ℕ) (bonded : s.Bonded) :
    SettledBonded s (commitCrime q settAgents deterrence simDay s entry) := by
  unfold commitCrime
  dsimp only
  split_ifs
  any_goals exact SettledBonded.refl bonded
  split
  · exact SettledBonded.refl bonded
  · next victim _ =>
    split_ifs with spared
    · exact SettledBonded.refl bonded
    · have other : (s.agentAt victim).id ≠ (s.agentAt entry.1).id := fun same => spared (.inl same)
      exact ((theft_settledBonded bonded _ other).steady (steady_processBetrayalExpulsion _ _ _)).steady
        (steady_catchThief _ _ _ _ _)

theorem settlementCrime_settledBonded (diplomacyBonus : ℕ → ℚ) (simDay : ℕ) (q : SettRef)
    (bonded : s.Bonded) : SettledBonded s (settlementCrime diplomacyBonus simDay s q) := by
  unfold settlementCrime
  extract_lets sett settAgents soldierCount deterrence honored
  split_ifs
  · exact SettledBonded.refl bonded
  · -- the soldiers' honour writes needs only
    have honoredKept : SettledBonded s honored := by
      simp only [honored]
      split_ifs
      · exact (SettledBonded.refl bonded).steady (steady_foldl _ (steady_honorSoldier _ _) _ s)
      · exact SettledBonded.refl bonded
    exact honoredKept.trans (settledBonded_foldl _ _
      (fun entry _ _ kept => commitCrime_settledBonded q settAgents deterrence simDay entry kept.2) honoredKept.2)

theorem processCrime_settledBonded (diplomacyBonus : ℕ → ℚ) (tick : ℕ) (bonded : s.Bonded) :
    SettledBonded s (s.processCrime diplomacyBonus tick) :=
  settledBonded_foldl _ _ (fun q _ _ kept => settlementCrime_settledBonded diplomacyBonus _ q kept.2) bonded

/-- A theft leaves the membership alone, whatever bonds are held: it writes goods, crowns, one
bond and the factions. -/
theorem settled_theft (settID : ℕ) (thief victim : AgentRef) : Settled s (s.theft settID thief victim) := by
  have damaged : ∀ (t : Simulation) (sentimentDmg trustDmg : ℚ),
      Settled t (t.modifyAgent victim fun v => damageRelationship v (s.agentAt thief).id sentimentDmg trustDmg) :=
    fun t _ _ => RelationshipsOnly.settled (damageRelationship_only _ _ _) t victim
  unfold theft
  dsimp only
  split_ifs
  · split
    · next stolen taken =>
      exact ((steady_stealFood taken).1.trans (damaged _ _ _)).trans
        (steady_adjustFactionInfluenceFromCrime _ _).1
    · exact Settled.refl s
  · exact ((steady_stealCrowns s thief victim).1.trans (damaged _ _ _)).trans
      (steady_adjustFactionInfluenceFromCrime _ _).1
  · exact Settled.refl s

theorem settled_commitCrime (q : SettRef) (settAgents : List AgentRef) (deterrence : ℚ) (simDay : ℕ)
    (s : Simulation) (entry : AgentRef × ℕ) : Settled s (commitCrime q settAgents deterrence simDay s entry) := by
  unfold commitCrime
  dsimp only
  split_ifs
  any_goals exact Settled.refl s
  split
  · exact Settled.refl s
  · split_ifs
    · exact Settled.refl s
    · -- the theft, the expulsion from a shared faction, and the fine of a caught thief
      exact ((settled_theft _ _ _).trans (steady_processBetrayalExpulsion _ _ _).1).trans
        (steady_catchThief _ _ _ _ _).1

/-- A day of crime leaves the membership alone. -/
theorem settled_processCrime (diplomacyBonus : ℕ → ℚ) (tick : ℕ) (s : Simulation) :
    Settled s (s.processCrime diplomacyBonus tick) := by
  refine settled_foldl _ (fun t q => ?_) _ s
  unfold settlementCrime
  extract_lets sett settAgents soldierCount deterrence honored
  split_ifs
  · exact Settled.refl t
  · have honoredKept : Settled t honored := by
      simp only [honored]
      split_ifs
      · exact (steady_foldl _ (steady_honorSoldier _ _) _ t).1
      · exact Settled.refl t
    exact honoredKept.trans (settled_foldl _ (settled_commitCrime q settAgents deterrence _) _ _)

/-- The compaction keeps every ID and prunes every list to a sublist of itself. -/
theorem compactDeadAgents_pruned (s : Simulation) (p : AgentRef) :
    (s.compactDeadAgents.agentAt p).id = (s.agentAt p).id ∧
      (s.compactDeadAgents.agentAt p).relationships.Sublist (s.agentAt p).relationships := by
  unfold compactDeadAgents
  dsimp only
  split_ifs
  · exact ⟨rfl, List.Sublist.refl _⟩
  · rw [foldl_modifyAgent (by simp), rebuildSettlementAgents_eq]
    dsimp only
    split_ifs
    · exact ⟨rfl, List.filter_sublist⟩
    · exact ⟨rfl, List.Sublist.refl _⟩

theorem compactDeadAgents_bonded (bonded : s.Bonded) : s.compactDeadAgents.Bonded := fun p => by
  obtain ⟨same, pruned⟩ := compactDeadAgents_pruned s p
  rw [same]
  exact (bonded p).sublist pruned

end Crime

end Simulation

end MiniWorld.Engine
