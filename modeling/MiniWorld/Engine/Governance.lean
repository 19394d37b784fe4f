import MiniWorld.Engine.Migration

/-! # Governance (`internal/engine/governance.go`)

Every day `processGovernance` walks the settlements.  For one with living
adults it runs `ensureLeader` (a missing or dead leader is replaced by the
pick of the settlement's governance), `decayGovernance` (the score drifts
towards a target set by the leader's coherence) and `checkRevolution` (a low
score, a faction with more than 40 influence and a coherent agent overturn the
governance, and the faction takes three tenths of the treasury).

Two facts of the code are the subject here.  `ensureLeader` asks of the leader
only that `AgentIndex` holds it alive, never that it still lives in the
settlement, so a leader who has moved away keeps office
(`departed_leader_keeps_office`).  The faction scan of `checkRevolution`
compares each candidate's influence with `f.Influence[sett.ID]`, the same
faction's, so it keeps the first faction over 40 in `Factions` order
(`dominantFaction_eq_find`).

All steps change agents only in their `Role` and factions only in their
treasury: `Governed` is that frame, and every step keeps it.  The events and
the role-based bookkeeping elsewhere are not modelled.
-/

namespace MiniWorld.Engine

open MiniWorld.Agents MiniWorld.Phi

/-- The `uint8` value of a `CognitionTier`, which `selectLeaderByWealth` compares. -/
def tierValue : CognitionTier → ℕ
  | .tier0 => 0
  | .tier1 => 1
  | .tier2 => 2

/-- `social.GovernanceType` set by a revolution backed by the faction with this
ID: Crown, Merchant's Compact, Iron Brotherhood, Verdant Circle, Ashen Path. -/
def factionGovernance (factionID : ℕ) (current : GovernanceType) : GovernanceType :=
  match factionID with
  | 1 => .monarchy
  | 2 => .merchantRepublic
  | 3 => .council
  | 4 => .commune
  | 5 => .commune
  | _ => current

/-- The revolution threshold, shifted by the settlement's tradition. -/
def revolutionThreshold (sett : Settlement) : ℚ :=
  0.3 - sett.cultureTradition * agnosis * 0.1

namespace Simulation

/-- `leader, ok := s.AgentIndex[id]; ok && leader.Alive`: the indexed agent, if alive. -/
def livingAgent (s : Simulation) (id : ℕ) : Option AgentRef :=
  match s.agentIndex id with
  | some p => if (s.agentAt p).alive then some p else none
  | none => none

/-! ## Leaders -/

/-- `selectLeaderByWealth`: the first of the wealthiest adults at or above the tier. -/
def selectLeaderByWealth (s : Simulation) (alive : List AgentRef) (minTier : CognitionTier) :
    Option AgentRef :=
  alive.foldl (fun best p =>
    if tierValue (s.agentAt p).tier < tierValue minTier then best
    else
      match best with
      | none => some p
      | some b => if (s.agentAt p).wealth > (s.agentAt b).wealth then some p else best) none

/-- `selectLeaderByCoherence`: the first of the most coherent adults. -/
def selectLeaderByCoherence (s : Simulation) (alive : List AgentRef) : Option AgentRef :=
  alive.foldl (fun best p =>
    match best with
    | none => some p
    | some b =>
      if (s.agentAt p).soul.cittaCoherence > (s.agentAt b).soul.cittaCoherence then some p
      else best) none

/-- The `switch sett.Governance` of `ensureLeader`. -/
def pickLeader (s : Simulation) (governance : GovernanceType) (alive : List AgentRef) (tick : ℕ) :
    Option AgentRef :=
  match governance with
  | .monarchy => (s.selectLeaderByWealth alive .tier2).orElse fun _ => s.selectLeaderByCoherence alive
  | .council => s.selectLeaderByCoherence alive
  | .merchantRepublic => s.selectLeaderByWealth alive .tier0
  -- a deterministic "random" adult; `alive` is never empty here
  | .commune => alive[tick % alive.length]?

/-- The selection half of `ensureLeader`: the pick becomes `LeaderID` and takes
`RoleLeader`. -/
def installLeader (s : Simulation) (q : SettRef) (alive : List AgentRef) (tick : ℕ) : Simulation :=
  match s.pickLeader (s.settlementAt q).governance alive tick with
  | none => s
  | some p =>
    (s.modifySettlement q fun t => { t with leaderID := some (s.agentAt p).id }).modifyAgent p
      fun a => { a with role := .leader }

/-- `ensureLeader`: a leader alive in `AgentIndex` is kept; a dead or missing one
costs `0.2` of the governance score and is replaced. -/
def ensureLeader (s : Simulation) (q : SettRef) (alive : List AgentRef) (tick : ℕ) : Simulation :=
  match (s.settlementAt q).leaderID with
  | some id =>
    if (s.livingAgent id).isSome then s
    else
      -- succession crisis
      (s.modifySettlement q fun t =>
        { t with
          governanceScore := if t.governanceScore - 0.2 < 0 then 0 else t.governanceScore - 0.2
          leaderID := none }).installLeader q alive tick
  | none => s.installLeader q alive tick

/-- `decayGovernance`: the score drifts by `Agnosis × 0.05` of its gap to
`0.3`, or to `0.3 + coherence × 0.5` under a living leader, within `[0, 1]`. -/
def decayGovernance (s : Simulation) (q : SettRef) : Simulation :=
  let target : ℚ :=
    match (s.settlementAt q).leaderID.bind s.livingAgent with
    | some p => 0.3 + (s.agentAt p).soul.cittaCoherence * 0.5
    | none => 0.3
  s.modifySettlement q fun t =>
    let score := t.governanceScore + (target - t.governanceScore) * agnosis * 0.05
    let score := if score < 0 then 0 else score
    { t with governanceScore := if score > 1 then 1 else score }

/-! ## Revolutions -/

/-- One faction of the scan for the dominant faction: a faction with more than
40 influence in the settlement is taken when none is yet, or when
`inf > f.Influence[sett.ID]`, a comparison with its own influence. -/
def scanFaction (s : Simulation) (settID : ℕ) (dominant : Option FactionRef) (f : FactionRef) :
    Option FactionRef :=
  match (s.factionAt f).influence.lookup settID with
  | some inf =>
    if inf > 40 then
      match dominant with
      | none => some f
      | some _ => if inf > ((s.factionAt f).influence.lookup settID).getD 0 then some f else dominant
    else dominant
  | none => dominant

/-- The faction `checkRevolution` finds. -/
def dominantFaction (s : Simulation) (settID : ℕ) : Option FactionRef :=
  s.factions.foldl (s.scanFaction settID) none

/-- One adult of the scan for a revolutionary: coherence above `Psyche`, and
above that of the one found so far. -/
def scanRevolutionary (s : Simulation) (revolutionary : Option AgentRef) (p : AgentRef) :
    Option AgentRef :=
  if (s.agentAt p).soul.cittaCoherence > psyche then
    match revolutionary with
    | none => some p
    | some r =>
      if (s.agentAt p).soul.cittaCoherence > (s.agentAt r).soul.cittaCoherence then some p
      else revolutionary
  else revolutionary

/-- The revolutionary `checkRevolution` finds. -/
def findRevolutionary (s : Simulation) (alive : List AgentRef) : Option AgentRef :=
  alive.foldl s.scanRevolutionary none

/-- A revolution backed by faction `f` and led by `revolutionary`: the faction's
governance, the old leader deposed, the revolutionary installed, three tenths
of the treasury seized for the faction, the score reset to `0.5`. -/
def revolt (s : Simulation) (q : SettRef) (f : FactionRef) (revolutionary : AgentRef) : Simulation :=
  let sett := s.settlementAt q
  let governed := s.modifySettlement q fun t =>
    { t with governance := factionGovernance (s.factionAt f).id t.governance }
  let deposed :=
    match sett.leaderID.bind s.livingAgent with
    | some old => governed.modifyAgent old fun a => { a with role := .commoner }
    | none => governed
  let installed := (deposed.modifySettlement q fun t =>
    { t with leaderID := some (s.agentAt revolutionary).id }).modifyAgent revolutionary
      fun a => { a with role := .leader }
  let seized := ⌊(sett.treasury : ℚ) * 0.3⌋₊
  ((installed.debitSettlement q seized).creditFaction f seized).modifySettlement q fun t =>
    { t with governanceScore := 0.5 }

def checkRevolution (s : Simulation) (q : SettRef) (alive : List AgentRef) : Simulation :=
  let sett := s.settlementAt q
  if sett.governanceScore ≥ revolutionThreshold sett then s
  else
    match s.dominantFaction sett.id with
    | none => s
    | some f =>
      match s.findRevolutionary alive with
      | none => s
      | some revolutionary => s.revolt q f revolutionary

/-! ## The daily pass -/

/-- One settlement of `processGovernance`: its living adults, then the three steps. -/
def governSettlement (tick : ℕ) (s : Simulation) (q : SettRef) : Simulation :=
  let alive := (s.settlementAgents (s.settlementAt q).id).filter fun p =>
    (s.agentAt p).alive ∧ 16 ≤ (s.agentAt p).age
  if alive = [] then s
  else ((s.ensureLeader q alive tick).decayGovernance q).checkRevolution q alive

def processGovernance (tick : ℕ) (s : Simulation) : Simulation :=
  s.settlements.foldl (governSettlement tick) s

/-! ## The frame of a governance step -/

/-- What every governance step leaves alone: the agent index, every agent but
its role, the member lists, every settlement's ID, and the factions with their
influence. -/
structure Governed (before after : Simulation) : Prop where
  agentIndex : after.agentIndex = before.agentIndex
  alive : ∀ p, (after.agentAt p).alive = (before.agentAt p).alive
  age : ∀ p, (after.agentAt p).age = (before.agentAt p).age
  id : ∀ p, (after.agentAt p).id = (before.agentAt p).id
  home : ∀ p, (after.agentAt p).homeSettID = (before.agentAt p).homeSettID
  settlementAgents : after.settlementAgents = before.settlementAgents
  settlementId : ∀ q, (after.settlementAt q).id = (before.settlementAt q).id
  factions : after.factions = before.factions
  influence : ∀ f, (after.factionAt f).influence = (before.factionAt f).influence

theorem Governed.refl (s : Simulation) : Governed s s :=
  ⟨rfl, fun _ => rfl, fun _ => rfl, fun _ => rfl, fun _ => rfl, rfl, fun _ => rfl, rfl, fun _ => rfl⟩

theorem Governed.trans {first second third : Simulation} (head : Governed first second)
    (tail : Governed second third) : Governed first third :=
  ⟨tail.agentIndex.trans head.agentIndex, fun p => (tail.alive p).trans (head.alive p),
    fun p => (tail.age p).trans (head.age p), fun p => (tail.id p).trans (head.id p),
    fun p => (tail.home p).trans (head.home p), tail.settlementAgents.trans head.settlementAgents,
    fun q => (tail.settlementId q).trans (head.settlementId q), tail.factions.trans head.factions,
    fun f => (tail.influence f).trans (head.influence f)⟩

/-- A step of the governance of settlement `q`: the frame, and no other
settlement's record changes. -/
structure GovernsAt (q : SettRef) (before after : Simulation) : Prop where
  governed : Governed before after
  others : ∀ q', q' ≠ q → after.settlementAt q' = before.settlementAt q'

theorem GovernsAt.refl (q : SettRef) (s : Simulation) : GovernsAt q s s :=
  ⟨Governed.refl s, fun _ _ => rfl⟩

theorem GovernsAt.trans {q : SettRef} {first second third : Simulation}
    (head : GovernsAt q first second) (tail : GovernsAt q second third) : GovernsAt q first third :=
  ⟨head.governed.trans tail.governed, fun q' other => (tail.others q' other).trans (head.others q' other)⟩

theorem governsAt_setRole (q : SettRef) (s : Simulation) (p : AgentRef) (role : SocialRole) :
    GovernsAt q s (s.modifyAgent p fun a => { a with role := role }) := by
  refine ⟨⟨rfl, ?_, ?_, ?_, ?_, rfl, fun _ => rfl, rfl, fun _ => rfl⟩, fun _ _ => rfl⟩ <;>
  · intro p'
    rw [modifyAgent_agentAt]
    split
    · subst p'
      rfl
    · rfl

theorem governsAt_modifySettlement (s : Simulation) (q : SettRef) {change : Settlement → Settlement}
    (keepsId : (change (s.settlementAt q)).id = (s.settlementAt q).id) :
    GovernsAt q s (s.modifySettlement q change) := by
  refine ⟨⟨rfl, fun _ => rfl, fun _ => rfl, fun _ => rfl, fun _ => rfl, rfl, ?_, rfl, fun _ => rfl⟩, ?_⟩
  · intro q'
    rw [modifySettlement_settlementAt_apply]
    split
    · subst q'
      exact keepsId
    · rfl
  · intro q' other
    rw [modifySettlement_settlementAt_apply, if_neg other]

theorem governsAt_debitSettlement (s : Simulation) (q : SettRef) (amount : ℕ) :
    GovernsAt q s (s.debitSettlement q amount) := governsAt_modifySettlement s q rfl

theorem governsAt_creditFaction (q : SettRef) (s : Simulation) (f : FactionRef) (amount : ℕ) :
    GovernsAt q s (s.creditFaction f amount) := by
  refine ⟨⟨rfl, fun _ => rfl, fun _ => rfl, fun _ => rfl, fun _ => rfl, rfl, fun _ => rfl, rfl, ?_⟩,
    fun _ _ => rfl⟩
  intro f'
  simp only [creditFaction, modifyFaction_factionAt_apply]
  split
  · subst f'
    rfl
  · rfl

theorem governsAt_installLeader (s : Simulation) (q : SettRef) (alive : List AgentRef) (tick : ℕ) :
    GovernsAt q s (s.installLeader q alive tick) := by
  unfold installLeader
  split
  · exact GovernsAt.refl q s
  · exact (governsAt_modifySettlement s q rfl).trans (governsAt_setRole q _ _ _)

theorem governsAt_ensureLeader (s : Simulation) (q : SettRef) (alive : List AgentRef) (tick : ℕ) :
    GovernsAt q s (s.ensureLeader q alive tick) := by
  unfold ensureLeader
  split
  · split
    · exact GovernsAt.refl q s
    · exact (governsAt_modifySettlement s q rfl).trans (governsAt_installLeader _ q alive tick)
  · exact governsAt_installLeader s q alive tick

theorem governsAt_decayGovernance (s : Simulation) (q : SettRef) :
    GovernsAt q s (s.decayGovernance q) := by
  unfold decayGovernance
  exact governsAt_modifySettlement s q rfl

theorem governsAt_revolt (s : Simulation) (q : SettRef) (f : FactionRef) (revolutionary : AgentRef) :
    GovernsAt q s (s.revolt q f revolutionary) := by
  unfold revolt
  dsimp only
  have governed : GovernsAt q s (s.modifySettlement q fun t =>
      { t with governance := factionGovernance (s.factionAt f).id t.governance }) :=
    governsAt_modifySettlement s q rfl
  have deposed : GovernsAt q s (match (s.settlementAt q).leaderID.bind s.livingAgent with
      | some old => (s.modifySettlement q fun t =>
          { t with governance := factionGovernance (s.factionAt f).id t.governance }).modifyAgent old
            fun a => { a with role := .commoner }
      | none => s.modifySettlement q fun t =>
          { t with governance := factionGovernance (s.factionAt f).id t.governance }) := by
    split
    · exact governed.trans (governsAt_setRole q _ _ _)
    · exact governed
  exact ((((deposed.trans (governsAt_modifySettlement _ q rfl)).trans (governsAt_setRole q _ _ _)).trans
    (governsAt_debitSettlement _ q _)).trans (governsAt_creditFaction q _ f _)).trans
      (governsAt_modifySettlement _ q rfl)

theorem governsAt_checkRevolution (s : Simulation) (q : SettRef) (alive : List AgentRef) :
    GovernsAt q s (s.checkRevolution q alive) := by
  unfold checkRevolution
  dsimp only
  split_ifs
  · exact GovernsAt.refl q s
  · split
    · exact GovernsAt.refl q s
    · split
      · exact GovernsAt.refl q s
      · exact governsAt_revolt s q _ _

theorem governsAt_governSettlement (tick : ℕ) (s : Simulation) (q : SettRef) :
    GovernsAt q s (governSettlement tick s q) := by
  unfold governSettlement
  dsimp only
  split_ifs
  · exact GovernsAt.refl q s
  · exact ((governsAt_ensureLeader s q _ tick).trans (governsAt_decayGovernance _ q)).trans
      (governsAt_checkRevolution _ q _)

/-! ## The dominant faction -/

/-- `inf, ok := f.Influence[sett.ID]; ok && inf > 40`. -/
def overForty (s : Simulation) (settID : ℕ) (f : FactionRef) : Bool :=
  match (s.factionAt f).influence.lookup settID with
  | some inf => decide (inf > 40)
  | none => false

/-- Once a faction is chosen the scan keeps it: the test `inf > f.Influence[sett.ID]`
compares a faction's influence with itself. -/
theorem scanFaction_chosen (s : Simulation) (settID : ℕ) (chosen f : FactionRef) :
    s.scanFaction settID (some chosen) f = some chosen := by
  unfold scanFaction
  split
  · rename_i inf influence
    simp [influence]
  · rfl

theorem scanFaction_none (s : Simulation) (settID : ℕ) (f : FactionRef) :
    s.scanFaction settID none f = if s.overForty settID f then some f else none := by
  unfold scanFaction overForty
  split <;> simp_all

theorem foldl_scanFaction_chosen (s : Simulation) (settID : ℕ) (chosen : FactionRef) :
    ∀ factions : List FactionRef, factions.foldl (s.scanFaction settID) (some chosen) = some chosen
  | [] => rfl
  | f :: rest => by
    rw [List.foldl_cons, scanFaction_chosen]
    exact foldl_scanFaction_chosen s settID chosen rest

/-- The faction `checkRevolution` finds is the first of `Factions` with more
than 40 influence in the settlement, whatever the influence of those after it. -/
theorem dominantFaction_eq_find (s : Simulation) (settID : ℕ) :
    s.dominantFaction settID = s.factions.find? (s.overForty settID) := by
  unfold dominantFaction
  induction s.factions with
  | nil => rfl
  | cons f rest ih =>
    rw [List.foldl_cons, scanFaction_none, List.find?_cons]
    by_cases exceeds : s.overForty settID f
    · simp only [exceeds, if_true]
      exact foldl_scanFaction_chosen s settID f rest
    · simp only [exceeds]
      exact ih

theorem Governed.livingAgent {s t : Simulation} (governed : Governed s t) (id : ℕ) :
    t.livingAgent id = s.livingAgent id := by
  unfold Simulation.livingAgent
  rw [governed.agentIndex]
  cases s.agentIndex id with
  | none => rfl
  | some p => simp only [governed.alive]

theorem Governed.dominantFaction {s t : Simulation} (governed : Governed s t) (settID : ℕ) :
    t.dominantFaction settID = s.dominantFaction settID := by
  have sameTest : t.overForty settID = s.overForty settID := by
    funext f
    unfold overForty
    rw [governed.influence]
  rw [dominantFaction_eq_find, dominantFaction_eq_find, governed.factions, sameTest]

/-! ## Revolutions -/

/-- A revolution gives the settlement the governance of the backing faction. -/
theorem revolt_governance (s : Simulation) (q : SettRef) (f : FactionRef) (revolutionary : AgentRef) :
    ((s.revolt q f revolutionary).settlementAt q).governance =
      factionGovernance (s.factionAt f).id (s.settlementAt q).governance := by
  unfold revolt
  dsimp only
  split <;>
    simp [creditFaction, debitSettlement, modifySettlement_settlementAt_apply]

/-- A revolution pays the seized share to the backing faction and to no other. -/
theorem revolt_factionAt (s : Simulation) (q : SettRef) (f : FactionRef) (revolutionary : AgentRef)
    (g : FactionRef) :
    ((s.revolt q f revolutionary).factionAt g).treasury =
      (s.factionAt g).treasury + if g = f then ⌊((s.settlementAt q).treasury : ℚ) * 0.3⌋₊ else 0 := by
  unfold revolt
  dsimp only
  split <;>
  · simp only [modifySettlement_factionAt, creditFaction, modifyFaction_factionAt_apply,
      debitSettlement, modifyAgent_factionAt]
    split <;> simp_all

/-- When `checkRevolution` fires, the faction that sets the governance and takes
the seized share is the first of `Factions` with more than 40 influence in the
settlement. -/
theorem revolution_backed_by_first_over_forty (s : Simulation) (q : SettRef) (alive : List AgentRef)
    (f : FactionRef) (revolutionary : AgentRef)
    (unstable : (s.settlementAt q).governanceScore < revolutionThreshold (s.settlementAt q))
    (first : s.factions.find? (s.overForty (s.settlementAt q).id) = some f)
    (found : s.findRevolutionary alive = some revolutionary) :
    ((s.checkRevolution q alive).settlementAt q).governance =
        factionGovernance (s.factionAt f).id (s.settlementAt q).governance ∧
      ∀ g, ((s.checkRevolution q alive).factionAt g).treasury =
        (s.factionAt g).treasury + if g = f then ⌊((s.settlementAt q).treasury : ℚ) * 0.3⌋₊ else 0 := by
  have fires : s.checkRevolution q alive = s.revolt q f revolutionary := by
    unfold checkRevolution
    dsimp only
    rw [if_neg (not_le.mpr unstable), dominantFaction_eq_find, first, found]
  rw [fires]
  exact ⟨revolt_governance s q f revolutionary, revolt_factionAt s q f revolutionary⟩

/-! ## Leaders who have left -/

/-- A leader alive in `AgentIndex` keeps office, wherever it lives. -/
theorem ensureLeader_of_living (s : Simulation) (q : SettRef) (alive : List AgentRef) (tick : ℕ)
    {id : ℕ} (leads : (s.settlementAt q).leaderID = some id) (living : (s.livingAgent id).isSome) :
    s.ensureLeader q alive tick = s := by
  unfold ensureLeader
  rw [leads]
  exact if_pos living

theorem decayGovernance_leaderID (s : Simulation) (q q' : SettRef) :
    ((s.decayGovernance q).settlementAt q').leaderID = (s.settlementAt q').leaderID := by
  unfold decayGovernance
  rw [modifySettlement_settlementAt_apply]
  split
  · subst q'
    rfl
  · rfl

theorem checkRevolution_of_unbacked (s : Simulation) (q : SettRef) (alive : List AgentRef)
    (unbacked : s.dominantFaction (s.settlementAt q).id = none) : s.checkRevolution q alive = s := by
  unfold checkRevolution
  dsimp only
  split_ifs
  · rfl
  · rw [unbacked]

/-- The day's governance keeps a living leader of a settlement where no
faction is over 40: the frame, and the leader, hold at every settlement of the
loop. -/
theorem processGovernance_keeps_leader (tick : ℕ) (s : Simulation) (q : SettRef) {id : ℕ}
    (leads : (s.settlementAt q).leaderID = some id) (living : (s.livingAgent id).isSome)
    (unbacked : s.dominantFaction (s.settlementAt q).id = none) :
    Governed s (s.processGovernance tick) ∧
      ((s.processGovernance tick).settlementAt q).leaderID = some id := by
  unfold processGovernance
  refine MiniWorld.Run.foldl_invariant
    (fun t => Governed s t ∧ (t.settlementAt q).leaderID = some id) (governSettlement tick)
    s.settlements s ?_ ⟨Governed.refl s, leads⟩
  rintro q' - t ⟨governed, held⟩
  have step := governsAt_governSettlement tick t q'
  refine ⟨governed.trans step.governed, ?_⟩
  by_cases same : q = q'
  · subst same
    unfold governSettlement
    dsimp only
    split_ifs
    · exact held
    · have livingNow : (t.livingAgent id).isSome := by rwa [governed.livingAgent]
      rw [ensureLeader_of_living t q _ tick held livingNow]
      have decayed := governsAt_decayGovernance t q
      rw [checkRevolution_of_unbacked _ q _ (by
        rw [decayed.governed.dominantFaction, (governed.trans decayed.governed).settlementId,
          governed.dominantFaction, unbacked])]
      rw [decayGovernance_leaderID]
      exact held
  · rw [step.others q same]
    exact held

/-- A leader who has moved to another settlement keeps office: after the day's
governance, a settlement with a living adult resident is led by an agent that
is alive in `AgentIndex` but lives elsewhere. -/
theorem departed_leader_keeps_office (tick : ℕ) (s : Simulation) (q : SettRef) (p r : AgentRef)
    (leads : (s.settlementAt q).leaderID = some (s.agentAt p).id)
    (indexed : s.agentIndex (s.agentAt p).id = some p) (living : (s.agentAt p).alive = true)
    (moved : (s.agentAt p).homeSettID ≠ some (s.settlementAt q).id)
    (resident : r ∈ s.settlementAgents (s.settlementAt q).id)
    (residentAlive : (s.agentAt r).alive = true) (adult : 16 ≤ (s.agentAt r).age)
    (unbacked : ∀ f ∈ s.factions, s.overForty (s.settlementAt q).id f = false) :
    r ∈ (s.processGovernance tick).settlementAgents ((s.processGovernance tick).settlementAt q).id ∧
      ((s.processGovernance tick).agentAt r).alive = true ∧
      16 ≤ ((s.processGovernance tick).agentAt r).age ∧
      ((s.processGovernance tick).settlementAt q).leaderID =
        some ((s.processGovernance tick).agentAt p).id ∧
      (s.processGovernance tick).agentIndex ((s.processGovernance tick).agentAt p).id = some p ∧
      ((s.processGovernance tick).agentAt p).alive = true ∧
      ((s.processGovernance tick).agentAt p).homeSettID ≠
        some ((s.processGovernance tick).settlementAt q).id := by
  have livingLeader : (s.livingAgent (s.agentAt p).id).isSome := by
    simp [livingAgent, indexed, living]
  have noDominant : s.dominantFaction (s.settlementAt q).id = none := by
    rw [dominantFaction_eq_find, List.find?_eq_none]
    intro f member
    simp [unbacked f member]
  obtain ⟨governed, kept⟩ := processGovernance_keeps_leader tick s q leads livingLeader noDominant
  rw [governed.settlementId, governed.settlementAgents, governed.alive, governed.age, governed.id,
    governed.agentIndex, governed.alive, governed.home]
  exact ⟨resident, residentAlive, adult, kept, indexed, living, moved⟩

/-- Settlement 1, its governance score fallen to `0.1`, with one coherent
adult; the Verdant Circle (ID 4) holds 50 influence there and the Crown (ID 1),
after it in `Factions`, 80. -/
def contestedWorld : Simulation :=
  { newSimulation (fun _ => none)
      [{ (default : Agent) with
          id := 1, homeSettID := some 1, age := 30, alive := true,
          soul := { cittaCoherence := 0.5, state := .centered } }]
      [{ (default : Settlement) with
          id := 1, name := "Ashford", population := 1, treasury := 100, governanceScore := 0.1 }] with
    factionAt := fun f =>
      if f = 0 then
        { id := 4, name := "Verdant Circle", treasury := 0, influence := (∅ : GoMap ℕ ℚ).insert 1 50 }
      else { id := 1, name := "Crown", treasury := 0, influence := (∅ : GoMap ℕ ℚ).insert 1 80 }
    factions := [0, 1] }

theorem contested_revolution_backs_weaker :
    (contestedWorld.factionAt 0).influence.lookup 1 = some 50 ∧
      (contestedWorld.factionAt 1).influence.lookup 1 = some 80 ∧
      ((contestedWorld.checkRevolution 0 [0]).settlementAt 0).governance =
        factionGovernance (contestedWorld.factionAt 0).id (contestedWorld.settlementAt 0).governance ∧
      ∀ g, ((contestedWorld.checkRevolution 0 [0]).factionAt g).treasury =
        (contestedWorld.factionAt g).treasury +
          if g = 0 then ⌊((contestedWorld.settlementAt 0).treasury : ℚ) * 0.3⌋₊ else 0 :=
  ⟨by decide +kernel, by decide +kernel,
    revolution_backed_by_first_over_forty contestedWorld 0 [0] 0 0 (by decide +kernel)
      (by decide +kernel) (by decide +kernel)⟩

/-- Ashford (ID 1), led by agent 1, and Brookvale (ID 2); agents 1 and 2 are
adults of Ashford. -/
def ashfordWorld : Simulation :=
  newSimulation (fun _ => none)
    [{ (default : Agent) with id := 1, homeSettID := some 1, age := 40, alive := true, role := .leader },
      { (default : Agent) with id := 2, homeSettID := some 1, age := 30, alive := true }]
    [{ (default : Settlement) with
        id := 1, name := "Ashford", population := 2, leaderID := some 1, governanceScore := 0.5 },
      { (default : Settlement) with id := 2, name := "Brookvale", governanceScore := 0.5 }]

/-- Ashford's leader relocates to Brookvale: the Tier-2 action `relocate`. -/
def leaderMovedWorld : Simulation := relocate "Brookvale" ashfordWorld 0

/-- After the day's governance, agent 1 leads Ashford, where it no longer
lives, and Brookvale, where it does. -/
theorem leaderMoved_leads_two :
    (1 ∈ (leaderMovedWorld.processGovernance 0).settlementAgents
        ((leaderMovedWorld.processGovernance 0).settlementAt 0).id ∧
      ((leaderMovedWorld.processGovernance 0).agentAt 1).alive = true ∧
      16 ≤ ((leaderMovedWorld.processGovernance 0).agentAt 1).age ∧
      ((leaderMovedWorld.processGovernance 0).settlementAt 0).leaderID =
        some ((leaderMovedWorld.processGovernance 0).agentAt 0).id ∧
      (leaderMovedWorld.processGovernance 0).agentIndex
        ((leaderMovedWorld.processGovernance 0).agentAt 0).id = some 0 ∧
      ((leaderMovedWorld.processGovernance 0).agentAt 0).alive = true ∧
      ((leaderMovedWorld.processGovernance 0).agentAt 0).homeSettID ≠
        some ((leaderMovedWorld.processGovernance 0).settlementAt 0).id) ∧
      ((leaderMovedWorld.processGovernance 0).settlementAt 1).leaderID = some 1 :=
  ⟨departed_leader_keeps_office 0 leaderMovedWorld 0 0 1 (by decide +kernel) (by decide +kernel)
      (by decide +kernel) (by decide +kernel) (by decide +kernel) (by decide +kernel)
      (by decide +kernel) (by decide +kernel),
    by decide +kernel⟩

end Simulation

end MiniWorld.Engine
