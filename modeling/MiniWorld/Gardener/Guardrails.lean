import Mathlib.Algebra.Order.Field.Rat
import Mathlib.Algebra.Order.Group.Unbundled.Abs
import Mathlib.Tactic.Linarith
/-! # The gardener's guardrails (`internal/gardener/decide.go`)

`Decide` asks a language model for a `Decision` in JSON, decodes it, promotes the legacy
single `intervention` and hands the result to `enforceGuardrails`, the last check before
the interventions reach the admin API.  The model starts from the decoded decision: any
value of `Decision`, where a JSON `null` in `interventions` is a nil pointer (`none`).  Of
the snapshot, `enforceGuardrails` reads only the settlements' names and treasuries, and of
the health only `CrisisLevel`.  The `slog` warnings are not modelled, except where building
one dereferences a nil pointer.

A run of the guardrails ends in one of three ways (`Outcome`).  When it returns normally,
the decision is either "none" with no interventions, or between one and the crisis level's
cap of interventions, each with Category "gardener", a known type and that type's bounds
(`enforceGuardrails_ok`).  It does not always return: with a nil health and more than one
intervention, the cap's warning reads `health.CrisisLevel`, and a `null` intervention is
written through by `iv.Category = "gardener"`; both are nil pointer dereferences
(`guardrails_panic`).
-/

namespace MiniWorld.Gardener

/-- How a Go call ends: a panic, a returned error with its text, or a normal return with
what the call leaves behind. -/
inductive Outcome (α : Type)
  | panic
  | error (message : String)
  | ok (value : α)
  deriving DecidableEq, Repr

/-- `Intervention`; a field the JSON leaves out is Go's zero value. -/
structure Intervention where
  type : String
  description : String := ""
  category : String := ""
  settlement : String := ""
  amount : ℤ := 0
  count : ℤ := 0
  good : String := ""
  quantity : ℤ := 0
  multiplier : ℚ := 0
  durationDays : ℤ := 0
  deriving DecidableEq, Repr

/-- `Decision`; a nil pointer, from a JSON `null` or a missing field, is `none`. -/
structure Decision where
  action : String
  rationale : String := ""
  intervention : Option Intervention := none
  interventions : List (Option Intervention) := []
  deriving DecidableEq, Repr

/-- `SettlementInfo`, with the fields the guardrails read. -/
structure SettlementInfo where
  name : String
  treasury : UInt64
  deriving DecidableEq, Repr

/-- `WorldSnapshot`, with the settlements the guardrails read. -/
structure WorldSnapshot where
  settlements : List SettlementInfo := []
  deriving DecidableEq, Repr

/-- `WorldHealth`, with the crisis level the guardrails read. -/
structure WorldHealth where
  crisisLevel : String
  deriving DecidableEq, Repr

/-! ## The pieces of the guardrails -/

/-- Go's `int64(v)` of a `uint64`: the same 64 bits read in two's complement. -/
def int64OfUInt64 (v : UInt64) : ℤ :=
  if v.toNat < 2 ^ 63 then v.toNat else v.toNat - 2 ^ 64

/-- The guardrails' two-sided cap, in the source's order: `if x > hi { x = hi }` then
`if x < lo { x = lo }`. -/
def capTo {α : Type} [LinearOrder α] (lo hi x : α) : α :=
  let x := if x > hi then hi else x
  if x < lo then lo else x

/-- The treasury the wealth guardrail reads: that of the first settlement of the snapshot with
the name, or 0. -/
def WorldSnapshot.treasuryOf (snap : WorldSnapshot) (name : String) : UInt64 :=
  match snap.settlements.find? (fun s => s.name = name) with
  | some s => s.treasury
  | none => 0

/-- `maxAdjust`, the wealth guardrail's cap on the amount, from a treasury. -/
def maxAdjust (treasury : UInt64) : ℤ :=
  let maxAdjust := (int64OfUInt64 treasury).tdiv 10
  if maxAdjust < 1 then 1 else maxAdjust

/-- `maxInterventions`, the cap on the interventions of one decision by crisis level. -/
def maxInterventions (health : Option WorldHealth) : ℕ :=
  match health with
  | some h => if h.crisisLevel = "CRITICAL" then 3 else if h.crisisLevel = "WARNING" then 2 else 1
  | none => 1

/-- The truncation to the cap: `d.Interventions = d.Interventions[:maxInterventions]` when
there are more. -/
def capInterventions (health : Option WorldHealth) (interventions : List (Option Intervention)) :
    List (Option Intervention) :=
  if interventions.length > maxInterventions health then
    interventions.take (maxInterventions health)
  else interventions

/-- The first test of every case but "event": the intervention names a settlement. -/
def requireSettlement (kind : String) (iv : Intervention) (guarded : Except String Intervention) :
    Except String Intervention :=
  if iv.settlement = "" then .error (kind ++ " intervention requires a settlement") else guarded

/-- The switch on the intervention's type.  Go formats the unknown type with `%q`, modelled by
`String.quote` (the two agree on printable ASCII). -/
def guardIntervention (snap : WorldSnapshot) (iv : Intervention) : Except String Intervention :=
  match iv.type with
  | "event" =>
    -- No special guardrails beyond requiring description.
    .ok (if iv.description = "" then { iv with description := "A strange wind blows across the land." }
      else iv)
  | "wealth" =>
    requireSettlement "wealth" iv <|
      let cap := maxAdjust (snap.treasuryOf iv.settlement)
      .ok { iv with amount := capTo (-cap) cap iv.amount }
  | "spawn" => requireSettlement "spawn" iv <| .ok { iv with count := capTo 1 100 iv.count }
  | "provision" =>
    requireSettlement "provision" iv <|
      if iv.good = "" then .error "provision intervention requires a good"
      else .ok { iv with quantity := capTo 1 200 iv.quantity }
  | "cultivate" =>
    requireSettlement "cultivate" iv <|
      .ok { iv with multiplier := capTo 1 2 iv.multiplier, durationDays := capTo 1 14 iv.durationDays }
  | "consolidate" =>
    requireSettlement "consolidate" iv <| .ok { iv with count := capTo 1 100 iv.count }
  | type => .error ("unknown intervention type " ++ type.quote)

/-- The loop over the kept interventions: each is given Category "gardener", then its case of
the switch.  A nil element panics at that write; the first error returns. -/
def guardInterventions (snap : WorldSnapshot) :
    List (Option Intervention) → Outcome (List (Option Intervention))
  | [] => .ok []
  | none :: _ => .panic
  | some iv :: rest =>
    match guardIntervention snap { iv with category := "gardener" } with
    | .error message => .error message
    | .ok iv =>
      match guardInterventions snap rest with
      | .ok rest => .ok (some iv :: rest)
      | .error message => .error message
      | .panic => .panic

/-- `enforceGuardrails`, with the decision it leaves behind when it returns nil. -/
def enforceGuardrails (d : Decision) (snap : WorldSnapshot) (health : Option WorldHealth) :
    Outcome Decision :=
  if d.action = "none" ∨ d.interventions.length = 0 then
    .ok { d with action := "none", interventions := [], intervention := none }
  else
    -- Cap intervention count based on crisis level; the warning reads health.CrisisLevel.
    if d.interventions.length > maxInterventions health ∧ health = none then .panic
    else
      match guardInterventions snap (capInterventions health d.interventions) with
      | .ok guarded => .ok { d with interventions := guarded }
      | .error message => .error message
      | .panic => .panic

/-- `Decide` from the decoded decision on: the legacy single intervention is promoted when
the list is empty, then the guardrails run and an error is wrapped. -/
def decideGuarded (decision : Decision) (snap : WorldSnapshot) (health : Option WorldHealth) :
    Outcome Decision :=
  let decision := if decision.intervention.isSome ∧ decision.interventions.length = 0 then
      { decision with interventions := [decision.intervention] }
    else decision
  match enforceGuardrails decision snap health with
  | .error message => .error ("guardrail violation: " ++ message)
  | outcome => outcome

/-! ## What a returned decision satisfies -/

theorem capTo_mem {α : Type} [LinearOrder α] {lo hi : α} (x : α) (ordered : lo ≤ hi) :
    lo ≤ capTo lo hi x ∧ capTo lo hi x ≤ hi := by
  unfold capTo
  dsimp only
  split_ifs with above below below
  · exact ⟨le_refl lo, ordered⟩
  · exact ⟨not_lt.mp below, le_refl hi⟩
  · exact ⟨le_refl lo, ordered⟩
  · exact ⟨not_lt.mp below, not_lt.mp above⟩

/-- The signed reading never raises the cap: a treasury at or above 2^63 reads negative. -/
theorem int64OfUInt64_tdiv_le (v : UInt64) :
    (int64OfUInt64 v).tdiv 10 ≤ ((v.toNat / 10 : ℕ) : ℤ) := by
  unfold int64OfUInt64
  split_ifs with small
  · rw [Int.tdiv_eq_ediv_of_nonneg (by positivity)]
    omega
  · have wide := v.toNat_lt
    have flipped : 0 ≤ (-(v.toNat - (2 : ℤ) ^ 64)).tdiv 10 :=
      Int.tdiv_nonneg (by push_cast; omega) (by norm_num)
    rw [Int.neg_tdiv] at flipped
    omega

theorem maxInterventions_pos (health : Option WorldHealth) : 1 ≤ maxInterventions health := by
  unfold maxInterventions
  split
  · split_ifs <;> norm_num
  · norm_num

/-- A nonempty list keeps between one and the cap of its interventions. -/
theorem capInterventions_length (health : Option WorldHealth)
    {interventions : List (Option Intervention)} (nonempty : 0 < interventions.length) :
    1 ≤ (capInterventions health interventions).length ∧
      (capInterventions health interventions).length ≤ maxInterventions health := by
  have capped := maxInterventions_pos health
  unfold capInterventions
  split_ifs with long
  · simp only [List.length_take]
    omega
  · omega

/-- The truncation keeps the first intervention first. -/
theorem capInterventions_cons (health : Option WorldHealth) (first : Option Intervention)
    (rest : List (Option Intervention)) :
    ∃ kept, capInterventions health (first :: rest) = first :: kept := by
  obtain ⟨cap, grown⟩ : ∃ cap, maxInterventions health = cap + 1 :=
    ⟨_, (Nat.succ_pred_eq_of_pos (maxInterventions_pos health)).symm⟩
  unfold capInterventions
  split_ifs
  · rw [grown, List.take_succ_cons]
    exact ⟨_, rfl⟩
  · exact ⟨rest, rfl⟩

/-- What the guardrails promise of an intervention they pass: Category "gardener", a known
type, and that type's bounds. -/
def Guarded (snap : WorldSnapshot) (iv : Intervention) : Prop :=
  iv.category = "gardener" ∧
    (iv.type = "event" ∧ iv.description ≠ "" ∨
      iv.type = "wealth" ∧
        |iv.amount| ≤ max 1 (((snap.treasuryOf iv.settlement).toNat / 10 : ℕ) : ℤ) ∨
      (iv.type = "spawn" ∨ iv.type = "consolidate") ∧ 1 ≤ iv.count ∧ iv.count ≤ 100 ∨
      iv.type = "provision" ∧ 1 ≤ iv.quantity ∧ iv.quantity ≤ 200 ∨
      iv.type = "cultivate" ∧ 1 ≤ iv.multiplier ∧ iv.multiplier ≤ 2 ∧
        1 ≤ iv.durationDays ∧ iv.durationDays ≤ 14)

/-- A decision that passed the guardrails: "none" with no interventions, or between one and
the crisis level's cap of interventions, each guarded. -/
def GuardedDecision (snap : WorldSnapshot) (health : Option WorldHealth) (d : Decision) : Prop :=
  d.action = "none" ∧ d.interventions = [] ∨
    1 ≤ d.interventions.length ∧ d.interventions.length ≤ maxInterventions health ∧
      ∀ x ∈ d.interventions, ∃ iv, x = some iv ∧ Guarded snap iv

theorem requireSettlement_ok {kind : String} {iv iv' : Intervention}
    {guarded : Except String Intervention} (passed : requireSettlement kind iv guarded = .ok iv') :
    guarded = .ok iv' := by
  unfold requireSettlement at passed
  split_ifs at passed
  exact passed

/-- The wealth cap is at least one and at most `max 1 (treasury / 10)`. -/
theorem maxAdjust_bounds (treasury : UInt64) :
    1 ≤ maxAdjust treasury ∧ maxAdjust treasury ≤ max 1 ((treasury.toNat / 10 : ℕ) : ℤ) := by
  have signed := int64OfUInt64_tdiv_le treasury
  unfold maxAdjust
  dsimp only
  split_ifs <;> omega

/-- Each case of the switch that returns normally meets its type's bounds; the category is
left as it was. -/
theorem guardIntervention_ok {snap : WorldSnapshot} {iv iv' : Intervention}
    (passed : guardIntervention snap iv = .ok iv') (category : iv.category = "gardener") :
    Guarded snap iv' := by
  unfold guardIntervention at passed
  split at passed
  · -- event
    rename_i typed
    injection passed with passed
    subst passed
    refine ⟨by split_ifs <;> exact category, .inl ⟨by split_ifs <;> exact typed, ?_⟩⟩
    split_ifs with blank
    · simp
    · exact blank
  · -- wealth
    rename_i typed
    injection requireSettlement_ok passed with passed
    subst passed
    obtain ⟨positive, bounded⟩ := maxAdjust_bounds (snap.treasuryOf iv.settlement)
    obtain ⟨low, high⟩ := capTo_mem iv.amount (by omega : -maxAdjust (snap.treasuryOf iv.settlement) ≤
      maxAdjust (snap.treasuryOf iv.settlement))
    exact ⟨category, .inr (.inl ⟨typed, (abs_le.mpr ⟨low, high⟩).trans bounded⟩)⟩
  · -- spawn
    rename_i typed
    injection requireSettlement_ok passed with passed
    subst passed
    exact ⟨category, .inr (.inr (.inl ⟨.inl typed, capTo_mem iv.count (by norm_num)⟩))⟩
  · -- provision
    rename_i typed
    have passed := requireSettlement_ok passed
    split_ifs at passed
    injection passed with passed
    subst passed
    exact ⟨category, .inr (.inr (.inr (.inl ⟨typed, capTo_mem iv.quantity (by norm_num)⟩)))⟩
  · -- cultivate
    rename_i typed
    injection requireSettlement_ok passed with passed
    subst passed
    obtain ⟨low, high⟩ := capTo_mem iv.multiplier (by norm_num : (1 : ℚ) ≤ 2)
    obtain ⟨short, long⟩ := capTo_mem iv.durationDays (by norm_num : (1 : ℤ) ≤ 14)
    exact ⟨category, .inr (.inr (.inr (.inr ⟨typed, low, high, short, long⟩)))⟩
  · -- consolidate
    rename_i typed
    injection requireSettlement_ok passed with passed
    subst passed
    exact ⟨category, .inr (.inr (.inl ⟨.inr typed, capTo_mem iv.count (by norm_num)⟩))⟩
  · -- an unknown type returns an error
    cases passed

/-- A loop that returns normally keeps every element, each guarded. -/
theorem guardInterventions_ok (snap : WorldSnapshot) :
    ∀ (kept guarded : List (Option Intervention)), guardInterventions snap kept = .ok guarded →
      guarded.length = kept.length ∧ ∀ x ∈ guarded, ∃ iv, x = some iv ∧ Guarded snap iv
  | [], guarded, passed => by
    cases passed
    simp
  | none :: _, _, passed => by cases passed
  | some iv :: rest, guarded, passed => by
    unfold guardInterventions at passed
    split at passed
    · cases passed
    · rename_i iv' first
      split at passed
      · rename_i later tail
        cases passed
        obtain ⟨length, guardedRest⟩ := guardInterventions_ok snap rest later tail
        refine ⟨by simp [length], ?_⟩
        rintro x (⟨⟩ | ⟨_, member⟩)
        · exact ⟨iv', rfl, guardIntervention_ok first rfl⟩
        · exact guardedRest x member
      · cases passed
      · cases passed

/-- A normal return leaves a guarded decision. -/
theorem enforceGuardrails_ok {d d' : Decision} {snap : WorldSnapshot}
    {health : Option WorldHealth} (returned : enforceGuardrails d snap health = .ok d') :
    GuardedDecision snap health d' := by
  unfold enforceGuardrails at returned
  split_ifs at returned with idle crowded
  · cases returned
    exact .inl ⟨rfl, rfl⟩
  · have nonempty : 0 < d.interventions.length := by
      simp only [not_or] at idle
      omega
    split at returned
    · rename_i guarded kept
      cases returned
      obtain ⟨length, each⟩ := guardInterventions_ok snap _ guarded kept
      have bounds := capInterventions_length health nonempty
      rw [← length] at bounds
      exact .inr ⟨bounds.1, bounds.2, each⟩
    · cases returned
    · cases returned

/-- What `Decide` returns has passed the guardrails. -/
theorem decideGuarded_ok {decision d' : Decision} {snap : WorldSnapshot}
    {health : Option WorldHealth} (returned : decideGuarded decision snap health = .ok d') :
    GuardedDecision snap health d' := by
  unfold decideGuarded at returned
  -- promoted or not, the decision goes through the guardrails
  split at returned
  all_goals
    dsimp only at returned
    split at returned
    · cases returned
    · exact enforceGuardrails_ok returned

/-! ## Where the guardrails panic -/

theorem guardrails_panic (d : Decision) (snap : WorldSnapshot) (acting : d.action ≠ "none") :
    (1 < d.interventions.length → enforceGuardrails d snap none = .panic) ∧
      (∀ health, d.interventions.head? = some none → enforceGuardrails d snap health = .panic) := by
  constructor
  · intro several
    unfold enforceGuardrails
    rw [if_neg (by simp only [not_or]; exact ⟨acting, by omega⟩),
      if_pos ⟨by simp only [maxInterventions]; omega, rfl⟩]
  · intro health nilFirst
    obtain ⟨rest, listed⟩ : ∃ rest, d.interventions = none :: rest := by
      cases h : d.interventions with
      | nil => simp [h] at nilFirst
      | cons head rest =>
        simp only [h, List.head?_cons, Option.some.injEq] at nilFirst
        exact ⟨rest, by rw [nilFirst]⟩
    obtain ⟨kept, capped⟩ := capInterventions_cons health none rest
    unfold enforceGuardrails
    rw [listed, if_neg (by simp [acting])]
    split_ifs
    · rfl
    · rw [capped]
      rfl

/-- Two events with a nil health; and one `null` intervention, `{"action":"event",
"interventions":[null]}`, at a critical health. -/
theorem guardrails_panic_on_nil :
    enforceGuardrails { action := "event", interventions := [some { type := "event" },
        some { type := "event" }] } {} none = .panic ∧
      enforceGuardrails { action := "event", interventions := [none] } {}
        (some { crisisLevel := "CRITICAL" }) = .panic :=
  ⟨(guardrails_panic { action := "event", interventions := [some { type := "event" },
      some { type := "event" }] } {} (by decide)).1 (by decide),
    (guardrails_panic { action := "event", interventions := [none] } {} (by decide)).2 _ rfl⟩

end MiniWorld.Gardener
