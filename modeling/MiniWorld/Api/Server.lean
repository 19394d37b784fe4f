import MiniWorld.Engine.Loop
import Mathlib.Algebra.Order.Field.Rat

/-! # The admin endpoints (`internal/api/server.go` lines 238–254, 2350–2582)

`/api/v1/snapshot` and `/api/v1/intervention` sit behind `adminOnly`, and each
request runs on its own HTTP goroutine.  This module models what each handler
does with its request: the error it answers, with the source's status and
text, or the writes it makes to the simulation and how it makes them, as a
program of `Action`s for the interleaving semantics of `Engine.Loop`.

`handleSnapshot` submits its save as a loop task (the W-21 fix), so over every
interleaving its save runs at a safe point (`snapshots_at_safe_points`).
`handleIntervention` calls into the simulation from the handler goroutine:
adjusting a treasury, appending spawned agents to `Agents`, `AgentIndex` and
`SettlementAgents`, provisioning, cultivating, consolidating and emitting events.
Each of those writes can land in the middle of a step
(`intervention_writes_inside_step`).

What the engine functions called by `provision`, `cultivate` and `consolidate`
write is not modelled here: a call that succeeds is one write, and a call that
fails answers its error without writing.  The success bodies of the responses
are not modelled.
-/

namespace MiniWorld.Api

open MiniWorld.Engine MiniWorld.Run

/-- The simulation state a handler writes. -/
inductive SimWrite where
  /-- `EmitEvent` appends to `Events`. -/
  | emitEvent
  /-- `found.Treasury = …`. -/
  | adjustTreasury
  /-- `SpawnPopulation`, then appends to `Agents`, `AgentIndex` and
  `SettlementAgents` and raises `Population`. -/
  | spawnImmigrants
  /-- `ProvisionSettlement`: market supply and an event. -/
  | provisionSettlement
  /-- `CultivateSettlement`: `ActiveBoosts` and an event. -/
  | cultivateSettlement
  /-- `ConsolidateSettlement`: homes, `SettlementAgents` and an event. -/
  | consolidateSettlement
  /-- `SaveWorldState`, which walks the whole simulation. -/
  | saveWorldState
  deriving DecidableEq, Repr

/-- What a handler answers: an error with its status and text, or success. -/
inductive Response where
  | error (status : ℕ) (message : String)
  | success
  deriving DecidableEq, Repr

/-- `adminOnly`: a `POST` needs an admin key configured and a bearer token that
matches it; other methods pass through to the handler. -/
def adminOnly (method adminKey : String) (tokenMatches : Bool)
    (handler : Response × List (Action SimWrite)) : Response × List (Action SimWrite) :=
  if method = "POST" then
    if adminKey = "" then (.error 403 "admin endpoints disabled (no WORLDSIM_ADMIN_KEY set)", [])
    else if !tokenMatches then (.error 401 "unauthorized", [])
    else handler
  else handler

/-- `handleSnapshot`: with an engine wired the save is submitted as a loop
task; without one (tests) it runs on the handler goroutine. -/
def handleSnapshot (method : String) (dbAvailable engineWired : Bool) :
    Response × List (Action SimWrite) :=
  if method ≠ "POST" then (.error 405 "method not allowed", [])
  else if !dbAvailable then (.error 503 "database not available", [])
  else if engineWired then (.success, [.submit .saveWorldState])
  else (.success, [.direct .saveWorldState])

/-- The JSON body of an intervention; a field left out is Go's zero value. -/
structure InterventionRequest where
  type : String
  description : String := ""
  category : String := ""
  settlement : String := ""
  amount : ℤ := 0
  count : ℤ := 0
  good : String := ""
  quantity : ℤ := 0
  multiplier : ℚ := 0
  durationDays : ℤ := 0

/-- The end of a call into the engine: its error is answered with status 400
and nothing is written; on success it has made its one write. -/
def engineCall (write : SimWrite) (callError : Option String) : Response × List (Action SimWrite) :=
  match callError with
  | some message => (.error 400 message, [])
  | none => (.success, [.direct write])

/-- The `event` case: an event with a description is emitted. -/
def eventIntervention (req : InterventionRequest) : Response × List (Action SimWrite) :=
  if req.description = "" then (.error 400 "description required for event type", [])
  else (.success, [.direct .emitEvent])

/-- The `wealth` case: the treasury of the first settlement of that name is
adjusted. -/
def wealthIntervention (req : InterventionRequest) (settlementNames : List String) :
    Response × List (Action SimWrite) :=
  if req.settlement = "" then (.error 400 "settlement required for wealth type", [])
  else if req.settlement ∉ settlementNames then (.error 404 "settlement not found", [])
  else (.success, [.direct .adjustTreasury])

/-- The `spawn` case: up to a hundred immigrants join the settlement. -/
def spawnIntervention (req : InterventionRequest) (settlementNames : List String)
    (spawnerAvailable : Bool) : Response × List (Action SimWrite) :=
  if req.settlement = "" ∨ req.count ≤ 0 then
    (.error 400 "settlement and count required for spawn type", [])
  else if req.count > 100 then (.error 400 "max 100 agents per spawn", [])
  else if req.settlement ∉ settlementNames then (.error 404 "settlement not found", [])
  else if !spawnerAvailable then (.error 503 "spawner not available", [])
  else (.success, [.direct .spawnImmigrants])

/-- The `provision` case: at most two hundred units, through `ProvisionSettlement`. -/
def provisionIntervention (req : InterventionRequest) (callError : Option String) :
    Response × List (Action SimWrite) :=
  if req.settlement = "" ∨ req.good = "" ∨ req.quantity ≤ 0 then
    (.error 400 "settlement, good, and quantity required for provision type", [])
  else if req.quantity > 200 then (.error 400 "max 200 units per provision", [])
  else engineCall .provisionSettlement callError

/-- The `cultivate` case: a boost of at most `2.0` for at most fourteen days,
through `CultivateSettlement`. -/
def cultivateIntervention (req : InterventionRequest) (callError : Option String) :
    Response × List (Action SimWrite) :=
  if req.settlement = "" ∨ req.multiplier ≤ 0 ∨ req.durationDays ≤ 0 then
    (.error 400 "settlement, multiplier, and duration_days required for cultivate type", [])
  else if req.multiplier > 2 then (.error 400 "max multiplier is 2.0", [])
  else if req.durationDays > 14 then (.error 400 "max duration is 14 days", [])
  else engineCall .cultivateSettlement callError

/-- The `consolidate` case: at most a hundred agents moved, through
`ConsolidateSettlement`. -/
def consolidateIntervention (req : InterventionRequest) (callError : Option String) :
    Response × List (Action SimWrite) :=
  if req.settlement = "" ∨ req.count ≤ 0 then
    (.error 400 "settlement and count required for consolidate type", [])
  else if req.count > 100 then (.error 400 "max 100 agents per consolidate", [])
  else engineCall .consolidateSettlement callError

/-- `handleIntervention`: the method and the body are checked, then the
request's `type` selects its case.  `settlementNames` are the names in
`Settlements`, `spawnerAvailable` whether `Sim.Spawner` is set, and `callError`
the error the engine function of a `provision`, `cultivate` or `consolidate`
returns. -/
def handleIntervention (method : String) (body : Option InterventionRequest)
    (settlementNames : List String) (spawnerAvailable : Bool) (callError : Option String) :
    Response × List (Action SimWrite) :=
  if method ≠ "POST" then (.error 405 "method not allowed", [])
  else
    match body with
    | none => (.error 400 "invalid json", [])
    | some req =>
      if req.type = "event" then eventIntervention req
      else if req.type = "wealth" then wealthIntervention req settlementNames
      else if req.type = "spawn" then spawnIntervention req settlementNames spawnerAvailable
      else if req.type = "provision" then provisionIntervention req callError
      else if req.type = "cultivate" then cultivateIntervention req callError
      else if req.type = "consolidate" then consolidateIntervention req callError
      else
        (.error 400
          "unknown intervention type (use: event, wealth, spawn, provision, cultivate, consolidate)", [])

/-! ## What the handlers write -/

/-- A handler answer that writes only when it succeeds, and then only from the
handler goroutine. -/
def DirectOnSuccess (answer : Response × List (Action SimWrite)) : Prop :=
  (answer.1 ≠ .success → answer.2 = []) ∧ ∀ a ∈ answer.2, ∃ write, a = .direct write

theorem directOnSuccess_error (status : ℕ) (message : String) :
    DirectOnSuccess (.error status message, []) :=
  ⟨fun _ => rfl, fun _ absent => absurd absent List.not_mem_nil⟩

theorem directOnSuccess_write (write : SimWrite) : DirectOnSuccess (.success, [.direct write]) :=
  ⟨fun failed => absurd rfl failed, fun _ written => ⟨write, List.mem_singleton.mp written⟩⟩

theorem engineCall_directOnSuccess (write : SimWrite) (callError : Option String) :
    DirectOnSuccess (engineCall write callError) := by
  cases callError with
  | some message => exact directOnSuccess_error 400 message
  | none => exact directOnSuccess_write write

/-- Every case of an intervention answers an error without writing, or
succeeds with writes made from the handler goroutine, none submitted as a loop
task. -/
theorem handleIntervention_directOnSuccess (method : String) (body : Option InterventionRequest)
    (settlementNames : List String) (spawnerAvailable : Bool) (callError : Option String) :
    DirectOnSuccess (handleIntervention method body settlementNames spawnerAvailable callError) := by
  unfold handleIntervention
  split_ifs
  · exact directOnSuccess_error _ _
  · split
    · exact directOnSuccess_error _ _
    · rename_i req
      -- one case per intervention type, each a chain of checks ending in one write
      split_ifs
      · unfold eventIntervention
        split_ifs
        · exact directOnSuccess_error _ _
        · exact directOnSuccess_write _
      · unfold wealthIntervention
        split_ifs
        all_goals first | exact directOnSuccess_error _ _ | exact directOnSuccess_write _
      · unfold spawnIntervention
        split_ifs
        all_goals first | exact directOnSuccess_error _ _ | exact directOnSuccess_write _
      · unfold provisionIntervention
        split_ifs
        all_goals first | exact directOnSuccess_error _ _ | exact engineCall_directOnSuccess _ _
      · unfold cultivateIntervention
        split_ifs
        all_goals first | exact directOnSuccess_error _ _ | exact engineCall_directOnSuccess _ _
      · unfold consolidateIntervention
        split_ifs
        all_goals first | exact directOnSuccess_error _ _ | exact engineCall_directOnSuccess _ _
      · exact directOnSuccess_error _ _

/-- With the engine wired, snapshot requests, however many and however they
interleave with the tick loop, save only at safe points. -/
theorem snapshots_at_safe_points {requests : List (List (Action SimWrite))}
    (snapshots : ∀ program ∈ requests, ∃ method dbAvailable,
      program = (handleSnapshot method dbAvailable true).2)
    {c : Config SimWrite} (reachable : Reachable Config.Step (· = Config.start requests) c) :
    ∀ w ∈ c.log, w.phase = .safePoint := by
  refine Config.reachable_safePoint_of_submitsOnly (fun program member => ?_) reachable
  obtain ⟨method, dbAvailable, rfl⟩ := snapshots program member
  intro a queued
  unfold handleSnapshot at queued
  split_ifs at queued <;> simp_all

/-- A `wealth` intervention for a listed settlement, made while the loop is
inside a step, adjusts the treasury in the middle of that step. -/
theorem intervention_writes_inside_step :
    ∃ c, Reachable Config.Step
        (· = Config.start [(handleIntervention "POST"
          (some { type := "wealth", settlement := "Ironhaven", amount := 50 })
          ["Ironhaven"] true none).2]) c ∧
      (⟨.adjustTreasury, .inStep, false⟩ : LoggedWrite SimWrite) ∈ c.log := by
  refine ⟨_, ⟨_, rfl, .tail (.tail .refl ⟨.beginStep, rfl⟩) ⟨.advance 0, rfl⟩⟩, ?_⟩
  decide

end MiniWorld.Api
