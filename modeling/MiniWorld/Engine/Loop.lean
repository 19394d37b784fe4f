import MiniWorld.Run.Invariant
import Mathlib.Data.List.Basic

/-! # The tick loop and the HTTP goroutines (`internal/engine/tick.go` lines 57–143)

`Engine.Run` alternates `step()` with `drainLoopTasks()`, which runs every task
queued by `SubmitLoopTask` at that safe point; while paused it only drains.
HTTP handlers run on goroutines of their own, at any moment, and nothing locks
the simulation.  A handler reaches the simulation in one of two ways: it
writes it from its own goroutine (`Action.direct`), or it submits the write
as a loop task (`Action.submit`), as `handleSnapshot` does since W-21.

`Config` is one moment of that system: the loop's phase, the task queue (a
buffered channel of eight), the actions each request still has to take and the
log of the writes made for requests, each with the phase it ran in.  `next`
takes one event of any party, so a run is any interleaving of the loop with
the requests.

* `next_inStep_direct` — a write logged inside a step was made from a handler's
  own goroutine: no loop task ever overlaps a step;
* `reachable_tasks_fifo` — every submitted task runs once, in submission
  order, or is still queued: none is lost or run twice.
-/

namespace MiniWorld.Engine

open MiniWorld.Run

/-- How a request reaches the simulation. -/
inductive Action (α : Type) where
  /-- The write runs on the request's own goroutine. -/
  | direct (write : α)
  /-- `SubmitLoopTask`: the write runs in the tick loop, at a safe point. -/
  | submit (write : α)
  deriving DecidableEq, Repr

/-- Where the tick loop is. -/
inductive Phase where
  /-- Between steps: draining tasks, sleeping, or paused. -/
  | safePoint
  /-- Inside `step()`. -/
  | inStep
  deriving DecidableEq, Repr

/-- A write made for a request, with the phase the loop was in and whether it
ran as a loop task. -/
structure LoggedWrite (α : Type) where
  write : α
  phase : Phase
  viaTask : Bool
  deriving DecidableEq, Repr

/-- The capacity of `loopTasks` (`make(chan func(), 8)`). -/
def loopTaskCapacity : ℕ := 8

/-- The loop, the queue, the requests in flight and the writes made so far;
`submitted` records the tasks in the order `SubmitLoopTask` queued them. -/
structure Config (α : Type) where
  phase : Phase
  loopTasks : List α
  requests : List (List (Action α))
  log : List (LoggedWrite α)
  submitted : List α

/-- What can happen next. -/
inductive Event where
  /-- The loop enters `step()`. -/
  | beginStep
  /-- `step()` returns. -/
  | endStep
  /-- `drainLoopTasks` runs the task at the head of the queue. -/
  | drainTask
  /-- Request `i` takes its next action. -/
  | advance (i : ℕ)
  /-- Request `i`'s `SubmitLoopTask` waits out its two seconds on a full queue
  and the handler returns an error. -/
  | giveUp (i : ℕ)
  deriving DecidableEq, Repr

namespace Config

variable {α : Type}

/-- A system with these requests in flight, the loop at a safe point and
nothing queued or written. -/
def start (requests : List (List (Action α))) : Config α := ⟨.safePoint, [], requests, [], []⟩

/-- One event, when it can happen. -/
def next (c : Config α) : Event → Option (Config α)
  | .beginStep => if c.phase = .safePoint then some { c with phase := .inStep } else none
  | .endStep => if c.phase = .inStep then some { c with phase := .safePoint } else none
  | .drainTask =>
    match c.phase, c.loopTasks with
    | .safePoint, task :: rest =>
      some { c with loopTasks := rest, log := c.log ++ [⟨task, .safePoint, true⟩] }
    | _, _ => none
  | .advance i =>
    match c.requests[i]? with
    | some (.direct write :: rest) =>
      some { c with requests := c.requests.set i rest, log := c.log ++ [⟨write, c.phase, false⟩] }
    | some (.submit write :: rest) =>
      if c.loopTasks.length < loopTaskCapacity then
        some { c with requests := c.requests.set i rest, loopTasks := c.loopTasks ++ [write],
                      submitted := c.submitted ++ [write] }
      else none
    | _ => none
  | .giveUp i =>
    match c.requests[i]? with
    | some (.submit _ :: _) =>
      if c.loopTasks.length < loopTaskCapacity then none
      else some { c with requests := c.requests.set i [] }
    | _ => none

/-- One step of the system: some event happens. -/
def Step (c c' : Config α) : Prop := ∃ e, c.next e = some c'

/-! ## What one event does -/

/-- Everything an event can do, its guards included. -/
theorem next_cases {c c' : Config α} {e : Event} (happens : c.next e = some c') :
    (c.phase = .safePoint ∧ c' = { c with phase := .inStep }) ∨
    (c.phase = .inStep ∧ c' = { c with phase := .safePoint }) ∨
    (∃ task rest, c.phase = .safePoint ∧ c.loopTasks = task :: rest ∧
      c' = { c with loopTasks := rest, log := c.log ++ [⟨task, .safePoint, true⟩] }) ∨
    (∃ i write rest, c.requests[i]? = some (.direct write :: rest) ∧
      c' = { c with requests := c.requests.set i rest, log := c.log ++ [⟨write, c.phase, false⟩] }) ∨
    (∃ i write rest, c.requests[i]? = some (.submit write :: rest) ∧
      c' = { c with requests := c.requests.set i rest, loopTasks := c.loopTasks ++ [write],
                    submitted := c.submitted ++ [write] }) ∨
    (∃ i, c' = { c with requests := c.requests.set i [] }) := by
  cases e with
  | beginStep =>
    simp only [next] at happens
    split_ifs at happens with safe
    exact .inl ⟨safe, (Option.some.inj happens).symm⟩
  | endStep =>
    simp only [next] at happens
    split_ifs at happens with stepping
    exact .inr (.inl ⟨stepping, (Option.some.inj happens).symm⟩)
  | drainTask =>
    simp only [next] at happens
    split at happens
    · rename_i task rest safe queued
      exact .inr (.inr (.inl ⟨task, rest, safe, queued, (Option.some.inj happens).symm⟩))
    · cases happens
  | advance i =>
    simp only [next] at happens
    split at happens
    · rename_i write rest found
      exact .inr (.inr (.inr (.inl ⟨i, write, rest, found, (Option.some.inj happens).symm⟩)))
    · rename_i write rest found
      split_ifs at happens
      exact .inr (.inr (.inr (.inr (.inl ⟨i, write, rest, found, (Option.some.inj happens).symm⟩))))
    · cases happens
  | giveUp i =>
    simp only [next] at happens
    split at happens
    · split_ifs at happens
      exact .inr (.inr (.inr (.inr (.inr ⟨i, (Option.some.inj happens).symm⟩))))
    · cases happens

/-- A write logged inside a step was made from a handler's own goroutine. -/
def TasksAtSafePoints (c : Config α) : Prop := ∀ w ∈ c.log, w.phase = .inStep → w.viaTask = false

/-- Every event keeps loop tasks out of steps: a task runs only when the
drain finds the loop at a safe point. -/
theorem next_inStep_direct {c c' : Config α} {e : Event} (kept : c.TasksAtSafePoints)
    (happens : c.next e = some c') : c'.TasksAtSafePoints := by
  rcases next_cases happens with
    ⟨-, rfl⟩ | ⟨-, rfl⟩ | ⟨task, rest, -, -, rfl⟩ | ⟨i, write, rest, -, rfl⟩ |
      ⟨i, write, rest, -, rfl⟩ | ⟨i, rfl⟩
  · exact kept
  · exact kept
  · intro w logged stepping
    rcases List.mem_append.mp logged with earlier | now
    · exact kept w earlier stepping
    · rw [List.mem_singleton.mp now] at stepping
      cases stepping
  · intro w logged stepping
    rcases List.mem_append.mp logged with earlier | now
    · exact kept w earlier stepping
    · rw [List.mem_singleton.mp now]
  · exact kept
  · exact kept

/-- Over every interleaving, no loop task runs inside a step. -/
theorem reachable_tasksAtSafePoints {requests : List (List (Action α))} {c : Config α}
    (reachable : Reachable Step (· = start requests) c) : c.TasksAtSafePoints :=
  reachable_invariant (fun _ started => by subst started; intro w logged; cases logged)
    (fun _ _ kept ⟨_, happens⟩ => next_inStep_direct kept happens) reachable

/-- The tasks that ran, in order, followed by those still queued, are the tasks
submitted, in order. -/
def TasksFifo (c : Config α) : Prop :=
  (c.log.filter (·.viaTask)).map (·.write) ++ c.loopTasks = c.submitted

theorem next_tasksFifo {c c' : Config α} {e : Event} (kept : c.TasksFifo)
    (happens : c.next e = some c') : c'.TasksFifo := by
  unfold TasksFifo at kept ⊢
  rcases next_cases happens with
    ⟨-, rfl⟩ | ⟨-, rfl⟩ | ⟨task, rest, -, queued, rfl⟩ | ⟨i, write, rest, -, rfl⟩ |
      ⟨i, write, rest, -, rfl⟩ | ⟨i, rfl⟩
  · exact kept
  · exact kept
  · -- the head of the queue moves to the end of the log of tasks run
    rw [queued] at kept
    simpa using kept
  · simpa using kept
  · rw [← kept]
    simp
  · exact kept

/-- Over every interleaving, every submitted task runs once, in submission
order, or is still queued: none is lost or run twice. -/
theorem reachable_tasks_fifo {requests : List (List (Action α))} {c : Config α}
    (reachable : Reachable Step (· = start requests) c) : c.TasksFifo :=
  reachable_invariant (fun _ started => by subst started; rfl)
    (fun _ _ kept ⟨_, happens⟩ => next_tasksFifo kept happens) reachable

/-- A request that reaches the simulation only through loop tasks. -/
def SubmitsOnly (program : List (Action α)) : Prop := ∀ a ∈ program, ∃ write, a = .submit write

/-- Every request in flight submits only, and every write made so far ran as a
loop task. -/
def OnlyTasks (c : Config α) : Prop :=
  (∀ program ∈ c.requests, SubmitsOnly program) ∧ ∀ w ∈ c.log, w.viaTask = true

theorem mem_of_getElem?_cons {programs : List (List (Action α))} {i : ℕ} {a : Action α}
    {rest : List (Action α)} (found : programs[i]? = some (a :: rest)) :
    a :: rest ∈ programs :=
  List.mem_of_getElem? found

/-- Shortening one request's program keeps every program submit-only. -/
theorem submitsOnly_set {programs : List (List (Action α))} {i : ℕ} {a : Action α}
    {rest : List (Action α)} (all : ∀ program ∈ programs, SubmitsOnly program)
    (found : programs[i]? = some (a :: rest)) :
    ∀ program ∈ programs.set i rest, SubmitsOnly program := by
  intro program member
  rcases List.mem_or_eq_of_mem_set member with earlier | rfl
  · exact all program earlier
  · exact fun a' later => all _ (mem_of_getElem?_cons found) a' (List.mem_cons_of_mem a later)

theorem next_onlyTasks {c c' : Config α} {e : Event} (kept : c.OnlyTasks)
    (happens : c.next e = some c') : c'.OnlyTasks := by
  obtain ⟨submitting, viaTasks⟩ := kept
  rcases next_cases happens with
    ⟨-, rfl⟩ | ⟨-, rfl⟩ | ⟨task, rest, -, -, rfl⟩ | ⟨i, write, rest, found, rfl⟩ |
      ⟨i, write, rest, found, rfl⟩ | ⟨i, rfl⟩
  · exact ⟨submitting, viaTasks⟩
  · exact ⟨submitting, viaTasks⟩
  · refine ⟨submitting, fun w logged => ?_⟩
    rcases List.mem_append.mp logged with earlier | now
    · exact viaTasks w earlier
    · rw [List.mem_singleton.mp now]
  · -- a submit-only program has no direct write to take
    obtain ⟨_, isSubmit⟩ := submitting _ (mem_of_getElem?_cons found) _ List.mem_cons_self
    cases isSubmit
  · exact ⟨submitsOnly_set submitting found, viaTasks⟩
  · refine ⟨fun program member => ?_, viaTasks⟩
    rcases List.mem_or_eq_of_mem_set member with earlier | rfl
    · exact submitting program earlier
    · exact fun _ absent => absurd absent List.not_mem_nil

/-- When every request reaches the simulation through loop tasks only, every
write of every interleaving runs at a safe point, never inside a step. -/
theorem reachable_safePoint_of_submitsOnly {requests : List (List (Action α))} {c : Config α}
    (submitting : ∀ program ∈ requests, SubmitsOnly program)
    (reachable : Reachable Step (· = start requests) c) :
    ∀ w ∈ c.log, w.phase = .safePoint := by
  have viaTasks : c.OnlyTasks := reachable_invariant
    (fun _ started => by subst started; exact ⟨submitting, fun w logged => by cases logged⟩)
    (fun _ _ kept ⟨_, happens⟩ => next_onlyTasks kept happens) reachable
  intro w logged
  cases phase : w.phase with
  | safePoint => rfl
  | inStep =>
    have direct := reachable_tasksAtSafePoints reachable w logged phase
    rw [viaTasks.2 w logged] at direct
    cases direct

end Config

end MiniWorld.Engine
