import Mathlib.Logic.Relation

/-! # Invariants of loops and runs

Two induction rules, each proved once and used by name for every loop and run
of the model:

* `foldl_invariant` — a `for` loop, written as a left fold, keeps whatever
  each iteration keeps;
* `reachable_invariant` — a property that holds initially and is kept by every
  step holds in every state reachable by the reflexive-transitive closure.
-/

namespace MiniWorld.Run

variable {σ α : Type*}

/-- A left fold keeps an invariant that every iteration keeps, for the
elements it iterates over. -/
theorem foldl_invariant (invariant : σ → Prop) (body : σ → α → σ) :
    ∀ (items : List α) (state : σ),
      (∀ item ∈ items, ∀ state, invariant state → invariant (body state item)) →
      invariant state → invariant (items.foldl body state)
  | [], _, _, holds => holds
  | item :: rest, state, keeps, holds =>
    foldl_invariant invariant body rest (body state item)
      (fun other member => keeps other (List.mem_cons_of_mem item member))
      (keeps item List.mem_cons_self state holds)

/-- The states reachable from `start` by steps of `step`. -/
def Reachable (step : σ → σ → Prop) (start : σ → Prop) (state : σ) : Prop :=
  ∃ origin, start origin ∧ Relation.ReflTransGen step origin state

/-- An invariant that holds initially and that every step keeps holds in every
reachable state. -/
theorem reachable_invariant {step : σ → σ → Prop} {start invariant : σ → Prop}
    (initially : ∀ state, start state → invariant state)
    (keeps : ∀ state next, invariant state → step state next → invariant next)
    {state : σ} (reachable : Reachable step start state) : invariant state := by
  obtain ⟨origin, started, path⟩ := reachable
  induction path with
  | refl => exact initially origin started
  | tail _ last inductionHypothesis => exact keeps _ _ inductionHypothesis last

end MiniWorld.Run
