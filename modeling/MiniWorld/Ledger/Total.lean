import Mathlib

/-! # Balances over a list of accounts

A closed economy counts its money as the sum of the balances of a list of
accounts.  This module gives that sum, `total`, and the two facts every
conservation proof is assembled from:

* `total_congr` — balances of accounts outside the list do not count;
* `total_update_add` — overwriting one listed account moves the total by the
  difference (the list has no repetition, so the account is counted once).

Nothing here names the simulation: accounts are any type with decidable
equality and balances are natural numbers.
-/

namespace MiniWorld.Ledger

variable {ι : Type*}

/-- The sum of the balances of the accounts in `accounts`. -/
def total (accounts : List ι) (balance : ι → ℕ) : ℕ := (accounts.map balance).sum

@[simp] theorem total_nil (balance : ι → ℕ) : total [] balance = 0 := rfl

@[simp] theorem total_cons (account : ι) (accounts : List ι) (balance : ι → ℕ) :
    total (account :: accounts) balance = balance account + total accounts balance := by
  simp [total]

@[simp] theorem total_append (first second : List ι) (balance : ι → ℕ) :
    total (first ++ second) balance = total first balance + total second balance := by
  simp [total]

/-- Only the balances of listed accounts count. -/
theorem total_congr {accounts : List ι} {balance balance' : ι → ℕ}
    (same : ∀ account ∈ accounts, balance account = balance' account) :
    total accounts balance = total accounts balance' := by
  unfold total
  rw [List.map_congr_left same]

theorem total_update_of_not_mem [DecidableEq ι] {accounts : List ι} {account : ι} (absent : account ∉ accounts)
    (balance : ι → ℕ) (amount : ℕ) :
    total accounts (Function.update balance account amount) = total accounts balance := by
  apply total_congr
  intro other member
  have different : other ≠ account := fun equal => absent (equal ▸ member)
  simp [Function.update_of_ne different]

/-- Overwriting the balance of one listed account moves the total by the
difference: the account is listed once, so it is counted once. -/
theorem total_update_add [DecidableEq ι] {accounts : List ι} (distinct : accounts.Nodup) {account : ι}
    (listed : account ∈ accounts) (balance : ι → ℕ) (amount : ℕ) :
    total accounts (Function.update balance account amount) + balance account =
      total accounts balance + amount := by
  induction accounts with
  | nil => simp at listed
  | cons head rest inductionHypothesis =>
    obtain ⟨headFresh, restDistinct⟩ := List.nodup_cons.mp distinct
    rcases List.mem_cons.mp listed with rfl | inRest
    · -- the updated account is the head; the rest does not mention it
      rw [total_cons, total_cons, Function.update_self,
        total_update_of_not_mem headFresh]
      omega
    · have different : head ≠ account := fun equal => headFresh (equal ▸ inRest)
      have step := inductionHypothesis restDistinct inRest
      rw [total_cons, total_cons, Function.update_of_ne different]
      omega

end MiniWorld.Ledger
