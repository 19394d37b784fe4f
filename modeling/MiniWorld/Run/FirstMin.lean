import Mathlib
/-! # Scanning for the first strict minimum

A loop that walks a list and replaces its best candidate only by an element strictly
below it, `if f x < bestValue { best, bestValue = x, f x }`, is a left fold.  What it
returns is below every element and below its start, and it is either its start, untouched,
or one of the elements with its own value.  `scanArgMin` is the same loop over indices.
`scanMax` is the loop for a maximum that starts from no candidate,
`if best == nil || f x > f best { best = x }`: it keeps its start or ends at an element,
and no element it walks lies above what it ends at.
-/

namespace MiniWorld.Run

variable {α : Type*} (f : α → ℕ)

/-- The scan from `best`: an element replaces the best so far when it is strictly below it. -/
def scanMin (xs : List α) (best : α × ℕ) : α × ℕ :=
  xs.foldl (fun best x => if f x < best.2 then (x, f x) else best) best

@[simp] theorem scanMin_nil (best : α × ℕ) : scanMin f [] best = best := rfl

theorem scanMin_cons (x : α) (xs : List α) (best : α × ℕ) :
    scanMin f (x :: xs) best = scanMin f xs (if f x < best.2 then (x, f x) else best) := rfl

theorem scanMin_le_start : ∀ (xs : List α) (best : α × ℕ), (scanMin f xs best).2 ≤ best.2
  | [], _ => Nat.le_refl _
  | x :: xs, best => by
    rw [scanMin_cons]
    refine Nat.le_trans (scanMin_le_start xs _) ?_
    split_ifs with lower
    · exact Nat.le_of_lt lower
    · exact Nat.le_refl _

/-- The scan ends at or below every element. -/
theorem scanMin_le_of_mem : ∀ (xs : List α) (best : α × ℕ), ∀ y ∈ xs, (scanMin f xs best).2 ≤ f y
  | [], _, _, member => absurd member List.not_mem_nil
  | x :: xs, best, y, member => by
    rw [scanMin_cons]
    rcases List.mem_cons.mp member with rfl | later
    · refine Nat.le_trans (scanMin_le_start f xs _) ?_
      split_ifs with lower
      · exact Nat.le_refl _
      · exact Nat.le_of_not_lt lower
    · exact scanMin_le_of_mem xs _ y later

/-- The scan returns its start untouched, or an element with its own value. -/
theorem scanMin_cases : ∀ (xs : List α) (best : α × ℕ),
    scanMin f xs best = best ∨ ((scanMin f xs best).1 ∈ xs ∧
      (scanMin f xs best).2 = f (scanMin f xs best).1)
  | [], _ => .inl rfl
  | x :: xs, best => by
    rw [scanMin_cons]
    split_ifs with lower
    · -- from here on the best so far is an element
      rcases scanMin_cases xs (x, f x) with same | ⟨member, valued⟩
      · exact .inr ⟨by simp [same], by simp [same]⟩
      · exact .inr ⟨List.mem_cons_of_mem x member, valued⟩
    · rcases scanMin_cases xs best with same | ⟨member, valued⟩
      · exact .inl same
      · exact .inr ⟨List.mem_cons_of_mem x member, valued⟩

/-! ## Scanning indices

The same loop over indices, `if f(i) < f(minIdx) { minIdx = i }`, with the values in any linear
order: it ends at its start or at an index it visited, and no visited index and not the start
has a lower value. -/

section Indexed

variable {ι β : Type*} [LinearOrder β] (g : ι → β)

/-- The index scan over `is` from `best`: an index replaces the best so far when its value is
strictly lower. -/
def scanArgMin (is : List ι) (best : ι) : ι :=
  is.foldl (fun best i => if g i < g best then i else best) best

theorem scanArgMin_cons (i : ι) (is : List ι) (best : ι) :
    scanArgMin g (i :: is) best = scanArgMin g is (if g i < g best then i else best) := rfl

theorem scanArgMin_le_start : ∀ (is : List ι) (best : ι), g (scanArgMin g is best) ≤ g best
  | [], _ => le_refl _
  | i :: is, best => by
    rw [scanArgMin_cons]
    refine le_trans (scanArgMin_le_start is _) ?_
    split_ifs with lower
    · exact le_of_lt lower
    · exact le_refl _

theorem scanArgMin_le_of_mem : ∀ (is : List ι) (best : ι), ∀ j ∈ is, g (scanArgMin g is best) ≤ g j
  | [], _, _, member => absurd member List.not_mem_nil
  | i :: is, best, j, member => by
    rw [scanArgMin_cons]
    rcases List.mem_cons.mp member with rfl | later
    · refine le_trans (scanArgMin_le_start g is _) ?_
      split_ifs with lower
      · exact le_refl _
      · exact le_of_not_gt lower
    · exact scanArgMin_le_of_mem is _ j later

theorem scanArgMin_mem : ∀ (is : List ι) (best : ι), scanArgMin g is best = best ∨ scanArgMin g is best ∈ is
  | [], _ => .inl rfl
  | i :: is, best => by
    rw [scanArgMin_cons]
    split_ifs with lower
    · -- from here on the best so far is a visited index
      rcases scanArgMin_mem is i with same | member
      · rw [same]
        exact .inr List.mem_cons_self
      · exact .inr (List.mem_cons_of_mem i member)
    · rcases scanArgMin_mem is best with same | member
      · exact .inl same
      · exact .inr (List.mem_cons_of_mem i member)

end Indexed

/-! ## Scanning for a first strict maximum

The pointer loop `if best == nil || f x > f best { best = x }`, with `best` starting at `nil`
or at a candidate. -/

section Maximum

variable {α β : Type*} [LinearOrder β] (f : α → β)

/-- The scan from `best`: an element replaces the best so far when there is none yet or it lies
strictly above it. -/
def scanMax (xs : List α) (best : Option α) : Option α :=
  xs.foldl (fun best x => if best.all fun b => f b < f x then some x else best) best

theorem scanMax_cons (x : α) (xs : List α) (best : Option α) :
    scanMax f (x :: xs) best = scanMax f xs (if best.all fun b => f b < f x then some x else best) :=
  rfl

/-- The scan keeps its start, or ends at an element it walked. -/
theorem scanMax_cases : ∀ (xs : List α) (best : Option α),
    scanMax f xs best = best ∨ ∃ x ∈ xs, scanMax f xs best = some x
  | [], _ => .inl rfl
  | x :: xs, best => by
    rw [scanMax_cons]
    split_ifs with above
    · -- from here on the best so far is an element
      rcases scanMax_cases xs (some x) with same | ⟨y, member, ends⟩
      · exact .inr ⟨x, List.mem_cons_self, same⟩
      · exact .inr ⟨y, List.mem_cons_of_mem x member, ends⟩
    · rcases scanMax_cases xs best with same | ⟨y, member, ends⟩
      · exact .inl same
      · exact .inr ⟨y, List.mem_cons_of_mem x member, ends⟩

/-- The scan never ends below a candidate it started from. -/
theorem scanMax_ge_start : ∀ (xs : List α) {b c : α}, scanMax f xs (some b) = some c → f b ≤ f c
  | [], _, _, ends => by
    cases ends
    exact le_refl _
  | x :: xs, b, c, ends => by
    rw [scanMax_cons] at ends
    split_ifs at ends with above
    · exact le_trans (le_of_lt (by simpa using above)) (scanMax_ge_start xs ends)
    · exact scanMax_ge_start xs ends

/-- No element the scan walks lies above what it ends at. -/
theorem scanMax_le_of_mem : ∀ (xs : List α) (best : Option α) {c : α},
    scanMax f xs best = some c → ∀ y ∈ xs, f y ≤ f c
  | [], _, _, _, _, member => absurd member List.not_mem_nil
  | x :: xs, best, c, ends, y, member => by
    rw [scanMax_cons] at ends
    rcases List.mem_cons.mp member with rfl | later
    · split_ifs at ends with above
      · exact scanMax_ge_start f xs ends
      · -- a start it did not beat lies at or above it
        obtain ⟨b, rfl, below⟩ : ∃ b, best = some b ∧ f y ≤ f b := by
          cases best with
          | none => simp at above
          | some b => exact ⟨b, rfl, le_of_not_gt (by simpa using above)⟩
        exact le_trans below (scanMax_ge_start f xs ends)
    · exact scanMax_le_of_mem xs _ ends y later

end Maximum

end MiniWorld.Run
