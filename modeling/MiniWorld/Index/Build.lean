import Mathlib.Data.List.Nodup
import Mathlib.Logic.Function.Basic

/-! # Indexes built by one pass over a list

A Go map from keys to records, filled by one pass `index[r.Key] = r` over a
slice, is a left fold of `Function.update` over the list in which a later
record wins its key.  `buildIndex` is that fold from the empty map.

* `buildIndex_sound` — what the index finds is in the list, under its key;
* `buildIndex_complete` — when the keys are distinct it finds every record;
* `buildIndex_isSome` — it has an entry exactly at the keys of the list.

Both follow from the fold lemmas over an arbitrary starting map, which also
serve maps that are filled further after they are built.
-/

namespace MiniWorld.Index

variable {κ ρ : Type*} [DecidableEq κ]

/-- One pass `index[key r] = r` over `refs`, starting from `index`. -/
def fill (key : ρ → κ) (index : κ → Option ρ) (refs : List ρ) : κ → Option ρ :=
  refs.foldl (fun index r => Function.update index (key r) (some r)) index

/-- The index built by one pass over `refs` from the empty map. -/
def buildIndex (key : ρ → κ) (refs : List ρ) : κ → Option ρ := fill key (fun _ => none) refs

@[simp] theorem fill_nil (key : ρ → κ) (index : κ → Option ρ) : fill key index [] = index := rfl

@[simp] theorem fill_cons (key : ρ → κ) (index : κ → Option ρ) (r : ρ) (refs : List ρ) :
    fill key index (r :: refs) = fill key (Function.update index (key r) (some r)) refs := rfl

/-- A key no record of the pass has is left as it was. -/
theorem fill_of_not_mem (key : ρ → κ) {k : κ} :
    ∀ (refs : List ρ) (index : κ → Option ρ), k ∉ refs.map key → fill key index refs k = index k
  | [], _, _ => rfl
  | r :: rest, index, absent => by
    rw [List.map_cons, List.mem_cons, not_or] at absent
    rw [fill_cons, fill_of_not_mem key rest _ absent.2, Function.update_of_ne absent.1]

/-- What the filled index finds was put there by the pass, or was there before. -/
theorem fill_sound (key : ρ → κ) {k : κ} {found : ρ} :
    ∀ (refs : List ρ) (index : κ → Option ρ), fill key index refs k = some found →
      (found ∈ refs ∧ key found = k) ∨ index k = some found
  | [], _, before => .inr before
  | r :: rest, index, filled => by
    rw [fill_cons] at filled
    rcases fill_sound key rest _ filled with ⟨later, atKey⟩ | earlier
    · exact .inl ⟨List.mem_cons_of_mem r later, atKey⟩
    · by_cases here : k = key r
      · -- the pass wrote `r` at this key
        subst here
        rw [Function.update_self, Option.some_inj] at earlier
        exact .inl ⟨earlier ▸ List.mem_cons_self, by rw [earlier]⟩
      · rw [Function.update_of_ne here] at earlier
        exact .inr earlier

/-- With distinct keys the pass finds every record it was given. -/
theorem fill_complete (key : ρ → κ) {found : ρ} :
    ∀ (refs : List ρ) (index : κ → Option ρ), (refs.map key).Nodup → found ∈ refs →
      fill key index refs (key found) = some found
  | [], _, _, listed => absurd listed List.not_mem_nil
  | r :: rest, index, distinct, listed => by
    rw [List.map_cons, List.nodup_cons] at distinct
    rw [fill_cons]
    rcases List.mem_cons.mp listed with rfl | later
    · -- no later record has this key, so the write of `found` stands
      rw [fill_of_not_mem key rest _ distinct.1, Function.update_self]
    · exact fill_complete key rest _ distinct.2 later

/-- The filled index has an entry at the keys of the pass and at those it had. -/
theorem fill_isSome (key : ρ → κ) (k : κ) :
    ∀ (refs : List ρ) (index : κ → Option ρ),
      (fill key index refs k).isSome ↔ k ∈ refs.map key ∨ (index k).isSome
  | [], _ => by simp
  | r :: rest, index => by
    rw [fill_cons, fill_isSome key k rest]
    by_cases here : k = key r
    · subst here
      simp
    · simp [here]

theorem buildIndex_sound (key : ρ → κ) {refs : List ρ} {k : κ} {found : ρ}
    (indexed : buildIndex key refs k = some found) : found ∈ refs ∧ key found = k :=
  (fill_sound key refs _ indexed).resolve_right (by simp)

theorem buildIndex_complete (key : ρ → κ) {refs : List ρ} {found : ρ}
    (distinct : (refs.map key).Nodup) (listed : found ∈ refs) :
    buildIndex key refs (key found) = some found :=
  fill_complete key refs _ distinct listed

/-- The built index has an entry exactly at the keys of its records, distinct or not. -/
theorem buildIndex_isSome (key : ρ → κ) (refs : List ρ) (k : κ) :
    (buildIndex key refs k).isSome ↔ k ∈ refs.map key := by
  simp [buildIndex, fill_isSome]

end MiniWorld.Index
