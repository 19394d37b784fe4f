import Mathlib.Data.List.AList

/-! # Loops over the keys of a map

A Go loop `for key := range m` whose body rewrites the entries of the key at
hand, from those entries alone, acts on each key separately: every key it
walks is stepped exactly once, every other key is left alone.  `KeyLocal` names
such a body through a per-key view of the state, and `foldl_keyLocal` is the
loop rule, proved once.  `putEntry` is the body's write-back to a map: assign
the new entry, or delete the key.
-/

namespace MiniWorld.Run

variable {σ κ ν : Type*} [DecidableEq κ]

/-- A loop body that changes the per-key view `view` only at the key it is
given, and there as the function `step` of that key's own view. -/
def KeyLocal (view : σ → κ → ν) (body : σ → κ → σ) (step : κ → ν → ν) : Prop :=
  ∀ state key other,
    view (body state key) other = if other = key then step key (view state key) else view state other

/-- A loop over distinct keys steps each of them once and leaves the others. -/
theorem foldl_keyLocal {view : σ → κ → ν} {body : σ → κ → σ} {step : κ → ν → ν}
    (keyed : KeyLocal view body step) :
    ∀ (keys : List κ), keys.Nodup → ∀ state key,
      view (keys.foldl body state) key =
        if key ∈ keys then step key (view state key) else view state key
  | [], _, state, key => by simp
  | head :: rest, nodup, state, key => by
    obtain ⟨fresh, distinct⟩ := List.nodup_cons.mp nodup
    rw [List.foldl_cons, foldl_keyLocal keyed rest distinct, keyed]
    by_cases atHead : key = head
    · subst atHead
      simp [fresh]
    · simp [atHead]

/-- The loop rule when the keys left out are those the step fixes: for a loop
over the keys of a map, the keys absent from it. -/
theorem foldl_keyLocal_of_fixed {view : σ → κ → ν} {body : σ → κ → σ} {step : κ → ν → ν}
    (keyed : KeyLocal view body step) (keys : List κ) (nodup : keys.Nodup) (state : σ) (key : κ)
    (fixed : key ∉ keys → step key (view state key) = view state key) :
    view (keys.foldl body state) key = step key (view state key) := by
  rw [foldl_keyLocal keyed keys nodup]
  by_cases member : key ∈ keys
  · simp [member]
  · simp [member, fixed member]

theorem lookup_eq_none_of_not_mem_keys {m : AList fun _ : κ => ν} {key : κ}
    (absent : key ∉ m.keys) : m.lookup key = none :=
  AList.lookup_eq_none.mpr fun member => absent (AList.mem_keys.mp member)

/-- The write-back of one map entry: `m[key] = v` for `some v`, `delete(m, key)`
for `none`. -/
def putEntry (key : κ) : Option ν → AList (fun _ : κ => ν) → AList fun _ : κ => ν
  | some value, m => m.insert key value
  | none, m => m.erase key

@[simp] theorem lookup_putEntry (key other : κ) (entry : Option ν) (m : AList fun _ : κ => ν) :
    (putEntry key entry m).lookup other = if other = key then entry else m.lookup other := by
  cases entry with
  | none =>
    by_cases same : other = key
    · subst same
      simp [putEntry]
    · simp [putEntry, same, AList.lookup_erase_ne same]
  | some value =>
    by_cases same : other = key
    · subst same
      simp [putEntry]
    · simp [putEntry, same, AList.lookup_insert_ne same]

/-- Inserting entries without repeated keys into `start`, one after another: a
key among them reads its entry, any other key reads `start`. -/
theorem lookup_foldl_insert :
    ∀ (entries : List (Sigma fun _ : κ => ν)), entries.NodupKeys → ∀ (start : AList fun _ : κ => ν) key,
      ((entries.map fun e => (e.1, e.2)).foldl (fun m e => m.insert e.1 e.2) start).lookup key =
        (entries.dlookup key).or (start.lookup key)
  | [], _, start, key => by simp
  | ⟨k, v⟩ :: rest, nodup, start, key => by
    obtain ⟨fresh, distinct⟩ := List.nodupKeys_cons.mp nodup
    rw [List.map_cons, List.foldl_cons, lookup_foldl_insert rest distinct]
    by_cases atHead : key = k
    · -- the later entries do not hold the key again, so the head's entry stands
      subst atHead
      simp [List.dlookup_eq_none.mpr fresh, List.dlookup_cons_eq]
    · simp [AList.lookup_insert_ne atHead, List.dlookup_cons_ne rest ⟨k, v⟩ atHead]

/-- A map built by a loop that inserts, for each key it walks, the entry `entry` gives if any:
a walked key reads that entry, over what the start held. -/
theorem lookup_foldl_insertSome (entry : κ → Option ν) :
    ∀ (keys : List κ) (start : AList fun _ : κ => ν) key,
      (keys.foldl (fun m k => (entry k).elim m fun v => m.insert k v) start).lookup key =
        if key ∈ keys then (entry key).or (start.lookup key) else start.lookup key
  | [], start, key => by simp
  | k :: rest, start, key => by
    rw [List.foldl_cons, lookup_foldl_insertSome entry rest]
    -- the head's entry, if any, is what the rest of the walk starts from
    have headed : ((entry k).elim start fun v => start.insert k v).lookup key =
        if key = k then (entry k).or (start.lookup key) else start.lookup key := by
      cases entry k with
      | none => split_ifs <;> rfl
      | some v =>
        by_cases here : key = k
        · subst here
          simp
        · simp [here, AList.lookup_insert_ne here]
    rw [headed]
    by_cases here : key = k
    · subst here
      cases entry key <;> simp
    · simp [here]

/-- A map rebuilt by inserting its own entries into an empty map has its lookups. -/
theorem lookup_foldl_insert_entries (m : AList fun _ : κ => ν) (key : κ) :
    ((m.entries.map fun e => (e.1, e.2)).foldl (fun m e => m.insert e.1 e.2)
      (∅ : AList fun _ : κ => ν)).lookup key = m.lookup key := by
  rw [lookup_foldl_insert m.entries m.nodupKeys, AList.lookup_empty, Option.or_none]
  rfl

end MiniWorld.Run
