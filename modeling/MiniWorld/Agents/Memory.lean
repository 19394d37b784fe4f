import MiniWorld.Run.FirstMin
import MiniWorld.Run.Invariant
import MiniWorld.Run.Largest
import Mathlib.Algebra.Order.Ring.Rat
import Mathlib.Algebra.Order.Group.Multiset
import Mathlib.Data.List.GetD
import Mathlib.Tactic.Abel

/-! # The memory stream (`internal/agents/memory.go`)

`AddMemory` keeps an agent's `Memories` a bounded buffer of its most important
experiences.  A new vision first decays every stored vision to `0.8` of its
importance (`decayVisions`); the new memory is then appended while fewer than
`MaxMemories` are held, and otherwise replaces the first memory of least
importance (`minIndex`), when it is strictly more important.

* `addMemory_length` — a call adds one memory to a short stream and none to a
  full one, so every sequence of calls from at most fifty stays at most fifty
  (`addMemories_length_le`);
* `minIndex_spec` — the scan ends on a memory of least importance;
* `addMemory_full` — what a call on a full stream does;
* `addMemory_full_importances` — after a call on a full stream its importances
  are the fifty largest of the decayed ones and the new one.

`AddMemory` reads and writes only `a.Memories`, so the model is a function of
that list.  The importances are `float32`, taken as rationals: the decay is
exact and there is no NaN.
-/

namespace MiniWorld.Agents

open MiniWorld.Run

/-- `Memory`: a notable experience at `tick`, of weight `importance`. -/
structure Memory where
  tick : ℕ
  content : String
  importance : ℚ
  deriving Inhabited

def maxMemories : ℕ := 50

/-- `strings.HasPrefix(content, "Vision: ")`. -/
def isVision (content : String) : Bool := content.startsWith "Vision: "

/-- The decay of old visions when a memory with `content` arrives: a new vision
multiplies the importance of every stored vision by `0.8`. -/
def decayVisions (content : String) (memories : List Memory) : List Memory :=
  if isVision content then
    memories.map fun m => if isVision m.content then { m with importance := m.importance * 0.8 } else m
  else memories

/-- `a.Memories[i].Importance`. -/
def importanceAt (memories : List Memory) (i : ℕ) : ℚ := (memories.getD i default).importance

/-- The scan for the lowest-importance memory: `minIdx` starts at `0` and moves
to a later index only when its importance is strictly lower. -/
def minIndex (memories : List Memory) : ℕ :=
  scanArgMin (importanceAt memories) (List.range' 1 (memories.length - 1)) 0

/-- `AddMemory`, on the agent's `Memories`. -/
def addMemory (memories : List Memory) (tick : ℕ) (content : String) (importance : ℚ) : List Memory :=
  let memories := decayVisions content memories
  let m : Memory := ⟨tick, content, importance⟩
  if memories.length < maxMemories then memories ++ [m]
  else
    let minIdx := minIndex memories
    if m.importance > importanceAt memories minIdx then memories.set minIdx m else memories

/-- A sequence of `AddMemory` calls, each a tick, a content and an importance. -/
def addMemories (memories : List Memory) (calls : List (ℕ × String × ℚ)) : List Memory :=
  calls.foldl (fun memories call => addMemory memories call.1 call.2.1 call.2.2) memories

/-! ## The decay and the short stream -/

@[simp] theorem decayVisions_length (content : String) (memories : List Memory) :
    (decayVisions content memories).length = memories.length := by
  unfold decayVisions
  split <;> simp

/-- The decay changes only importances, each stored vision's by the factor `0.8`, and only
for a new vision. -/
theorem decayVisions_eq_map (content : String) (memories : List Memory) :
    decayVisions content memories = memories.map fun m =>
      if isVision content ∧ isVision m.content then { m with importance := m.importance * 0.8 } else m := by
  unfold decayVisions
  split_ifs with vision
  · simp [vision]
  · simp [vision]

/-- A short stream takes the new memory at its end. -/
theorem addMemory_short {memories : List Memory} (short : memories.length < maxMemories) (tick : ℕ)
    (content : String) (importance : ℚ) :
    addMemory memories tick content importance =
      decayVisions content memories ++ [⟨tick, content, importance⟩] := by
  unfold addMemory
  simp only [decayVisions_length, short, if_true]

/-! ## The length -/

/-- A call adds the memory to a short stream and keeps the length of a full one. -/
theorem addMemory_length (memories : List Memory) (tick : ℕ) (content : String) (importance : ℚ) :
    (addMemory memories tick content importance).length =
      if memories.length < maxMemories then memories.length + 1 else memories.length := by
  unfold addMemory
  simp only [decayVisions_length]
  split_ifs <;> simp

/-- From at most `MaxMemories`, every sequence of calls stays at most `MaxMemories`. -/
theorem addMemories_length_le (memories : List Memory) (calls : List (ℕ × String × ℚ))
    (bounded : memories.length ≤ maxMemories) : (addMemories memories calls).length ≤ maxMemories := by
  apply foldl_invariant (fun memories : List Memory => memories.length ≤ maxMemories) _ calls memories _ bounded
  intro call _ memories bounded
  rw [addMemory_length]
  split_ifs with short
  · omega
  · exact bounded

/-! ## The least important memory -/

theorem importanceAt_eq {memories : List Memory} {i : ℕ} (inside : i < memories.length) :
    importanceAt memories i = memories[i].importance := by
  rw [importanceAt, List.getD_eq_getElem _ _ inside]

/-- On a stream with a memory, the scan ends inside it, on a memory no memory is less
important than. -/
theorem minIndex_spec {memories : List Memory} (nonempty : 0 < memories.length) :
    minIndex memories < memories.length ∧
      ∀ j < memories.length, importanceAt memories (minIndex memories) ≤ importanceAt memories j := by
  unfold minIndex
  constructor
  · rcases scanArgMin_mem (importanceAt memories) (List.range' 1 (memories.length - 1)) 0 with start | visited
    · rw [start]
      exact nonempty
    · have := List.mem_range'_1.mp visited
      omega
  · intro j inside
    rcases Nat.eq_zero_or_pos j with rfl | later
    · exact scanArgMin_le_start _ _ _
    · exact scanArgMin_le_of_mem _ _ _ j (List.mem_range'_1.mpr ⟨later, by omega⟩)

/-! ## A call on a full stream -/

/-- On a full stream a call replaces a memory of least importance of the decayed
stream, the first, when the new memory is strictly more important, and otherwise
keeps the decayed stream. -/
theorem addMemory_full {memories : List Memory} (full : memories.length = maxMemories) (tick : ℕ)
    (content : String) (importance : ℚ) :
    ∃ i < maxMemories,
      (∀ j < maxMemories,
        importanceAt (decayVisions content memories) i ≤ importanceAt (decayVisions content memories) j) ∧
      addMemory memories tick content importance =
        if importance > importanceAt (decayVisions content memories) i then
          (decayVisions content memories).set i ⟨tick, content, importance⟩
        else decayVisions content memories := by
  have decayedFull : (decayVisions content memories).length = maxMemories := by simp [full]
  obtain ⟨inside, least⟩ := minIndex_spec (decayedFull ▸ (by decide : 0 < maxMemories))
  refine ⟨minIndex (decayVisions content memories), decayedFull ▸ inside, fun j below => least j
    (decayedFull ▸ below), ?_⟩
  unfold addMemory
  simp only [decayedFull, lt_irrefl, if_false]

/-- Replacing the memory at `i` trades its importance for the new one's. -/
theorem importances_set {memories : List Memory} {i : ℕ} (inside : i < memories.length) (m : Memory) :
    (((memories.set i m).map (·.importance) : List ℚ) : Multiset ℚ) + {memories[i].importance} =
      ((memories.map (·.importance) : List ℚ) : Multiset ℚ) + {m.importance} := by
  have split : memories = memories.take i ++ memories[i] :: memories.drop (i + 1) := by
    simp
  rw [List.set_eq_take_append_cons_drop, if_pos inside]
  conv_rhs => rw [split]
  simp only [List.map_append, List.map_cons, ← Multiset.coe_add, ← Multiset.cons_coe,
    ← Multiset.singleton_add]
  abel

/-- A full stream of importances at or above `d` is the `MaxMemories` largest of itself and `d`. -/
theorem largest_of_forall_le {ms : List Memory} (full : ms.length = maxMemories) {d : ℚ}
    (below : ∀ m ∈ ms, d ≤ m.importance) :
    largest maxMemories (((ms.map (·.importance) : List ℚ) : Multiset ℚ) + {d}) =
      ((ms.map (·.importance) : List ℚ) : Multiset ℚ) := by
  have card : Multiset.card ((ms.map (·.importance) : List ℚ) : Multiset ℚ) = maxMemories := by
    simp [full]
  conv_lhs => rw [← card]
  refine largest_add_of_forall_le fun x member => ?_
  obtain ⟨m, stored, rfl⟩ := List.mem_map.mp (Multiset.mem_coe.mp member)
  exact below m stored

/-- While the stream is full, a call leaves the fifty largest importances of the
decayed stream and the new memory. -/
theorem addMemory_full_importances {memories : List Memory} (full : memories.length = maxMemories)
    (tick : ℕ) (content : String) (importance : ℚ) :
    (((addMemory memories tick content importance).map (·.importance) : List ℚ) : Multiset ℚ) =
      largest maxMemories
        ((((decayVisions content memories).map (·.importance) : List ℚ) : Multiset ℚ) + {importance}) := by
  obtain ⟨i, below, least, result⟩ := addMemory_full full tick content importance
  have decayedFull : (decayVisions content memories).length = maxMemories := by simp [full]
  have inside : i < (decayVisions content memories).length := decayedFull ▸ below
  -- the least importance of the decayed stream is at or below every stored one
  have atMost : ∀ x ∈ decayVisions content memories,
      importanceAt (decayVisions content memories) i ≤ x.importance := by
    intro x member
    obtain ⟨j, insideJ, rfl⟩ := List.getElem_of_mem member
    rw [← importanceAt_eq insideJ]
    exact least j (decayedFull ▸ insideJ)
  rw [result]
  split_ifs with replaced
  · -- the least important memory goes, for one more important than it
    have traded := importances_set inside ⟨tick, content, importance⟩
    dsimp only at traded
    rw [← traded, ← importanceAt_eq inside]
    refine (largest_of_forall_le (by simp [decayedFull]) fun y kept => ?_).symm
    rcases List.mem_or_eq_of_mem_set kept with stored | rfl
    · exact atMost y stored
    · exact le_of_lt replaced
  · -- the new memory goes, being at or below the least important one
    exact (largest_of_forall_le decayedFull fun y stored =>
      le_trans (le_of_not_gt replaced) (atMost y stored)).symm

/-- The memory stream is a bounded buffer of the most important memories: from at most
`MaxMemories`, every sequence of calls stays at most `MaxMemories`; a short stream takes the
new memory at its end; a full one replaces a memory of least importance, and only by a strictly
more important one; the only other change is the decay of stored visions for a new vision; and
so a full stream holds the `MaxMemories` largest importances of the decayed stream and the new
memory. -/
theorem memory_stream_keeps_largest (memories : List Memory) (tick : ℕ) (content : String)
    (importance : ℚ) :
    (∀ calls : List (ℕ × String × ℚ), memories.length ≤ maxMemories →
        (addMemories memories calls).length ≤ maxMemories) ∧
      (memories.length < maxMemories →
        addMemory memories tick content importance =
          decayVisions content memories ++ [⟨tick, content, importance⟩]) ∧
      (memories.length = maxMemories → ∃ i < maxMemories,
        (∀ j < maxMemories,
          importanceAt (decayVisions content memories) i ≤ importanceAt (decayVisions content memories) j) ∧
        addMemory memories tick content importance =
          if importance > importanceAt (decayVisions content memories) i then
            (decayVisions content memories).set i ⟨tick, content, importance⟩
          else decayVisions content memories) ∧
      decayVisions content memories = memories.map (fun m =>
        if isVision content ∧ isVision m.content then { m with importance := m.importance * 0.8 } else m) ∧
      (memories.length = maxMemories →
        (((addMemory memories tick content importance).map (·.importance) : List ℚ) : Multiset ℚ) =
          largest maxMemories
            ((((decayVisions content memories).map (·.importance) : List ℚ) : Multiset ℚ) + {importance})) :=
  ⟨fun calls bounded => addMemories_length_le memories calls bounded,
    fun short => addMemory_short short tick content importance,
    fun full => addMemory_full full tick content importance,
    decayVisions_eq_map content memories,
    fun full => addMemory_full_importances full tick content importance⟩

end MiniWorld.Agents
