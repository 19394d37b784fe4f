import MiniWorld.Engine.Diaspora
import MiniWorld.Engine.Setup
import MiniWorld.Run.Probe
/-! # Settlement names (`settlement_lifecycle.go` `generateSettlementName`, `foundSettlement`)

`generateSettlementName` tries at most a thousand names, the `i`-th made of the prefix
`(tick + 17 i) % 29` and the suffix `(tick + 31 i) % 28`, and takes the first not in use.  The
probes visit every pair of a prefix and a suffix within their first `29 * 28 = 812`
(`Run.probe_surjOn`), and no name is made of two pairs (`comboName_injective`).  So while some
pair is unused the name returned is unused (`generateSettlementName_fresh`), and while fewer than
812 settlements exist every founding keeps the names of `Settlements` distinct.

Go computes the index as `int(tick + uint64(i)*17) % 29`: the sum wraps at `2^64`, `int` reads it
in two's complement and `%` truncates (`probeIndex`).  `candidateName` reads the plain
remainder, which is Go's index while the sum stays below `2^63` (`probeIndex_eq`); from
`2^63` on the index is negative and the slice read panics.
-/

namespace MiniWorld.Engine

open MiniWorld.Run

/-! ## The index Go computes -/

/-- Below `2^63` Go's index is the remainder `candidateName` reads. -/
theorem probeIndex_eq {tick i step : ℕ} (n : ℕ) (early : tick + i * step < 2 ^ 63) :
    probeIndex tick i step n = ((tick + i * step) % n : ℕ) := by
  have small : (tick + i * step) % 2 ^ 64 = tick + i * step := Nat.mod_eq_of_lt (by omega)
  simp only [probeIndex, small, early, if_true]
  exact (Int.ofNat_tmod _ _).symm

/-- The name of a pair of a prefix and a suffix. -/
def comboName (ab : Fin settlementPrefixes.length × Fin settlementSuffixes.length) : String :=
  settlementPrefixes.get ab.1 ++ settlementSuffixes.get ab.2

theorem prefixes_prefix_free : ∀ a b : Fin settlementPrefixes.length,
    (settlementPrefixes.get a).toList <+: (settlementPrefixes.get b).toList → a = b := by
  decide +kernel

theorem suffixes_nodup : settlementSuffixes.Nodup := by
  decide +kernel

/-- A name is made of one pair only. -/
theorem comboName_injective : Function.Injective comboName := by
  rintro ⟨a, b⟩ ⟨a', b'⟩ same
  have chars := congrArg String.toList same
  simp only [comboName, String.toList_append] at chars
  -- the shorter prefix begins the longer, so they are the same prefix
  have samePrefix : a = a' := by
    rcases List.append_eq_append_iff.mp chars with ⟨rest, longer, _⟩ | ⟨rest, longer, _⟩
    · exact prefixes_prefix_free a a' ⟨rest, longer.symm⟩
    · exact (prefixes_prefix_free a' a ⟨rest, longer.symm⟩).symm
  subst samePrefix
  have sameSuffix := String.toList_inj.mp (List.append_cancel_left chars)
  rw [List.nodup_iff_injective_get.mp suffixes_nodup sameSuffix]

/-- While its indices stay below `2^63`, the `i`-th candidate is the name of the pair its probe
visits. -/
theorem candidateName_eq {tick i : ℕ} (early : tick + i * 31 < 2 ^ 63) :
    candidateName tick i = some (comboName
      (⟨(tick + i * 17) % settlementPrefixes.length, Nat.mod_lt _ (by decide)⟩,
        ⟨(tick + i * 31) % settlementSuffixes.length, Nat.mod_lt _ (by decide)⟩)) := by
  have prefixIndex := probeIndex_eq settlementPrefixes.length (show tick + i * 17 < 2 ^ 63 by omega)
  have suffixIndex := probeIndex_eq settlementSuffixes.length early
  simp only [candidateName, prefixIndex, suffixIndex, Int.toNat_natCast, comboName, List.get_eq_getElem]
  rw [if_neg (by omega), List.getD_eq_getElem _ _ (Nat.mod_lt _ (by decide)),
    List.getD_eq_getElem _ _ (Nat.mod_lt _ (by decide))]

/-- Every pair is the name of a candidate among the first 812, while their indices stay below
`2^63`. -/
theorem candidateName_covers {tick : ℕ} (early : tick + 999 * 31 < 2 ^ 63)
    (ab : Fin settlementPrefixes.length × Fin settlementSuffixes.length) :
    ∃ i < settlementPrefixes.length * settlementSuffixes.length, candidateName tick i = some (comboName ab) := by
  obtain ⟨i, within, hit⟩ := @probe_surjOn _ _ 17 31 tick (by decide) (by decide) (by decide) _ _
    ab.1.isLt ab.2.isLt
  simp only [probe, Prod.mk.injEq] at hit
  have below : i < 812 := within
  refine ⟨i, within, ?_⟩
  rw [candidateName_eq (by omega)]
  congr 2
  exact Prod.ext (Fin.ext hit.1) (Fin.ext hit.2)

/-- While every probe reads in range and one of them names an unused pair, the loop returns an
unused candidate. -/
theorem probeNames_fresh (existing : List String) (tick : ℕ) :
    ∀ probes : List ℕ, (∀ i ∈ probes, (candidateName tick i).isSome) →
      (∃ j ∈ probes, ∃ name, candidateName tick j = some name ∧ name ∉ existing) →
      ∃ i ∈ probes, ∃ name, candidateName tick i = some name ∧ probeNames existing tick probes = some name ∧
        name ∉ existing
  | [], _, ⟨_, member, _⟩ => absurd member List.not_mem_nil
  | i :: rest, inRange, ⟨j, member, name, named, unused⟩ => by
    obtain ⟨found, read⟩ := Option.isSome_iff_exists.mp (inRange i List.mem_cons_self)
    simp only [probeNames, read]
    by_cases taken : existing.contains found = true
    · -- the probe's name is in use, so the unused one comes later
      rw [if_pos taken]
      have later : j ∈ rest := by
        rcases List.mem_cons.mp member with rfl | later
        · rw [read, Option.some.injEq] at named
          subst named
          exact absurd (List.contains_iff_mem.mp taken) unused
        · exact later
      obtain ⟨k, listed, name', named', returned, unused'⟩ := probeNames_fresh existing tick rest
        (fun k listed => inRange k (List.mem_cons_of_mem i listed)) ⟨j, later, name, named, unused⟩
      exact ⟨k, List.mem_cons_of_mem i listed, name', named', returned, unused'⟩
    · rw [if_neg taken]
      exact ⟨i, List.mem_cons_self, found, read, rfl, fun held => taken (List.contains_iff_mem.mpr held)⟩

namespace Simulation

/-- The names in `Settlements`: the keys of `existing` in `generateSettlementName`. -/
def settlementNames (s : Simulation) : List String :=
  s.settlements.map fun q => (s.settlementAt q).name

/-- While some pair's name is unused and the probes stay below `2^63`, `generateSettlementName`
returns an unused candidate. -/
theorem generateSettlementName_fresh (s : Simulation) (early : s.lastTick + 999 * 31 < 2 ^ 63)
    {ab : Fin settlementPrefixes.length × Fin settlementSuffixes.length}
    (unused : comboName ab ∉ s.settlementNames) :
    ∃ i < 1000, ∃ name, candidateName s.lastTick i = some name ∧ s.generateSettlementName = some name ∧
      name ∉ s.settlementNames := by
  have inRange : ∀ i ∈ List.range 1000, (candidateName s.lastTick i).isSome := fun i listed => by
    have below := List.mem_range.mp listed
    rw [candidateName_eq (by omega)]
    rfl
  obtain ⟨j, within, named⟩ := candidateName_covers early ab
  -- the search stops at the latest at the probe of the unused pair
  obtain ⟨i, listed, name, read, returned, fresh⟩ := probeNames_fresh s.settlementNames s.lastTick
    (List.range 1000) inRange ⟨j, List.mem_range.mpr (lt_of_lt_of_le within (by decide)), _, named, unused⟩
  exact ⟨i, List.mem_range.mp listed, name, read, returned, fresh⟩

/-- With fewer names than pairs, fewer pairs than all have their name in use. -/
theorem usedCombos_card_le (s : Simulation) :
    (Finset.univ.filter fun ab => comboName ab ∈ s.settlementNames).card ≤
      s.settlementNames.length := by
  calc (Finset.univ.filter fun ab => comboName ab ∈ s.settlementNames).card
      ≤ s.settlementNames.toFinset.card := by
        apply Finset.card_le_card_of_injOn comboName
        · intro ab used
          simpa using used
        · exact comboName_injective.injOn
    _ ≤ s.settlementNames.length := List.toFinset_card_le _

/-- With a pair of unused name. -/
theorem exists_unused_combo (s : Simulation)
    (room : (Finset.univ.filter fun ab => comboName ab ∈ s.settlementNames).card <
      settlementPrefixes.length * settlementSuffixes.length) :
    ∃ ab, comboName ab ∉ s.settlementNames := by
  by_contra full
  simp only [not_exists, not_not] at full
  rw [Finset.filter_true_of_mem fun ab _ => full ab, Finset.card_univ, Fintype.card_prod,
    Fintype.card_fin, Fintype.card_fin] at room
  exact lt_irrefl _ room

/-! ## Names through foundings -/

section Founding

variable (s : Simulation) (coord : HexCoord) (founders : List AgentRef) (treasury : ℕ)
  (parentGov : GovernanceType)

/-- A founding names the record at the next reference and leaves the other records' names. -/
theorem foundSettlement_name (q : SettRef) :
    ((s.foundSettlement coord founders treasury parentGov).1.settlementAt q).name =
      if q = s.nextSettRef then s.generateSettlementName.getD "" else (s.settlementAt q).name := by
  simp only [foundSettlement, foldl_modifyAgent_settlementAt (fun _ a =>
    { a with homeSettID := some (s.maxSettlementID + 1) }), claimHexesForSettlement_settlementAt,
    Function.update_apply]
  split_ifs <;> dsimp only

theorem foundSettlement_nextSettRef :
    (s.foundSettlement coord founders treasury parentGov).1.nextSettRef = s.nextSettRef + 1 := by
  simp [foundSettlement, foldl_modifyAgent_home, moveHomes_eq]

/-- With every listed reference below the next one, a founding appends the generated name. -/
theorem foundSettlement_settlementNames (below : ∀ q ∈ s.settlements, q < s.nextSettRef) :
    (s.foundSettlement coord founders treasury parentGov).1.settlementNames =
      s.settlementNames ++ [s.generateSettlementName.getD ""] := by
  simp only [settlementNames, foundSettlement_settlements, List.map_append, List.map_cons,
    List.map_nil, foundSettlement_name, if_true]
  congr 1
  apply List.map_congr_left
  intro q listed
  rw [if_neg (Nat.ne_of_lt (below q listed))]

end Founding

/-- The names of `Settlements` are distinct, and every listed reference is below the next one
(the records Go allocates are fresh). -/
structure NamesDistinct (s : Simulation) : Prop where
  nodup : s.settlementNames.Nodup
  below : ∀ q ∈ s.settlements, q < s.nextSettRef

/-- One call of `foundSettlement` while fewer settlements exist than pairs, at a tick whose
probes stay below `2^63`; the clock may have moved since the last call. -/
def Founding (s t : Simulation) : Prop :=
  s.settlements.length < settlementPrefixes.length * settlementSuffixes.length ∧
    ∃ tick, tick + 999 * 31 < 2 ^ 63 ∧ ∃ coord founders treasury parentGov,
      t = ({ s with lastTick := tick }.foundSettlement coord founders treasury parentGov).1

/-- A founding keeps the names distinct: with fewer names than pairs some pair is unused, so
the generated name is new. -/
theorem NamesDistinct.founding {s t : Simulation} (inv : s.NamesDistinct) (step : Founding s t) :
    t.NamesDistinct := by
  obtain ⟨room, tick, early, coord, founders, treasury, parentGov, rfl⟩ := step
  have fewer : ({ s with lastTick := tick } : Simulation).settlementNames.length <
      settlementPrefixes.length * settlementSuffixes.length := by
    simpa [settlementNames] using room
  obtain ⟨ab, unused⟩ := exists_unused_combo _ (lt_of_le_of_lt (usedCombos_card_le _) fewer)
  obtain ⟨i, _, name, _, named, fresh⟩ := generateSettlementName_fresh _ early unused
  constructor
  · rw [foundSettlement_settlementNames { s with lastTick := tick } _ _ _ _ inv.below, named,
      Option.getD_some, List.nodup_append]
    exact ⟨inv.nodup, List.nodup_singleton _, fun x old y new same => by
      rw [List.mem_singleton.mp new] at same
      exact fresh (same ▸ old)⟩
  · intro q listed
    rw [foundSettlement_settlements, List.mem_append, List.mem_singleton] at listed
    rw [foundSettlement_nextSettRef]
    rcases listed with old | rfl
    · exact Nat.lt_succ_of_lt (inv.below q old)
    · exact Nat.lt_succ_self _

/-- Every run of foundings from distinct names keeps them distinct. -/
theorem NamesDistinct.reachable {t : Simulation} (reach : Reachable Founding NamesDistinct t) :
    t.NamesDistinct :=
  reachable_invariant (fun _ start => start) (fun _ _ inv step => inv.founding step) reach

theorem settlement_names_stay_distinct :
    (∀ s : Simulation, s.lastTick + 999 * 31 < 2 ^ 63 →
      (Finset.univ.filter fun ab => comboName ab ∈ s.settlementNames).card <
        settlementPrefixes.length * settlementSuffixes.length →
      ∃ i < 1000, ∃ ab, probeIndex s.lastTick i 17 settlementPrefixes.length = ab.1.val ∧
        probeIndex s.lastTick i 31 settlementSuffixes.length = ab.2.val ∧
        s.generateSettlementName = some (comboName ab) ∧ comboName ab ∉ s.settlementNames) ∧
    (∀ t, Reachable Founding NamesDistinct t → t.settlementNames.Nodup) := by
  refine ⟨fun s early room => ?_, fun t reach => (NamesDistinct.reachable reach).nodup⟩
  obtain ⟨ab, unused⟩ := exists_unused_combo s room
  obtain ⟨i, within, name, read, named, fresh⟩ := generateSettlementName_fresh s early unused
  rw [candidateName_eq (by omega)] at read
  obtain rfl := Option.some.inj read
  -- below `2^63` Go reads the probe's plain remainders, the pair `candidateName` names
  exact ⟨i, within, _, probeIndex_eq _ (by omega), probeIndex_eq _ (by omega), named, fresh⟩

/-- A hamlet whose name is the first candidate at tick zero. -/
def ironhavenWorld : Simulation :=
  newSimulation (fun _ => none) [] [{ (default : Settlement) with id := 1, name := "Ironhaven" }]

/-- The second candidate, `Deep` and `wick`, is taken. -/
example : ironhavenWorld.generateSettlementName = some "Deepwick" := by
  decide +kernel

end Simulation

end MiniWorld.Engine
