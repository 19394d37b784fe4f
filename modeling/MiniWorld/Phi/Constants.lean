import Mathlib.Data.Rat.Defs
import Mathlib.Algebra.Order.Field.Rat
import Mathlib.Tactic.NormNum

/-! # Φ-derived constants (`internal/phi/constants.go`)

Go computes the emanation constants once, as float64 powers of `Phi`.  The
model takes each at the float64 value Go computes, written as an exact
rational; every float quantity of the simulation is a rational in the model
(the source's float32/float64 rounding is not modelled, and no result below
turns on a difference of that size).
-/

namespace MiniWorld.Phi

/-- `Phi`, the golden ratio. -/
def phi : ℚ := 1.6180339887498948

/-- `Agnosis` = Φ⁻³ (`math.Pow(Phi, -3)`). -/
def agnosis : ℚ := 0.23606797749978967

/-- `Psyche` = Φ⁻². -/
def psyche : ℚ := 0.38196601125010515

/-- `Matter` = Φ⁻¹. -/
def matter : ℚ := 0.6180339887498948

/-- `Being` = Φ. -/
def being : ℚ := phi

/-- `Totality` = Φ³. -/
def totality : ℚ := 4.23606797749979

/-- `Nous` = Φ² (`math.Pow(Phi, 2)`). -/
def nous : ℚ := 2.618033988749895

/-- `Monad`, unity. -/
def monad : ℚ := 1

theorem agnosis_pos : 0 < agnosis := by norm_num [agnosis]

theorem agnosis_lt_one : agnosis < 1 := by norm_num [agnosis]

theorem psyche_pos : 0 < psyche := by norm_num [psyche]

theorem matter_lt_seven_tenths : matter < 0.7 := by norm_num [matter]

end MiniWorld.Phi
