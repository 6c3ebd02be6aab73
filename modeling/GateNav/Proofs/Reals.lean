import Mathlib.Analysis.SpecialFunctions.Complex.Arg
import GateNav.Plane

/-!
# Real numbers

The reading without any rounding: the reals with their own sine and cosine, angles and lengths.
-/

namespace GateNav
open Real

noncomputable instance : Scalar ℝ where
  decLt := inferInstance
  decLe := inferInstance
  rem x m := x - m * (if x / m < 0 then ⌈x / m⌉ else ⌊x / m⌋ : Int)
  isFinite _ := true
  ceil x := min ⌈x⌉₊ maxCount
  round x := min ⌊x + 1 / 2⌋₊ maxCount
  before x y := x < y

noncomputable instance : Trig ℝ where
  sin := Real.sin
  cos := Real.cos
  atan2 y x := Complex.arg ⟨x, y⟩
  hypot x y := √(x ^ 2 + y ^ 2)
  degree := π / 180
  radian := 180 / π

theorem Scalar.real_zero : (zero : ℝ) = 0 := Nat.cast_zero

theorem Scalar.real_one : (one : ℝ) = 1 := Nat.cast_one

theorem Scalar.real_abs (x : ℝ) : Scalar.abs x = |x| := by
  unfold Scalar.abs
  rw [real_zero]
  split
  · next below => exact (abs_of_neg below).symm
  · next above => exact (abs_of_nonneg (not_lt.1 above)).symm

end GateNav
