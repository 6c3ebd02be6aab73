import Mathlib.Algebra.Order.Field.Basic
import Mathlib.Algebra.Order.Ring.Rat
import Mathlib.Tactic.Linarith
import Mathlib.Tactic.Ring
import GateNav.Bearing

/-!
# Exact bearings

On fractions `Bearing.rotation` is the difference of two bearings up to whole turns (`exists_rotation_eq`), and of all
numbers that are it is one with the least distance from zero (`gap_le_abs`). So it measures distances on a circle, on
which bearings that differ by whole turns are one (`rotation_circular`).

Numbers that are close but for whole multiples of some period are `Near`. For the period of a turn this is what
`Bearing.gap` says of two bearings (`near_iff`), and for the period zero it is closeness of plain numbers, so that both
are reckoned with in the same way.
-/

namespace GateNav

namespace Scalar

theorem zero_eq : (zero : Rat) = 0 := rfl

theorem abs_eq (x : Rat) : Scalar.abs x = |x| := by
  unfold Scalar.abs
  rw [zero_eq]
  split
  · next below => exact (abs_of_neg below).symm
  · next above => exact (abs_of_nonneg (not_lt.1 above)).symm

/-- What is left of a number differs from it by a whole multiple. -/
theorem exists_rem_eq (x : Rat) {m : Rat} (pos : 0 < m) :
    ∃ z : Int, rem x m = x + m * z ∧ -m < rem x m ∧ rem x m < m := by
  have parts : rem x m = x - m * ((if x / m < 0 then -(-(x / m)).floor else (x / m).floor : Int) : Rat) := rfl
  obtain ⟨q, rfl⟩ : ∃ q, x = m * q := ⟨x / m, (mul_div_cancel₀ x pos.ne').symm⟩
  rw [mul_div_cancel_left₀ q pos.ne'] at parts
  -- Both ways of rounding toward zero leave less than one.
  obtain ⟨z, same, low, high⟩ : ∃ z : Int, rem (m * q) m = m * (q + z) ∧ -1 < q + z ∧ q + z < 1 := by
    rw [parts]
    split
    · have low := Rat.lt_floor_add_one (-q)
      have high := Rat.floor_le (-q)
      push_cast at low
      refine ⟨(-q).floor, by push_cast; ring, ?_, ?_⟩ <;> linarith
    · have low := Rat.floor_le q
      have high := Rat.lt_floor_add_one q
      push_cast at high
      refine ⟨-q.floor, by push_cast; ring, ?_, ?_⟩ <;> (push_cast; linarith)
  refine ⟨z, by rw [same]; ring, ?_, ?_⟩ <;> (rw [same]; nlinarith)

theorem exists_floorRem_eq (x : Rat) {m : Rat} (pos : 0 < m) :
    ∃ z : Int, floorRem x m = x + m * z ∧ 0 ≤ floorRem x m ∧ floorRem x m < m := by
  obtain ⟨z, same, low, high⟩ := exists_rem_eq x pos
  unfold floorRem
  rw [zero_eq]
  dsimp only
  split
  · exact ⟨z + 1, by rw [same]; push_cast; ring, by linarith, by linarith⟩
  · next above => exact ⟨z, same, not_lt.1 above, high⟩

end Scalar

namespace Bearing

theorem turn_eq : (turn : Rat) = 360 := rfl

theorem halfTurn_eq : (halfTurn : Rat) = 180 := rfl

/-- A bearing within one turn is the same but for whole turns. -/
theorem exists_normalize_eq (x : Rat) : ∃ z : Int, normalize x = x + 360 * z ∧ 0 ≤ normalize x ∧ normalize x < 360 := by
  obtain ⟨z, same, low, high⟩ := Scalar.exists_floorRem_eq x (m := turn) (by rw [turn_eq]; norm_num)
  have within : normalize x = Scalar.floorRem x turn := if_neg (not_le.2 high)
  rw [within]
  exact ⟨z, same, low, high⟩

/-- A rotation is the difference of the bearings but for whole turns. -/
theorem exists_rotation_eq (a b : Rat) :
    ∃ z : Int, rotation a b = a - b + 360 * z ∧ -180 < rotation a b ∧ rotation a b ≤ 180 := by
  obtain ⟨z, same, low, high⟩ := exists_normalize_eq (a - b)
  unfold rotation
  dsimp only
  rw [halfTurn_eq, turn_eq]
  split
  · next far => exact ⟨z - 1, by rw [same]; push_cast; ring, by linarith, by linarith⟩
  · next close => exact ⟨z, same, by linarith, not_lt.1 close⟩

/-- Numbers less than a turn apart are the same if they are so but for whole turns. -/
theorem eq_of_add_turns {x y : Rat} {z : Int} (same : x = y + 360 * z) (close : |x - y| < 360) : x = y := by
  obtain ⟨low, high⟩ := abs_lt.1 close
  have below : z < 1 := by exact_mod_cast (by linarith : (z : Rat) < 1)
  have above : -1 < z := by exact_mod_cast (by linarith : (-1 : Rat) < z)
  obtain rfl : z = 0 := by omega
  simpa using same

theorem rotation_eq_of {a b x : Rat} {z : Int} (same : x = a - b + 360 * z) (low : -180 < x) (high : x ≤ 180) :
    rotation a b = x := by
  obtain ⟨w, turned, above, below⟩ := exists_rotation_eq a b
  refine eq_of_add_turns (z := w - z) (by rw [turned, same]; push_cast; ring) (abs_lt.2 ⟨?_, ?_⟩) <;> linarith

theorem normalize_eq_of {a x : Rat} {z : Int} (same : x = a + 360 * z) (low : 0 ≤ x) (high : x < 360) :
    normalize a = x := by
  obtain ⟨w, wrapped, above, below⟩ := exists_normalize_eq a
  refine eq_of_add_turns (z := w - z) (by rw [wrapped, same]; push_cast; ring) (abs_lt.2 ⟨?_, ?_⟩) <;> linarith

theorem gap_eq (a b : Rat) : gap a b = |rotation a b| := Scalar.abs_eq _

theorem gap_le_halfTurn (a b : Rat) : gap a b ≤ 180 := by
  obtain ⟨-, -, low, high⟩ := exists_rotation_eq a b
  rw [gap_eq]
  exact abs_le.2 ⟨low.le, high⟩

/-- No other difference of the two bearings is less than their rotation. -/
theorem gap_le_abs (a b : Rat) (z : Int) : gap a b ≤ |a - b + 360 * z| := by
  obtain ⟨w, same, low, high⟩ := exists_rotation_eq a b
  obtain rfl | apart := eq_or_ne z w
  · rw [gap_eq, same]
  -- Any other one is at least half a turn away from zero.
  · refine (gap_le_halfTurn a b).trans ?_
    have other : a - b + 360 * z = rotation a b + 360 * ((z - w : Int) : Rat) := by rw [same]; push_cast; ring
    rw [other, le_abs]
    rcases lt_or_gt_of_ne apart with less | greater
    · have step : ((z - w : Int) : Rat) ≤ -1 := by exact_mod_cast (by omega : z - w ≤ -1)
      right; linarith
    · have step : (1 : Rat) ≤ ((z - w : Int) : Rat) := by exact_mod_cast (by omega : 1 ≤ z - w)
      left; linarith

/-- Bearings that are no more than half a turn apart as plain numbers are as far apart as these. -/
theorem gap_eq_abs {a b : Rat} (close : |a - b| ≤ 180) : gap a b = |a - b| := by
  have least := gap_le_abs a b 0
  obtain ⟨z, same, low, high⟩ := exists_rotation_eq a b
  obtain ⟨left, right⟩ := abs_le.1 close
  rcases lt_trichotomy z 0 with less | rfl | greater
  · have step : (z : Rat) ≤ -1 := by exact_mod_cast (by omega : z ≤ -1)
    linarith
  · rw [gap_eq, same, Int.cast_zero, mul_zero, add_zero]
  -- A whole turn more is half a turn the other way round.
  · have step : (1 : Rat) ≤ z := by exact_mod_cast (by omega : 1 ≤ z)
    rw [gap_eq] at least ⊢
    refine le_antisymm (by simpa using least) (close.trans ?_)
    rw [same]
    exact le_abs.2 (.inl (by linarith))

/-! ### Closeness up to whole multiples -/

/-- The two numbers are at most `d` apart, but for whole multiples of `p`. -/
def Near (p d a b : Rat) : Prop := ∃ z : Int, |a - b - p * z| ≤ d

variable {p d d' a b c : Rat}

theorem near_iff : Near 360 d a b ↔ gap a b ≤ d := by
  constructor
  · rintro ⟨z, close⟩
    refine le_trans ?_ close
    have least := gap_le_abs a b (-z)
    push_cast at least
    rwa [mul_neg, ← sub_eq_add_neg] at least
  · intro close
    obtain ⟨z, same, -⟩ := exists_rotation_eq a b
    refine ⟨-z, ?_⟩
    rw [gap_eq, same] at close
    push_cast
    rwa [mul_neg, sub_neg_eq_add]

theorem near_self (some_way : 0 ≤ d) : Near p d a a := ⟨0, by simpa using some_way⟩

theorem Near.mono (h : Near p d a b) (le : d ≤ d') : Near p d' a b :=
  let ⟨z, close⟩ := h
  ⟨z, close.trans le⟩

theorem Near.symm (h : Near p d a b) : Near p d b a := by
  obtain ⟨z, close⟩ := h
  refine ⟨-z, ?_⟩
  rw [← abs_neg]
  push_cast
  rwa [show -(b - a - p * -z) = a - b - p * z by ring]

theorem Near.trans (h : Near p d a b) (h' : Near p d' b c) : Near p (d + d') a c := by
  obtain ⟨z, close⟩ := h
  obtain ⟨z', close'⟩ := h'
  refine ⟨z + z', ?_⟩
  push_cast
  rw [show a - c - p * (z + z') = (a - b - p * z) + (b - c - p * z') by ring]
  exact (abs_add_le _ _).trans (add_le_add close close')

/-! ### The circle -/

theorem gap_triangle (a b c : Rat) : gap a c ≤ gap a b + gap b c :=
  near_iff.1 ((near_iff.2 le_rfl).trans (near_iff.2 le_rfl))

/-- The way back is the same one the other way round, but half a turn is clockwise both ways. -/
theorem rotation_comm (a b : Rat) : rotation b a = if rotation a b = 180 then 180 else -rotation a b := by
  obtain ⟨z, same, low, high⟩ := exists_rotation_eq a b
  split
  · next half =>
    exact rotation_eq_of (z := 1 - z) (by rw [half] at same; push_cast; linarith) (by norm_num) le_rfl
  · next short =>
    have below := lt_of_le_of_ne high short
    exact rotation_eq_of (z := -z) (by rw [same]; push_cast; ring) (by linarith) (by linarith)

/-- Whole turns of either bearing make no difference. -/
theorem rotation_add_turns (a b : Rat) (z w : Int) : rotation (a + 360 * z) (b + 360 * w) = rotation a b := by
  obtain ⟨v, same, low, high⟩ := exists_rotation_eq a b
  exact rotation_eq_of (z := v - z + w) (by rw [same]; push_cast; ring) low high

theorem rotation_normalize_left (a b : Rat) : rotation (normalize a) b = rotation a b := by
  obtain ⟨z, wrapped, -⟩ := exists_normalize_eq a
  rw [wrapped]
  simpa using rotation_add_turns a b z 0

theorem rotation_normalize_right (a b : Rat) : rotation a (normalize b) = rotation a b := by
  obtain ⟨z, wrapped, -⟩ := exists_normalize_eq b
  rw [wrapped]
  simpa using rotation_add_turns a b 0 z

/-- A rotation is more than half a turn back and at most half a turn on. It is the difference of the bearings but for
whole turns, and no number that is so is closer to zero. The way back is the opposite rotation, unless it is half a
turn; no way by a third bearing is shorter; and it makes no difference if either bearing is brought into one turn. -/
theorem rotation_circular (a b c : Rat) :
    (-180 < rotation a b ∧ rotation a b ≤ 180) ∧
    (∃ z : Int, rotation a b = a - b + 360 * z) ∧
    (∀ z : Int, |rotation a b| ≤ |a - b + 360 * z|) ∧
    rotation b a = (if rotation a b = 180 then 180 else -rotation a b) ∧
    |rotation a c| ≤ |rotation a b| + |rotation b c| ∧
    rotation (normalize a) b = rotation a b ∧ rotation a (normalize b) = rotation a b := by
  obtain ⟨z, same, range⟩ := exists_rotation_eq a b
  have triangle := gap_triangle a b c
  rw [gap_eq, gap_eq, gap_eq] at triangle
  have least (z : Int) : |rotation a b| ≤ |a - b + 360 * z| := gap_eq a b ▸ gap_le_abs a b z
  exact ⟨range, ⟨z, same⟩, least, rotation_comm a b, triangle, rotation_normalize_left a b, rotation_normalize_right a b⟩

end Bearing

end GateNav
