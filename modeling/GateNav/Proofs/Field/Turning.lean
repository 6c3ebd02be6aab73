import Mathlib.Algebra.Order.Floor.Semiring
import Mathlib.Data.Rat.Floor
import Mathlib.Data.Sign.Basic
import GateNav.Proofs.Bearing
import GateNav.Proofs.Exact
import GateNav.Field

/-!
# Turning on the spot

A rover that is to head for a bearing turns the short way, by its turn rate at most, and so its heading error comes
closer to none by as much in each cycle. `Bearing.left d e` is what is then left of an error `e` after turns by `d` in
all. Turns add up (`left_left`), and one cycle leaves that of the error (`Bearing.rotation_normalize_add`), so the error
after any number of cycles is known (`Field.turns_the_short_way`): the rover never turns past the bearing, and it has
turned to it after as many cycles as its turn rate goes into the error.
-/

namespace GateNav

namespace Bearing
variable {d d' e : Rat}

/-! ### What is left of an error -/

/-- What is left of the error `e` after a turn by `d` toward none, which does not go past it. -/
def left (d e : Rat) : Rat := e - Scalar.clamp (-d) d e

theorem left_eq (forward : 0 ≤ d) : left d e = if e < -d then e + d else if d < e then e - d else 0 := by
  unfold left Scalar.clamp
  dsimp only
  by_cases below : e < -d
  · rw [if_pos below, if_pos below, if_neg (by linarith)]
    ring
  · rw [if_neg below, if_neg below]
    split
    · rfl
    · exact sub_self e

theorem left_zero (e : Rat) : left 0 e = e := by
  rw [left_eq le_rfl]
  rcases lt_trichotomy e 0 with below | rfl | above
  · rw [if_pos (by linarith), add_zero]
  · simp
  · rw [if_neg (by linarith), if_pos above, sub_zero]

/-- Turns add up. -/
theorem left_left (forward : 0 ≤ d) (forward' : 0 ≤ d') : left d' (left d e) = left (d + d') e := by
  rw [left_eq forward', left_eq forward, left_eq (add_nonneg forward forward')]
  split_ifs <;> linarith

theorem abs_left (forward : 0 ≤ d) : |left d e| = max 0 (|e| - d) := by
  rw [left_eq forward]
  split_ifs with below above
  · rw [abs_of_neg (by linarith), abs_of_neg (by linarith), max_eq_right (by linarith)]
    ring
  · rw [abs_of_pos (by linarith), abs_of_pos (by linarith), max_eq_right (by linarith)]
  · have close : |e| ≤ d := abs_le.2 ⟨not_lt.1 below, not_lt.1 above⟩
    rw [abs_zero, max_eq_left (by linarith)]

theorem left_eq_zero (forward : 0 ≤ d) : left d e = 0 ↔ |e| ≤ d := by
  rw [← abs_eq_zero, abs_left forward, max_eq_left_iff, sub_nonpos]

/-- No error is turned into one on the other side. -/
theorem sign_left (forward : 0 ≤ d) (some_left : left d e ≠ 0) : SignType.sign (left d e) = SignType.sign e := by
  rw [left_eq forward] at some_left ⊢
  split_ifs at some_left ⊢ with below above
  · rw [sign_neg (by linarith), sign_neg (by linarith)]
  · rw [sign_pos (by linarith), sign_pos (by linarith)]
  · exact absurd rfl some_left

/-- The error of a heading after a turn toward the bearing, wherever the turn crosses north. -/
theorem rotation_normalize_add (forward : 0 ≤ d) (bearing heading : Rat) :
    rotation bearing (normalize (heading + Scalar.clamp (-d) d (rotation bearing heading))) =
      left d (rotation bearing heading) := by
  rw [rotation_normalize_right]
  obtain ⟨z, error, low, high⟩ := exists_rotation_eq bearing heading
  refine rotation_eq_of (z := z) ?_ ?_ ?_
  · rw [left]
    linarith
  all_goals
    rw [left_eq forward]
    split_ifs <;> linarith

end Bearing

open Bearing

/-! ### The rover -/

/-- A rover that can turn does so, and stays where it is. -/
theorem Rover.turnToward_eq (r : Rover Rat) {turnRate : Rat} (moves : 0 < turnRate) (bearing : Rat) :
    r.turnToward turnRate bearing =
      .ok
        { r with
          heading := Bearing.normalize (r.heading + Scalar.clamp (-turnRate) turnRate (rotation bearing r.heading)) } :=
  if_pos (by linarith)

namespace Field
variable {α : Type} [Scalar α] [Trig α]

/-- The field after so many cycles in which the rover follows the same target. -/
def follow (f : Field α) (target : Steering α) : Nat → Checked α (Field α)
  | 0 => pure f
  | k + 1 => f.follow target k >>= (·.apply target)

/-- The field with its rover turned on the spot. -/
def facing (f : Field α) (heading : α) : Field α := { f with rover := { f.rover with heading := heading } }

variable [Trig Rat] {f : Field Rat}

theorem apply_heading (moves : 0 < f.drive.turnRate) (bearing : Rat) :
    ∃ heading, f.apply (.heading bearing) = .ok (f.facing heading) ∧ 0 ≤ heading ∧ heading < 360 ∧
      rotation bearing heading = left f.drive.turnRate (rotation bearing f.rover.heading) := by
  obtain ⟨-, -, low, high⟩ := exists_normalize_eq
    (f.rover.heading + Scalar.clamp (-f.drive.turnRate) f.drive.turnRate (rotation bearing f.rover.heading))
  refine ⟨_, ?_, low, high, rotation_normalize_add moves.le bearing f.rover.heading⟩
  rw [apply, f.rover.turnToward_eq moves]
  rfl

theorem follow_heading (moves : 0 < f.drive.turnRate) (north : 0 ≤ f.rover.heading ∧ f.rover.heading < 360)
    (bearing : Rat) (k : Nat) :
    ∃ heading, f.follow (.heading bearing) k = .ok (f.facing heading) ∧ 0 ≤ heading ∧ heading < 360 ∧
      rotation bearing heading = left (k * f.drive.turnRate) (rotation bearing f.rover.heading) := by
  induction k with
  | zero => exact ⟨f.rover.heading, rfl, north.1, north.2, by rw [Nat.cast_zero, zero_mul, left_zero]⟩
  | succ k ih =>
    obtain ⟨before, followed, -, -, error⟩ := ih
    obtain ⟨heading, applied, low, high, turned⟩ :=
      apply_heading (f := f.facing before) moves bearing
    refine ⟨heading, ?_, low, high, ?_⟩
    · rw [follow, followed]
      exact applied
    · have so_far : 0 ≤ (k : Rat) * f.drive.turnRate := mul_nonneg k.cast_nonneg moves.le
      rw [turned]
      show left f.drive.turnRate (rotation bearing before) = _
      rw [error, left_left so_far moves.le]
      congr 1
      push_cast
      ring

/-- A rover with a heading within one turn, told a bearing for `k` cycles. It stays where it is and keeps its heading
within one turn; its heading error is as many turn rates less, or none; an error that is left is on the same side as at
first; and the bearing is reached if and only if `k` is at least the number of turn rates in the error at first, rounded
up. -/
theorem turns_the_short_way (f : Field Rat) (moves : 0 < f.drive.turnRate)
    (north : 0 ≤ f.rover.heading ∧ f.rover.heading < 360) (bearing : Rat) (k : Nat) :
    ∃ heading, f.follow (.heading bearing) k = .ok { f with rover := ⟨f.rover.position, heading⟩ } ∧
      0 ≤ heading ∧ heading < 360 ∧
      gap bearing heading = max 0 (gap bearing f.rover.heading - k * f.drive.turnRate) ∧
      (rotation bearing heading ≠ 0 →
        SignType.sign (rotation bearing heading) = SignType.sign (rotation bearing f.rover.heading)) ∧
      (heading = Bearing.normalize bearing ↔ ⌈gap bearing f.rover.heading / f.drive.turnRate⌉₊ ≤ k) := by
  obtain ⟨heading, followed, low, high, error⟩ := follow_heading moves north bearing k
  have turned : 0 ≤ (k : Rat) * f.drive.turnRate := mul_nonneg k.cast_nonneg moves.le
  refine ⟨heading, followed, low, high, ?_, ?_, ?_⟩
  · rw [gap_eq, error, abs_left turned, gap_eq]
  · intro some_left
    rw [error] at some_left ⊢
    exact sign_left turned some_left
  · have reached : heading = Bearing.normalize bearing ↔ rotation bearing heading = 0 := by
      constructor
      · rintro rfl
        obtain ⟨z, wrapped, -⟩ := exists_normalize_eq bearing
        exact rotation_eq_of (z := z) (by rw [wrapped]; ring) (by norm_num) (by norm_num)
      · intro none_left
        obtain ⟨z, same, -⟩ := exists_rotation_eq bearing heading
        exact (normalize_eq_of (z := z) (by linarith) low high).symm
    rw [reached, error, left_eq_zero turned, Nat.ceil_le, div_le_iff₀ moves, gap_eq]

end Field

/-- A rover that looks west and is told to look east, which is half a turn. -/
def Exact.about : Field Rat := ⟨.origin, [], ⟨⟨0, 0⟩, 270⟩, .default, ⟨50, 1 / 2⟩, 0⟩

theorem Field.turns_the_short_way_about :
    ∃ heading, Exact.about.follow (.heading 90) 3 = .ok { Exact.about with rover := ⟨⟨0, 0⟩, heading⟩ } ∧
      gap 90 heading = 30 ∧ SignType.sign (rotation 90 heading) = 1 ∧ heading ≠ Bearing.normalize 90 := by
  obtain ⟨heading, followed, -, -, error, side, reached⟩ :=
    turns_the_short_way Exact.about (by decide +kernel) (by decide +kernel) 90 3
  have behind : rotation 90 Exact.about.rover.heading = 180 := by decide +kernel
  have turnRate : Exact.about.drive.turnRate = 50 := rfl
  rw [gap_eq 90 Exact.about.rover.heading, behind, turnRate] at error reached
  have some_left : gap 90 heading = 30 := by rw [error]; norm_num
  have early : ¬ ⌈|(180 : Rat)| / 50⌉₊ ≤ 3 := by rw [Nat.ceil_le]; norm_num
  refine ⟨heading, followed, some_left, ?_, fun there => early (reached.1 there)⟩
  rw [side fun none_left => ?_, behind, sign_pos (by norm_num)]
  rw [gap_eq, none_left] at some_left
  norm_num at some_left

end GateNav
