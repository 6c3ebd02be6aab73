import GateNav.Double
import Mathlib.Data.Int.Order.Basic
import Mathlib.Data.Prod.Lex
import Mathlib.Order.Compare

/-!
# Comparing measurements

Comparison is not assumed to be total, and it is not so for doubles. But what is below a number is also below whatever
that number does not exceed, for all kinds of number the rover computes with (`Scalar.Ordered`), no two numbers are
each below the other (`Scalar.Asymmetric`), and of two that are defined one does not exceed the other
(`Scalar.Comparable`). For doubles this is read off the place of each of them in one order (`Float64.place`); only the
undefined value has none.
-/

namespace GateNav

/-- Kinds of number in which the order carries on from one comparison to the next. -/
class Scalar.Ordered (α : Type) [Scalar α] : Prop where
  lt_of_lt_of_le {x y z : α} : x < y → y ≤ z → x < z

instance : Scalar.Ordered Rat where
  lt_of_lt_of_le {x y _} (h : (x : Rat) < y) k := Rat.not_le.1 fun le => Rat.not_le.2 h (Rat.le_trans k le)

namespace Float64
open Float.Model (UnpackedFloat)

/-- The place of a number among all that can be compared: by its kind, then by exponent and mantissa. -/
def place : UnpackedFloat → Option (Int ×ₗ Int ×ₗ Int)
  | .notANumber => none
  | .infinity .negative => some (toLex (-2, toLex (0, 0)))
  | .infinity .positive => some (toLex (2, toLex (0, 0)))
  | .zero _ => some (toLex (0, toLex (0, 0)))
  | .finite .negative m e _ => some (toLex (-1, toLex (-e, -m)))
  | .finite .positive m e _ => some (toLex (1, toLex (e, m)))

theorem compare_sign (s t : UnpackedFloat.Sign) :
    compare s t = match s, t with
      | .negative, .positive => Ordering.lt
      | .positive, .negative => Ordering.gt
      | _, _ => Ordering.eq := by
  cases s <;> cases t <;> rfl

variable {x y : UnpackedFloat}

theorem lt_iff : x.lt y = true ↔ ∃ a ∈ place x, ∃ b ∈ place y, a < b := by
  unfold UnpackedFloat.lt
  rcases x with (_ | _) | _ | _ | ⟨_ | _, m, e, _⟩ <;> rcases y with (_ | _) | _ | _ | ⟨_ | _, m', e', _⟩ <;>
    dsimp only [UnpackedFloat.compare, place] <;>
    simp [compare_sign, Prod.Lex.toLex_lt_toLex, Ordering.then_eq_gt, Ordering.then_eq_lt, Int.compare_eq_lt,
      Int.compare_eq_gt, Nat.compare_eq_lt, Nat.compare_eq_gt]

theorem le_iff : x.le y = true ↔ ∃ a ∈ place x, ∃ b ∈ place y, a ≤ b := by
  unfold UnpackedFloat.le
  rcases x with (_ | _) | _ | _ | ⟨_ | _, m, e, _⟩ <;> rcases y with (_ | _) | _ | _ | ⟨_ | _, m', e', _⟩ <;>
    dsimp only [UnpackedFloat.compare, place] <;>
    simp [compare_sign, Prod.Lex.toLex_le_toLex, Ordering.isLE_then_iff_or, Ordering.swap_then, Int.compare_swap,
      Nat.compare_swap, Int.compare_eq_lt, Nat.isLE_compare, -Ordering.isLE_swap]
  omega

theorem lt_iff_place {x y : Float} : x < y ↔ ∃ a ∈ place x.toModel.unpack, ∃ b ∈ place y.toModel.unpack, a < b :=
  ⟨fun h => lt_iff.1 (of_decide_eq_true h), fun h => decide_eq_true (lt_iff.2 h)⟩

theorem le_iff_place {x y : Float} : x ≤ y ↔ ∃ a ∈ place x.toModel.unpack, ∃ b ∈ place y.toModel.unpack, a ≤ b :=
  ⟨fun h => le_iff.1 (of_decide_eq_true h), fun h => decide_eq_true (le_iff.2 h)⟩

end Float64

instance : Scalar.Ordered Float where
  lt_of_lt_of_le {x y z} h k := by
    obtain ⟨a, ha, b, hb, hab⟩ := Float64.lt_iff_place.1 h
    obtain ⟨b', hb', c, hc, hbc⟩ := Float64.le_iff_place.1 k
    cases hb.symm.trans hb'
    exact Float64.lt_iff_place.2 ⟨a, ha, c, hc, lt_of_lt_of_le hab hbc⟩

instance : Scalar.Ordered Double where
  lt_of_lt_of_le h k := @Scalar.Ordered.lt_of_lt_of_le Float _ _ _ _ _ h k

/-- Kinds of number of which no two are each below the other, in either order. -/
class Scalar.Asymmetric (α : Type) [Scalar α] : Prop where
  not_lt_of_lt {x y : α} : x < y → ¬ y < x
  not_before_of_before {x y : α} : before x y = true → before y x = false

instance : Scalar.Asymmetric Rat where
  not_lt_of_lt {x y} (h : (x : Rat) < y) := Rat.not_lt.2 (Rat.le_of_lt h)
  not_before_of_before {x y} h := decide_eq_false (Rat.not_lt.2 (Rat.le_of_lt (of_decide_eq_true h : (x : Rat) < y)))

instance : Scalar.Asymmetric Float where
  not_lt_of_lt {x y} h k := by
    obtain ⟨a, ha, b, hb, hab⟩ := Float64.lt_iff_place.1 h
    obtain ⟨b', hb', a', ha', hba⟩ := Float64.lt_iff_place.1 k
    cases ha.symm.trans ha'
    cases hb.symm.trans hb'
    exact lt_asymm hab hba
  not_before_of_before h := decide_eq_false (Int.lt_asymm (of_decide_eq_true h))

instance : Scalar.Asymmetric Double where
  not_lt_of_lt h k := @Scalar.Asymmetric.not_lt_of_lt Float _ _ _ _ h k
  not_before_of_before h := decide_eq_false (Int.lt_asymm (of_decide_eq_true h))

/-- A number is equal to itself, what is undefined is not. -/
def IsNumber {α : Type} [Scalar α] (x : α) : Prop := x ≤ x

instance {α : Type} [Scalar α] (x : α) : Decidable (IsNumber x) := Scalar.decLe x x

/-- Kinds of number of which any two can be compared, unless one of them is undefined. -/
class Scalar.Comparable (α : Type) [Scalar α] : Prop where
  isNumber_of_lt {x y : α} : x < y → IsNumber x ∧ IsNumber y
  not_lt {x y : α} : IsNumber x → IsNumber y → (¬ x < y ↔ y ≤ x)

instance : Scalar.Comparable Rat where
  isNumber_of_lt _ := ⟨Rat.le_refl, Rat.le_refl⟩
  not_lt _ _ := Rat.not_lt

instance : Scalar.Comparable Float where
  isNumber_of_lt h := by
    obtain ⟨a, ha, b, hb, -⟩ := Float64.lt_iff_place.1 h
    exact ⟨Float64.le_iff_place.2 ⟨a, ha, a, ha, le_rfl⟩, Float64.le_iff_place.2 ⟨b, hb, b, hb, le_rfl⟩⟩
  not_lt hx hy := by
    obtain ⟨a, ha, -⟩ := Float64.le_iff_place.1 hx
    obtain ⟨b, hb, -⟩ := Float64.le_iff_place.1 hy
    rw [Float64.lt_iff_place, Float64.le_iff_place, ha, hb]
    simp

instance : Scalar.Comparable Double where
  isNumber_of_lt h := @Scalar.Comparable.isNumber_of_lt Float _ _ _ _ h
  not_lt hx hy := @Scalar.Comparable.not_lt Float _ _ _ _ hx hy

end GateNav
