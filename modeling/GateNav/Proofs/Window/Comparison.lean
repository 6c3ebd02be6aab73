import GateNav.Proofs.Finite
import GateNav.Window

/-!
# Comparing the samples of a window

The sorting of a window compares samples, and those that cannot be compared count as equal (`Window.compare`). That is
no order if there are such among them. Where all samples are numbers it is a total order, and all of them compare
(`Window.transCmp_of_isNumber`, `Window.isSome_compare?`).
-/

namespace GateNav
variable {α : Type} [Scalar α] {x y z : α}

namespace Scalar
variable [Comparable α]

theorem le_total [Asymmetric α] (hx : IsNumber x) (hy : IsNumber y) : x ≤ y ∨ y ≤ x := by
  by_cases less : x < y
  · exact .inl ((Comparable.not_lt hy hx).1 (Asymmetric.not_lt_of_lt less))
  · exact .inr ((Comparable.not_lt hx hy).1 less)

variable [Absorbing α]

theorem le_trans [Ordered α] (h : x ≤ y) (k : y ≤ z) : x ≤ z := by
  obtain ⟨hx, hy⟩ := Absorbing.isNumber_of_le h
  have hz := (Absorbing.isNumber_of_le k).2
  exact (Comparable.not_lt hz hx).1 fun less => (Comparable.not_lt hz hy).2 k (Ordered.lt_of_lt_of_le less h)

theorem lt_iff_le_not_le [Asymmetric α] : x < y ↔ x ≤ y ∧ ¬ y ≤ x := by
  constructor
  · intro less
    obtain ⟨hx, hy⟩ := Comparable.isNumber_of_lt less
    exact ⟨(Comparable.not_lt hy hx).1 (Asymmetric.not_lt_of_lt less), fun le => (Comparable.not_lt hx hy).2 le less⟩
  · rintro ⟨le, apart⟩
    obtain ⟨hx, hy⟩ := Absorbing.isNumber_of_le le
    by_contra above
    exact apart ((Comparable.not_lt hx hy).1 above)

end Scalar

namespace Window

/-- How two samples compare, if they do. -/
def compare? (x y : α) : Option Ordering :=
  if x ≤ y then some (if y ≤ x then .eq else .lt) else if y ≤ x then some .gt else none

/-- The comparison of samples: those that do not compare count as equal. -/
def compare (x y : α) : Ordering := (compare? x y).getD .eq

theorem compare_swap (x y : α) : compare x y = (compare y x).swap := by
  unfold compare compare?
  by_cases h : x ≤ y <;> by_cases k : y ≤ x <;> simp [h, k]

instance {xs : List α} : Std.OrientedCmp fun x y : { x // x ∈ xs } => compare x.1 y.1 :=
  ⟨compare_swap _ _⟩

/-- One sample alone cannot be out of order. -/
theorem transCmp_of_length_le {xs : List α} (few : xs.length ≤ 1) :
    Std.TransCmp fun x y : { x // x ∈ xs } => compare x.1 y.1 where
  isLE_trans {x y z} h _ := by
    have only (y z : { x // x ∈ xs }) : y = z := by
      match xs, few, y, z with
      | [_], _, ⟨_, hy⟩, ⟨_, hz⟩ => exact Subtype.ext ((List.mem_singleton.1 hy).trans (List.mem_singleton.1 hz).symm)
    rwa [only z y]

variable [Scalar.Comparable α] [Scalar.Asymmetric α]

/-- Sorting by `less` is sorting by this comparison. -/
theorem less_eq_compare [Scalar.Absorbing α] (x y : α) : less x y = (compare x y == .lt) := by
  have parts : less x y = decide (x ≤ y ∧ ¬ y ≤ x) := decide_eq_decide.2 Scalar.lt_iff_le_not_le
  rw [parts]
  unfold compare compare?
  by_cases h : x ≤ y <;> by_cases k : y ≤ x <;> simp [h, k]

theorem isSome_compare? (hx : IsNumber x) (hy : IsNumber y) : (compare? x y).isSome = true := by
  unfold compare?
  by_cases h : x ≤ y
  · rw [if_pos h]; rfl
  · rw [if_neg h, if_pos ((Scalar.le_total hx hy).resolve_left h)]; rfl

theorem isLE_compare (hx : IsNumber x) (hy : IsNumber y) : (compare x y).isLE = true ↔ x ≤ y := by
  unfold compare compare?
  by_cases h : x ≤ y
  · by_cases k : y ≤ x <;> simp [h, k]
  · simp [h, (Scalar.le_total hx hy).resolve_left h]

theorem transCmp_of_isNumber [Scalar.Absorbing α] [Scalar.Ordered α] {xs : List α} (h : ∀ x ∈ xs, IsNumber x) :
    Std.TransCmp fun x y : { x // x ∈ xs } => compare x.1 y.1 where
  isLE_trans {x y z} hxy hyz := by
    rw [isLE_compare (h _ x.2) (h _ y.2)] at hxy
    rw [isLE_compare (h _ y.2) (h _ z.2)] at hyz
    rw [isLE_compare (h _ x.2) (h _ z.2)]
    exact Scalar.le_trans hxy hyz

end Window

end GateNav
