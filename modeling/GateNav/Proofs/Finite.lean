import GateNav.Bearing
import GateNav.Proofs.Order

/-!
# What is not finite

An infinite or an undefined number does not get lost in a computation (`Scalar.Absorbing`): no difference with it is
finite, its remainder is undefined, and what is undefined compares with nothing. For doubles this is read off their
parts. So two numbers of which one is not finite are at no finite distance (`Scalar.isFinite_of_abs_sub_le`), and two
bearings of which one is not finite are within no gap (`Bearing.isFinite_of_gap_le`).
-/

namespace GateNav

/-- Kinds of number in which nothing finite comes of what is infinite or undefined. -/
class Scalar.Absorbing (α : Type) [Scalar α] : Prop where
  isNumber_of_le {x y : α} : x ≤ y → IsNumber x ∧ IsNumber y
  isNumber_of_isFinite {x : α} : isFinite x = true → IsNumber x
  isFinite_of_abs_le {x y : α} : abs x ≤ y → isFinite y = true → isFinite x = true
  isFinite_of_sub {x y : α} : isFinite (x - y) = true → isFinite x = true ∧ isFinite y = true
  isFinite_of_rem {x m : α} : IsNumber (rem x m) → isFinite x = true

/-- All fractions are finite. -/
instance : Scalar.Absorbing Rat where
  isNumber_of_le _ := ⟨Rat.le_refl, Rat.le_refl⟩
  isNumber_of_isFinite _ := Rat.le_refl
  isFinite_of_abs_le _ _ := rfl
  isFinite_of_sub _ := ⟨rfl, rfl⟩
  isFinite_of_rem _ := rfl

/-! ### Doubles -/

namespace Float64
open Float.Model (UnpackedFloat)

section
variable {u v : UnpackedFloat}

theorem not_isFinite_sub (spec : Float.Model.Format) (h : u.isFinite = false ∨ v.isFinite = false) :
    (UnpackedFloat.sub spec u v).isFinite = false := by
  cases u with
  | notANumber => rfl
  | infinity s =>
    cases v with
    | infinity t => cases s <;> cases t <;> rfl
    | notANumber | zero _ | finite _ _ _ _ => rfl
  | zero _ | finite _ _ _ _ =>
    cases v with
    | notANumber | infinity _ => rfl
    | zero _ | finite _ _ _ _ => rcases h with h | h <;> cases h

/-- What is not finite is not rounded. -/
theorem unpack_pack (h : u.isFinite = false) : (Float.Model.pack u).unpack = u := by
  cases u with
  | notANumber => rfl
  | infinity s => cases s <;> rfl
  | zero _ | finite _ _ _ _ => cases h

/-- Finite numbers lie between the two infinite ones. -/
theorem place_of_isFinite (h : u.isFinite = true) : ∃ a b, place u = some (toLex (a, b)) ∧ -2 < a ∧ a < 2 := by
  rcases u with _ | _ | _ | ⟨_ | _, m, e, _⟩
  · cases h
  · cases h
  · exact ⟨_, _, rfl, by decide, by decide⟩
  · exact ⟨_, _, rfl, by decide, by decide⟩
  · exact ⟨_, _, rfl, by decide, by decide⟩

end

variable {x y m : Float}

/-- Only numbers that are not finite have all bits of the exponent set. -/
theorem isFinite_unpack {spec : Float.Model.Format} {bits : BitVec spec.numBits}
    (other : UnpackedFloat.unpackExponent bits ≠ -1#(spec.exponentBits)) :
    (UnpackedFloat.unpack spec bits).isFinite = true := by
  unfold UnpackedFloat.unpack
  dsimp only
  rw [if_neg other]
  by_cases small : UnpackedFloat.unpackExponent bits = 0#(spec.exponentBits)
  · rw [if_pos small]
    by_cases zero : UnpackedFloat.unpackMantissa bits = 0#(spec.mantissaBitsWithoutImplicit)
    · rw [dif_pos zero]; rfl
    · rw [dif_neg zero]; rfl
  · rw [if_neg small]; rfl

theorem not_isFinite_unpack {spec : Float.Model.Format} {bits : BitVec spec.numBits}
    (all : UnpackedFloat.unpackExponent bits = -1#(spec.exponentBits)) :
    (UnpackedFloat.unpack spec bits).isFinite = false := by
  unfold UnpackedFloat.unpack
  dsimp only
  rw [if_pos all]
  by_cases zero : UnpackedFloat.unpackMantissa bits = 0#(spec.mantissaBitsWithoutImplicit)
  · rw [if_pos zero]; rfl
  · rw [if_neg zero]; rfl

/-- The exponent, as it is read off the bits. -/
theorem toNat_exponent : (@UnpackedFloat.unpackExponent .binary64 x.toModel.toBits.toBitVec).toNat =
    x.toBits.toNat / Binary.fractions % Binary.fields := by
  simp only [UnpackedFloat.unpackExponent, BitVec.extractLsb, BitVec.toNat_cast, BitVec.extractLsb'_toNat,
    Nat.shiftRight_eq_div_pow]
  rfl

/-- The bits of a double that is not finite have no parts. -/
theorem ofFloat?_of_not_isFinite (h : Scalar.isFinite x = false) : Binary.ofFloat? x = none := by
  have exponent : @UnpackedFloat.unpackExponent .binary64 x.toModel.toBits.toBitVec = (-1#11 : BitVec 11) := by
    by_contra other
    have finite : Scalar.isFinite x = true := isFinite_unpack other
    rw [h] at finite
    cases finite
  have field : x.toBits.toNat / Binary.fractions % Binary.fields = Binary.fields - 1 :=
    toNat_exponent.symm.trans (congrArg BitVec.toNat exponent)
  unfold Binary.ofFloat?
  dsimp only
  rw [if_pos field]

theorem exists_ofFloat? (h : Scalar.isFinite x = true) : ∃ b, Binary.ofFloat? x = some b := by
  have field : x.toBits.toNat / Binary.fractions % Binary.fields ≠ Binary.fields - 1 := by
    intro all
    have exponent : @UnpackedFloat.unpackExponent .binary64 x.toModel.toBits.toBitVec = (-1#11 : BitVec 11) :=
      BitVec.eq_of_toNat_eq (toNat_exponent.trans all)
    have infinite : Scalar.isFinite x = false := not_isFinite_unpack exponent
    rw [h] at infinite
    cases infinite
  unfold Binary.ofFloat?
  dsimp only
  rw [if_neg field]
  split <;> exact ⟨_, rfl⟩

theorem beq_infinity (h : Scalar.isFinite x = true) : (x == infinity) = false := by
  show UnpackedFloat.beq x.toModel.unpack (.infinity .positive) = false
  unfold UnpackedFloat.beq
  rcases hx : x.toModel.unpack with s | - | s | ⟨s, m, e, _⟩
  · have infinite : Scalar.isFinite x = false := congrArg UnpackedFloat.isFinite hx
    rw [h] at infinite
    cases infinite
  · rfl
  · rfl
  · cases s <;> rfl

theorem isFinite_of_rem (h : IsNumber (rem x m)) : Scalar.isFinite x = true := by
  by_contra infinite
  have no_parts := ofFloat?_of_not_isFinite (Bool.eq_false_iff.2 infinite)
  have nothing : rem x m = undefined := by
    unfold rem
    rw [no_parts]
  rw [nothing] at h
  exact absurd h (by decide)

theorem isFinite_of_sub (h : Scalar.isFinite (x - y) = true) :
    Scalar.isFinite x = true ∧ Scalar.isFinite y = true := by
  by_contra infinite
  rw [not_and_or, Bool.not_eq_true, Bool.not_eq_true] at infinite
  have lost := not_isFinite_sub .binary64 infinite
  have kept : (Float.Model.pack (.sub .binary64 x.toModel.unpack y.toModel.unpack)).unpack.isFinite = true := h
  rw [unpack_pack lost, lost] at kept
  cases kept

theorem isNumber_of_isFinite (h : Scalar.isFinite x = true) : IsNumber x := by
  obtain ⟨a, b, hp, -⟩ := place_of_isFinite h
  exact le_iff_place.2 ⟨_, hp, _, hp, le_rfl⟩

theorem not_le_of_infinity (infinite : x.toModel.unpack = .infinity .positive) (h : Scalar.isFinite y = true) :
    ¬ x ≤ y := by
  obtain ⟨a, b, hp, -, less⟩ := place_of_isFinite h
  rw [le_iff_place, infinite, hp]
  rintro ⟨_, ⟨⟩, _, ⟨⟩, le⟩
  rw [Prod.Lex.toLex_le_toLex] at le
  omega

theorem isFinite_of_abs_le (h : Scalar.abs x ≤ y) (finite : Scalar.isFinite y = true) : Scalar.isFinite x = true := by
  have zero : (Scalar.zero : Float).toModel.unpack = .zero .positive := rfl
  unfold Scalar.abs at h
  cases hx : x.toModel.unpack with
  | notANumber =>
    have aside : ¬ x < Scalar.zero := by
      rw [lt_iff_place, hx]
      rintro ⟨_, ⟨⟩, -⟩
    rw [if_neg aside, le_iff_place, hx] at h
    obtain ⟨_, ⟨⟩, -⟩ := h
  | infinity s =>
    cases s with
    | positive =>
      have above : ¬ x < Scalar.zero := by
        rw [lt_iff_place, hx, zero]
        rintro ⟨_, ⟨⟩, _, ⟨⟩, less⟩
        exact absurd less (by decide)
      rw [if_neg above] at h
      exact absurd h (not_le_of_infinity hx finite)
    | negative =>
      have below : x < Scalar.zero := by
        rw [lt_iff_place, hx, zero]
        exact ⟨_, rfl, _, rfl, by decide⟩
      have opposite : (-x).toModel.unpack = .infinity .positive := by
        show (Float.Model.pack x.toModel.unpack.neg).unpack = _
        rw [hx]; rfl
      rw [if_pos below] at h
      exact absurd h (not_le_of_infinity opposite finite)
  | zero _ | finite _ _ _ _ =>
    show x.toModel.unpack.isFinite = true
    rw [hx]; rfl

end Float64

instance : Scalar.Absorbing Float where
  isNumber_of_le h := by
    obtain ⟨a, ha, b, hb, -⟩ := Float64.le_iff_place.1 h
    exact ⟨Float64.le_iff_place.2 ⟨a, ha, a, ha, le_rfl⟩, Float64.le_iff_place.2 ⟨b, hb, b, hb, le_rfl⟩⟩
  isNumber_of_isFinite := Float64.isNumber_of_isFinite
  isFinite_of_abs_le := Float64.isFinite_of_abs_le
  isFinite_of_sub := Float64.isFinite_of_sub
  isFinite_of_rem := Float64.isFinite_of_rem

instance : Scalar.Absorbing Double where
  isNumber_of_le h := Scalar.Absorbing.isNumber_of_le (α := Float) h
  isNumber_of_isFinite h := Float64.isNumber_of_isFinite h
  isFinite_of_abs_le {x y} h finite := by
    have same : (Scalar.abs x).value = Scalar.abs x.value := by
      unfold Scalar.abs
      exact apply_ite Double.value _ _ _
    refine Float64.isFinite_of_abs_le (y := y.value) ?_ finite
    rw [← same]
    exact h
  isFinite_of_sub h := Float64.isFinite_of_sub h
  isFinite_of_rem h := Float64.isFinite_of_rem h

/-! ### Distances and gaps -/

variable {α : Type} [Scalar α] {x y a b d : α}

theorem Scalar.isNumber_of_abs [Scalar.Comparable α] (h : IsNumber (abs x)) : IsNumber x := by
  unfold abs at h
  split at h
  · next below => exact (Comparable.isNumber_of_lt below).1
  · exact h

variable [Scalar.Absorbing α]

namespace Scalar

theorem isFinite_of_abs_sub_le (finite : isFinite d = true) (close : abs (x - y) ≤ d) :
    isFinite x = true ∧ isFinite y = true :=
  Absorbing.isFinite_of_sub (Absorbing.isFinite_of_abs_le close finite)

variable [Comparable α]

/-- An undefined remainder stays so. -/
theorem isFinite_of_floorRem {m : α} (h : IsNumber (floorRem x m)) : isFinite x = true := by
  refine Absorbing.isFinite_of_rem (m := m) ?_
  unfold floorRem at h
  dsimp only at h
  split at h
  · next below => exact (Comparable.isNumber_of_lt below).1
  · exact h

end Scalar

namespace Bearing
variable [Scalar.Comparable α]

theorem isFinite_of_normalize (h : IsNumber (normalize x)) : Scalar.isFinite x = true := by
  refine Scalar.isFinite_of_floorRem (m := turn) ?_
  unfold normalize at h
  dsimp only at h
  split at h
  · next whole => exact (Scalar.Absorbing.isNumber_of_le whole).2
  · exact h

theorem isFinite_of_rotation (h : IsNumber (rotation a b)) : Scalar.isFinite (a - b) = true := by
  refine isFinite_of_normalize ?_
  unfold rotation at h
  dsimp only at h
  split at h
  · next far => exact (Scalar.Comparable.isNumber_of_lt far).2
  · exact h

theorem isFinite_of_gap_le (close : gap a b ≤ d) : Scalar.isFinite a = true ∧ Scalar.isFinite b = true :=
  Scalar.Absorbing.isFinite_of_sub
    (isFinite_of_rotation (Scalar.isNumber_of_abs (Scalar.Absorbing.isNumber_of_le close).1))

end Bearing

end GateNav
