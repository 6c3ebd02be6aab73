import GateNav.Settings.Validate

/-!
# What valid settings are

The checks of the settings pass exactly for the settings described by `TrackingSettings.Valid` and
`TraverseSettings.Valid`.
-/

namespace GateNav
variable {α : Type} [Scalar α] [Numeral α]

section Demand
variable {holds : Bool} {field reason : String}

@[simp] theorem demand_eq_ok : demand holds field reason = .ok () ↔ holds = true := by
  unfold demand; cases holds <;> simp [pure, Except.pure, throw, throwThe, MonadExceptOf.throw]

/-- Checks in a row pass if each of them does. -/
@[simp] theorem demand_bind_eq_ok {rest : Unit → Except SettingsError Unit} :
    (demand holds field reason >>= rest) = .ok () ↔ holds = true ∧ rest () = .ok () := by
  unfold demand; cases holds <;> simp [bind, Except.bind, pure, Except.pure, throw, throwThe, MonadExceptOf.throw]

end Demand

/-- Settings of the tracking that pass all checks. -/
structure TrackingSettings.Valid (s : TrackingSettings α) : Prop where
  bearingTolerance : isPositive s.bearingTolerance = true
  distanceTolerance : isPositive s.distanceTolerance = true
  windowSize : 1 ≤ s.windowSize
  proportion : Scalar.zero < s.proportion ∧ s.proportion ≤ Scalar.one
  minSamples : 1 ≤ s.minSamples ∧ s.minSamples ≤ s.windowSize

theorem TrackingSettings.validate_eq_ok {s : TrackingSettings α} : s.validate = .ok () ↔ s.Valid := by
  simp only [validate, demandPositive, demand_bind_eq_ok, demand_eq_ok, bne_iff_ne, Bool.and_eq_true, decide_eq_true_eq]
  constructor
  · rintro ⟨bearing, distance, window, proportion, fewest, most⟩
    exact ⟨bearing, distance, Nat.pos_of_ne_zero window, proportion, Nat.pos_of_ne_zero fewest, most⟩
  · rintro ⟨bearing, distance, window, proportion, fewest, most⟩
    exact ⟨bearing, distance, Nat.ne_of_gt window, proportion, Nat.ne_of_gt fewest, most⟩

/-- Settings of the search that pass all checks. -/
structure TraverseSettings.Valid (s : TraverseSettings α) : Prop where
  spinStep : isPositive s.spinStep = true
  spinArc : isPositive s.spinArc = true
  step_le_arc : ¬ s.spinArc < s.spinStep
  turnTolerance : isPositive s.turnTolerance = true
  offCourseTolerance : ¬ s.offCourseTolerance < s.turnTolerance
  arrivalTolerance : isPositive s.arrivalTolerance = true
  approachDistance : isPositive s.approachDistance = true
  standoff : isPositive s.standoff = true
  clearance : isPositive s.clearance = true
  spacing : isPositive s.spacing = true
  maxPoints : 1 ≤ s.maxPoints

theorem TraverseSettings.validate_eq_ok {s : TraverseSettings α} : s.validate = .ok () ↔ s.Valid := by
  simp only [validate, demandPositive, demand_bind_eq_ok, demand_eq_ok, bne_iff_ne, Bool.not_eq_true',
    decide_eq_false_iff_not]
  constructor
  · rintro ⟨step, arc, order, turn, course, arrival, approach, standoff, clearance, spacing, points⟩
    exact ⟨step, arc, order, turn, course, arrival, approach, standoff, clearance, spacing, Nat.pos_of_ne_zero points⟩
  · rintro ⟨step, arc, order, turn, course, arrival, approach, standoff, clearance, spacing, points⟩
    exact ⟨step, arc, order, turn, course, arrival, approach, standoff, clearance, spacing, Nat.ne_of_gt points⟩

theorem Settings.validate_eq_ok {s : Settings α} : s.validate = .ok () ↔ s.tracking.Valid ∧ s.traverse.Valid := by
  rw [← TrackingSettings.validate_eq_ok, ← TraverseSettings.validate_eq_ok, validate]
  cases s.tracking.validate with
  | error e => simp [bind, Except.bind]
  | ok => simp [bind, Except.bind]

end GateNav
