import GateNav.Decimal.Layout
import GateNav.Settings.Basic

/-!
# Checking settings

The checks are made in a fixed order, tracking before traverse, and the first one that fails is reported
with the name of its field.
-/

namespace GateNav
variable {α : Type} [Scalar α] [Numeral α]

/-- A check that holds, or the error of a field. -/
def demand (holds : Bool) (field reason : String) : Except SettingsError Unit :=
  if holds then pure () else throw (.invalid field reason)

/-- The number is finite and above zero. -/
def isPositive (x : α) : Bool := Scalar.isFinite x && Scalar.zero < x

/-- A number that must be finite and above zero. -/
def demandPositive (field : String) (x : α) : Except SettingsError Unit :=
  demand (isPositive x) field ("must be a positive finite number, got " ++ Numeral.text x)

def TrackingSettings.validate (s : TrackingSettings α) : Except SettingsError Unit := do
  demandPositive "environment.bearing_tolerance_deg" s.bearingTolerance
  demandPositive "environment.distance_tolerance_m" s.distanceTolerance
  demand (s.windowSize != 0) "environment.filter_window" "must be at least 1"
  demand (Scalar.zero < s.proportion && s.proportion ≤ Scalar.one) "environment.filter_proportion" "must be in (0, 1]"
  demand (s.minSamples != 0 && s.minSamples ≤ s.windowSize) "environment.filter_min_samples"
    "must be between 1 and filter_window"

def TraverseSettings.validate (s : TraverseSettings α) : Except SettingsError Unit := do
  demandPositive "gate.spin_step_deg" s.spinStep
  demandPositive "gate.spin_arc_deg" s.spinArc
  demand (!(s.spinArc < s.spinStep)) "gate.spin_step_deg" "must not exceed spin_arc_deg"
  demandPositive "gate.turn_tolerance_deg" s.turnTolerance
  demand (!(s.offCourseTolerance < s.turnTolerance)) "gate.off_course_tolerance_deg" "must be at least turn_tolerance_deg"
  demandPositive "gate.arrival_tolerance_m" s.arrivalTolerance
  demandPositive "gate.post_approach_dist_m" s.approachDistance
  demandPositive "gate.gate_standoff_m" s.standoff
  demandPositive "gate.gate_adjustment_dist_m" s.clearance
  demandPositive "gate.search_point_spacing_m" s.spacing
  demand (s.maxPoints != 0) "gate.max_search_points" "must be at least 1"

def Settings.validate (s : Settings α) : Except SettingsError Unit := do
  s.tracking.validate
  s.traverse.validate

end GateNav
