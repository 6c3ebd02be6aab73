import GateNav.Proofs.Order
import GateNav.Proofs.Settings.Validate

/-!
# What the checks demand, and in which order

A `Demand` says what must hold of the settings and which field is named if it does not. `Reports` says of a check that
it passes if all demands are met, and that otherwise it names the field of the first one that is not. The checks do so
for the demands on all settings (`Settings.validate_reports`), with one exception: the tolerance of the course is only
rejected if it lies below that of a turn, and an undefined one lies below nothing (`Settings.validate_courseless`).
-/

namespace GateNav

/-- What must hold of the settings, and the field that is named if it does not. -/
structure Demand where
  field : String
  holds : Prop

/-- The first demand that is not met is on this field. -/
inductive FirstUnmet (field : String) : List Demand → Prop
  | here {holds : Prop} {rest : List Demand} (unmet : ¬ holds) : FirstUnmet field (⟨field, holds⟩ :: rest)
  | later {d : Demand} {rest : List Demand} (met : d.holds) (after : FirstUnmet field rest) :
    FirstUnmet field (d :: rest)

section FirstUnmet
variable {field : String} {d : Demand} {ds es : List Demand}

theorem firstUnmet_cons_of_met (met : d.holds) : FirstUnmet field (d :: ds) ↔ FirstUnmet field ds := by
  refine ⟨fun h => ?_, .later met⟩
  cases h with
  | here unmet => exact absurd met unmet
  | later _ after => exact after

theorem firstUnmet_cons_of_unmet (unmet : ¬ d.holds) : FirstUnmet field (d :: ds) ↔ field = d.field := by
  constructor
  · intro h
    cases h with
    | here => rfl
    | later met _ => exact absurd met unmet
  · rintro rfl
    exact .here unmet

theorem firstUnmet_append_of_met (met : ∀ d ∈ ds, d.holds) : FirstUnmet field (ds ++ es) ↔ FirstUnmet field es := by
  induction ds with
  | nil => rfl
  | cons d ds ih =>
    rw [List.cons_append, firstUnmet_cons_of_met (met d List.mem_cons_self)]
    exact ih fun e he => met e (List.mem_cons_of_mem _ he)

theorem firstUnmet_append_of_unmet (unmet : ¬ ∀ d ∈ ds, d.holds) :
    FirstUnmet field (ds ++ es) ↔ FirstUnmet field ds := by
  induction ds with
  | nil => exact absurd (fun _ h => absurd h List.not_mem_nil) unmet
  | cons d ds ih =>
    rw [List.cons_append]
    by_cases met : d.holds
    · rw [firstUnmet_cons_of_met met, firstUnmet_cons_of_met met]
      exact ih fun all => unmet (List.forall_mem_cons.2 ⟨met, all⟩)
    · rw [firstUnmet_cons_of_unmet met, firstUnmet_cons_of_unmet met]

end FirstUnmet

/-- The check passes if all demands are met, and otherwise it names the field of the first one that is not. -/
structure Reports (check : Except SettingsError Unit) (demands : List Demand) : Prop where
  passes : check = .ok () ↔ ∀ d ∈ demands, d.holds
  names : ∀ field, (∃ reason, check = .error (.invalid field reason)) ↔ FirstUnmet field demands

namespace Reports
variable {check : Except SettingsError Unit} {next : Unit → Except SettingsError Unit} {ds es : List Demand}
variable {holds : Bool} {field reason : String} {met : Prop}

/-- Nothing is demanded. -/
theorem done : Reports (.ok ()) [] where
  passes := by simp
  names field := ⟨fun ⟨_, h⟩ => (by cases h), fun h => (by cases h)⟩

/-- A demand is made before others. They may rely on it being met. -/
theorem demand (same : holds = true ↔ met) (others : met → Reports (next ()) ds) :
    Reports (GateNav.demand holds field reason >>= next) (⟨field, met⟩ :: ds) := by
  by_cases h : holds = true
  · have passed : GateNav.demand holds field reason >>= next = next () := by rw [h]; rfl
    have others := others (same.1 h)
    rw [passed]
    refine ⟨?_, fun other => ?_⟩
    · rw [List.forall_mem_cons, others.passes, and_iff_right (same.1 h)]
    · rw [firstUnmet_cons_of_met (same.1 h), others.names]
  · have unmet : ¬ met := mt same.2 h
    have failed : GateNav.demand holds field reason >>= next = .error (.invalid field reason) := by
      rw [Bool.eq_false_iff.2 h]; rfl
    rw [failed]
    refine ⟨⟨nofun, fun all => absurd (all _ List.mem_cons_self) unmet⟩, fun other => ?_⟩
    rw [firstUnmet_cons_of_unmet unmet]
    constructor
    · rintro ⟨_, h⟩; cases h; rfl
    · rintro rfl; exact ⟨reason, rfl⟩

theorem last (same : holds = true ↔ met) : Reports (GateNav.demand holds field reason) [⟨field, met⟩] := by
  rw [← bind_pure (GateNav.demand holds field reason)]
  exact demand same fun _ => done

theorem append {rest : Except SettingsError Unit} (h : Reports check ds) (others : Reports rest es) :
    Reports (check >>= fun _ => rest) (ds ++ es) := by
  by_cases met : ∀ d ∈ ds, d.holds
  · rw [h.passes.2 met]
    refine ⟨?_, fun field => ?_⟩
    · rw [List.forall_mem_append, and_iff_right met]; exact others.passes
    · rw [firstUnmet_append_of_met met]; exact others.names field
  · obtain ⟨e, failed⟩ : ∃ e, check = .error e := by
      cases check with
      | ok => exact absurd (h.passes.1 rfl) met
      | error e => exact ⟨e, rfl⟩
    have stays : check >>= (fun _ => rest) = check := by rw [failed]; rfl
    rw [stays]
    refine ⟨?_, fun field => ?_⟩
    · rw [h.passes, List.forall_mem_append]
      exact ⟨fun all => absurd all met, And.left⟩
    · rw [firstUnmet_append_of_unmet met, h.names]

end Reports

/-! ### The demands on all settings -/

variable {α : Type} [Scalar α]

/-- A number that is finite and above zero. -/
def Positive (x : α) : Prop := Scalar.isFinite x = true ∧ Scalar.zero < x

instance (x : α) : Decidable (Positive x) := inferInstanceAs (Decidable (_ ∧ _))

def TrackingSettings.demands (s : TrackingSettings α) : List Demand :=
  [⟨"environment.bearing_tolerance_deg", Positive s.bearingTolerance⟩,
    ⟨"environment.distance_tolerance_m", Positive s.distanceTolerance⟩,
    ⟨"environment.filter_window", 1 ≤ s.windowSize⟩,
    ⟨"environment.filter_proportion", Scalar.zero < s.proportion ∧ s.proportion ≤ Scalar.one⟩,
    ⟨"environment.filter_min_samples", 1 ≤ s.minSamples ∧ s.minSamples ≤ s.windowSize⟩]

/-- What is demanded of the settings of a search. The demand on the tolerance of the course stands in its place. -/
def TraverseSettings.demandsAround (course : List Demand) (s : TraverseSettings α) : List Demand :=
  ⟨"gate.spin_step_deg", Positive s.spinStep⟩ ::
    ⟨"gate.spin_arc_deg", Positive s.spinArc⟩ ::
    ⟨"gate.spin_step_deg", s.spinStep ≤ s.spinArc⟩ ::
    ⟨"gate.turn_tolerance_deg", Positive s.turnTolerance⟩ ::
    (course ++
      [⟨"gate.arrival_tolerance_m", Positive s.arrivalTolerance⟩,
        ⟨"gate.post_approach_dist_m", Positive s.approachDistance⟩,
        ⟨"gate.gate_standoff_m", Positive s.standoff⟩,
        ⟨"gate.gate_adjustment_dist_m", Positive s.clearance⟩,
        ⟨"gate.search_point_spacing_m", Positive s.spacing⟩,
        ⟨"gate.max_search_points", 1 ≤ s.maxPoints⟩])

/-- The tolerance of the course is a number, and not below that of a turn. -/
def TraverseSettings.courseDemand (s : TraverseSettings α) : Demand :=
  ⟨"gate.off_course_tolerance_deg", IsNumber s.offCourseTolerance ∧ s.turnTolerance ≤ s.offCourseTolerance⟩

/-- What is demanded of all settings, in the order of the checks. -/
def Settings.demands (s : Settings α) : List Demand :=
  s.tracking.demands ++ s.traverse.demandsAround [s.traverse.courseDemand]

/-- All demands but that on the tolerance of the course. -/
def Settings.demandsButCourse (s : Settings α) : List Demand := s.tracking.demands ++ s.traverse.demandsAround []

theorem isPositive_iff {x : α} : isPositive x = true ↔ Positive x := by simp [isPositive, Positive]

theorem Positive.isNumber [Scalar.Comparable α] {x : α} (h : Positive x) : IsNumber x :=
  (Scalar.Comparable.isNumber_of_lt h.2).2

variable [Numeral α]

theorem TrackingSettings.reports (s : TrackingSettings α) : Reports s.validate s.demands := by
  unfold validate demandPositive
  refine .demand isPositive_iff fun _ => .demand isPositive_iff fun _ => .demand ?window fun _ =>
    .demand ?proportion fun _ => .last ?samples
  case window => simp [Nat.one_le_iff_ne_zero]
  case proportion => simp
  case samples => simp [Nat.one_le_iff_ne_zero]

variable [Scalar.Comparable α]

/-- The checks of a search report what is demanded, if the one of the course does once a turn has its tolerance. -/
theorem TraverseSettings.reports_around {s : TraverseSettings α} {course : List Demand}
    (h : Positive s.turnTolerance → Reports (GateNav.demand (!(s.offCourseTolerance < s.turnTolerance))
      "gate.off_course_tolerance_deg" "must be at least turn_tolerance_deg") course) :
    Reports s.validate (s.demandsAround course) := by
  unfold validate demandPositive
  refine .demand isPositive_iff fun step => .demand isPositive_iff fun arc => .demand ?sweep fun _ =>
    .demand isPositive_iff fun turn => .append (h turn) (.demand isPositive_iff fun _ => .demand isPositive_iff fun _ =>
    .demand isPositive_iff fun _ => .demand isPositive_iff fun _ => .demand isPositive_iff fun _ => .last ?points)
  case sweep =>
    rw [Bool.not_eq_true', decide_eq_false_iff_not]
    exact Scalar.Comparable.not_lt arc.isNumber step.isNumber
  case points => simp [Nat.one_le_iff_ne_zero]

/-- Whether the settings pass, and else which field is named: the first one in the order of the checks whose demand is
not met. A tolerance of the course that is undefined passes for one that meets its demand. -/
theorem Settings.validate_reports (s : Settings α) :
    (IsNumber s.traverse.offCourseTolerance → Reports s.validate s.demands) ∧
      (¬ IsNumber s.traverse.offCourseTolerance → Reports s.validate s.demandsButCourse) := by
  constructor
  · intro course
    refine s.tracking.reports.append (TraverseSettings.reports_around fun turn => .last ?_)
    rw [Bool.not_eq_true', decide_eq_false_iff_not, Scalar.Comparable.not_lt course turn.isNumber]
    exact (and_iff_right course).symm
  · intro undefined
    refine s.tracking.reports.append (TraverseSettings.reports_around fun _ => ?_)
    have passes : ¬ s.traverse.offCourseTolerance < s.traverse.turnTolerance :=
      fun below => undefined (Scalar.Comparable.isNumber_of_lt below).1
    rw [decide_eq_false passes]
    exact .done

/-- Settings that ask for more samples than a window has places, and for a sweep without a step. -/
def Settings.faulty : Settings Float :=
  ⟨{ TrackingSettings.default with minSamples := 9 }, { TraverseSettings.default with spinStep := Float64.undefined }⟩

/-- Settings with no tolerance of the course that can be compared. -/
def Settings.courseless : Settings Float :=
  ⟨TrackingSettings.default, { TraverseSettings.default with offCourseTolerance := Float64.undefined }⟩

theorem Settings.not_isNumber_courseless : ¬ IsNumber courseless.traverse.offCourseTolerance := by decide +kernel

theorem Settings.validate_reports_faulty :
    (IsNumber faulty.traverse.offCourseTolerance ∧
      ∃ reason, faulty.validate = .error (.invalid "environment.filter_min_samples" reason)) ∧
    ¬ IsNumber courseless.traverse.offCourseTolerance ∧ Reports courseless.validate courseless.demandsButCourse := by
  have number : IsNumber faulty.traverse.offCourseTolerance := by decide +kernel
  have unmet : FirstUnmet "environment.filter_min_samples" faulty.demands := by
    -- The bearing, the distance, the places and the part that is averaged are as they should be.
    refine .later (d := ⟨_, Positive _⟩) ?_ <| .later (d := ⟨_, Positive _⟩) ?_ <|
      .later (d := ⟨_, _ ≤ _⟩) ?_ <| .later (d := ⟨_, _ ∧ _⟩) ?_ <| .here ?_
    all_goals decide +kernel
  exact ⟨⟨number, (((validate_reports faulty).1 number).names _).2 unmet⟩, not_isNumber_courseless,
    (validate_reports courseless).2 not_isNumber_courseless⟩

/-- Without a tolerance of the course that can be compared the settings pass, though its demand is not met. -/
theorem Settings.validate_courseless :
    courseless.validate = .ok () ∧ courseless.traverse.courseDemand ∈ courseless.demands ∧
      ¬ courseless.traverse.courseDemand.holds :=
  ⟨by decide +kernel, by simp [demands, TraverseSettings.demandsAround], fun met => not_isNumber_courseless met.1⟩

end GateNav
