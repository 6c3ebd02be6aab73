import GateNav.Document
import GateNav.Setup.Basic

/-!
# Names of the settings

Each record of settings has a table of its fields: their names, in the order in which they are written, and how to get
and put their values. Reading and writing a document are folds over these tables. A record is read by starting
from its defaults and putting what the document holds; whatever it does not hold keeps its default, and whatever
the tables do not name is not looked at.
-/

namespace GateNav

/-- How a field of a record `R` over the numbers `α` is reached. -/
inductive Slot (α R : Type) where
  | number (get : R → α) (put : α → R → R)
  /-- A count up to the limit. -/
  | count (limit : Nat) (get : R → Nat) (put : Nat → R → R)
  | pattern (get : R → PatternKind) (put : PatternKind → R → R)

/-- A field and its name. -/
structure Setting (α R : Type) where
  key : String
  slot : Slot α R

/-- Counts of 32 bits end here. -/
def maxShortCount : Nat := 4294967295

/-- The fields of a run. -/
def RunSettings.fields (α : Type) : List (Setting α RunSettings) :=
  [⟨"max_cycles", .count maxCount (·.maxCycles) fun n s => { s with maxCycles := n }⟩]

/-- The fields of the tracking settings. -/
def TrackingSettings.fields (α : Type) : List (Setting α (TrackingSettings α)) :=
  [⟨"bearing_tolerance_deg", .number (·.bearingTolerance) fun x s => { s with bearingTolerance := x }⟩,
    ⟨"distance_tolerance_m", .number (·.distanceTolerance) fun x s => { s with distanceTolerance := x }⟩,
    ⟨"miss_threshold", .count maxShortCount (·.missThreshold) fun n s => { s with missThreshold := n }⟩,
    ⟨"filter_window", .count maxCount (·.windowSize) fun n s => { s with windowSize := n }⟩,
    ⟨"filter_proportion", .number (·.proportion) fun x s => { s with proportion := x }⟩,
    ⟨"filter_min_samples", .count maxCount (·.minSamples) fun n s => { s with minSamples := n }⟩]

/-- The fields of the traverse settings. -/
def TraverseSettings.fields (α : Type) : List (Setting α (TraverseSettings α)) :=
  [⟨"variant", .pattern (·.pattern) fun k s => { s with pattern := k }⟩,
    ⟨"spin_step_deg", .number (·.spinStep) fun x s => { s with spinStep := x }⟩,
    ⟨"spin_arc_deg", .number (·.spinArc) fun x s => { s with spinArc := x }⟩,
    ⟨"turn_tolerance_deg", .number (·.turnTolerance) fun x s => { s with turnTolerance := x }⟩,
    ⟨"off_course_tolerance_deg", .number (·.offCourseTolerance) fun x s => { s with offCourseTolerance := x }⟩,
    ⟨"arrival_tolerance_m", .number (·.arrivalTolerance) fun x s => { s with arrivalTolerance := x }⟩,
    ⟨"post_approach_dist_m", .number (·.approachDistance) fun x s => { s with approachDistance := x }⟩,
    ⟨"gate_standoff_m", .number (·.standoff) fun x s => { s with standoff := x }⟩,
    ⟨"gate_adjustment_dist_m", .number (·.clearance) fun x s => { s with clearance := x }⟩,
    ⟨"search_point_spacing_m", .number (·.spacing) fun x s => { s with spacing := x }⟩,
    ⟨"search_rings", .count maxCount (·.rings) fun n s => { s with rings := n }⟩,
    ⟨"max_search_points", .count maxCount (·.maxPoints) fun n s => { s with maxPoints := n }⟩]

namespace Slot
variable {V R : Type} [Document V]

/-- The record with the value of a document in the field. -/
def read? (slot : Slot Float R) (v : V) (r : R) : Option R :=
  match slot with
  | .number _ put => (Document.number? v).map (put · r)
  | .count limit _ put => (Document.count? limit v).map (put · r)
  | .pattern _ put => ((Document.word? v).bind PatternKind.ofName?).map (put · r)

/-- The value of the field. -/
def write (slot : Slot Float R) (r : R) : V :=
  match slot with
  | .number get _ => Document.ofNumber (get r)
  | .count _ get _ => Document.ofWhole (get r)
  | .pattern get _ => Document.ofWord (get r).name

end Slot

namespace Setting
variable {V R : Type} [Document V]

/-- The fields that are present, put into `r` one after the other. -/
def putAll? (fields : List (Setting Float R)) (find : String → Option V) (r : R) : Option R :=
  fields.foldlM (fun r field =>
    match find field.key with
    | none => some r
    | some v => field.slot.read? v r) r

/-- A record that is read from a document; fields it does not hold are those of `default`. -/
def read? (fields : List (Setting Float R)) (default : R) (v : V) : Option R := do
  putAll? fields (← Document.record? (fields.map (·.key)) v) default

/-- A section that may be absent. -/
def readSection? (fields : List (Setting Float R)) (default : R) (v : Option V) : Option R :=
  match v with
  | none => some default
  | some v => read? fields default v

/-- A record as a document. -/
def write (fields : List (Setting Float R)) (r : R) : V :=
  Document.ofRecord (fields.map fun field => (field.key, field.slot.write r))

/-- The record with a number put into the field of that name, if it has one. -/
def putNumber? {α : Type} (fields : List (Setting α R)) (key : String) (x : α) (r : R) : Option R :=
  match fields.find? (·.key = key) with
  | some ⟨_, .number _ put⟩ => some (put x r)
  | _ => none

end Setting

variable {V : Type} [Document V]

/-- The settings of the navigation that a document holds. -/
def Settings.ofDocument? (v : V) : Option (Settings Float) := do
  let find ← Document.record? ["environment", "gate"] v
  return {
    tracking := ← Setting.readSection? (TrackingSettings.fields Float) .default (find "environment")
    traverse := ← Setting.readSection? (TraverseSettings.fields Float) .default (find "gate") }

/-- The settings of the navigation as a document. -/
def Settings.toDocument (s : Settings Float) : V :=
  Document.ofRecord [("environment", Setting.write (TrackingSettings.fields Float) s.tracking),
    ("gate", Setting.write (TraverseSettings.fields Float) s.traverse)]

/-- The settings of a run that a document holds. -/
def Setup.ofDocument? (v : V) : Option (Setup Float) := do
  let find ← Document.record? ["run", "environment", "gate"] v
  return {
    run := ← Setting.readSection? (RunSettings.fields Float) .default (find "run")
    tracking := ← Setting.readSection? (TrackingSettings.fields Float) .default (find "environment")
    traverse := ← Setting.readSection? (TraverseSettings.fields Float) .default (find "gate") }

/-- The settings of a run as a document. -/
def Setup.toDocument (s : Setup Float) : V :=
  Document.ofRecord [("run", Setting.write (RunSettings.fields Float) s.run),
    ("environment", Setting.write (TrackingSettings.fields Float) s.tracking),
    ("gate", Setting.write (TraverseSettings.fields Float) s.traverse)]

end GateNav
