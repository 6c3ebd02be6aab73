import GateNav.Search.Kind

/-!
# Settings of the navigation

The thresholds are fixed when the navigation is built. `TrackingSettings` govern how sightings become posts,
`TraverseSettings` how the rover searches for a gate and passes it.
-/

namespace GateNav
variable {α : Type} [Scalar α]

/-- Debouncing and smoothing of sightings. -/
structure TrackingSettings (α : Type) where
  /-- Greatest change of bearing in degrees at which a sighting is of the post held. -/
  bearingTolerance : α
  /-- Greatest change of distance in metres at which a sighting is of the post held. -/
  distanceTolerance : α
  /-- Consecutive misses a held post survives. -/
  missThreshold : Nat
  /-- Samples a window holds. -/
  windowSize : Nat
  /-- Fraction of the sorted window that is averaged. -/
  proportion : α
  /-- Samples needed before a window is trusted. -/
  minSamples : Nat
deriving DecidableEq, BEq, Repr

/-- Maneuvers of a search and their tolerances. -/
structure TraverseSettings (α : Type) where
  pattern : PatternKind
  /-- Degrees between two stops of a sweep. -/
  spinStep : α
  /-- Degrees of a whole sweep. -/
  spinArc : α
  /-- Heading error in degrees that counts as facing a target. -/
  turnTolerance : α
  /-- Heading error in degrees that stops a drive for a new turn. -/
  offCourseTolerance : α
  /-- Distance in metres at which a point is reached. -/
  arrivalTolerance : α
  /-- How close in metres the rover drives to a lone post. -/
  approachDistance : α
  /-- Distance of the points before and behind the gate from its center, in metres. -/
  standoff : α
  /-- Clearance in metres past the far post on a detour. -/
  clearance : α
  /-- Distance between search points in metres. -/
  spacing : α
  /-- Rings or turns of search points. -/
  rings : Nat
  /-- Most search points that are kept at a time. -/
  maxPoints : Nat
deriving DecidableEq, BEq, Repr

/-- All settings of the navigation. -/
structure Settings (α : Type) where
  tracking : TrackingSettings α
  traverse : TraverseSettings α
deriving DecidableEq, BEq, Repr

/-- The settings with their numbers changed. -/
def TrackingSettings.map {β : Type} (f : α → β) (s : TrackingSettings α) : TrackingSettings β :=
  { s with
    bearingTolerance := f s.bearingTolerance
    distanceTolerance := f s.distanceTolerance
    proportion := f s.proportion }

/-- The settings with their numbers changed. -/
def TraverseSettings.map {β : Type} (f : α → β) (s : TraverseSettings α) : TraverseSettings β :=
  { s with
    spinStep := f s.spinStep
    spinArc := f s.spinArc
    turnTolerance := f s.turnTolerance
    offCourseTolerance := f s.offCourseTolerance
    arrivalTolerance := f s.arrivalTolerance
    approachDistance := f s.approachDistance
    standoff := f s.standoff
    clearance := f s.clearance
    spacing := f s.spacing }

/-- The settings with their numbers changed. -/
def Settings.map {β : Type} (f : α → β) (s : Settings α) : Settings β := ⟨s.tracking.map f, s.traverse.map f⟩

def TrackingSettings.default : TrackingSettings α where
  bearingTolerance := Scalar.ratio 15 1
  distanceTolerance := Scalar.one
  missThreshold := 5
  windowSize := 5
  proportion := Scalar.ratio 3 5
  minSamples := 3

def TraverseSettings.default : TraverseSettings α where
  pattern := .diamond
  spinStep := Scalar.ratio 30 1
  spinArc := Scalar.ratio 360 1
  turnTolerance := Scalar.ratio 5 1
  offCourseTolerance := Scalar.ratio 15 1
  arrivalTolerance := Scalar.ratio 1 2
  approachDistance := Scalar.ratio 2 1
  standoff := Scalar.ratio 3 1
  clearance := Scalar.ratio 3 2
  spacing := Scalar.ratio 3 1
  rings := 2
  maxPoints := 16

def Settings.default : Settings α := ⟨.default, .default⟩

end GateNav
