import Mathlib.Control.Monad.Basic
import GateNav.Navigator
import GateNav.Settings.Validate

/-!
# A field on paper

What is proved over any kind of number can be tried out on fractions, once they have angles. Here they have those of
the taxicab plane: the length of a vector is the sum of its coordinates, and the unit circle is the square through the
four compass points, with an angle that grows evenly along its sides. Angles are in degrees throughout.
-/

namespace GateNav

/-- The sine of an angle between none and one whole turn. -/
def Exact.wave (x : Rat) : Rat := if x < 90 then x / 90 else if x < 270 then 2 - x / 90 else x / 90 - 4

/-- The angle of the point `(x, y)`. -/
def Exact.angle (y x : Rat) : Rat :=
  let n := Scalar.abs x + Scalar.abs y
  if n = 0 then 0
  else if 0 ≤ x then 90 * (y / n)
  else if 0 ≤ y then 180 - 90 * (y / n) else -180 - 90 * (y / n)

instance : Trig Rat where
  sin x := Exact.wave (Scalar.floorRem x 360)
  cos x := Exact.wave (Scalar.floorRem (x + 90) 360)
  atan2 := Exact.angle
  hypot x y := Scalar.abs x + Scalar.abs y
  degree := 1
  radian := 1

instance : Numeral Rat := ⟨toString, toString⟩

namespace Exact

/-- A place so many metres east and north of the origin, with a heading. -/
def place (east north heading : Rat) : Pose Rat := ⟨north / 6371000, east / 6371000, heading⟩

/-- Settings of a rover that is content with any heading: one stop a sweep and one search point. -/
def carefree : TraverseSettings Rat where
  pattern := .diamond
  spinStep := 360
  spinArc := 360
  turnTolerance := 180
  offCourseTolerance := 180
  arrivalTolerance := 1 / 2
  approachDistance := 2
  standoff := 3
  clearance := 1
  spacing := 3
  rings := 1
  maxPoints := 1

/-- A belief is formed from one sighting. -/
def prompt : TrackingSettings Rat := ⟨15, 1, 5, 1, 1, 1⟩

/-- A gate at the origin. -/
def gate : Waypoint Rat := .gate (place 0 0 0) 3 2

/-- A post of that id, seen once, so many metres east of the origin. -/
def post (side : Side) (id : Int32) (east : Rat) : Tracker Rat :=
  { Tracker.start side prompt with
    held := some ⟨1, 0, id⟩
    bearings := (Window.empty 1 1 1).push 0
    distances := (Window.empty 1 1 1).push 1
    location := some (place east 0 0) }

/-- Both posts of the gate are believed to stand where they do. -/
def inSight : Belief Rat := { Belief.start prompt with trackers := ⟨post .left 3 (-1), post .right 4 1⟩ }

/-- A navigator at rest. -/
def navigator : Navigator Rat := .start ⟨prompt, carefree⟩ (.start prompt)

theorem build_eq : Navigator.build ⟨prompt, carefree⟩ = .ok (.ok navigator) := by decide +kernel

/-- The pilot of a search for the gate, before its first cycle. -/
def pilot : Pilot Rat where
  settings := carefree
  pattern := .ofSettings carefree
  area := gate
  phase := .spin
  known := ⟨none, none⟩
  agenda := .ofList ((Pilot.searchPoints (.ofSettings carefree) 3 gate gate.pose).toOption.getD []) 1
  passage := none
  rightSide := false
  goal := none
  aim := none
  sweep := none
  detour := []
  through := []
  steering := .hold
  searchedAround := []
  settledCycles := 0

theorem build_pilot : Pilot.build carefree gate = .ok (.ok ⟨pilot, [.pilotBuilt pilot.pattern.kind 3]⟩) := by
  decide +kernel

/-- A frame from the search point north of the gate, with nothing in sight. -/
def lookout : Frame Rat := ⟨place 0 3 0, Sighting.nothing, .clear⟩

/-- The frames of a rover that has both posts in sight from the south and then drives through between them. -/
def passing (i : Nat) : Frame Rat :=
  ⟨if i < 8 then place 0 (-2) 0 else if i < 10 then place 0 0 0 else place 0 3 0, ⟨⟨3, -30, 3⟩, ⟨3, 30, 4⟩⟩, .clear⟩

end Exact

end GateNav
