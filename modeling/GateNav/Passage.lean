import GateNav.Pose

/-!
# The way through a gate

A `Passage` is planned from the post that must pass on the left and the other one. It leads along the
perpendicular of the line between them, from the entry point over the center to the exit point.
-/

namespace GateNav

/-- The geometry of a located gate. -/
structure Passage (α : Type) where
  /-- Halfway between the posts. -/
  center : Pose α
  /-- The point behind the gate. -/
  exit : Pose α
  /-- The point in front of the gate. -/
  entry : Pose α
  /-- Compass bearing of the mandated direction. -/
  bearing : α
  /-- East/north vector of length one in the mandated direction. -/
  direction : Vec α
deriving DecidableEq, BEq, Repr

namespace Passage
variable {α : Type} [Scalar α] [Trig α]

/-- The passage between the left-hand post and the other, with its end points `standoff` metres from the
center; none if the posts coincide. Seen along the direction of travel the left-hand post lies a quarter turn
counter-clockwise of it. -/
def plan? (leftHand rightHand : Pose α) (standoff : α) : Option (Passage α) := do
  let center := leftHand.midpoint rightHand
  let direction ← (leftHand.toLocal center).clockwise.direction?
  let bearing := direction.bearing
  return {
    center := center.withHeading bearing
    exit := (Pose.ofLocal center (direction.scale standoff)).withHeading bearing
    entry := (Pose.ofLocal center (direction.scale (-standoff))).withHeading bearing
    bearing := bearing
    direction := direction }

/-- From here the mandated direction leads through the gate. -/
def isBefore (g : Passage α) (pose : Pose α) : Bool := (pose.toLocal g.center).dot g.direction < Scalar.zero

/-- The heading in which a rover at the pose faces the gate: along the passage from the front, against it from behind. -/
def facing (g : Passage α) (pose : Pose α) : α :=
  if g.isBefore pose then g.bearing else Bearing.normalize (g.bearing + Bearing.halfTurn)

/-- The pose lies within `tolerance` metres of the line through the center along the direction. -/
def isOnAxis (g : Passage α) (pose : Pose α) (tolerance : α) : Bool :=
  Scalar.abs ((pose.toLocal g.center).dot g.direction.clockwise) ≤ tolerance

/-- The points to drive through in order: from off the axis the entry comes first, so that the traverse
itself is straight. -/
def legs (g : Passage α) (pose : Pose α) (tolerance : α) : List (Pose α) :=
  if g.isOnAxis pose tolerance then [g.center, g.exit] else [g.entry, g.center, g.exit]

end Passage

end GateNav
