import GateNav.Fault
import GateNav.Pose

/-!
# Waypoints of the course

The posts of a gate carry the waypoint's id and the id after it; the post with the waypoint's own id must
pass on the rover's left.
-/

namespace GateNav

/-- A waypoint of the course. -/
structure Waypoint (α : Type) where
  pose : Pose α
  id : Int32
  isGate : Bool
  /-- Distance between the posts in metres. -/
  width : α
  /-- Points farther away than this many metres are not searched; without a positive radius, all are. -/
  searchRadius : α
deriving DecidableEq, BEq, Repr

namespace Waypoint
variable {α : Type} [Scalar α]

/-- A gate whose left-hand post carries `id`, with no bound on the search. -/
def gate (pose : Pose α) (id : Int32) (width : α) : Waypoint α := ⟨pose, id, true, width, Scalar.zero⟩

/-- The same waypoint with a bound on the search. -/
def within (w : Waypoint α) (radius : α) : Waypoint α := { w with searchRadius := radius }

/-- The id after this one; the largest id has none. -/
def nextId (id : Int32) : Checked α Int32 :=
  if id = Int32.maxValue then throw .sumTooLarge else pure (id + 1)

/-- `id` is on one of the two posts of this gate. The second id is only looked at when the first one does
not match. -/
def isGatePost (w : Waypoint α) (id : Int32) : Checked α Bool :=
  if !w.isGate then pure false
  else if id = w.id then pure true
  else do
    let second ← nextId w.id
    pure (id = second)

/-- A micrometre of play at the edge of the search area. -/
def edge : α := Scalar.ratio 1 1000000

/-- The point lies within the search area. -/
def covers [Trig α] (w : Waypoint α) (point : Pose α) : Bool :=
  w.searchRadius ≤ Scalar.zero || w.pose.distanceTo point ≤ w.searchRadius + edge

end Waypoint

end GateNav
