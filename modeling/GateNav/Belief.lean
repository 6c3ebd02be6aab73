import GateNav.Tracker
import GateNav.Settings.Validate
import GateNav.Waypoint

/-!
# Belief about the gate

One tracker for each part of the image, with the raw sightings and the obstacle as last reported. While a gate
is searched for, sightings of other ids count as none.
-/

namespace GateNav

/-- What is believed about the posts. -/
structure Belief (α : Type) where
  settings : TrackingSettings α
  obstacle : Obstacle α
  /-- The sightings last reported. -/
  raw : Sided (Sighting α)
  trackers : Sided (Tracker α)
deriving DecidableEq, Repr

namespace Belief
variable {α : Type} [Scalar α]

/-- Nothing believed yet. -/
def start (s : TrackingSettings α) : Belief α where
  settings := s
  obstacle := .clear
  raw := Sighting.nothing
  trackers := ⟨.start .left s, .start .right s⟩

/-- Nothing believed yet, with the places of the windows set aside. -/
def prepare (s : TrackingSettings α) : Checked α (Belief α) := do
  reserve s.windowSize Window.sampleSize
  return start s

/-- Nothing believed yet, under settings that are checked first. -/
def build [Numeral α] (s : TrackingSettings α) : Checked α (Except SettingsError (Belief α)) := do
  match s.validate with
  | .error e => return .error e
  | .ok () => return .ok (← prepare s)

def tracker (b : Belief α) (side : Side) : Tracker α := b.trackers.get side

def setObstacle (b : Belief α) (o : Obstacle α) : Belief α := { b with obstacle := o }

/-- Sightings to be taken in by the next update. -/
def setSightings (b : Belief α) (s : Sided (Sighting α)) : Belief α := { b with raw := s }

/-- The sighting, or none if it is of a post that is not on the gate searched for. -/
def screen (waypoint : Option (Waypoint α)) (seen : Sighting α) : Checked α (Sighting α) :=
  match waypoint with
  | none => pure seen
  | some w =>
    if w.isGate && seen.detected then do
      let onGate ← w.isGatePost seen.id
      return if onGate then seen else .none
    else pure seen

/-- Both posts are held. -/
def hasGate (b : Belief α) : Bool := b.trackers.left.hasPost && b.trackers.right.hasPost

/-- The trackers that hold a post. -/
def holding (b : Belief α) : List (Tracker α) := b.trackers.toList.filter (·.hasPost)

/-- A post is held, and all that are held have settled. -/
def settled (b : Belief α) : Bool := !b.holding.isEmpty && b.holding.all (·.settled)

/-- Both posts are held and settled. -/
def gateSettled (b : Belief α) : Bool := b.hasGate && b.settled

/-- The misses are forgiven; all else stays. -/
def forgive (b : Belief α) : Belief α :=
  { b with trackers := ⟨{ b.trackers.left with misses := 0 }, { b.trackers.right with misses := 0 }⟩ }

/-- Everything learned about the posts is forgotten. -/
def reset (b : Belief α) : Belief α :=
  { b with trackers := ⟨b.trackers.left.reset, b.trackers.right.reset⟩, raw := Sighting.nothing }

variable [Trig α]

/-- One part of the image takes its raw sighting in, as seen from `pose`. -/
def updateSide (pose : Pose α) (waypoint : Option (Waypoint α)) (b : Belief α) (side : Side) :
    Checked α (Noted α (Tracker α)) := do
  let seen ← screen waypoint (b.raw.get side)
  let noted := (b.tracker side).observe b.settings seen
  return ⟨noted.result.locate pose, noted.events⟩

/-- Both parts of the image take their raw sightings in, the left one first. -/
def update (b : Belief α) (pose : Pose α) (waypoint : Option (Waypoint α)) : Checked α (Noted α (Belief α)) := do
  let left ← b.updateSide pose waypoint .left
  let right ← b.updateSide pose waypoint .right
  return ⟨{ b with trackers := ⟨left.result, right.result⟩ }, left.events ++ right.events⟩

end Belief

end GateNav
