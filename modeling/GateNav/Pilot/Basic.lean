import GateNav.Belief
import GateNav.Passage
import GateNav.Search.Agenda
import GateNav.Search.Pattern

/-!
# The pilot of one search

A `Pilot` lives for one search for a gate. It remembers where posts were when they could be trusted, what is
still to be searched, the passage once the gate is located, and what the current phase is heading for. A
`Cycle` is a pilot at work: beside it the pose, the waypoint and the belief it may look at, and the events so
far.
-/

namespace GateNav

/-- A post whose location was trusted at some time. -/
structure KnownPost (α : Type) where
  id : Int32
  location : Pose α
deriving DecidableEq, BEq, Repr

/-- What the rover is turning toward or driving to. -/
inductive Goal (α : Type) where
  /-- The post in this part of the image. -/
  | post (side : Side)
  | searchPoint (point : Pose α)
deriving DecidableEq, Repr

/-- Progress of one sweep on the spot: the next of `stops` headings, one `step` apart. -/
structure Sweep (α : Type) where
  origin : α
  step : α
  stop : Nat
  stops : Nat
deriving DecidableEq, Repr

/-- How the rover fares on its way to a point. -/
inductive Progress where
  | arrived
  | offCourse
  | driving
deriving DecidableEq, Repr

/-- The state of one search. -/
structure Pilot (α : Type) where
  settings : TraverseSettings α
  pattern : Pattern
  /-- The waypoint searched for; search points stay within its area. -/
  area : Waypoint α
  phase : Phase
  /-- The posts last trusted in the two parts of the image. -/
  known : Sided (Option (KnownPost α))
  agenda : Agenda (Pose α)
  passage : Option (Passage α)
  /-- The rover is on the side of the gate from which the mandated direction leads through. -/
  rightSide : Bool
  goal : Option (Goal α)
  /-- Where the post that is the goal was last believed to be. -/
  aim : Option (Pose α)
  sweep : Option (Sweep α)
  /-- Points left on the way around the far post. -/
  detour : List (Pose α)
  /-- Points left on the way through the gate. -/
  through : List (Pose α)
  steering : Steering α
  /-- Ids of posts around which search points were laid out. -/
  searchedAround : List Int32
  /-- Cycles spent at rest in front of the gate. -/
  settledCycles : Nat
deriving DecidableEq, Repr

/-- A pilot at work. -/
structure Cycle (α : Type) where
  pose : Pose α
  waypoint : Option (Waypoint α)
  pilot : Pilot α
  belief : Belief α
  events : List (Event α)
deriving DecidableEq, Repr

/-- The phase that follows, and the work as it stands. -/
structure Move (α : Type) where
  next : Phase
  cycle : Cycle α
deriving DecidableEq, Repr

/-- What there is to remember of the post of a tracker: where it stands, if it is held, seen in this cycle and
smoothed. -/
def Tracker.placed? {α : Type} (t : Tracker α) : Option (KnownPost α) :=
  match t.confident, t.id?, t.location with
  | true, some id, some location => some ⟨id, location⟩
  | _, _, _ => none

namespace Sweep
variable {α : Type} [Scalar α]

/-- The heading of the next stop. -/
def heading (s : Sweep α) : α := Bearing.normalize (s.origin + (s.stop : α) * s.step)

def isExhausted (s : Sweep α) : Bool := s.stops ≤ s.stop

/-- A new sweep from `origin`, with as many steps as cover the arc. -/
def start (settings : TraverseSettings α) (origin : α) : Sweep α :=
  ⟨origin, settings.spinStep, 0, max (Scalar.ceil (settings.spinArc / settings.spinStep)) 1⟩

end Sweep

namespace Pilot
variable {α : Type} [Scalar α]

/-- The posts known, left part of the image first. -/
def knownPosts (p : Pilot α) : List (KnownPost α) := p.known.toList.filterMap id

def isKnown (p : Pilot α) (id : Int32) : Bool := p.knownPosts.any (·.id == id)

/-- The posts that can be placed are remembered, in place of those before. -/
def trust (p : Pilot α) (b : Belief α) : Pilot α :=
  { p with known := ⟨b.trackers.left.placed?.or p.known.left, b.trackers.right.placed?.or p.known.right⟩ }

/-- The posts are remembered once the whole gate can be trusted. -/
def survey (p : Pilot α) (b : Belief α) : Pilot α := if b.gateSettled then p.trust b else p

/-- Halfway between the posts, once the gate is located. -/
def center? (p : Pilot α) : Option (Pose α) := p.passage.map (·.center)

/-- The point behind the gate, once the gate is located. -/
def exit? (p : Pilot α) : Option (Pose α) := p.passage.map (·.exit)

/-- The heading error to `bearing` is within the tolerance for turns. -/
def aligned (p : Pilot α) (pose : Pose α) (bearing : α) : Bool :=
  Bearing.gap bearing pose.heading ≤ p.settings.turnTolerance

variable [Trig α]

/-- A new passage takes the place of the one before. -/
def adopt (p : Pilot α) (pose : Pose α) : Option (Passage α) → Pilot α
  | none => p
  | some g => { p with rightSide := g.isBefore pose, passage := some g }

/-- The first of the posts nearest to `pose`. -/
def nearest? (pose : Pose α) (posts : List (KnownPost α)) : Option (KnownPost α) :=
  posts.foldl (fun best p =>
    match best with
    | none => some p
    | some b => if Scalar.before (pose.distanceTo p.location) (pose.distanceTo b.location) then some p else some b) none

/-- The last of the posts farthest from `pose`. -/
def farthest? (pose : Pose α) (posts : List (KnownPost α)) : Option (KnownPost α) :=
  posts.foldl (fun best p =>
    match best with
    | none => some p
    | some b => if Scalar.before (pose.distanceTo p.location) (pose.distanceTo b.location) then some b else some p) none

/-- The points of the pattern around `center` that lie within the search area. -/
def searchPoints (pattern : Pattern) (spacing : α) (area : Waypoint α) (center : Pose α) : Checked α (List (Pose α)) := do
  let points ← pattern.points center spacing
  return points.filter (area.covers ·)

/-- The pilot of a search for `waypoint`, looking around. -/
def start (settings : TraverseSettings α) (waypoint : Waypoint α) : Checked α (Pilot α) := do
  let pattern := Pattern.ofSettings settings
  let points ← searchPoints pattern settings.spacing waypoint waypoint.pose
  return {
    settings := settings
    pattern := pattern
    area := waypoint
    phase := .spin
    known := ⟨none, none⟩
    agenda := .ofList points settings.maxPoints
    passage := none
    rightSide := false
    goal := none
    aim := none
    sweep := none
    detour := []
    through := []
    steering := .hold
    searchedAround := []
    settledCycles := 0 }

/-- The pilot of a search for `waypoint` under settings that are checked first. -/
def build [Numeral α] (settings : TraverseSettings α) (waypoint : Waypoint α) :
    Checked α (Except SettingsError (Noted α (Pilot α))) := do
  match settings.validate with
  | .error e => return .error e
  | .ok () =>
    let pilot ← start settings waypoint
    return .ok ⟨pilot, [.pilotBuilt settings.pattern waypoint.id]⟩

end Pilot

end GateNav
