import GateNav.Pilot.Cycle

/-!
# The phases of a search

Each phase is one function from a pilot at work to its move. `Cycle.advance` picks the function of the pilot's
phase, and `Pilot.run` is one cycle of the search.

A search looks around (`spin`), waits for the filters (`spinWait`), turns toward a post or a search point and
drives there (`turn`, `drive`). Once both posts are located it drives up to the gate and settles there
(`turnToCenter`, `driveToCenter`), faces it (`face`), goes around the far post if it came from behind
(`turnToFarPost`, `driveToFarPost`), and drives through (`turnThrough`, `driveThrough`).
-/

namespace GateNav.Cycle
variable {α : Type} [Scalar α] [Trig α]

/-! ### Search -/

/-- Looking around, stop by stop. After a whole sweep the next search point is up. -/
def spin (c : Cycle α) : Move α :=
  if c.worthInspecting then c.stopAndWait
  else
    let sweep := c.nextSweep
    let c := if c.pilot.sweep.isSome then c else c.note (.sweepStarted c.sweepOrigin)
    if sweep.isExhausted then
      ((c.withPilot { c.pilot with sweep := none }).note .sweepExhausted).nextSearchPoint
    else ((c.withPilot { c.pilot with sweep := some sweep }).steer (.heading sweep.heading)).goTo .spin

/-- Two distances, either of which may be missing or undefined. -/
def compareDistance (x y : Option α) : Ordering :=
  match x, y with
  | some x, some y => if x < y then .lt else if y < x then .gt else .eq
  | some _, none => .lt
  | none, some _ => .gt
  | none, none => .eq

/-- Which of two held posts is approached first: the one not known yet, with fewer misses, more hits, or less
distance. -/
def comparePosts (p : Pilot α) (s t : Tracker α) : Ordering :=
  let known (t : Tracker α) : Nat := if t.id?.any (p.isKnown ·) then 1 else 0
  (compare (known s) (known t)).then <| (compare s.misses t.misses).then <|
    (compare t.hits s.hits).then (compareDistance s.distance? t.distance?)

/-- The side of the post to approach, the left one where nothing else decides. -/
def pickSide? (c : Cycle α) : Option Side :=
  let left := c.belief.trackers.left
  let right := c.belief.trackers.right
  match left.hasPost, right.hasPost with
  | true, true => if comparePosts c.pilot left right = .gt then some .right else some .left
  | true, false => some .left
  | false, true => some .right
  | false, false => none

/-- Waiting for what was seen to settle; then the post to approach is chosen. -/
def spinWait (c : Cycle α) : Move α :=
  let c := c.hold
  match c.pickSide? with
  | none => (c.note .tentativePostLost).goTo .spin
  | some side =>
    if !c.belief.settled then c.goTo .spinWait
    else
      let t := c.belief.tracker side
      match t.location with
      | none => c.goTo .spinWait
      | some location =>
        let c := c.note (.postApproached side t.id?)
        let c := c.withPilot { c.pilot with goal := some (.post side), aim := some location, sweep := none }
        (c.steer (.heading (c.pose.bearingTo location))).goTo .turn

def turn (c : Cycle α) : Move α :=
  match c.pilot.goal with
  | some (.post side) =>
    match (c.belief.tracker side).hasPost, c.pilot.aim with
    | true, some aim => c.turnToward aim .drive .turn
    | _, _ => c.losePost side
  | some (.searchPoint point) => if c.worthInspecting then c.stopAndWait else c.turnToward point .drive .turn
  | none => c.giveUp

/-- The passage is planned once the whole gate can be trusted; it says whether there is one now. -/
def locate (c : Cycle α) : Checked α (Bool × Cycle α) :=
  if c.belief.gateSettled then c.record.planPassage else return (false, c)

/-- The gate is located: the rover turns to its center. -/
def headForGate (c : Cycle α) : Move α :=
  let c := c.note (.gateLocated c.pilot.center? c.pilot.rightSide)
  let c := c.withPilot { c.pilot with goal := none }
  match c.pilot.center? with
  | some center => (c.steer (.heading (c.pose.bearingTo center))).goTo .turnToCenter
  | none => c.goTo .turnToCenter

/-- Driving to a post as it is now believed to stand. Close to it the search goes on around it. -/
def approachPost (c : Cycle α) (side : Side) : Checked α (Move α) :=
  let t := c.belief.tracker side
  match t.location, t.hasPost with
  | some location, true =>
    let c := c.withPilot { c.pilot with aim := some location }
    match c.driveLeg location c.pilot.settings.approachDistance with
    | (.arrived, c) => (fun c => c.abandon.goTo .spin) <$> c.searchAround t.id? location
    | (.offCourse, c) => return c.goTo .turn
    | (.driving, c) => return c.goTo .drive
  | _, _ => return c.losePost side

/-- Driving to a post, while the gate is not located. -/
def driveToPost (c : Cycle α) (side : Side) : Checked α (Move α) := do
  let (located, c) ← c.locate
  if located then return c.headForGate else c.approachPost side

/-- Driving to a search point, ready to stop for anything new. -/
def driveToSearchPoint (c : Cycle α) (point : Pose α) : Move α :=
  if c.worthInspecting then c.stopAndWait
  else match c.driveLeg point c.pilot.settings.arrivalTolerance with
    | (.arrived, c) =>
      let c := c.note (.searchPointReached c.pilot.agenda.visited)
      -- The sweep at this point starts with a clean slate.
      ({ c with belief := c.belief.forgive }.abandon).goTo .spin
    | (.offCourse, c) => c.goTo .turn
    | (.driving, c) => c.goTo .drive

def drive (c : Cycle α) : Checked α (Move α) :=
  match c.pilot.goal with
  | some (.post side) => c.driveToPost side
  | some (.searchPoint point) => return c.driveToSearchPoint point
  | none => return c.giveUp

/-! ### In front of the gate -/

/-- Turning toward the center of the gate, as long as both posts are held. -/
def turnToCenter (c : Cycle α) : Move α :=
  match c.lostSide?, c.pilot.passage with
  | some side, _ => c.losePost side
  | none, none => c.giveUp
  | none, some g => c.turnToward g.center .driveToCenter .turnToCenter

/-- The passage is planned anew while both posts can be trusted. -/
def replan (c : Cycle α) : Checked α (Cycle α) :=
  if c.belief.trackers.left.confident && c.belief.trackers.right.confident then (·.2) <$> c.record.planPassage
  else return c

/-- Driving to the center of the passage. Having arrived, the rover rests until the windows hold nothing from the time
it moved. -/
def driveToPassage (c : Cycle α) : Move α :=
  match c.pilot.passage with
  | none => c.giveUp
  | some g =>
    match c.driveLeg g.center c.pilot.settings.standoff with
    | (.arrived, c) =>
      if c.pilot.settledCycles < c.belief.settings.windowSize then
        (c.withPilot { c.pilot with settledCycles := c.pilot.settledCycles + 1 }).goTo .driveToCenter
      else (c.withPilot { c.pilot with settledCycles := 0 }).goTo .face
    | (.offCourse, c) => (c.withPilot { c.pilot with settledCycles := 0 }).goTo .turnToCenter
    | (.driving, c) => (c.withPilot { c.pilot with settledCycles := 0 }).goTo .driveToCenter

/-- Driving up to the gate, as long as both posts are held. -/
def driveToCenter (c : Cycle α) : Checked α (Move α) :=
  match c.lostSide? with
  | some side => return c.losePost side
  | none => driveToPassage <$> c.replan

/-- Where a detour leaves the line of the posts: past the far post by the clearance. -/
def clearancePoint (p : Pilot α) (g : Passage α) (far : KnownPost α) : Pose α :=
  let away := far.location.toLocal g.center
  let outward := away.direction?.getD g.direction.clockwise
  Pose.ofLocal g.center (away + outward.scale p.settings.clearance)

/-- Facing the gate along its axis; then the way through, or the way around if this is the wrong side. -/
def face (c : Cycle α) : Move α :=
  match c.pilot.passage with
  | none => c.giveUp
  | some g =>
    let rightSide := g.isBefore c.pose
    let judged := c.withPilot { c.pilot with rightSide := rightSide }
    if !c.aligned (g.facing c.pose) then (judged.steer (.heading (g.facing c.pose))).goTo .face
    else if rightSide then
      let legs := g.legs c.pose c.pilot.settings.arrivalTolerance
      (judged.withPilot { judged.pilot with through := legs }).hold.goTo .turnThrough
    else
      match Pilot.farthest? c.pose c.pilot.knownPosts with
      | none => judged.giveUp
      | some far =>
        let noted := judged.note (.detourPlanned far.id)
        (noted.withPilot { noted.pilot with detour := [clearancePoint c.pilot g far, g.entry] }).hold.goTo .turnToFarPost

/-! ### Around and through the gate -/

/-- The detour is done: the way through the gate as it is now believed to be. -/
def finishDetour (c : Cycle α) : Checked α (Move α) := do
  let (planned, c) ← (c.withPilot (c.pilot.survey c.belief)).planPassage
  let c := if planned && !c.pilot.rightSide then c.note .detourEndedBehind else c
  -- Whatever side this is, the rover drives through from here.
  let c := c.withPilot { c.pilot with rightSide := true }
  match c.pilot.passage with
  | none => return c.giveUp
  | some g =>
    return (c.withPilot { c.pilot with through := g.legs c.pose c.pilot.settings.arrivalTolerance }).hold.goTo .turnThrough

def turnToFarPost (c : Cycle α) : Checked α (Move α) :=
  match c.pilot.detour with
  | [] => c.finishDetour
  | leg :: _ => return c.turnToward leg .driveToFarPost .turnToFarPost

def driveToFarPost (c : Cycle α) : Checked α (Move α) :=
  match c.pilot.detour with
  | [] => c.finishDetour
  | leg :: rest =>
    match c.driveLeg leg c.pilot.settings.arrivalTolerance with
    | (.arrived, c) =>
      let c := c.withPilot { c.pilot with detour := rest }
      if rest.isEmpty then c.finishDetour else return c.goTo .turnToFarPost
    | (.offCourse, c) => return c.goTo .turnToFarPost
    | (.driving, c) => return c.goTo .driveToFarPost

def traversed (c : Cycle α) : Move α := (c.note (.gateTraversed c.pilot.center?)).hold.goTo .traversed

def turnThrough (c : Cycle α) : Move α :=
  match c.pilot.through with
  | [] => c.traversed
  | leg :: _ => c.turnToward leg .driveThrough .turnThrough

def driveThrough (c : Cycle α) : Move α :=
  match c.pilot.through with
  | [] => c.traversed
  | leg :: rest =>
    match c.driveLeg leg c.pilot.settings.arrivalTolerance with
    | (.arrived, c) =>
      let c := c.withPilot { c.pilot with through := rest }
      match rest with
      | [] => c.traversed
      | next :: _ => (c.steer (.point next)).goTo .driveThrough
    | (.offCourse, c) => c.goTo .turnThrough
    | (.driving, c) => c.goTo .driveThrough

/-! ### One cycle -/

def advance (c : Cycle α) : Phase → Checked α (Move α)
  | .spin => return c.spin
  | .spinWait => return c.spinWait
  | .turn => return c.turn
  | .drive => c.drive
  | .turnToCenter => return c.turnToCenter
  | .driveToCenter => c.driveToCenter
  | .face => return c.face
  | .turnToFarPost => c.turnToFarPost
  | .driveToFarPost => c.driveToFarPost
  | .turnThrough => return c.turnThrough
  | .driveThrough => return c.driveThrough
  | .off => return c.hold.goTo .off
  | .done => return c.hold.goTo .done
  | .traversed => return c.hold.goTo .traversed
  | .notFound => return c.hold.goTo .notFound

/-- Posts are placed well enough to be remembered only where the rover does not turn on the spot, since the filters
lag behind a turn. -/
def placesPosts : Phase → Bool
  | .spinWait | .drive | .driveToCenter => true
  | _ => false

/-- One cycle: the move of the pilot's phase, after which the posts are recorded and the phase changes. -/
def run (c : Cycle α) : Checked α (Cycle α) := do
  let executed := c.pilot.phase
  let ⟨next, c⟩ ← c.advance executed
  let c := if placesPosts executed then c.record else c
  let c := if next = executed then c else c.note (.phaseChanged executed next)
  return c.withPilot { c.pilot with phase := next }

end GateNav.Cycle

namespace GateNav.Pilot
variable {α : Type} [Scalar α] [Trig α]

/-- A pilot at work, with no events yet. -/
def atWork (p : Pilot α) (pose : Pose α) (waypoint : Option (Waypoint α)) (belief : Belief α) : Cycle α :=
  ⟨pose, waypoint, p, belief, []⟩

/-- One cycle of the search. -/
def run (p : Pilot α) (pose : Pose α) (waypoint : Option (Waypoint α)) (belief : Belief α) : Checked α (Cycle α) :=
  (p.atWork pose waypoint belief).run

end GateNav.Pilot
