import GateNav.Pilot.Basic

/-!
# What the phases have in common

Operations on a pilot at work that several phases use: looking, steering, trusting posts, planning the
passage and falling back to the search.
-/

namespace GateNav.Cycle
variable {α : Type} [Scalar α]

/-- The cycle ends here; `next` is the phase of the following one. -/
def goTo (c : Cycle α) (next : Phase) : Move α := ⟨next, c⟩

def note (c : Cycle α) (e : Event α) : Cycle α := { c with events := c.events ++ [e] }

def withPilot (c : Cycle α) (p : Pilot α) : Cycle α := { c with pilot := p }

def steer (c : Cycle α) (s : Steering α) : Cycle α := c.withPilot { c.pilot with steering := s }

def hold (c : Cycle α) : Cycle α := c.steer .hold

/-- What the phase was heading for is given up, the sweep too. -/
def abandon (c : Cycle α) : Cycle α := c.withPilot { c.pilot with goal := none, sweep := none }

def aligned (c : Cycle α) (bearing : α) : Bool := c.pilot.aligned c.pose bearing

/-- There is something worth stopping for: the whole gate, or a post never seen before. -/
def worthInspecting (c : Cycle α) : Bool :=
  c.belief.hasGate || c.belief.trackers.toList.any fun t => t.id?.any fun id => !c.pilot.isKnown id

/-- The first side without a post. -/
def lostSide? (c : Cycle α) : Option Side := Side.both.find? fun side => !(c.belief.tracker side).hasPost

/-- The post on `side` is gone: back to looking around. -/
def losePost (c : Cycle α) (side : Side) : Move α :=
  ((c.note (.postLost side c.pilot.phase)).abandon.hold).goTo .spin

/-- The rover stops to look at what it sees; misses from before the stop do not count. -/
def stopAndWait (c : Cycle α) : Move α := ({ c with belief := c.belief.forgive }.hold).goTo .spinWait

/-- Without a passage there is nothing to do but to look around. -/
def giveUp (c : Cycle α) : Move α := c.hold.goTo .spin

/-- The posts that can be placed in this cycle are remembered. -/
def record (c : Cycle α) : Cycle α := c.withPilot (c.pilot.trust c.belief)

/-- The next search point becomes the goal; without one the search has failed. -/
def nextSearchPoint (c : Cycle α) : Move α :=
  let c := c.hold
  match c.pilot.agenda.next with
  | (some point, agenda) =>
    let c := c.withPilot { c.pilot with agenda := agenda, goal := some (.searchPoint point) }
    (c.note (.searchPointTaken agenda.remaining)).goTo .turn
  | (none, agenda) =>
    let c := c.withPilot { c.pilot with agenda := agenda, goal := none }
    (c.note (.searchPointsExhausted agenda.visited)).goTo .notFound

/-- The post `a` is the left-hand one of the two: it carries the waypoint's id if the two are the posts of the
gate searched for, else no greater id than `b`. -/
def leftHandFirst (waypoint : Option (Waypoint α)) (a b : KnownPost α) : Checked α Bool :=
  match waypoint with
  | none => pure (a.id ≤ b.id)
  | some w =>
    if a.id = b.id then pure (a.id ≤ b.id)
    else do
      let onGate ← if ← w.isGatePost a.id then w.isGatePost b.id else pure false
      return if onGate then a.id = w.id else a.id ≤ b.id

variable [Trig α]

/-- The rover turns to `target` and drives on once it is aligned. -/
def turnToward (c : Cycle α) (target : Pose α) (whenAligned otherwise : Phase) : Move α :=
  let bearing := c.pose.bearingTo target
  if c.aligned bearing then (c.steer (.point target)).goTo whenAligned
  else (c.steer (.heading bearing)).goTo otherwise

/-- The rover drives to `target` until it is within `radius` metres or off its course. -/
def driveLeg (c : Cycle α) (target : Pose α) (radius : α) : Progress × Cycle α :=
  if c.pose.distanceTo target ≤ radius then (.arrived, c.hold)
  else
    let bearing := c.pose.bearingTo target
    if c.pilot.settings.offCourseTolerance < Bearing.gap bearing c.pose.heading then
      (.offCourse, c.steer (.heading bearing))
    else (.driving, c.steer (.point target))

/-- The passage between the posts last trusted; none if one of them is missing or the two coincide. -/
def draft? (waypoint : Option (Waypoint α)) (p : Pilot α) : Checked α (Option (Passage α)) :=
  match p.known.left, p.known.right with
  | some a, some b => do
    let leftFirst ← leftHandFirst waypoint a b
    let (leftHand, rightHand) := if leftFirst then (a, b) else (b, a)
    return Passage.plan? leftHand.location rightHand.location p.settings.standoff
  | _, _ => return none

/-- The passage is planned anew. Where that fails, the passage stays as it was. -/
def planPassage (c : Cycle α) : Checked α (Bool × Cycle α) := do
  let draft ← draft? c.waypoint c.pilot
  return (draft.isSome, c.withPilot (c.pilot.adopt c.pose draft))

/-- Search points around a lone post go first on the agenda, once for each id. -/
def searchAround (c : Cycle α) (id : Option Int32) (location : Pose α) : Checked α (Cycle α) :=
  if id.any (c.pilot.searchedAround.contains ·) then pure c
  else do
    let c := c.withPilot { c.pilot with searchedAround := c.pilot.searchedAround ++ id.toList }
    let points ← Pilot.searchPoints c.pilot.pattern c.pilot.settings.spacing c.pilot.area location
    let c := c.note (.searchAroundPost id points.length)
    return c.withPilot { c.pilot with agenda := c.pilot.agenda.putFirst points }

/-- The bearing a sweep starts from: that of the nearest known post that is not held, else the rover's heading. -/
def sweepOrigin (c : Cycle α) : α :=
  let held := c.belief.trackers.toList.filterMap (·.id?)
  match Pilot.nearest? c.pose (c.pilot.knownPosts.filter fun p => !held.contains p.id) with
  | some p => c.pose.bearingTo p.location
  | none => c.pose.heading

/-- The sweep that is on, or else a new one. -/
def currentSweep (c : Cycle α) : Sweep α := c.pilot.sweep.getD (.start c.pilot.settings c.sweepOrigin)

/-- The sweep after this cycle: a stop further if the rover faces the one that was due. -/
def nextSweep (c : Cycle α) : Sweep α :=
  let sweep := c.currentSweep
  if c.aligned sweep.heading then { sweep with stop := sweep.stop + 1 } else sweep

end GateNav.Cycle
