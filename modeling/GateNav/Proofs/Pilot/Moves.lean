import GateNav.Pilot.Phases

/-!
# The moves of the phases

`Cycle.Advances` says what one phase can make of a cycle: which phase follows, which pilot and which belief are left.
It has one constructor for each way a phase can end, with all that the phase checked on the way, in three parts as
the phases have (`Cycle.Searches`, `Cycle.Nears`, `Cycle.Passes`). `Cycle.advances_of_advance` says that it covers
every move, so that what the moves preserve is proved by cases on it.
-/

namespace GateNav

/-- A post that is held has an id. -/
theorem Tracker.exists_id {α : Type} {t : Tracker α} (h : t.hasPost = true) : ∃ id, t.id? = some id := by
  obtain ⟨s, hs⟩ := Option.isSome_iff_exists.1 h
  exact ⟨s.id, by simp [id?, hs]⟩

theorem Tracker.hasPost_of_id? {α : Type} {t : Tracker α} {id : Int32} (h : t.id? = some id) : t.hasPost = true := by
  obtain ⟨s, hs, -⟩ := Option.map_eq_some_iff.1 h
  rw [hasPost, hs]; rfl

theorem Cycle.hasPost_of_lostSide? {α : Type} {c : Cycle α} {side : Side} (h : c.lostSide? = some side) :
    (c.belief.tracker side).hasPost = false := by
  simpa using List.find?_some h

namespace Pilot
variable {α : Type} {p : Pilot α} {b : Belief α}

theorem survey_of_settled (h : b.gateSettled = true) : p.survey b = p.trust b := if_pos h

theorem survey_of_not_settled (h : b.gateSettled = false) : p.survey b = p := if_neg (by simp [h])

/-- What the pilot was built with. -/
def orders (p : Pilot α) : TraverseSettings α × Pattern × Waypoint α := (p.settings, p.pattern, p.area)

@[simp] theorem survey_orders : (p.survey b).orders = p.orders := by
  unfold survey; split <;> rfl

@[simp] theorem survey_settings : (p.survey b).settings = p.settings := by
  unfold survey; split <;> rfl

@[simp] theorem survey_pattern : (p.survey b).pattern = p.pattern := by
  unfold survey; split <;> rfl

@[simp] theorem survey_area : (p.survey b).area = p.area := by
  unfold survey; split <;> rfl

@[simp] theorem survey_agenda : (p.survey b).agenda = p.agenda := by
  unfold survey; split <;> rfl

@[simp] theorem survey_searchedAround : (p.survey b).searchedAround = p.searchedAround := by
  unfold survey; split <;> rfl

@[simp] theorem survey_passage : (p.survey b).passage = p.passage := by
  unfold survey; split <;> rfl

@[simp] theorem survey_goal : (p.survey b).goal = p.goal := by
  unfold survey; split <;> rfl

@[simp] theorem survey_sweep : (p.survey b).sweep = p.sweep := by
  unfold survey; split <;> rfl

@[simp] theorem survey_through : (p.survey b).through = p.through := by
  unfold survey; split <;> rfl

@[simp] theorem survey_settledCycles : (p.survey b).settledCycles = p.settledCycles := by
  unfold survey; split <;> rfl

variable [Scalar α] [Trig α] {pose : Pose α} {draft : Option (Passage α)}

@[simp] theorem adopt_orders : (p.adopt pose draft).orders = p.orders := by
  cases draft <;> rfl

@[simp] theorem adopt_settings : (p.adopt pose draft).settings = p.settings := by
  cases draft <;> rfl

@[simp] theorem adopt_agenda : (p.adopt pose draft).agenda = p.agenda := by
  cases draft <;> rfl

@[simp] theorem adopt_searchedAround : (p.adopt pose draft).searchedAround = p.searchedAround := by
  cases draft <;> rfl

@[simp] theorem adopt_passage : (p.adopt pose draft).passage = draft.or p.passage := by
  cases draft <;> rfl

@[simp] theorem adopt_sweep : (p.adopt pose draft).sweep = p.sweep := by
  cases draft <;> rfl

@[simp] theorem adopt_through : (p.adopt pose draft).through = p.through := by
  cases draft <;> rfl

@[simp] theorem adopt_known : (p.adopt pose draft).known = p.known := by
  cases draft <;> rfl

@[simp] theorem adopt_settledCycles : (p.adopt pose draft).settledCycles = p.settledCycles := by
  cases draft <;> rfl

end Pilot

namespace Cycle
variable {α : Type} [Scalar α] [Trig α]

theorem draft?_congr {waypoint : Option (Waypoint α)} {p q : Pilot α} (known : p.known = q.known)
    (settings : p.settings = q.settings) : draft? waypoint p = draft? waypoint q := by
  unfold draft?
  rw [known, settings]

/-- The pilot gives up what it was heading for. -/
def dropped (p : Pilot α) : Pilot α := { p with goal := none, sweep := none, steering := .hold }

/-- The drive to a post does not end at the gate: it is not in sight, or its passage cannot be planned. -/
def Unlocated (c : Cycle α) : Prop :=
  c.belief.gateSettled = true → draft? c.waypoint (c.pilot.trust c.belief) = .ok none

/-- The drive of the pilot `p` to the post on `side`, as it is now believed to stand. -/
inductive Approaches (pose : Pose α) (b : Belief α) (p : Pilot α) (side : Side) : Phase → Pilot α → Prop
  | lose (lost : (b.tracker side).location = none ∨ (b.tracker side).hasPost = false) :
      Approaches pose b p side .spin (dropped p)
  /-- The post is reached once more: no search points are laid out around it again. -/
  | reachAgain {q : Pose α} {id : Int32} (location : (b.tracker side).location = some q)
      (held : (b.tracker side).id? = some id) (near : pose.distanceTo q ≤ p.settings.approachDistance)
      (old : id ∈ p.searchedAround) :
      Approaches pose b p side .spin { dropped p with aim := some q }
  | reach {q : Pose α} {id : Int32} {points : List (Pose α)} (location : (b.tracker side).location = some q)
      (held : (b.tracker side).id? = some id) (near : pose.distanceTo q ≤ p.settings.approachDistance)
      (new : id ∉ p.searchedAround)
      (layout : Pilot.searchPoints p.pattern p.settings.spacing p.area q = .ok points) :
      Approaches pose b p side .spin
        { dropped p with
          aim := some q, searchedAround := p.searchedAround ++ [id], agenda := p.agenda.putFirst points }
  | stray {q : Pose α} (location : (b.tracker side).location = some q) (held : (b.tracker side).hasPost = true)
      (far : ¬ pose.distanceTo q ≤ p.settings.approachDistance)
      (off : p.settings.offCourseTolerance < Bearing.gap (pose.bearingTo q) pose.heading) :
      Approaches pose b p side .turn { p with aim := some q, steering := .heading (pose.bearingTo q) }
  | drive {q : Pose α} (location : (b.tracker side).location = some q) (held : (b.tracker side).hasPost = true)
      (far : ¬ pose.distanceTo q ≤ p.settings.approachDistance)
      (on : ¬ p.settings.offCourseTolerance < Bearing.gap (pose.bearingTo q) pose.heading) :
      Approaches pose b p side .drive { p with aim := some q, steering := .point q }

/-- The moves of the phases that search. -/
inductive Searches (c : Cycle α) : Phase → Phase → Pilot α → Belief α → Prop
  /-- A sweep is stopped to look at something. -/
  | inspect (worth : c.worthInspecting = true) :
      Searches c .spin .spinWait { c.pilot with steering := .hold } c.belief.forgive
  | sweep (dull : c.worthInspecting = false) (open_ : c.nextSweep.isExhausted = false) :
      Searches c .spin .spin
        { c.pilot with sweep := some c.nextSweep, steering := .heading c.nextSweep.heading } c.belief
  /-- A whole sweep showed nothing: the next search point is up. -/
  | takePoint (dull : c.worthInspecting = false) (swept : c.nextSweep.isExhausted = true) {q : Pose α}
      {a : Agenda (Pose α)} (next : c.pilot.agenda.next = (some q, a)) :
      Searches c .spin .turn
        { c.pilot with sweep := none, steering := .hold, agenda := a, goal := some (.searchPoint q) } c.belief
  | runOut (dull : c.worthInspecting = false) (swept : c.nextSweep.isExhausted = true)
      (next : c.pilot.agenda.points = []) :
      Searches c .spin .notFound { c.pilot with sweep := none, steering := .hold, goal := none } c.belief
  /-- What was seen is gone. -/
  | vanish (pick : c.pickSide? = none) : Searches c .spinWait .spin { c.pilot with steering := .hold } c.belief
  | wait {side : Side} (pick : c.pickSide? = some side)
      (unready : c.belief.settled = false ∨ (c.belief.tracker side).location = none) :
      Searches c .spinWait .spinWait { c.pilot with steering := .hold } c.belief
  | approach {side : Side} (pick : c.pickSide? = some side) (ready : c.belief.settled = true) {q : Pose α}
      (location : (c.belief.tracker side).location = some q) :
      Searches c .spinWait .turn
        { c.pilot with
          goal := some (.post side), aim := some q, sweep := none, steering := .heading (c.pose.bearingTo q) }
        c.belief
  | loseAim {side : Side} (goal : c.pilot.goal = some (.post side))
      (lost : (c.belief.tracker side).hasPost = false ∨ c.pilot.aim = none) :
      Searches c .turn .spin (dropped c.pilot) c.belief
  | facePost {side : Side} {q : Pose α} (goal : c.pilot.goal = some (.post side))
      (held : (c.belief.tracker side).hasPost = true) (aim : c.pilot.aim = some q)
      (aligned : c.aligned (c.pose.bearingTo q) = true) :
      Searches c .turn .drive { c.pilot with steering := .point q } c.belief
  | turnToPost {side : Side} {q : Pose α} (goal : c.pilot.goal = some (.post side))
      (held : (c.belief.tracker side).hasPost = true) (aim : c.pilot.aim = some q)
      (aligned : c.aligned (c.pose.bearingTo q) = false) :
      Searches c .turn .turn { c.pilot with steering := .heading (c.pose.bearingTo q) } c.belief
  | inspectTurning {q : Pose α} (goal : c.pilot.goal = some (.searchPoint q)) (worth : c.worthInspecting = true) :
      Searches c .turn .spinWait { c.pilot with steering := .hold } c.belief.forgive
  | facePoint {q : Pose α} (goal : c.pilot.goal = some (.searchPoint q)) (dull : c.worthInspecting = false)
      (aligned : c.aligned (c.pose.bearingTo q) = true) :
      Searches c .turn .drive { c.pilot with steering := .point q } c.belief
  | turnToPoint {q : Pose α} (goal : c.pilot.goal = some (.searchPoint q)) (dull : c.worthInspecting = false)
      (aligned : c.aligned (c.pose.bearingTo q) = false) :
      Searches c .turn .turn { c.pilot with steering := .heading (c.pose.bearingTo q) } c.belief
  | turnNowhere (goal : c.pilot.goal = none) : Searches c .turn .spin { c.pilot with steering := .hold } c.belief
  /-- The gate is located on the way to a post. -/
  | locate {side : Side} {g : Passage α} (goal : c.pilot.goal = some (.post side))
      (sight : c.belief.gateSettled = true)
      (draft : draft? c.waypoint (c.pilot.trust c.belief) = .ok (some g)) :
      Searches c .drive .turnToCenter
        { (c.pilot.trust c.belief).adopt c.pose (some g) with
          goal := none, steering := .heading (c.pose.bearingTo g.center) } c.belief
  | driveToPost {side : Side} {next : Phase} {p : Pilot α} (goal : c.pilot.goal = some (.post side))
      (unlocated : c.Unlocated)
      (move : Approaches c.pose c.belief (c.pilot.survey c.belief) side next p) :
      Searches c .drive next p c.belief
  | inspectDriving {q : Pose α} (goal : c.pilot.goal = some (.searchPoint q)) (worth : c.worthInspecting = true) :
      Searches c .drive .spinWait { c.pilot with steering := .hold } c.belief.forgive
  | reachPoint {q : Pose α} (goal : c.pilot.goal = some (.searchPoint q)) (dull : c.worthInspecting = false)
      (near : c.pose.distanceTo q ≤ c.pilot.settings.arrivalTolerance) :
      Searches c .drive .spin (dropped c.pilot) c.belief.forgive
  | strayFromPoint {q : Pose α} (goal : c.pilot.goal = some (.searchPoint q)) (dull : c.worthInspecting = false)
      (far : ¬ c.pose.distanceTo q ≤ c.pilot.settings.arrivalTolerance)
      (off : c.pilot.settings.offCourseTolerance < Bearing.gap (c.pose.bearingTo q) c.pose.heading) :
      Searches c .drive .turn { c.pilot with steering := .heading (c.pose.bearingTo q) } c.belief
  | driveToPoint {q : Pose α} (goal : c.pilot.goal = some (.searchPoint q)) (dull : c.worthInspecting = false)
      (far : ¬ c.pose.distanceTo q ≤ c.pilot.settings.arrivalTolerance)
      (on : ¬ c.pilot.settings.offCourseTolerance < Bearing.gap (c.pose.bearingTo q) c.pose.heading) :
      Searches c .drive .drive { c.pilot with steering := .point q } c.belief
  | driveNowhere (goal : c.pilot.goal = none) : Searches c .drive .spin { c.pilot with steering := .hold } c.belief

/-- The passage is planned anew while both posts can be trusted, else left as it is. -/
inductive Replans (c : Cycle α) : Pilot α → Prop
  | anew {draft : Option (Passage α)}
      (sight : (c.belief.trackers.left.confident && c.belief.trackers.right.confident) = true)
      (plan : draft? c.waypoint (c.pilot.trust c.belief) = .ok draft) :
      Replans c ((c.pilot.trust c.belief).adopt c.pose draft)
  | leave (blind : (c.belief.trackers.left.confident && c.belief.trackers.right.confident) = false) :
      Replans c c.pilot

/-- The drive of the pilot `p` to the center of its passage, and the rest in front of it. -/
inductive DrivesUp (pose : Pose α) (b : Belief α) (p : Pilot α) : Phase → Pilot α → Prop
  | blind (passage : p.passage = none) : DrivesUp pose b p .spin { p with steering := .hold }
  | rest {g : Passage α} (passage : p.passage = some g) (near : pose.distanceTo g.center ≤ p.settings.standoff)
      (unsettled : p.settledCycles < b.settings.windowSize) :
      DrivesUp pose b p .driveToCenter { p with steering := .hold, settledCycles := p.settledCycles + 1 }
  | settle {g : Passage α} (passage : p.passage = some g) (near : pose.distanceTo g.center ≤ p.settings.standoff)
      (settled : ¬ p.settledCycles < b.settings.windowSize) :
      DrivesUp pose b p .face { p with steering := .hold, settledCycles := 0 }
  | stray {g : Passage α} (passage : p.passage = some g) (far : ¬ pose.distanceTo g.center ≤ p.settings.standoff)
      (off : p.settings.offCourseTolerance < Bearing.gap (pose.bearingTo g.center) pose.heading) :
      DrivesUp pose b p .turnToCenter
        { p with steering := .heading (pose.bearingTo g.center), settledCycles := 0 }
  | drive {g : Passage α} (passage : p.passage = some g) (far : ¬ pose.distanceTo g.center ≤ p.settings.standoff)
      (on : ¬ p.settings.offCourseTolerance < Bearing.gap (pose.bearingTo g.center) pose.heading) :
      DrivesUp pose b p .driveToCenter { p with steering := .point g.center, settledCycles := 0 }

/-- The moves of the phases in front of the gate. -/
inductive Nears (c : Cycle α) : Phase → Phase → Pilot α → Belief α → Prop
  | loseFacing {side : Side} (lost : c.lostSide? = some side) :
      Nears c .turnToCenter .spin (dropped c.pilot) c.belief
  | turnBlindly (held : c.lostSide? = none) (passage : c.pilot.passage = none) :
      Nears c .turnToCenter .spin { c.pilot with steering := .hold } c.belief
  | faceCenter {g : Passage α} (held : c.lostSide? = none) (passage : c.pilot.passage = some g)
      (aligned : c.aligned (c.pose.bearingTo g.center) = true) :
      Nears c .turnToCenter .driveToCenter { c.pilot with steering := .point g.center } c.belief
  | turnToCenter {g : Passage α} (held : c.lostSide? = none) (passage : c.pilot.passage = some g)
      (aligned : c.aligned (c.pose.bearingTo g.center) = false) :
      Nears c .turnToCenter .turnToCenter
        { c.pilot with steering := .heading (c.pose.bearingTo g.center) } c.belief
  | loseDriving {side : Side} (lost : c.lostSide? = some side) :
      Nears c .driveToCenter .spin (dropped c.pilot) c.belief
  | driveUp {p q : Pilot α} {next : Phase} (held : c.lostSide? = none) (plan : c.Replans p)
      (move : DrivesUp c.pose c.belief p next q) : Nears c .driveToCenter next q c.belief
  | faceNothing (passage : c.pilot.passage = none) :
      Nears c .face .spin { c.pilot with steering := .hold } c.belief
  | turnToFace {g : Passage α} (passage : c.pilot.passage = some g) (aligned : c.aligned (g.facing c.pose) = false) :
      Nears c .face .face
        { c.pilot with rightSide := g.isBefore c.pose, steering := .heading (g.facing c.pose) } c.belief
  /-- Faced from the front, the gate is passed. -/
  | lineUp {g : Passage α} (passage : c.pilot.passage = some g) (aligned : c.aligned (g.facing c.pose) = true)
      (front : g.isBefore c.pose = true) :
      Nears c .face .turnThrough
        { c.pilot with
          rightSide := true, through := g.legs c.pose c.pilot.settings.arrivalTolerance, steering := .hold } c.belief
  | noPost {g : Passage α} (passage : c.pilot.passage = some g) (aligned : c.aligned (g.facing c.pose) = true)
      (behind : g.isBefore c.pose = false) (far : Pilot.farthest? c.pose c.pilot.knownPosts = none) :
      Nears c .face .spin { c.pilot with rightSide := false, steering := .hold } c.belief
  /-- Faced from behind, it is driven around. -/
  | goAround {g : Passage α} {post : KnownPost α} (passage : c.pilot.passage = some g)
      (aligned : c.aligned (g.facing c.pose) = true) (behind : g.isBefore c.pose = false)
      (far : Pilot.farthest? c.pose c.pilot.knownPosts = some post) :
      Nears c .face .turnToFarPost
        { c.pilot with
          rightSide := false, detour := [clearancePoint c.pilot g post, g.entry], steering := .hold } c.belief

/-- The end of the detour for the pilot `p`: the way through the gate as it is now believed to be. -/
inductive Finishes (pose : Pose α) (waypoint : Option (Waypoint α)) (b : Belief α) (p : Pilot α) :
    Phase → Pilot α → Prop
  | lineUp {draft : Option (Passage α)} {g : Passage α} (plan : draft? waypoint (p.survey b) = .ok draft)
      (passage : ((p.survey b).adopt pose draft).passage = some g) :
      Finishes pose waypoint b p .turnThrough
        { (p.survey b).adopt pose draft with
          rightSide := true, through := g.legs pose p.settings.arrivalTolerance, steering := .hold }
  | giveUp {draft : Option (Passage α)} (plan : draft? waypoint (p.survey b) = .ok draft)
      (passage : ((p.survey b).adopt pose draft).passage = none) :
      Finishes pose waypoint b p .spin { (p.survey b).adopt pose draft with rightSide := true, steering := .hold }

/-- The moves of the phases around and through the gate. -/
inductive Passes (c : Cycle α) : Phase → Phase → Pilot α → Belief α → Prop
  | endTurning {next : Phase} {p : Pilot α} (detour : c.pilot.detour = [])
      (finish : Finishes c.pose c.waypoint c.belief c.pilot next p) :
      Passes c .turnToFarPost next p c.belief
  | faceLeg {q : Pose α} {rest : List (Pose α)} (detour : c.pilot.detour = q :: rest)
      (aligned : c.aligned (c.pose.bearingTo q) = true) :
      Passes c .turnToFarPost .driveToFarPost { c.pilot with steering := .point q } c.belief
  | turnToLeg {q : Pose α} {rest : List (Pose α)} (detour : c.pilot.detour = q :: rest)
      (aligned : c.aligned (c.pose.bearingTo q) = false) :
      Passes c .turnToFarPost .turnToFarPost { c.pilot with steering := .heading (c.pose.bearingTo q) } c.belief
  | endDriving {next : Phase} {p : Pilot α} (detour : c.pilot.detour = [])
      (finish : Finishes c.pose c.waypoint c.belief c.pilot next p) :
      Passes c .driveToFarPost next p c.belief
  | reachEnd {q : Pose α} {next : Phase} {p : Pilot α} (detour : c.pilot.detour = [q])
      (near : c.pose.distanceTo q ≤ c.pilot.settings.arrivalTolerance)
      (finish : Finishes c.pose c.waypoint c.belief { c.pilot with steering := .hold, detour := [] } next p) :
      Passes c .driveToFarPost next p c.belief
  | reachLeg {q r : Pose α} {rest : List (Pose α)} (detour : c.pilot.detour = q :: r :: rest)
      (near : c.pose.distanceTo q ≤ c.pilot.settings.arrivalTolerance) :
      Passes c .driveToFarPost .turnToFarPost { c.pilot with steering := .hold, detour := r :: rest } c.belief
  | strayFromLeg {q : Pose α} {rest : List (Pose α)} (detour : c.pilot.detour = q :: rest)
      (far : ¬ c.pose.distanceTo q ≤ c.pilot.settings.arrivalTolerance)
      (off : c.pilot.settings.offCourseTolerance < Bearing.gap (c.pose.bearingTo q) c.pose.heading) :
      Passes c .driveToFarPost .turnToFarPost { c.pilot with steering := .heading (c.pose.bearingTo q) } c.belief
  | driveToLeg {q : Pose α} {rest : List (Pose α)} (detour : c.pilot.detour = q :: rest)
      (far : ¬ c.pose.distanceTo q ≤ c.pilot.settings.arrivalTolerance)
      (on : ¬ c.pilot.settings.offCourseTolerance < Bearing.gap (c.pose.bearingTo q) c.pose.heading) :
      Passes c .driveToFarPost .driveToFarPost { c.pilot with steering := .point q } c.belief
  | turnPast (through : c.pilot.through = []) :
      Passes c .turnThrough .traversed { c.pilot with steering := .hold } c.belief
  | facePoint {q : Pose α} {rest : List (Pose α)} (through : c.pilot.through = q :: rest)
      (aligned : c.aligned (c.pose.bearingTo q) = true) :
      Passes c .turnThrough .driveThrough { c.pilot with steering := .point q } c.belief
  | turnToPoint {q : Pose α} {rest : List (Pose α)} (through : c.pilot.through = q :: rest)
      (aligned : c.aligned (c.pose.bearingTo q) = false) :
      Passes c .turnThrough .turnThrough { c.pilot with steering := .heading (c.pose.bearingTo q) } c.belief
  | drivePast (through : c.pilot.through = []) :
      Passes c .driveThrough .traversed { c.pilot with steering := .hold } c.belief
  /-- The last point is reached: the gate is behind the rover. -/
  | traverse {q : Pose α} (through : c.pilot.through = [q])
      (near : c.pose.distanceTo q ≤ c.pilot.settings.arrivalTolerance) :
      Passes c .driveThrough .traversed { c.pilot with through := [], steering := .hold } c.belief
  | reachPoint {q r : Pose α} {rest : List (Pose α)} (through : c.pilot.through = q :: r :: rest)
      (near : c.pose.distanceTo q ≤ c.pilot.settings.arrivalTolerance) :
      Passes c .driveThrough .driveThrough { c.pilot with through := r :: rest, steering := .point r } c.belief
  | strayFromPoint {q : Pose α} {rest : List (Pose α)} (through : c.pilot.through = q :: rest)
      (far : ¬ c.pose.distanceTo q ≤ c.pilot.settings.arrivalTolerance)
      (off : c.pilot.settings.offCourseTolerance < Bearing.gap (c.pose.bearingTo q) c.pose.heading) :
      Passes c .driveThrough .turnThrough { c.pilot with steering := .heading (c.pose.bearingTo q) } c.belief
  | driveToPoint {q : Pose α} {rest : List (Pose α)} (through : c.pilot.through = q :: rest)
      (far : ¬ c.pose.distanceTo q ≤ c.pilot.settings.arrivalTolerance)
      (on : ¬ c.pilot.settings.offCourseTolerance < Bearing.gap (c.pose.bearingTo q) c.pose.heading) :
      Passes c .driveThrough .driveThrough { c.pilot with steering := .point q } c.belief

/-- The moves of all phases; where no search is on, the rover holds. -/
inductive Advances (c : Cycle α) : Phase → Phase → Pilot α → Belief α → Prop
  | searches {executed next : Phase} {p : Pilot α} {b : Belief α} (h : c.Searches executed next p b) :
      Advances c executed next p b
  | nears {executed next : Phase} {p : Pilot α} {b : Belief α} (h : c.Nears executed next p b) :
      Advances c executed next p b
  | passes {executed next : Phase} {p : Pilot α} {b : Belief α} (h : c.Passes executed next p b) :
      Advances c executed next p b
  | idle {phase : Phase} (h : phase.isTerminal = true ∨ phase.isGate = false) :
      Advances c phase phase { c.pilot with steering := .hold } c.belief

/-! ### What no move changes -/

section Orders
variable {c : Cycle α} {pose : Pose α} {waypoint : Option (Waypoint α)} {b b' : Belief α} {p q : Pilot α}
  {executed next : Phase}

theorem Approaches.orders {side : Side} (h : Approaches pose b p side next q) : q.orders = p.orders := by
  cases h <;> rfl

theorem Searches.orders (h : c.Searches executed next q b) : q.orders = c.pilot.orders := by
  cases h
  case locate => exact Pilot.adopt_orders
  case driveToPost move => exact move.orders.trans Pilot.survey_orders
  all_goals rfl

theorem Replans.orders (h : c.Replans q) : q.orders = c.pilot.orders := by
  cases h with
  | anew => exact Pilot.adopt_orders
  | leave => rfl

theorem DrivesUp.orders (h : DrivesUp pose b p next q) : q.orders = p.orders := by
  cases h <;> rfl

theorem Nears.orders (h : c.Nears executed next q b) : q.orders = c.pilot.orders := by
  cases h
  case driveUp plan move => exact move.orders.trans plan.orders
  all_goals rfl

theorem Finishes.orders (h : Finishes pose waypoint b p next q) : q.orders = p.orders := by
  have kept {draft : Option (Passage α)} : ((p.survey b).adopt pose draft).orders = p.orders :=
    Pilot.adopt_orders.trans Pilot.survey_orders
  cases h <;> exact kept

theorem Passes.orders (h : c.Passes executed next q b) : q.orders = c.pilot.orders := by
  cases h
  case endTurning finish | endDriving finish | reachEnd finish => exact finish.orders
  all_goals rfl

/-- The settings, the pattern and the area of the search stay. -/
theorem Advances.orders (h : c.Advances executed next q b) : q.orders = c.pilot.orders := by
  cases h with
  | searches h => exact h.orders
  | nears h => exact h.orders
  | passes h => exact h.orders
  | idle => rfl

/-- A move leaves the belief as it is, but for misses that may be forgiven. -/
theorem Advances.belief (h : c.Advances executed next q b) : b = c.belief ∨ b = c.belief.forgive := by
  cases h with
  | searches h =>
    cases h with
    | inspect | inspectTurning | inspectDriving | reachPoint => exact .inr rfl
    | _ => exact .inl rfl
  | nears h => cases h <;> exact .inl rfl
  | passes h => cases h <;> exact .inl rfl
  | idle => exact .inl rfl

end Orders

/-! ### Legs of a way -/

section Legs
variable {c d : Cycle α} {q : Pose α} {radius : α}

theorem of_driveLeg_arrived (h : c.driveLeg q radius = (.arrived, d)) :
    c.pose.distanceTo q ≤ radius ∧ d = c.hold := by
  unfold driveLeg at h
  split at h
  · next near => exact ⟨near, by simpa using h.symm⟩
  · dsimp only at h; split at h <;> simp at h

theorem of_driveLeg_offCourse (h : c.driveLeg q radius = (.offCourse, d)) :
    ¬ c.pose.distanceTo q ≤ radius ∧
      c.pilot.settings.offCourseTolerance < Bearing.gap (c.pose.bearingTo q) c.pose.heading ∧
      d = c.steer (.heading (c.pose.bearingTo q)) := by
  unfold driveLeg at h
  split at h
  · simp at h
  · next far =>
    dsimp only at h
    split at h
    · next off => exact ⟨far, off, by simpa using h.symm⟩
    · simp at h

theorem of_driveLeg_driving (h : c.driveLeg q radius = (.driving, d)) :
    ¬ c.pose.distanceTo q ≤ radius ∧
      ¬ c.pilot.settings.offCourseTolerance < Bearing.gap (c.pose.bearingTo q) c.pose.heading ∧
      d = c.steer (.point q) := by
  unfold driveLeg at h
  split at h
  · simp at h
  · next far =>
    dsimp only at h
    split at h
    · simp at h
    · next on => exact ⟨far, on, by simpa using h.symm⟩

/-- What holds of both outcomes of a turn holds of the turn. -/
theorem turnToward_elim {P : Phase → Pilot α → Belief α → Prop} {whenAligned otherwise : Phase}
    (facing : c.aligned (c.pose.bearingTo q) = true →
      P whenAligned { c.pilot with steering := .point q } c.belief)
    (turning : c.aligned (c.pose.bearingTo q) = false →
      P otherwise { c.pilot with steering := .heading (c.pose.bearingTo q) } c.belief) :
    P (c.turnToward q whenAligned otherwise).next (c.turnToward q whenAligned otherwise).cycle.pilot
      (c.turnToward q whenAligned otherwise).cycle.belief := by
  unfold turnToward
  dsimp only
  cases h : c.aligned (c.pose.bearingTo q) with
  | true => exact facing h
  | false => exact turning h

end Legs

variable {c : Cycle α} {m : Move α}

/-! ### Search -/

theorem searches_spin : c.Searches .spin c.spin.next c.spin.cycle.pilot c.spin.cycle.belief := by
  unfold spin
  cases worth : c.worthInspecting with
  | true => exact .inspect worth
  | false =>
    rw [if_neg (by decide)]
    dsimp only
    -- Whether the sweep begins now shows in the events alone.
    generalize hd : (if c.pilot.sweep.isSome = true then c else c.note (.sweepStarted c.sweepOrigin)) = d
    obtain ⟨hp, hb⟩ : d.pilot = c.pilot ∧ d.belief = c.belief := by subst hd; split <;> exact ⟨rfl, rfl⟩
    cases swept : c.nextSweep.isExhausted with
    | false =>
      simp only [Bool.false_eq_true, ↓reduceIte, steer, withPilot, goTo, hp, hb]
      exact .sweep worth swept
    | true =>
      simp only [↓reduceIte, nextSearchPoint, hold, steer, withPilot, note, goTo, hp, hb]
      cases points : c.pilot.agenda.points with
      | nil =>
        have next : c.pilot.agenda.next = (none, c.pilot.agenda) := by simp [Agenda.next, points]
        rw [next]
        exact .runOut worth swept points
      | cons q rest =>
        have next : c.pilot.agenda.next =
            (some q, { c.pilot.agenda with points := rest, visited := c.pilot.agenda.visited + 1 }) := by
          simp [Agenda.next, points]
        rw [next]
        exact .takePoint worth swept next

theorem searches_spinWait :
    c.Searches .spinWait c.spinWait.next c.spinWait.cycle.pilot c.spinWait.cycle.belief := by
  unfold spinWait
  cases pick : c.pickSide? with
  | none =>
    simp only [show c.hold.pickSide? = none from pick]
    exact .vanish pick
  | some side =>
    simp only [show c.hold.pickSide? = some side from pick]
    cases ready : c.belief.settled with
    | false =>
      rw [if_pos (by rw [show c.hold.belief = c.belief from rfl, ready]; rfl)]
      exact .wait pick (.inl ready)
    | true =>
      rw [if_neg (by rw [show c.hold.belief = c.belief from rfl, ready]; decide)]
      cases location : (c.belief.tracker side).location with
      | none =>
        simp only [show (c.hold.belief.tracker side).location = none from location]
        exact .wait pick (.inr location)
      | some q =>
        simp only [show (c.hold.belief.tracker side).location = some q from location]
        exact .approach pick ready location

theorem searches_turn : c.Searches .turn c.turn.next c.turn.cycle.pilot c.turn.cycle.belief := by
  unfold turn
  cases goal : c.pilot.goal with
  | none => exact .turnNowhere goal
  | some g =>
    cases g with
    | post side =>
      dsimp only
      cases held : (c.belief.tracker side).hasPost with
      | false => exact .loseAim goal (.inl held)
      | true =>
        cases aim : c.pilot.aim with
        | none => exact .loseAim goal (.inr aim)
        | some q => exact turnToward_elim (.facePost goal held aim) (.turnToPost goal held aim)
    | searchPoint q =>
      dsimp only
      cases worth : c.worthInspecting with
      | true => exact .inspectTurning goal worth
      | false => exact turnToward_elim (.facePoint goal worth) (.turnToPoint goal worth)

/-- The gate is located and its passage planned, or the pilot is left with the posts it remembers. -/
theorem locate_eq_ok {located : Bool} {d : Cycle α} (h : c.locate = .ok (located, d)) :
    (located = true ∧ c.belief.gateSettled = true ∧ ∃ g, draft? c.waypoint (c.pilot.trust c.belief) = .ok (some g) ∧
      d = c.withPilot ((c.pilot.trust c.belief).adopt c.pose (some g))) ∨
    (located = false ∧ c.Unlocated ∧ d = c.withPilot (c.pilot.survey c.belief)) := by
  unfold locate at h
  cases sight : c.belief.gateSettled with
  | false =>
    rw [sight, if_neg (by decide), Checked.pure_eq_ok, Prod.mk.injEq] at h
    refine .inr ⟨h.1.symm, fun hs => absurd hs (by simp [sight]), ?_⟩
    rw [← h.2, Pilot.survey_of_not_settled sight]; rfl
  | true =>
    rw [sight, if_pos rfl, planPassage, Checked.bind_eq_ok] at h
    obtain ⟨draft, hdraft, h⟩ := h
    rw [Checked.pure_eq_ok, Prod.mk.injEq] at h
    obtain ⟨rfl, rfl⟩ := h
    cases draft with
    | none =>
      refine .inr ⟨rfl, fun _ => hdraft, ?_⟩
      rw [Pilot.survey_of_settled sight]; rfl
    | some g => exact .inl ⟨rfl, rfl, g, hdraft, rfl⟩

theorem searchAround_eq_ok {id : Int32} {q : Pose α} {d : Cycle α} (h : c.searchAround (some id) q = .ok d) :
    d.belief = c.belief ∧ ((id ∈ c.pilot.searchedAround ∧ d.pilot = c.pilot) ∨
      (id ∉ c.pilot.searchedAround ∧ ∃ points,
        Pilot.searchPoints c.pilot.pattern c.pilot.settings.spacing c.pilot.area q = .ok points ∧
        d.pilot = { c.pilot with
          searchedAround := c.pilot.searchedAround ++ [id], agenda := c.pilot.agenda.putFirst points })) := by
  unfold searchAround at h
  by_cases old : id ∈ c.pilot.searchedAround
  · rw [if_pos (by simpa using old), Checked.pure_eq_ok] at h
    subst h; exact ⟨rfl, .inl ⟨old, rfl⟩⟩
  · rw [if_neg (by simpa using old), Checked.bind_eq_ok] at h
    obtain ⟨points, layout, h⟩ := h
    rw [Checked.pure_eq_ok] at h
    subst h; exact ⟨rfl, .inr ⟨old, points, layout, rfl⟩⟩

theorem approaches_approachPost {side : Side} (h : c.approachPost side = .ok m) :
    Approaches c.pose c.belief c.pilot side m.next m.cycle.pilot ∧ m.cycle.belief = c.belief := by
  unfold approachPost at h
  cases location : (c.belief.tracker side).location with
  | none =>
    simp only [location, Checked.pure_eq_ok] at h
    subst h; exact ⟨.lose (.inl location), rfl⟩
  | some q =>
    cases held : (c.belief.tracker side).hasPost with
    | false =>
      simp only [location, held, Checked.pure_eq_ok] at h
      subst h; exact ⟨.lose (.inr held), rfl⟩
    | true =>
      simp only [location, held] at h
      split at h
      · next d hd =>
        obtain ⟨near, rfl⟩ := of_driveLeg_arrived hd
        obtain ⟨id, hid⟩ := Tracker.exists_id held
        rw [hid, Checked.map_eq_ok] at h
        obtain ⟨e, he, rfl⟩ := h
        obtain ⟨hb, ⟨old, hp⟩ | ⟨new, points, layout, hp⟩⟩ := searchAround_eq_ok he
        · refine ⟨?_, hb⟩
          simp only [goTo, hold, steer, abandon, withPilot, hp]
          exact .reachAgain location hid near old
        · refine ⟨?_, hb⟩
          simp only [goTo, hold, steer, abandon, withPilot, hp]
          exact .reach location hid near new layout
      · next d hd =>
        obtain ⟨far, off, rfl⟩ := of_driveLeg_offCourse hd
        cases h; exact ⟨.stray location held far off, rfl⟩
      · next d hd =>
        obtain ⟨far, on, rfl⟩ := of_driveLeg_driving hd
        cases h; exact ⟨.drive location held far on, rfl⟩

theorem searches_driveToSearchPoint {q : Pose α} (goal : c.pilot.goal = some (.searchPoint q)) :
    c.Searches .drive (c.driveToSearchPoint q).next (c.driveToSearchPoint q).cycle.pilot
      (c.driveToSearchPoint q).cycle.belief := by
  unfold driveToSearchPoint
  cases worth : c.worthInspecting with
  | true => exact .inspectDriving goal worth
  | false =>
    rw [if_neg (by decide)]
    split
    · next d hd =>
      obtain ⟨near, rfl⟩ := of_driveLeg_arrived hd
      exact .reachPoint goal worth near
    · next d hd =>
      obtain ⟨far, off, rfl⟩ := of_driveLeg_offCourse hd
      exact .strayFromPoint goal worth far off
    · next d hd =>
      obtain ⟨far, on, rfl⟩ := of_driveLeg_driving hd
      exact .driveToPoint goal worth far on

theorem searches_drive (h : c.drive = .ok m) : c.Searches .drive m.next m.cycle.pilot m.cycle.belief := by
  unfold drive at h
  cases goal : c.pilot.goal with
  | none =>
    simp only [goal, Checked.pure_eq_ok] at h
    subst h; exact .driveNowhere goal
  | some g =>
    cases g with
    | searchPoint q =>
      simp only [goal, Checked.pure_eq_ok] at h
      subst h; exact searches_driveToSearchPoint goal
    | post side =>
      simp only [goal, driveToPost, Checked.bind_eq_ok] at h
      obtain ⟨⟨located, d⟩, hd, h⟩ := h
      dsimp only at h
      rcases locate_eq_ok hd with ⟨rfl, sight, g, draft, rfl⟩ | ⟨rfl, unlocated, rfl⟩
      · cases h; exact .locate goal sight draft
      · obtain ⟨move, hb⟩ := approaches_approachPost (by simpa using h)
        rw [hb]; exact .driveToPost goal unlocated move

/-! ### In front of the gate -/

theorem nears_turnToCenter :
    c.Nears .turnToCenter c.turnToCenter.next c.turnToCenter.cycle.pilot c.turnToCenter.cycle.belief := by
  unfold turnToCenter
  cases lost : c.lostSide? with
  | some side => exact .loseFacing lost
  | none =>
    cases passage : c.pilot.passage with
    | none => exact .turnBlindly lost passage
    | some g => exact turnToward_elim (.faceCenter lost passage) (.turnToCenter lost passage)

theorem replan_eq_ok {d : Cycle α} (h : c.replan = .ok d) : ∃ p, c.Replans p ∧ d = c.withPilot p := by
  unfold replan at h
  split at h
  · next sight =>
    obtain ⟨⟨planned, d⟩, hd, rfl⟩ := Checked.map_eq_ok.1 h
    obtain ⟨draft, hdraft, hd⟩ := Checked.bind_eq_ok.1 hd
    rw [Checked.pure_eq_ok, Prod.mk.injEq] at hd
    exact ⟨_, .anew sight hdraft, hd.2.symm⟩
  · next blind =>
    rw [Checked.pure_eq_ok] at h
    exact ⟨_, .leave (by simpa using blind), h.symm⟩

theorem drivesUp_driveToPassage :
    DrivesUp c.pose c.belief c.pilot c.driveToPassage.next c.driveToPassage.cycle.pilot ∧
      c.driveToPassage.cycle.belief = c.belief := by
  unfold driveToPassage
  cases passage : c.pilot.passage with
  | none => exact ⟨.blind passage, rfl⟩
  | some g =>
    dsimp only
    split
    · next d hd =>
      obtain ⟨near, rfl⟩ := of_driveLeg_arrived hd
      split
      · next unsettled => exact ⟨.rest passage near unsettled, rfl⟩
      · next settled => exact ⟨.settle passage near settled, rfl⟩
    · next d hd =>
      obtain ⟨far, off, rfl⟩ := of_driveLeg_offCourse hd
      exact ⟨.stray passage far off, rfl⟩
    · next d hd =>
      obtain ⟨far, on, rfl⟩ := of_driveLeg_driving hd
      exact ⟨.drive passage far on, rfl⟩

theorem nears_driveToCenter (h : c.driveToCenter = .ok m) :
    c.Nears .driveToCenter m.next m.cycle.pilot m.cycle.belief := by
  unfold driveToCenter at h
  cases lost : c.lostSide? with
  | some side =>
    simp only [lost, Checked.pure_eq_ok] at h
    subst h; exact .loseDriving lost
  | none =>
    simp only [lost, Checked.map_eq_ok] at h
    obtain ⟨d, hd, rfl⟩ := h
    obtain ⟨p, plan, rfl⟩ := replan_eq_ok hd
    obtain ⟨move, hb⟩ := drivesUp_driveToPassage (c := c.withPilot p)
    rw [hb]; exact .driveUp lost plan move

theorem nears_face : c.Nears .face c.face.next c.face.cycle.pilot c.face.cycle.belief := by
  unfold face
  cases passage : c.pilot.passage with
  | none => exact .faceNothing passage
  | some g =>
    dsimp only
    cases aligned : c.aligned (g.facing c.pose) with
    | false => exact .turnToFace passage aligned
    | true =>
      rw [if_neg (by decide)]
      cases front : g.isBefore c.pose with
      | true => exact .lineUp passage aligned front
      | false =>
        rw [if_neg (by decide)]
        cases far : Pilot.farthest? c.pose c.pilot.knownPosts with
        | none => exact .noPost passage aligned front far
        | some post => exact .goAround passage aligned front far

/-! ### Around and through the gate -/

theorem finishes_finishDetour (h : c.finishDetour = .ok m) :
    Finishes c.pose c.waypoint c.belief c.pilot m.next m.cycle.pilot ∧ m.cycle.belief = c.belief := by
  unfold finishDetour at h
  obtain ⟨⟨planned, d⟩, hd, h⟩ := Checked.bind_eq_ok.1 h
  obtain ⟨draft, plan, hd⟩ := Checked.bind_eq_ok.1 hd
  rw [Checked.pure_eq_ok, Prod.mk.injEq] at hd
  dsimp only at h
  -- That the detour ended behind the gate shows in the events alone.
  generalize he : (if (planned && !d.pilot.rightSide) = true then d.note .detourEndedBehind else d) = e at h
  obtain ⟨hp, hb, hpose⟩ : e.pilot = (c.pilot.survey c.belief).adopt c.pose draft ∧ e.belief = c.belief ∧
      e.pose = c.pose := by
    subst he; rw [← hd.2]; split <;> exact ⟨rfl, rfl, rfl⟩
  obtain ⟨pose, waypoint, pilot, belief, events⟩ := e
  dsimp only at hp hb hpose
  subst hp hb hpose
  split at h
  · next passage =>
    cases h; exact ⟨.giveUp plan passage, rfl⟩
  · next g passage =>
    cases h
    refine ⟨?_, rfl⟩
    simpa [withPilot, hold, steer, goTo] using Finishes.lineUp plan passage

theorem passes_turnToFarPost (h : c.turnToFarPost = .ok m) :
    c.Passes .turnToFarPost m.next m.cycle.pilot m.cycle.belief := by
  unfold turnToFarPost at h
  cases detour : c.pilot.detour with
  | nil =>
    simp only [detour] at h
    obtain ⟨finish, hb⟩ := finishes_finishDetour h
    rw [hb]; exact .endTurning detour finish
  | cons q rest =>
    simp only [detour, Checked.pure_eq_ok] at h
    subst h; exact turnToward_elim (.faceLeg detour) (.turnToLeg detour)

theorem passes_driveToFarPost (h : c.driveToFarPost = .ok m) :
    c.Passes .driveToFarPost m.next m.cycle.pilot m.cycle.belief := by
  unfold driveToFarPost at h
  cases detour : c.pilot.detour with
  | nil =>
    simp only [detour] at h
    obtain ⟨finish, hb⟩ := finishes_finishDetour h
    rw [hb]; exact .endDriving detour finish
  | cons q rest =>
    simp only [detour] at h
    split at h
    · next d hd =>
      obtain ⟨near, rfl⟩ := of_driveLeg_arrived hd
      cases rest with
      | nil =>
        obtain ⟨finish, hb⟩ := finishes_finishDetour h
        rw [hb]; exact .reachEnd detour near finish
      | cons r rest => cases h; exact .reachLeg detour near
    · next d hd =>
      obtain ⟨far, off, rfl⟩ := of_driveLeg_offCourse hd
      cases h; exact .strayFromLeg detour far off
    · next d hd =>
      obtain ⟨far, on, rfl⟩ := of_driveLeg_driving hd
      cases h; exact .driveToLeg detour far on

theorem passes_turnThrough :
    c.Passes .turnThrough c.turnThrough.next c.turnThrough.cycle.pilot c.turnThrough.cycle.belief := by
  unfold turnThrough
  cases through : c.pilot.through with
  | nil => exact .turnPast through
  | cons q rest => exact turnToward_elim (.facePoint through) (.turnToPoint through)

theorem passes_driveThrough :
    c.Passes .driveThrough c.driveThrough.next c.driveThrough.cycle.pilot c.driveThrough.cycle.belief := by
  unfold driveThrough
  cases through : c.pilot.through with
  | nil => exact .drivePast through
  | cons q rest =>
    dsimp only
    split
    · next d hd =>
      obtain ⟨near, rfl⟩ := of_driveLeg_arrived hd
      cases rest with
      | nil => exact .traverse through near
      | cons r rest => exact .reachPoint through near
    · next d hd =>
      obtain ⟨far, off, rfl⟩ := of_driveLeg_offCourse hd
      exact .strayFromPoint through far off
    · next d hd =>
      obtain ⟨far, on, rfl⟩ := of_driveLeg_driving hd
      exact .driveToPoint through far on

/-- Every move is one of those listed. -/
theorem advances_of_advance {executed : Phase} (h : c.advance executed = .ok m) :
    c.Advances executed m.next m.cycle.pilot m.cycle.belief := by
  cases executed <;> simp only [advance, Checked.pure_eq_ok] at h
  case spin => subst h; exact .searches searches_spin
  case spinWait => subst h; exact .searches searches_spinWait
  case turn => subst h; exact .searches searches_turn
  case drive => exact .searches (searches_drive h)
  case turnToCenter => subst h; exact .nears nears_turnToCenter
  case driveToCenter => exact .nears (nears_driveToCenter h)
  case face => subst h; exact .nears nears_face
  case turnToFarPost => exact .passes (passes_turnToFarPost h)
  case driveToFarPost => exact .passes (passes_driveToFarPost h)
  case turnThrough => subst h; exact .passes passes_turnThrough
  case driveThrough => subst h; exact .passes passes_driveThrough
  all_goals subst h; exact .idle (by decide)

end Cycle

end GateNav
