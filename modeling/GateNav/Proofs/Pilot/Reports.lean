import GateNav.Proofs.Pilot.Logbook

/-!
# What a pilot does not look at

A pilot sees the posts only through the trackers. The sightings as they were reported, and the obstacle, stand beside
them in the belief, but no phase looks there: with other reports beside the same trackers every phase makes the same
move, and leaves these other reports (`Pilot.run_reported`). There is one lemma for each function of the phases.
-/

namespace GateNav
variable {α : Type}

/-- The belief, had this been reported beside it. -/
def Belief.reported (b : Belief α) (o : Obstacle α) (raw : Sided (Sighting α)) : Belief α :=
  { b with obstacle := o, raw := raw }

/-- The work, had this been reported. -/
def Cycle.reported (c : Cycle α) (o : Obstacle α) (raw : Sided (Sighting α)) : Cycle α :=
  { c with belief := c.belief.reported o raw }

def Move.reported (m : Move α) (o : Obstacle α) (raw : Sided (Sighting α)) : Move α :=
  { m with cycle := m.cycle.reported o raw }

namespace Cycle

section Parts
variable {c : Cycle α} {o : Obstacle α} {raw : Sided (Sighting α)} {p : Pilot α} {e : Event α} {side : Side}

theorem reported_pose : (c.reported o raw).pose = c.pose := rfl

theorem reported_waypoint : (c.reported o raw).waypoint = c.waypoint := rfl

theorem reported_pilot : (c.reported o raw).pilot = c.pilot := rfl

theorem reported_tracker : (c.reported o raw).belief.tracker side = c.belief.tracker side := rfl

theorem withPilot_reported : (c.reported o raw).withPilot p = (c.withPilot p).reported o raw := rfl

theorem withPilot_pilot : (c.withPilot p).pilot = p := rfl

theorem note_pilot : (c.note e).pilot = c.pilot := rfl

theorem worthInspecting_reported : (c.reported o raw).worthInspecting = c.worthInspecting := rfl

theorem lostSide?_reported : (c.reported o raw).lostSide? = c.lostSide? := rfl

theorem aligned_reported [Scalar α] {bearing : α} : (c.reported o raw).aligned bearing = c.aligned bearing := rfl

theorem nextSearchPoint_reported : (c.reported o raw).nextSearchPoint = c.nextSearchPoint.reported o raw := by
  unfold nextSearchPoint
  dsimp only
  rw [show (c.reported o raw).hold = c.hold.reported o raw from rfl, reported_pilot]
  split <;> rfl

end Parts

variable [Scalar α] [Trig α] {c d : Cycle α} {o : Obstacle α} {raw : Sided (Sighting α)} {q : Pose α} {radius : α}
  {progress : Progress} {side : Side}

theorem turnToward_reported {whenAligned otherwise : Phase} :
    (c.reported o raw).turnToward q whenAligned otherwise = (c.turnToward q whenAligned otherwise).reported o raw := by
  unfold turnToward
  rw [reported_pose]
  dsimp only
  rw [aligned_reported]
  split <;> rfl

theorem driveLeg_reported (h : c.driveLeg q radius = (progress, d)) :
    (c.reported o raw).driveLeg q radius = (progress, d.reported o raw) := by
  unfold driveLeg at h ⊢
  rw [reported_pose, reported_pilot]
  split at h
  · next near => rw [if_pos near]; cases h; rfl
  · next far =>
    rw [if_neg far]
    dsimp only at h ⊢
    split at h
    · next off => rw [if_pos off]; cases h; rfl
    · next on => rw [if_neg on]; cases h; rfl

theorem planPassage_reported :
    (c.reported o raw).planPassage = (fun r => (r.1, r.2.reported o raw)) <$> c.planPassage := by
  unfold planPassage
  rw [reported_waypoint, reported_pilot, map_bind]
  rfl

theorem searchAround_reported {id : Option Int32} :
    (c.reported o raw).searchAround id q = (·.reported o raw) <$> c.searchAround id q := by
  unfold searchAround
  rw [reported_pilot]
  split
  · rfl
  · dsimp only
    rw [map_bind]
    rfl

/-! ### Search -/

theorem spin_reported : (c.reported o raw).spin = c.spin.reported o raw := by
  unfold spin
  rw [worthInspecting_reported]
  split
  · rfl
  · dsimp only
    rw [show (c.reported o raw).nextSweep = c.nextSweep from rfl]
    -- Whether the sweep begins now shows in the events alone.
    generalize he : (if c.pilot.sweep.isSome = true then c else c.note (.sweepStarted c.sweepOrigin)) = e
    have noted : (if (c.reported o raw).pilot.sweep.isSome = true then c.reported o raw
        else (c.reported o raw).note (.sweepStarted (c.reported o raw).sweepOrigin)) = e.reported o raw := by
      rw [← he, reported_pilot]
      split <;> rfl
    rw [noted]
    split
    · exact nextSearchPoint_reported (c := (e.withPilot { e.pilot with sweep := none }).note .sweepExhausted)
    · rfl

theorem spinWait_reported : (c.reported o raw).spinWait = c.spinWait.reported o raw := by
  unfold spinWait
  dsimp only
  rw [show (c.reported o raw).hold = c.hold.reported o raw from rfl,
    show (c.hold.reported o raw).pickSide? = c.hold.pickSide? from rfl]
  split
  · rfl
  · rw [show (c.hold.reported o raw).belief.settled = c.hold.belief.settled from rfl]
    split
    · rfl
    · rw [reported_tracker]
      split <;> rfl

theorem turn_reported : (c.reported o raw).turn = c.turn.reported o raw := by
  unfold turn
  rw [reported_pilot]
  split
  · rw [reported_tracker]
    split
    · exact turnToward_reported
    · rfl
  · rw [worthInspecting_reported]
    split
    · rfl
    · exact turnToward_reported
  · rfl

theorem locate_reported : (c.reported o raw).locate = (fun r => (r.1, r.2.reported o raw)) <$> c.locate := by
  unfold locate
  rw [show (c.reported o raw).belief.gateSettled = c.belief.gateSettled from rfl]
  split
  · exact planPassage_reported (c := c.record)
  · rfl

theorem headForGate_reported : (c.reported o raw).headForGate = c.headForGate.reported o raw := by
  unfold headForGate
  simp only [Pilot.center?, withPilot_pilot, note_pilot, reported_pilot]
  split <;> rfl

theorem approachPost_reported :
    (c.reported o raw).approachPost side = (·.reported o raw) <$> c.approachPost side := by
  unfold approachPost
  simp only [reported_tracker, reported_pilot, withPilot_reported, withPilot_pilot]
  split
  · next q _ _ =>
    generalize c.withPilot { c.pilot with aim := some q } = d
    cases leg : d.driveLeg q c.pilot.settings.approachDistance with
    | mk progress e =>
      rw [driveLeg_reported leg]
      cases progress with
      | arrived =>
        dsimp only
        rw [searchAround_reported, Functor.map_map, Functor.map_map]
        rfl
      | offCourse | driving => rfl
  · rfl

theorem driveToPost_reported :
    (c.reported o raw).driveToPost side = (·.reported o raw) <$> c.driveToPost side := by
  unfold driveToPost
  rw [locate_reported, map_bind, bind_map_left]
  congr
  funext ⟨located, d⟩
  cases located with
  | true => exact congrArg pure headForGate_reported
  | false => exact approachPost_reported

theorem driveToSearchPoint_reported :
    (c.reported o raw).driveToSearchPoint q = (c.driveToSearchPoint q).reported o raw := by
  unfold driveToSearchPoint
  rw [worthInspecting_reported, reported_pilot]
  split
  · rfl
  · cases leg : c.driveLeg q c.pilot.settings.arrivalTolerance with
    | mk progress d =>
      rw [driveLeg_reported leg]
      cases progress <;> rfl

theorem drive_reported : (c.reported o raw).drive = (·.reported o raw) <$> c.drive := by
  unfold drive
  rw [reported_pilot]
  split
  · exact driveToPost_reported
  · rw [driveToSearchPoint_reported]; rfl
  · rfl

/-! ### In front of the gate -/

theorem turnToCenter_reported : (c.reported o raw).turnToCenter = c.turnToCenter.reported o raw := by
  unfold turnToCenter
  rw [lostSide?_reported, reported_pilot]
  split
  · rfl
  · rfl
  · exact turnToward_reported

theorem replan_reported : (c.reported o raw).replan = (·.reported o raw) <$> c.replan := by
  unfold replan
  rw [show (c.reported o raw).belief.trackers = c.belief.trackers from rfl]
  split
  · rw [show (c.reported o raw).record = c.record.reported o raw from rfl, planPassage_reported, Functor.map_map,
      Functor.map_map]
  · rfl

theorem driveToPassage_reported : (c.reported o raw).driveToPassage = c.driveToPassage.reported o raw := by
  unfold driveToPassage
  rw [reported_pilot]
  split
  · rfl
  · next g _ =>
    cases leg : c.driveLeg g.center c.pilot.settings.standoff with
    | mk progress d =>
      rw [driveLeg_reported leg]
      cases progress with
      | arrived =>
        dsimp only
        rw [reported_pilot, show (d.reported o raw).belief.settings = d.belief.settings from rfl]
        split <;> rfl
      | offCourse | driving => rfl

theorem driveToCenter_reported : (c.reported o raw).driveToCenter = (·.reported o raw) <$> c.driveToCenter := by
  unfold driveToCenter
  rw [lostSide?_reported]
  split
  · rfl
  · rw [replan_reported, Functor.map_map, Functor.map_map]
    congr
    funext d
    exact driveToPassage_reported

theorem face_reported : (c.reported o raw).face = c.face.reported o raw := by
  unfold face
  rw [reported_pilot]
  split
  · rfl
  · next g _ =>
    rw [reported_pose]
    dsimp only
    rw [aligned_reported]
    split
    · rfl
    · split
      · rfl
      · split <;> rfl

/-! ### Around and through the gate -/

theorem finishDetour_reported : (c.reported o raw).finishDetour = (·.reported o raw) <$> c.finishDetour := by
  unfold finishDetour
  rw [show (c.reported o raw).withPilot ((c.reported o raw).pilot.survey (c.reported o raw).belief) =
    (c.withPilot (c.pilot.survey c.belief)).reported o raw from rfl, planPassage_reported, map_bind, bind_map_left]
  congr
  funext ⟨planned, d⟩
  dsimp only
  rw [reported_pilot]
  generalize he : (if (planned && !d.pilot.rightSide) = true then d.note .detourEndedBehind else d) = e
  have noted : (if (planned && !d.pilot.rightSide) = true then (d.reported o raw).note .detourEndedBehind
      else d.reported o raw) = e.reported o raw := by
    rw [← he]
    split <;> rfl
  rw [noted]
  simp only [reported_pilot, withPilot_reported, withPilot_pilot]
  split <;> rfl

theorem turnToFarPost_reported : (c.reported o raw).turnToFarPost = (·.reported o raw) <$> c.turnToFarPost := by
  unfold turnToFarPost
  rw [reported_pilot]
  split
  · exact finishDetour_reported
  · rw [turnToward_reported]; rfl

theorem driveToFarPost_reported : (c.reported o raw).driveToFarPost = (·.reported o raw) <$> c.driveToFarPost := by
  unfold driveToFarPost
  rw [reported_pilot]
  split
  · exact finishDetour_reported
  · next leg rest _ =>
    cases way : c.driveLeg leg c.pilot.settings.arrivalTolerance with
    | mk progress d =>
      rw [driveLeg_reported way]
      cases progress with
      | arrived =>
        dsimp only
        split
        · exact finishDetour_reported (c := d.withPilot { d.pilot with detour := rest })
        · rfl
      | offCourse | driving => rfl

theorem turnThrough_reported : (c.reported o raw).turnThrough = c.turnThrough.reported o raw := by
  unfold turnThrough
  rw [reported_pilot]
  split
  · rfl
  · exact turnToward_reported

theorem driveThrough_reported : (c.reported o raw).driveThrough = c.driveThrough.reported o raw := by
  unfold driveThrough
  rw [reported_pilot]
  split
  · rfl
  · next leg rest _ =>
    cases way : c.driveLeg leg c.pilot.settings.arrivalTolerance with
    | mk progress d =>
      rw [driveLeg_reported way]
      cases progress with
      | arrived => cases rest <;> rfl
      | offCourse | driving => rfl

/-! ### One cycle -/

theorem advance_reported {executed : Phase} :
    (c.reported o raw).advance executed = (·.reported o raw) <$> c.advance executed := by
  cases executed
  case spin => exact congrArg pure spin_reported
  case spinWait => exact congrArg pure spinWait_reported
  case turn => exact congrArg pure turn_reported
  case drive => exact drive_reported
  case turnToCenter => exact congrArg pure turnToCenter_reported
  case driveToCenter => exact driveToCenter_reported
  case face => exact congrArg pure face_reported
  case turnToFarPost => exact turnToFarPost_reported
  case driveToFarPost => exact driveToFarPost_reported
  case turnThrough => exact congrArg pure turnThrough_reported
  case driveThrough => exact congrArg pure driveThrough_reported
  all_goals rfl

theorem run_reported : (c.reported o raw).run = (·.reported o raw) <$> c.run := by
  have ended (executed next : Phase) (d : Cycle α) :
      (let e := if placesPosts executed then (d.reported o raw).record else d.reported o raw
        let e := if next = executed then e else e.note (.phaseChanged executed next)
        e.withPilot { e.pilot with phase := next }) =
      (let e := if placesPosts executed then d.record else d
        let e := if next = executed then e else e.note (.phaseChanged executed next)
        e.withPilot { e.pilot with phase := next }).reported o raw := by
    by_cases same : next = executed
    · simp only [if_pos same]
      cases placesPosts executed <;> rfl
    · simp only [if_neg same]
      cases placesPosts executed <;> rfl
  unfold run
  rw [reported_pilot]
  dsimp only
  rw [advance_reported, map_bind, bind_map_left]
  congr
  funext ⟨next, d⟩
  exact congrArg pure (ended c.pilot.phase next d)

end Cycle

/-- Other reports make no difference to a cycle of the pilot. -/
theorem Pilot.run_reported [Scalar α] [Trig α] {p : Pilot α} {pose : Pose α} {waypoint : Option (Waypoint α)}
    {b : Belief α} {o : Obstacle α} {raw : Sided (Sighting α)} :
    p.run pose waypoint (b.reported o raw) = (·.reported o raw) <$> p.run pose waypoint b :=
  Cycle.run_reported (c := p.atWork pose waypoint b)

end GateNav
