import GateNav.Proofs.Pilot.Logbook

/-!
# How often a search can try again

A search ends in vain when its agenda is empty, but search points around a post are put on it in the middle of the
search. They are laid out once for each id, so the points taken and those still left are no more than one agenda full
for the search area and one for each of these ids (`Pilot.Bounded`).

`Pilot.Schedules` says what one cycle does to the agenda.
-/

namespace GateNav
variable {α : Type}

namespace Agenda
variable {β : Type} {a b : Agenda β} {q : β}

theorem next_eq_some (h : a.next = (some q, b)) :
    a.points = q :: b.points ∧ b.capacity = a.capacity ∧ b.visited = a.visited + 1 := by
  unfold next at h
  split at h
  · cases h
  · next p rest points => cases h; exact ⟨points, rfl, rfl⟩

theorem remaining_putFirst_le (a : Agenda β) (points : List β) : (a.putFirst points).remaining ≤ a.capacity :=
  List.length_take_le _ _

theorem remaining_ofList_le (points : List β) (capacity : Nat) :
    (ofList points capacity).remaining ≤ (ofList points capacity).capacity :=
  List.length_take_le _ _

end Agenda

namespace Pilot

/-- What one cycle does to the agenda, and to the ids around which search points were laid out. -/
inductive Schedules [Scalar α] [Trig α] (b : Belief α) (p p' : Pilot α) : Prop
  | keep (agenda : p'.agenda = p.agenda) (ids : p'.searchedAround = p.searchedAround)
  | take {q : Pose α} (next : p.agenda.next = (some q, p'.agenda)) (ids : p'.searchedAround = p.searchedAround)
  /-- Points are laid out around a post that is held, for the first time around its id. -/
  | layOut {side : Side} {id : Int32} {center : Pose α} {points : List (Pose α)}
      (held : (b.tracker side).id? = some id) (new : id ∉ p.searchedAround)
      (ids : p'.searchedAround = p.searchedAround ++ [id])
      (layout : searchPoints p.pattern p.settings.spacing p.area center = .ok points)
      (agenda : p'.agenda = p.agenda.putFirst points)

/-- The points taken and those left are no more than one full agenda for the area and one for each id. -/
structure Bounded (p : Pilot α) : Prop where
  nodup : p.searchedAround.Nodup
  room : p.agenda.remaining ≤ p.agenda.capacity
  budget : p.agenda.visited + p.agenda.remaining ≤ (1 + p.searchedAround.length) * p.agenda.capacity

end Pilot

namespace Cycle
variable [Scalar α] [Trig α] {c : Cycle α} {executed next : Phase} {p q : Pilot α} {b : Belief α} {pose : Pose α}

theorem Searches.schedules (h : c.Searches executed next q b) : Pilot.Schedules c.belief c.pilot q := by
  cases h
  case takePoint next => exact .take next rfl
  case driveToPost move =>
    cases move with
    | lose | reachAgain | stray | drive => exact .keep Pilot.survey_agenda Pilot.survey_searchedAround
    | reach location held near new layout =>
      simp only [Pilot.survey_searchedAround, Pilot.survey_pattern, Pilot.survey_settings, Pilot.survey_area,
        Pilot.survey_agenda] at new layout ⊢
      exact .layOut held new rfl layout rfl
  all_goals exact .keep rfl rfl

theorem Nears.keeps_agenda (h : c.Nears executed next q b) :
    q.agenda = c.pilot.agenda ∧ q.searchedAround = c.pilot.searchedAround := by
  cases h
  case driveUp plan move =>
    cases plan with
    | anew => cases move <;> exact ⟨Pilot.adopt_agenda, Pilot.adopt_searchedAround⟩
    | leave => cases move <;> exact ⟨rfl, rfl⟩
  all_goals exact ⟨rfl, rfl⟩

theorem Finishes.keeps_agenda {waypoint : Option (Waypoint α)} (h : Finishes pose waypoint b p next q) :
    q.agenda = p.agenda ∧ q.searchedAround = p.searchedAround := by
  cases h <;> simp

theorem Passes.keeps_agenda (h : c.Passes executed next q b) :
    q.agenda = c.pilot.agenda ∧ q.searchedAround = c.pilot.searchedAround := by
  cases h
  case endTurning finish | endDriving finish | reachEnd finish => exact finish.keeps_agenda
  all_goals exact ⟨rfl, rfl⟩

theorem Advances.schedules (h : c.Advances executed next q b) : Pilot.Schedules c.belief c.pilot q := by
  cases h with
  | searches h => exact h.schedules
  | nears h => exact .keep h.keeps_agenda.1 h.keeps_agenda.2
  | passes h => exact .keep h.keeps_agenda.1 h.keeps_agenda.2
  | idle => exact .keep rfl rfl

end Cycle

namespace Pilot
variable [Scalar α] [Trig α] {p p' : Pilot α} {v : View α} {b : Belief α}

theorem schedules_of_shown (h : p.shown v = .ok p') : Schedules v.belief p p' := by
  obtain ⟨next, q, b, hq, rfl⟩ := of_shown h
  cases hq.schedules with
  | keep agenda ids => exact .keep (moved_agenda.trans agenda) (moved_searchedAround.trans ids)
  | take next ids => exact .take (by rw [moved_agenda]; exact next) (moved_searchedAround.trans ids)
  | layOut held new ids layout agenda =>
    exact .layOut held new (moved_searchedAround.trans ids) layout (moved_agenda.trans agenda)

theorem Schedules.capacity (h : Schedules b p p') : p'.agenda.capacity = p.agenda.capacity := by
  cases h with
  | keep agenda => rw [agenda]
  | take next => exact (Agenda.next_eq_some next).2.1
  | layOut _ _ _ _ agenda => rw [agenda]; rfl

/-- A point taken moves from those left to those taken, and a new layout is paid for by its id. -/
theorem Schedules.bounded (h : Schedules b p p') (bounded : p.Bounded) : p'.Bounded := by
  obtain ⟨nodup, room, budget⟩ := bounded
  cases h with
  | keep agenda ids => exact ⟨by rwa [ids], by rwa [agenda], by rwa [agenda, ids]⟩
  | take next ids =>
    obtain ⟨points, capacity, visited⟩ := Agenda.next_eq_some next
    unfold Agenda.remaining at room budget
    rw [points, List.length_cons] at room budget
    refine ⟨by rwa [ids], ?_, ?_⟩ <;> unfold Agenda.remaining
    · omega
    · rw [ids, capacity, visited]; omega
  | @layOut side id center points held new ids layout agenda =>
    have few := p.agenda.remaining_putFirst_le points
    refine ⟨?_, by rwa [agenda], ?_⟩
    · rw [ids]
      refine List.nodup_append.2 ⟨nodup, by simp, fun x hx y hy same => ?_⟩
      rw [same, List.mem_singleton.1 hy] at hx
      exact new hx
    · rw [ids, agenda, List.length_append, List.length_singleton, ← Nat.add_assoc, Nat.succ_mul]
      exact Nat.add_le_add (Nat.le_trans (Nat.le_add_right _ _) budget) few

theorem bounded_of_start {settings : TraverseSettings α} {area : Waypoint α} (h : start settings area = .ok p) :
    p.Bounded := by
  obtain ⟨points, -, rfl⟩ := of_start h
  have few := Agenda.remaining_ofList_le points settings.maxPoints
  exact ⟨List.nodup_nil, few, by simpa [Agenda.ofList] using few⟩

end Pilot

/-! ### Points taken -/

/-- The event is that a search point is taken from the agenda. -/
def Event.takesPoint : Event α → Bool
  | .searchPointTaken _ => true
  | _ => false

namespace Cycle

/-- How many search points were taken in this cycle, less all that were taken. No move changes it. -/
def credit (c : Cycle α) : Int := c.events.countP (·.takesPoint) - c.pilot.agenda.visited

theorem credit_note {c : Cycle α} {e : Event α} (h : e.takesPoint = false) : (c.note e).credit = c.credit := by
  simp [credit, note, h]

theorem credit_withPilot {c : Cycle α} {p : Pilot α} (h : p.agenda = c.pilot.agenda) :
    (c.withPilot p).credit = c.credit := by
  simp [credit, withPilot, h]

theorem credit_losePost {c : Cycle α} {side : Side} : (c.losePost side).cycle.credit = c.credit :=
  credit_note (c := c) (e := .postLost side c.pilot.phase) rfl

theorem credit_traversed {c : Cycle α} : c.traversed.cycle.credit = c.credit :=
  credit_note (c := c) (e := .gateTraversed c.pilot.center?) rfl

theorem credit_nextSearchPoint {c : Cycle α} : c.nextSearchPoint.cycle.credit = c.credit := by
  unfold nextSearchPoint
  dsimp only
  split
  · next point agenda next =>
    have visited : agenda.visited = c.pilot.agenda.visited + 1 := (Agenda.next_eq_some next).2.2
    have taken : (.searchPointTaken agenda.remaining : Event α).takesPoint = true := rfl
    simp only [credit, goTo, note, withPilot, hold, steer, List.countP_append, List.countP_singleton, taken, if_true]
    omega
  · next agenda next =>
    have same : agenda = c.pilot.agenda := by
      unfold Agenda.next at next; split at next <;> cases next; rfl
    subst same
    exact credit_note (c := c) rfl

section Credit
variable [Scalar α] [Trig α] {c d : Cycle α} {m : Move α}

theorem credit_spin : c.spin.cycle.credit = c.credit := by
  unfold spin
  split
  · rfl
  · dsimp only
    generalize hd : (if c.pilot.sweep.isSome = true then c else c.note (.sweepStarted c.sweepOrigin)) = d
    have kept : d.credit = c.credit := by
      subst hd; split
      · rfl
      · exact credit_note rfl
    rw [← kept]
    split
    · exact credit_nextSearchPoint.trans (credit_note (c := d.withPilot { d.pilot with sweep := none }) rfl)
    · rfl

theorem credit_spinWait : c.spinWait.cycle.credit = c.credit := by
  unfold spinWait
  dsimp only
  split
  · exact credit_note (c := c.hold) rfl
  · split
    · rfl
    · split
      · rfl
      · exact credit_note (c := c.hold) rfl

theorem credit_turnToward {q : Pose α} {whenAligned otherwise : Phase} :
    (c.turnToward q whenAligned otherwise).cycle.credit = c.credit := by
  unfold turnToward
  dsimp only
  split <;> rfl

theorem credit_turn : c.turn.cycle.credit = c.credit := by
  unfold turn
  split
  · split
    · exact credit_turnToward
    · exact credit_losePost
  · split
    · rfl
    · exact credit_turnToward
  · rfl

theorem credit_driveLeg {q : Pose α} {radius : α} {progress : Progress}
    (h : c.driveLeg q radius = (progress, d)) : d.credit = c.credit := by
  cases progress with
  | arrived => obtain ⟨-, rfl⟩ := of_driveLeg_arrived h; rfl
  | offCourse => obtain ⟨-, -, rfl⟩ := of_driveLeg_offCourse h; rfl
  | driving => obtain ⟨-, -, rfl⟩ := of_driveLeg_driving h; rfl

theorem credit_planPassage {planned : Bool} (h : c.planPassage = .ok (planned, d)) : d.credit = c.credit := by
  obtain ⟨draft, -, hd⟩ := Checked.bind_eq_ok.1 h
  rw [Checked.pure_eq_ok, Prod.mk.injEq] at hd
  rw [← hd.2]; exact credit_withPilot Pilot.adopt_agenda

theorem credit_locate {located : Bool} (h : c.locate = .ok (located, d)) : d.credit = c.credit := by
  rcases locate_eq_ok h with ⟨-, -, g, -, rfl⟩ | ⟨-, -, rfl⟩
  · exact credit_withPilot Pilot.adopt_agenda
  · exact credit_withPilot Pilot.survey_agenda

theorem credit_headForGate : c.headForGate.cycle.credit = c.credit := by
  rw [← credit_note (c := c) (e := .gateLocated c.pilot.center? c.pilot.rightSide) rfl]
  unfold headForGate
  dsimp only
  split <;> rfl

theorem credit_searchAround {id : Option Int32} {q : Pose α} (h : c.searchAround id q = .ok d) :
    d.credit = c.credit := by
  unfold searchAround at h
  split at h
  · cases h; rfl
  · obtain ⟨points, -, h⟩ := Checked.bind_eq_ok.1 h
    cases h
    exact credit_note (c := c) (e := .searchAroundPost id points.length) rfl

theorem credit_approachPost {side : Side} (h : c.approachPost side = .ok m) : m.cycle.credit = c.credit := by
  unfold approachPost at h
  dsimp only at h
  split at h
  · split at h
    · next d leg =>
      obtain ⟨e, he, rfl⟩ := Checked.map_eq_ok.1 h
      exact (credit_searchAround he).trans (credit_driveLeg leg :)
    · next d leg => cases h; exact (credit_driveLeg leg :)
    · next d leg => cases h; exact (credit_driveLeg leg :)
  · cases h; exact credit_losePost

theorem credit_driveToPost {side : Side} (h : c.driveToPost side = .ok m) : m.cycle.credit = c.credit := by
  obtain ⟨⟨located, d⟩, hd, h⟩ := Checked.bind_eq_ok.1 h
  rw [← credit_locate hd]
  dsimp only at h
  split at h
  · cases h; exact credit_headForGate
  · exact credit_approachPost h

theorem credit_driveToSearchPoint {q : Pose α} : (c.driveToSearchPoint q).cycle.credit = c.credit := by
  unfold driveToSearchPoint
  split
  · rfl
  · split
    · next d leg => exact (credit_note (c := d) rfl).trans (credit_driveLeg leg)
    · next d leg => exact (credit_driveLeg leg :)
    · next d leg => exact (credit_driveLeg leg :)

theorem credit_drive (h : c.drive = .ok m) : m.cycle.credit = c.credit := by
  unfold drive at h
  split at h
  · exact credit_driveToPost h
  · cases h; exact credit_driveToSearchPoint
  · cases h; rfl

theorem credit_turnToCenter : c.turnToCenter.cycle.credit = c.credit := by
  unfold turnToCenter
  split
  · exact credit_losePost
  · rfl
  · exact credit_turnToward

theorem credit_driveToPassage : c.driveToPassage.cycle.credit = c.credit := by
  unfold driveToPassage
  split
  · rfl
  · split
    · next d leg => split <;> exact (credit_driveLeg leg :)
    · next d leg => exact (credit_driveLeg leg :)
    · next d leg => exact (credit_driveLeg leg :)

theorem credit_driveToCenter (h : c.driveToCenter = .ok m) : m.cycle.credit = c.credit := by
  unfold driveToCenter at h
  split at h
  · cases h; exact credit_losePost
  · obtain ⟨d, hd, rfl⟩ := Checked.map_eq_ok.1 h
    rw [credit_driveToPassage]
    unfold replan at hd
    split at hd
    · obtain ⟨⟨planned, d⟩, plan, rfl⟩ := Checked.map_eq_ok.1 hd
      exact (credit_planPassage plan :)
    · cases hd; rfl

theorem credit_face : c.face.cycle.credit = c.credit := by
  unfold face
  split
  · rfl
  · dsimp only
    split
    · rfl
    · split
      · rfl
      · split
        · rfl
        · exact credit_note (c := c) rfl

theorem credit_finishDetour (h : c.finishDetour = .ok m) : m.cycle.credit = c.credit := by
  obtain ⟨⟨planned, d⟩, hd, h⟩ := Checked.bind_eq_ok.1 h
  have kept : d.credit = c.credit := (credit_planPassage hd).trans (credit_withPilot Pilot.survey_agenda)
  rw [← kept]
  dsimp only at h
  generalize he : (if (planned && !d.pilot.rightSide) = true then d.note .detourEndedBehind else d) = e at h
  have noted : e.credit = d.credit := by
    subst he; split
    · exact credit_note rfl
    · rfl
  rw [← noted]
  split at h <;> (cases h; rfl)

theorem credit_turnToFarPost (h : c.turnToFarPost = .ok m) : m.cycle.credit = c.credit := by
  unfold turnToFarPost at h
  split at h
  · exact credit_finishDetour h
  · cases h; exact credit_turnToward

theorem credit_driveToFarPost (h : c.driveToFarPost = .ok m) : m.cycle.credit = c.credit := by
  unfold driveToFarPost at h
  split at h
  · exact credit_finishDetour h
  · split at h
    · next d leg =>
      rw [← credit_driveLeg leg]
      dsimp only at h
      split at h
      · exact (credit_finishDetour h :)
      · cases h; rfl
    · next d leg => cases h; exact (credit_driveLeg leg :)
    · next d leg => cases h; exact (credit_driveLeg leg :)

theorem credit_turnThrough : c.turnThrough.cycle.credit = c.credit := by
  unfold turnThrough
  split
  · exact credit_traversed
  · exact credit_turnToward

theorem credit_driveThrough : c.driveThrough.cycle.credit = c.credit := by
  unfold driveThrough
  split
  · exact credit_traversed
  · split
    · next d leg =>
      rw [← credit_driveLeg leg]
      dsimp only
      split
      · exact credit_traversed
      · rfl
    · next d leg => exact (credit_driveLeg leg :)
    · next d leg => exact (credit_driveLeg leg :)

theorem credit_advance {executed : Phase} (h : c.advance executed = .ok m) : m.cycle.credit = c.credit := by
  cases executed
  case spin => cases h; exact credit_spin
  case spinWait => cases h; exact credit_spinWait
  case turn => cases h; exact credit_turn
  case drive => exact credit_drive h
  case turnToCenter => cases h; exact credit_turnToCenter
  case driveToCenter => exact credit_driveToCenter h
  case face => cases h; exact credit_face
  case turnToFarPost => exact credit_turnToFarPost h
  case driveToFarPost => exact credit_driveToFarPost h
  case turnThrough => cases h; exact credit_turnThrough
  case driveThrough => cases h; exact credit_driveThrough
  all_goals cases h; rfl

theorem credit_run (h : c.run = .ok d) : d.credit = c.credit := by
  obtain ⟨m, hm, h⟩ := Checked.bind_eq_ok.1 h
  rw [← credit_advance hm]
  cases h
  split <;> split <;> first | rfl | exact credit_note rfl

end Credit

end Cycle

/-- Every search point taken in a cycle is noted as an event. -/
theorem Pilot.taken_of_run [Scalar α] [Trig α] {p : Pilot α} {v : View α} {c : Cycle α}
    (h : p.run v.pose v.waypoint v.belief = .ok c) :
    c.events.countP (·.takesPoint) + p.agenda.visited = c.pilot.agenda.visited := by
  have kept : c.credit = (v.cycle p).credit := Cycle.credit_run h
  simp only [Cycle.credit, View.cycle, Pilot.atWork, List.countP_nil] at kept
  omega

namespace Logbook
variable [Scalar α] [Trig α] [Numeral α] (L : Logbook α) {i : Nat}

/-- However long a search goes on, search points are laid out around each id once, and the agenda never runs over. -/
theorem bounded (hi : i ≤ L.length) : (L.pilot i).Bounded :=
  L.invariant (Pilot.bounded_of_start L.starts) (fun h => (Pilot.schedules_of_shown h).bounded) hi

end Logbook

end GateNav
