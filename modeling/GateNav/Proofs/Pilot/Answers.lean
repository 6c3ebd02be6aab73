import GateNav.Proofs.Pilot.Learning
import GateNav.Proofs.Search.Layout

/-!
# The pilot always answers

A cycle halts in two ways only: it cannot be said of a post that is known or held whether it is on the gate that is
shown, or the search points around a post do not fit. The points of a pattern fit around any center if they fit around
one, so a pilot that was built answers to every view that names no such post (`Pilot.exists_run`). A numbered view never
does (`Logbook.exists_shown`), and any numbered views make a logbook (`Logbook.ofViews`).
-/

namespace GateNav
variable {α : Type} [Scalar α] [Trig α]

/-- The points of the pattern of this pilot fit around every center. -/
def Pilot.LaysOut (p : Pilot α) : Prop :=
  ∀ (center : Pose α) spacing, ∃ points, p.pattern.points center spacing = .ok points

theorem Cycle.exists_leftHandFirst {α : Type} {waypoint : Option (Waypoint α)} {a b : KnownPost α}
    (ha : Answerable waypoint a.id) (hb : Answerable waypoint b.id) :
    ∃ first, leftHandFirst waypoint a b = .ok first := by
  unfold leftHandFirst
  cases waypoint with
  | none => exact ⟨_, rfl⟩
  | some w =>
    dsimp only
    split
    · exact ⟨_, rfl⟩
    · refine Checked.bind_exists (ha w rfl) fun _ => ?_
      split
      · exact Checked.bind_exists (hb w rfl) fun _ => ⟨_, rfl⟩
      · exact ⟨_, rfl⟩

/-- Of every post known to the pilot or held by the belief it can be said whether it is on the gate that is shown. -/
structure Cycle.Answered {α : Type} (c : Cycle α) : Prop where
  known : c.pilot.Names (Answerable c.waypoint)
  held : c.belief.Names (Answerable c.waypoint)

namespace Cycle
variable {c : Cycle α} {waypoint : Option (Waypoint α)} {p : Pilot α}

theorem exists_draft? (known : p.Names (Answerable waypoint)) : ∃ draft, draft? waypoint p = .ok draft := by
  unfold draft?
  split
  · next a b left right =>
    have ha : Answerable waypoint a.id := known .left a left
    have hb : Answerable waypoint b.id := known .right b right
    exact Checked.bind_exists (exists_leftHandFirst ha hb) fun _ => ⟨_, rfl⟩
  · exact ⟨_, rfl⟩

theorem exists_planPassage (known : c.pilot.Names (Answerable c.waypoint)) : ∃ planned, c.planPassage = .ok planned :=
  Checked.bind_exists (exists_draft? known) fun _ => ⟨_, rfl⟩

/-- The same once the posts that can be placed are remembered. -/
theorem Answered.exists_record (h : c.Answered) : ∃ planned, c.record.planPassage = .ok planned :=
  exists_planPassage (Pilot.learns_trust.names h.known h.held)

theorem exists_searchAround (layout : c.pilot.LaysOut) (id : Option Int32) (q : Pose α) :
    ∃ d, c.searchAround id q = .ok d := by
  unfold searchAround
  split
  · exact ⟨_, rfl⟩
  · refine Checked.bind_exists ?_ fun _ => ⟨_, rfl⟩
    exact Checked.bind_exists (layout q _) fun _ => ⟨_, rfl⟩

theorem exists_approachPost (layout : c.pilot.LaysOut) (side : Side) : ∃ m, c.approachPost side = .ok m := by
  unfold approachPost
  dsimp only
  split
  · next q _ _ =>
    split
    · next d arrived =>
      obtain ⟨-, rfl⟩ := of_driveLeg_arrived arrived
      refine Checked.map_exists _ (exists_searchAround ?_ _ q)
      exact layout
    · exact ⟨_, rfl⟩
    · exact ⟨_, rfl⟩
  · exact ⟨_, rfl⟩

theorem exists_driveToPost (answered : c.Answered) (layout : c.pilot.LaysOut) (side : Side) :
    ∃ m, c.driveToPost side = .ok m := by
  obtain ⟨⟨located, d⟩, hd⟩ : ∃ planned, c.locate = .ok planned := by
    unfold locate
    split
    · exact answered.exists_record
    · exact ⟨_, rfl⟩
  unfold driveToPost
  rw [hd]
  rcases locate_eq_ok hd with ⟨rfl, -⟩ | ⟨rfl, -, rfl⟩
  · exact ⟨_, rfl⟩
  · refine exists_approachPost ?_ side
    unfold withPilot Pilot.LaysOut
    rwa [Pilot.survey_pattern]

theorem exists_drive (answered : c.Answered) (layout : c.pilot.LaysOut) : ∃ m, c.drive = .ok m := by
  unfold drive
  split
  · exact exists_driveToPost answered layout _
  · exact ⟨_, rfl⟩
  · exact ⟨_, rfl⟩

theorem exists_driveToCenter (answered : c.Answered) : ∃ m, c.driveToCenter = .ok m := by
  unfold driveToCenter
  split
  · exact ⟨_, rfl⟩
  · refine Checked.map_exists _ ?_
    unfold replan
    split
    · exact Checked.map_exists _ answered.exists_record
    · exact ⟨_, rfl⟩

theorem exists_finishDetour (answered : c.Answered) : ∃ m, c.finishDetour = .ok m := by
  have known : (c.pilot.survey c.belief).Names (Answerable c.waypoint) :=
    Pilot.learns_survey.names answered.known answered.held
  refine Checked.bind_exists (exists_planPassage known) fun ⟨_, _⟩ => ?_
  dsimp only
  split <;> split <;> exact ⟨_, rfl⟩

theorem exists_turnToFarPost (answered : c.Answered) : ∃ m, c.turnToFarPost = .ok m := by
  unfold turnToFarPost
  split
  · exact exists_finishDetour answered
  · exact ⟨_, rfl⟩

theorem exists_driveToFarPost (answered : c.Answered) : ∃ m, c.driveToFarPost = .ok m := by
  unfold driveToFarPost
  split
  · exact exists_finishDetour answered
  · split
    · next d arrived =>
      obtain ⟨-, rfl⟩ := of_driveLeg_arrived arrived
      split
      · exact exists_finishDetour ⟨answered.known, answered.held⟩
      · exact ⟨_, rfl⟩
    · exact ⟨_, rfl⟩
    · exact ⟨_, rfl⟩

/-- Every phase has a move. -/
theorem exists_advance (answered : c.Answered) (layout : c.pilot.LaysOut) (executed : Phase) :
    ∃ m, c.advance executed = .ok m := by
  cases executed
  case drive => exact exists_drive answered layout
  case driveToCenter => exact exists_driveToCenter answered
  case turnToFarPost => exact exists_turnToFarPost answered
  case driveToFarPost => exact exists_driveToFarPost answered
  all_goals exact ⟨_, rfl⟩

end Cycle

namespace Pilot
variable {p p' : Pilot α} {v : View α}

/-- A pilot whose search points fit answers to every view in which all ids are answered for. -/
theorem exists_run {pose : Pose α} {waypoint : Option (Waypoint α)} {b : Belief α}
    (known : p.Names (Answerable waypoint)) (held : b.Names (Answerable waypoint)) (layout : p.LaysOut) :
    ∃ c, p.run pose waypoint b = .ok c := by
  have answered : (p.atWork pose waypoint b).Answered := ⟨known, held⟩
  exact Checked.bind_exists (Cycle.exists_advance answered layout _) fun _ => ⟨_, rfl⟩

theorem exists_shown (numbered : v.Numbered) (layout : p.LaysOut) : ∃ q, p.shown v = .ok q := by
  have answers := answerable_of_numbered numbered
  exact Checked.map_exists _ (exists_run (fun _ _ _ => answers _) (fun _ _ _ => answers _) layout)

theorem laysOut_of_start {settings : TraverseSettings α} {area : Waypoint α} (h : start settings area = .ok p) :
    p.LaysOut := by
  obtain ⟨points, layout, rfl⟩ := of_start h
  obtain ⟨all, hall, -⟩ := Checked.bind_eq_ok.1 layout
  exact Pattern.exists_points hall

theorem laysOut_of_shown (h : p.shown v = .ok p') (layout : p.LaysOut) : p'.LaysOut := by
  unfold LaysOut
  rwa [show p'.pattern = p.pattern from congrArg (·.2.1) (orders_of_shown h)]

theorem laysOut_after {view : Nat → View α} (layout : p.LaysOut) (numbered : ∀ i, (view i).Numbered) (i : Nat) :
    (p.after view i).LaysOut := by
  induction i with
  | zero => exact layout
  | succ i ih =>
    obtain ⟨q, hq⟩ := exists_shown (numbered i) ih
    rw [after_succ hq]
    exact laysOut_of_shown hq ih

end Pilot

namespace Logbook
variable [Numeral α] (L : Logbook α)

/-- After any search so far there is an answer to the next numbered view. -/
theorem exists_shown {i : Nat} (hi : i ≤ L.length) {v : View α} (numbered : v.Numbered) :
    ∃ p, (L.pilot i).shown v = .ok p :=
  Pilot.exists_shown numbered (L.invariant (Pilot.laysOut_of_start L.starts) Pilot.laysOut_of_shown hi)

/-- The logbook of so many numbered views that are shown to a pilot, one after the other. -/
def ofViews (settings : TraverseSettings α) (area : Waypoint α) (p : Pilot α)
    (begins : ∃ events, Pilot.build settings area = .ok (.ok ⟨p, events⟩)) (view : Nat → View α)
    (numbered : ∀ i, (view i).Numbered) (length : Nat) : Logbook α where
  settings := settings
  area := area
  view := view
  pilot := p.after view
  length := length
  begins := begins
  step i _ := by
    obtain ⟨events, h⟩ := begins
    have layout := Pilot.laysOut_after (Pilot.laysOut_of_start (Pilot.of_build h).2) numbered i
    obtain ⟨q, hq⟩ := Pilot.exists_shown (numbered i) layout
    rw [hq, Pilot.after_succ hq]

end Logbook

end GateNav
