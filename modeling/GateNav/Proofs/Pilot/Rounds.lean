import GateNav.Proofs.Pilot.Effort

/-!
# Searches that go around

With all learned of a gate that has no passage (`Cycle.Blocked`) a search only goes one way: it stops to look at the
gate, turns to the post that is chosen, drives to it and looks around there (`Cycle.Round`). Where the rover is not
aligned with that post it ends in turning to it, and where the post is out of reach it ends in driving to it. Where it
is aligned and the post is in its reach, it goes around without end.
-/

namespace GateNav
variable {α : Type}

/-- The next phase of a search that goes around. -/
def Phase.onward : Phase → Phase
  | .spin => .spinWait
  | .spinWait => .turn
  | .turn => .drive
  | _ => .spin

namespace Cycle
variable [Scalar α]

theorem pickSide?_congr {c d : Cycle α} (belief : d.belief = c.belief) (known : d.pilot.known = c.pilot.known) :
    d.pickSide? = c.pickSide? := by
  have isKnown : d.pilot.isKnown = c.pilot.isKnown := by
    funext id
    simp only [Pilot.isKnown, Pilot.knownPosts, known]
  have compared : comparePosts d.pilot = comparePosts c.pilot := by
    unfold comparePosts
    rw [isKnown]
  unfold pickSide?
  rw [belief, compared]

variable [Trig α]

/-- All is learned of a gate that has no passage. -/
structure Blocked (c : Cycle α) : Prop where
  sure : c.Sure
  unplannable : c.Unplannable

/-- The place of a phase in the round to the post on that side, which is at `x`. -/
inductive Place (c : Cycle α) (side : Side) (x : Pose α) : Phase → Prop
  | look : Place c side x .spin
  | wait : Place c side x .spinWait
  | turn (goal : c.pilot.goal = some (.post side)) (aim : c.pilot.aim = some x) : Place c side x .turn
  | drive (goal : c.pilot.goal = some (.post side)) (aim : c.pilot.aim = some x)
      (aligned : c.aligned (c.pose.bearingTo x) = true) : Place c side x .drive

/-- The search is on its round, to the post on that side and back to looking around. -/
structure Round (c : Cycle α) (side : Side) (x : Pose α) : Prop where
  blocked : c.Blocked
  pick : c.pickSide? = some side
  location : (c.belief.tracker side).location = some x
  place : c.Place side x c.pilot.phase

/-- The rover is aligned with the post at `x`, and within its reach. -/
def Faces (c : Cycle α) (x : Pose α) : Prop :=
  c.aligned (c.pose.bearingTo x) = true ∧ c.pose.distanceTo x ≤ c.pilot.settings.approachDistance

variable {c d : Cycle α} {executed next : Phase} {p q : Pilot α} {b : Belief α} {side : Side} {x : Pose α}

theorem Place.searching (h : c.Place side x executed) : executed.Searching := by
  cases h <;> decide

theorem Blocked.hasGate (h : c.Blocked) : c.belief.hasGate = true := (Bool.and_eq_true_iff.1 h.sure.2).1

theorem Blocked.settled (h : c.Blocked) : c.belief.settled = true := (Bool.and_eq_true_iff.1 h.sure.2).2

theorem Blocked.worth (h : c.Blocked) : c.worthInspecting = true := by
  rw [worthInspecting, h.hasGate]; rfl

theorem Blocked.held (h : c.Blocked) (side : Side) : (c.belief.tracker side).hasPost = true :=
  Belief.hasPost_of_hasGate h.hasGate side

theorem Blocked.exists_pick (h : c.Blocked) : ∃ side, c.pickSide? = some side := by
  refine Option.ne_none_iff_exists'.1 fun none_held => ?_
  have gone := not_hasPost_of_pickSide? none_held .left
  rw [h.held .left] at gone
  cases gone

/-- With all learned, all there is to learn stays as it is. -/
theorem Searches.blocked (h : c.Searches executed next q b) (hd : d = c.again executed next q b)
    (blocked : c.Blocked) : d.Blocked ∧ d.belief = c.belief ∧ d.pilot.known = c.pilot.known := by
  rcases h.ignorance with learns | steady
  · rw [blocked.sure.1] at learns; cases learns
  rw [← hd] at steady
  have known := steady.known (by rw [blocked.sure.1]; decide)
  have trusted : (d.pilot.trust c.belief.forgive).known = (c.pilot.trust c.belief.forgive).known := by
    simp only [Pilot.trust, known]
  refine ⟨⟨steady.sure.2 blocked.sure, ?_⟩, steady.belief, known⟩
  have settings : (d.pilot.trust c.belief.forgive).settings = (c.pilot.trust c.belief.forgive).settings :=
    settings_again hd (congrArg (·.1) h.orders)
  have waypoint : d.waypoint = c.waypoint := by rw [hd]; rfl
  rw [Unplannable, steady.belief, waypoint, draft?_congr trusted settings]
  exact blocked.unplannable

/-! ### The four phases of a round -/

theorem Searches.looks (h : c.Searches .spin next q b) (blocked : c.Blocked) : next = .spinWait := by
  cases h with
  | inspect => rfl
  | sweep dull | takePoint dull | runOut dull => rw [blocked.worth] at dull; cases dull

theorem Searches.chooses (h : c.Searches .spinWait next q b) (blocked : c.Blocked) (pick : c.pickSide? = some side)
    (location : (c.belief.tracker side).location = some x) :
    next = .turn ∧ q.goal = some (.post side) ∧ q.aim = some x := by
  cases h with
  | vanish gone => rw [pick] at gone; cases gone
  | wait pick' unready =>
    cases pick.symm.trans pick'
    rcases unready with unsettled | nowhere
    · rw [blocked.settled] at unsettled; cases unsettled
    · rw [location] at nowhere; cases nowhere
  | approach pick' _ location' =>
    cases pick.symm.trans pick'
    exact ⟨rfl, rfl, location'.symm.trans location⟩

theorem Searches.turns (h : c.Searches .turn next q b) (blocked : c.Blocked) (goal : c.pilot.goal = some (.post side))
    (aim : c.pilot.aim = some x) :
    (next = if c.aligned (c.pose.bearingTo x) = true then .drive else .turn) ∧ q.goal = some (.post side) ∧
      q.aim = some x := by
  cases h with
  | loseAim goal' lost =>
    rcases lost with gone | nowhere
    · rw [blocked.held] at gone; cases gone
    · rw [aim] at nowhere; cases nowhere
  | facePost _ _ aim' aligned =>
    cases aim.symm.trans aim'
    rw [if_pos aligned]
    exact ⟨rfl, goal, aim⟩
  | turnToPost _ _ aim' aligned =>
    cases aim.symm.trans aim'
    rw [aligned]
    exact ⟨rfl, goal, aim⟩
  | inspectTurning goal' | facePoint goal' | turnToPoint goal' | turnNowhere goal' =>
    cases goal.symm.trans goal'

theorem Searches.drives [Scalar.Ordered α] (h : c.Searches .drive next q b) (blocked : c.Blocked) (sound : c.Sound)
    (goal : c.pilot.goal = some (.post side)) (location : (c.belief.tracker side).location = some x)
    (aligned : c.aligned (c.pose.bearingTo x) = true) :
    c.pose.distanceTo x ≤ c.pilot.settings.approachDistance ∧ next = .spin ∨
      ¬ c.pose.distanceTo x ≤ c.pilot.settings.approachDistance ∧ next = .drive ∧ q.goal = some (.post side) ∧
        q.aim = some x := by
  cases h with
  | locate _ _ draft =>
    -- The gate has no passage to be located by.
    have unplannable := blocked.unplannable
    rw [Unplannable, (ignorance_eq_zero.1 blocked.sure.1).1, draft] at unplannable
    cases unplannable
  | driveToPost goal' _ move =>
    cases goal.symm.trans goal'
    cases move with
    | lose lost =>
      rcases lost with nowhere | gone
      · rw [location] at nowhere; cases nowhere
      · rw [blocked.held] at gone; cases gone
    | reachAgain location' _ near | reach location' _ near =>
      cases location.symm.trans location'
      rw [Pilot.survey_settings] at near
      exact .inl ⟨near, rfl⟩
    | stray location' _ far off =>
      cases location.symm.trans location'
      rw [Pilot.survey_settings] at off
      rw [not_aligned_of_off sound.tolerances off] at aligned
      cases aligned
    | drive location' _ far =>
      cases location.symm.trans location'
      rw [Pilot.survey_settings] at far
      exact .inr ⟨far, rfl, Pilot.survey_goal.trans goal, rfl⟩
  | inspectDriving goal' | reachPoint goal' | strayFromPoint goal' | driveToPoint goal' | driveNowhere goal' =>
    cases goal.symm.trans goal'

/-! ### Round after round -/

/-- A search that looks around, with all learned of a gate without a passage, is on a round. -/
theorem Blocked.exists_round (h : c.Blocked) (sound : c.Sound) (phase : c.pilot.phase = .spin) :
    ∃ side x, c.Round side x := by
  obtain ⟨side, pick⟩ := h.exists_pick
  obtain ⟨x, location⟩ := Option.isSome_iff_exists.1 ((sound.placed side).trans (h.held side))
  exact ⟨side, x, h, pick, location, phase ▸ .look⟩

/-- The search stays on its round, and where the rover faces the post it goes on to the next phase. -/
theorem Round.step [Scalar.Ordered α] (r : c.Round side x) (h : c.Searches executed next q b)
    (hd : d = c.again executed next q b) (phase : c.pilot.phase = executed) (sound : c.Sound) :
    d.Round side x ∧ (c.Faces x → next = executed.onward) := by
  obtain ⟨blocked, belief, known⟩ := h.blocked hd r.blocked
  obtain ⟨phase', goal', aim', -⟩ := of_again hd
  have pick := (pickSide?_congr belief known).trans r.pick
  have location : (d.belief.tracker side).location = some x := by rw [belief]; exact r.location
  have round (place : d.Place side x next) : d.Round side x := ⟨blocked, pick, location, phase' ▸ place⟩
  have driving (goal : q.goal = some (.post side)) (aim : q.aim = some x)
      (aligned : c.aligned (c.pose.bearingTo x) = true) : d.Place side x .drive := by
    refine .drive (goal'.trans goal) (aim'.trans aim) ?_
    rw [aligned_again hd (congrArg (·.1) h.orders), show d.pose = c.pose by rw [hd]; rfl, aligned]
  have place := r.place
  rw [phase] at place
  cases place with
  | look =>
    obtain rfl := h.looks r.blocked
    exact ⟨round .wait, fun _ => rfl⟩
  | wait =>
    obtain ⟨rfl, goal, aim⟩ := h.chooses r.blocked r.pick r.location
    exact ⟨round (.turn (goal'.trans goal) (aim'.trans aim)), fun _ => rfl⟩
  | turn goal aim =>
    obtain ⟨turned, goal, aim⟩ := h.turns r.blocked goal aim
    split at turned
    · next aligned =>
      subst turned
      exact ⟨round (driving goal aim aligned), fun _ => rfl⟩
    · next astray =>
      subst turned
      exact ⟨round (.turn (goal'.trans goal) (aim'.trans aim)), fun faces => absurd faces.1 astray⟩
  | drive goal aim aligned =>
    rcases h.drives r.blocked sound goal r.location aligned with ⟨near, rfl⟩ | ⟨far, rfl, goal, aim⟩
    · exact ⟨round .look, fun _ => rfl⟩
    · exact ⟨round (driving goal aim aligned), fun faces => absurd faces.2 far⟩

/-- On its round a search is only cornered by the post that it goes to. -/
theorem Round.faces_of_cornered (r : c.Round side x) (cornered : c.Cornered) : c.Faces x := by
  obtain ⟨side', y, goal, ⟨-, z, location, near⟩, aim, location', aligned⟩ := cornered.facing
  have place := r.place
  rw [cornered.phase] at place
  cases place with
  | turn _ aim' =>
    cases aim.symm.trans aim'
    cases location'.symm.trans location
    exact ⟨aligned, near⟩

end Cycle
end GateNav
