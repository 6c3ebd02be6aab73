import GateNav.Proofs.Order
import GateNav.Proofs.Pilot.Knowledge
import GateNav.Proofs.Pilot.PhaseData
import GateNav.Proofs.Pilot.Retry

/-!
# What is left of a search

At a standstill the pilot is shown the same pose, waypoint and belief over and over (`Cycle.again`). Then a search soon
has nothing new to do: the misses are forgiven once, the posts are recorded once, search points are laid out once
around each post that is held, and those on the agenda are used up. `Cycle.effort` is what is left, in this order, and
in the last place how far the rover is from the end of its way to the next post or point (`Cycle.unrest`). No cycle of
a search adds to it, and one that changes the phase takes something away (`Cycle.Searches.effort`); but for one case:
the rover is about to drive to a post that is in its reach already, of a gate without a passage (`Cycle.Cornered`).
-/

namespace GateNav
variable {α : Type}

namespace Cycle

/-- The post held on that side has no search points laid out around it. -/
def fresh (c : Cycle α) (side : Side) : Bool :=
  (c.belief.tracker side).id?.any fun id => !c.pilot.searchedAround.contains id

/-- How many of the posts that are held have no search points laid out around them. -/
def unsearched (c : Cycle α) : Nat := (c.fresh .left).toNat + (c.fresh .right).toNat

theorem unsearched_lt {c d : Cycle α} {side : Side} {id : Int32} (belief : d.belief = c.belief)
    (held : (c.belief.tracker side).id? = some id) (new : id ∉ c.pilot.searchedAround)
    (ids : d.pilot.searchedAround = c.pilot.searchedAround ++ [id]) : d.unsearched < c.unsearched := by
  have before : c.fresh side = true := by simp [fresh, held, new]
  have after : d.fresh side = false := by simp [fresh, belief, held, ids]
  have fewer (other : Side) : (d.fresh other).toNat ≤ (c.fresh other).toNat := by
    cases h : c.fresh other with
    | true => exact Bool.toNat_le _
    | false =>
      simp only [fresh, belief, ids] at h ⊢
      cases hid : (c.belief.tracker other).id? <;> simp_all
  have left := fewer .left
  have right := fewer .right
  unfold unsearched
  cases side
  · simp only [before, after, Bool.toNat_true, Bool.toNat_false]; omega
  · simp only [before, after, Bool.toNat_true, Bool.toNat_false]; omega

theorem not_aligned_of_off [Scalar α] [Scalar.Ordered α] {c : Cycle α} {bearing : α}
    (tolerances : ¬ c.pilot.settings.offCourseTolerance < c.pilot.settings.turnTolerance)
    (off : c.pilot.settings.offCourseTolerance < Bearing.gap bearing c.pose.heading) : c.aligned bearing = false := by
  refine decide_eq_false fun within => tolerances ?_
  exact Scalar.Ordered.lt_of_lt_of_le off within

section Search
variable [Scalar α] [Trig α]

/-- The posts of a gate are in sight, but no passage leads between them. -/
def Unplannable (c : Cycle α) : Prop := draft? c.waypoint (c.pilot.trust c.belief.forgive) = .ok none

/-- The rover is within reach of the post on that side, of a gate without a passage. -/
def Stuck (c : Cycle α) (side : Side) : Prop :=
  c.Unplannable ∧ ∃ q ∈ (c.belief.tracker side).location, c.pose.distanceTo q ≤ c.pilot.settings.approachDistance

/-- The rover turns to a post that it faces and that is in its reach already, of a gate without a passage. -/
structure Cornered (c : Cycle α) : Prop where
  phase : c.pilot.phase = .turn
  sure : c.Sure
  facing : ∃ side q, c.pilot.goal = some (.post side) ∧ c.Stuck side ∧ c.pilot.aim = some q ∧
    (c.belief.tracker side).location = some q ∧ c.aligned (c.pose.bearingTo q) = true

/-- How much turning there is before the rover has driven off toward `goal`. -/
def swing (c : Cycle α) (goal : Option (Pose α)) : Nat :=
  if goal.any fun q => c.aligned (c.pose.bearingTo q) then 2 else 0

open Classical in
/-- How far the search is from the end of its way. The way from a stop leads to a post, if all is learned: then it ends
at the gate, or the rover turns to the post for good. Any other way leads back to looking around. -/
noncomputable def unrest (c : Cycle α) : Nat :=
  match c.pilot.phase, c.pilot.goal with
  | .spin, _ => 4
  | .spinWait, _ => if c.ignorance ≤ 1 ∧ c.worthInspecting = true then 3 else 9
  | .turn, some (.post side) =>
    if c.pilot.aim = (c.belief.tracker side).location then (if c.Sure then 0 else 5) + c.swing c.pilot.aim else 8
  | .turn, some (.searchPoint q) => 5 + c.swing (some q)
  | .drive, some (.post side) => if c.Sure ∧ ¬ c.Stuck side then 1 else 6
  | .drive, some (.searchPoint _) => 6
  | _, _ => 0

noncomputable def effort (c : Cycle α) : ℕ ×ₗ ℕ ×ₗ ℕ ×ₗ ℕ :=
  toLex (c.ignorance, toLex (c.unsearched, toLex (c.pilot.agenda.remaining, c.unrest)))

/-- What the cycles at a standstill rely on, and keep. -/
structure Sound (c : Cycle α) : Prop where
  ready : c.pilot.Ready c.pilot.phase
  tolerances : ¬ c.pilot.settings.offCourseTolerance < c.pilot.settings.turnTolerance
  placed : ∀ side, (c.belief.tracker side).location.isSome = (c.belief.tracker side).hasPost

variable {c : Cycle α} {executed next : Phase} {q : Pilot α} {b : Belief α} {pose : Pose α}

theorem swing_of_aligned {x : Pose α} (h : c.aligned (c.pose.bearingTo x) = true) : c.swing (some x) = 2 := by
  simp [swing, h]

theorem swing_of_not_aligned {x : Pose α} (h : c.aligned (c.pose.bearingTo x) = false) : c.swing (some x) = 0 := by
  simp [swing, h]

theorem swing_le (goal : Option (Pose α)) : c.swing goal ≤ 2 := by
  unfold swing; split <;> omega

/-! ### The way of a search -/

theorem unrest_of_spin (h : c.pilot.phase = .spin) : c.unrest = 4 := by
  unfold unrest; rw [h]

theorem unrest_of_spinWait (h : c.pilot.phase = .spinWait) :
    (c.ignorance ≤ 1 ∧ c.worthInspecting = true) ∧ c.unrest = 3 ∨
      ¬ (c.ignorance ≤ 1 ∧ c.worthInspecting = true) ∧ c.unrest = 9 := by
  unfold unrest
  rw [h]
  dsimp only
  split
  · next worth => exact .inl ⟨worth, rfl⟩
  · next dull => exact .inr ⟨dull, rfl⟩

theorem unrest_of_turn {side : Side} (h : c.pilot.phase = .turn) (goal : c.pilot.goal = some (.post side)) :
    c.pilot.aim = (c.belief.tracker side).location ∧ c.Sure ∧ c.unrest = c.swing c.pilot.aim ∨
      c.pilot.aim = (c.belief.tracker side).location ∧ ¬ c.Sure ∧ c.unrest = 5 + c.swing c.pilot.aim ∨
      c.pilot.aim ≠ (c.belief.tracker side).location ∧ c.unrest = 8 := by
  unfold unrest
  rw [h, goal]
  dsimp only
  split
  · next there =>
    split
    · next sure => exact .inl ⟨there, sure, Nat.zero_add _⟩
    · next unsure => exact .inr (.inl ⟨there, unsure, rfl⟩)
  · next astray => exact .inr (.inr ⟨astray, rfl⟩)

theorem unrest_of_drive {side : Side} (h : c.pilot.phase = .drive) (goal : c.pilot.goal = some (.post side)) :
    c.Sure ∧ ¬ c.Stuck side ∧ c.unrest = 1 ∨ ¬ (c.Sure ∧ ¬ c.Stuck side) ∧ c.unrest = 6 := by
  unfold unrest
  rw [h, goal]
  dsimp only
  split
  · next free => exact .inl ⟨free.1, free.2, rfl⟩
  · next tied => exact .inr ⟨tied, rfl⟩

theorem unrest_of_turn_point {x : Pose α} (h : c.pilot.phase = .turn) (goal : c.pilot.goal = some (.searchPoint x)) :
    c.unrest = 5 + c.swing (some x) := by
  unfold unrest; rw [h, goal]

theorem unrest_of_drive_point {x : Pose α} (h : c.pilot.phase = .drive)
    (goal : c.pilot.goal = some (.searchPoint x)) : c.unrest = 6 := by
  unfold unrest; rw [h, goal]

section Steps
variable {d : Cycle α}

/-- At a stop for something worth it, with the misses forgiven already. -/
theorem Steady.unrest_of_stop (h : c.Steady d executed) (stop : d.pilot.phase = .spinWait)
    (forgiven : d.belief = c.belief.forgive) (worth : c.worthInspecting = true) : d.unrest = 3 := by
  have few : c.ignorance ≤ 1 := ignorance_le_one.2 (forgiven.symm.trans h.belief)
  rcases unrest_of_spinWait stop with ⟨-, same⟩ | ⟨dull, -⟩
  · exact same
  · exact absurd ⟨h.ignorance.trans_le few, (h.worth few).trans worth⟩ dull

/-- The search has come closer to the end of its way, or it is still in the same phase and no further. -/
def Nearer (c d : Cycle α) : Prop := d.unrest < c.unrest ∨ d.pilot.phase = c.pilot.phase ∧ d.unrest ≤ c.unrest

theorem swing_again (hd : d = c.again executed next q b) (settings : q.settings = c.pilot.settings)
    (goal : Option (Pose α)) : d.swing goal = c.swing goal := by
  unfold swing
  simp only [aligned_again hd settings, show d.pose = c.pose by rw [hd]; rfl]

theorem Searches.nearer_of_spin (h : c.Searches .spin next q b) (hd : d = c.again .spin next q b)
    (phase : c.pilot.phase = .spin) (agenda : q.agenda = c.pilot.agenda)
    (searching : next.Searching) (steady : c.Steady d .spin) : c.Nearer d := by
  obtain ⟨phase', -, -, belief⟩ := of_again hd
  have now := unrest_of_spin phase
  cases h with
  | inspect worth => exact .inl (by rw [steady.unrest_of_stop phase' belief worth, now]; decide)
  | sweep dull open_ => exact .inr ⟨phase'.trans phase.symm, by rw [unrest_of_spin phase', now]⟩
  | takePoint dull swept next =>
    -- There is a point fewer on the agenda.
    have shorter := congrArg List.length (Agenda.next_eq_some next).1
    dsimp only at agenda
    rw [agenda, List.length_cons] at shorter
    omega
  | runOut => rcases searching with searching | searching <;> cases searching

theorem Searches.nearer_of_spinWait (h : c.Searches .spinWait next q b) (hd : d = c.again .spinWait next q b)
    (phase : c.pilot.phase = .spinWait)
    (placed : ∀ side, (c.belief.tracker side).location.isSome = (c.belief.tracker side).hasPost)
    (steady : c.Steady d .spinWait) : c.Nearer d := by
  obtain ⟨phase', goal, aim, belief⟩ := of_again hd
  cases h with
  | vanish pick =>
    have then_ := unrest_of_spin phase'
    rcases unrest_of_spinWait phase with ⟨⟨-, worth⟩, -⟩ | ⟨-, now⟩
    · obtain ⟨side, held⟩ := exists_hasPost worth
      rw [not_hasPost_of_pickSide? pick side] at held
      cases held
    · exact .inl (by omega)
  | wait pick unready =>
    refine .inr ⟨phase'.trans phase.symm, ?_⟩
    rcases unrest_of_spinWait phase' with ⟨-, then_⟩ | ⟨dull, then_⟩ <;>
      rcases unrest_of_spinWait phase with ⟨⟨few, worth⟩, now⟩ | ⟨-, now⟩
    · omega
    · omega
    · exact absurd ⟨steady.ignorance.trans_le few, (steady.worth few).trans worth⟩ dull
    · omega
  | @approach side pick ready x location =>
    have few := d.swing_le d.pilot.aim
    have there : d.pilot.aim = (d.belief.tracker side).location := by rw [belief, location]; exact aim
    refine .inl ?_
    rcases unrest_of_spinWait phase with ⟨⟨forgiven, worth⟩, now⟩ | ⟨-, now⟩ <;>
      rcases unrest_of_turn phase' goal with ⟨-, sure, then_⟩ | ⟨-, unsure, then_⟩ | ⟨astray, -⟩
    · omega
    · have learned := steady.informed forgiven rfl
      exact absurd (steady.sure.2 ⟨learned, gateSettled_of_worth learned placed ready worth⟩) unsure
    · exact absurd there astray
    · omega
    · omega
    · exact absurd there astray

theorem Searches.nearer_of_turn (h : c.Searches .turn next q b) (hd : d = c.again .turn next q b)
    (phase : c.pilot.phase = .turn) (sound : c.Sound) (free : ¬ c.Cornered) (steady : c.Steady d .turn) :
    c.Nearer d := by
  have swing := swing_again hd (congrArg (·.1) h.orders)
  obtain ⟨phase', goal', aim', belief⟩ := of_again hd
  cases h with
  | @loseAim side goal lost =>
    have then_ := unrest_of_spin phase'
    obtain ⟨x, aim⟩ := Option.isSome_iff_exists.1 (sound.ready.aim (by rw [phase]; rfl) side goal)
    have gone : (c.belief.tracker side).location.isSome = false := by
      rcases lost with gone | none_left
      · exact (sound.placed side).trans gone
      · rw [aim] at none_left; cases none_left
    rcases unrest_of_turn phase goal with ⟨there, -⟩ | ⟨there, -⟩ | ⟨-, now⟩
    · rw [← there, aim] at gone; cases gone
    · rw [← there, aim] at gone; cases gone
    · exact .inl (by omega)
  | @facePost side x goal held aim aligned =>
    have full := swing_of_aligned aligned
    rw [← aim] at full
    refine .inl ?_
    rcases unrest_of_drive phase' (goal'.trans goal) with ⟨sure, -, then_⟩ | ⟨tied, then_⟩ <;>
      rcases unrest_of_turn phase goal with ⟨there, sure', now⟩ | ⟨there, unsure, now⟩ | ⟨-, now⟩
    · omega
    · omega
    · omega
    · -- The rover faces a post in reach, of a gate without a passage.
      have stuck : d.Stuck side := not_not.1 fun loose => tied ⟨steady.sure.2 sure', loose⟩
      have stuck : c.Stuck side := by subst hd; exact stuck
      exact absurd ⟨phase, sure', side, x, goal, stuck, aim, there.symm.trans aim, aligned⟩ free
    · omega
    · omega
  | @turnToPost side x goal held aim aligned =>
    refine .inr ⟨phase'.trans phase.symm, ?_⟩
    have now := unrest_of_turn phase goal
    have then_ := unrest_of_turn phase' (goal'.trans goal)
    rw [show d.pilot.aim = c.pilot.aim from aim', belief, steady.sure, swing] at then_
    grind
  | inspectTurning goal worth =>
    have then_ := steady.unrest_of_stop phase' belief worth
    have now := unrest_of_turn_point phase goal
    exact .inl (by omega)
  | @facePoint x goal dull aligned =>
    have then_ := unrest_of_drive_point phase' (goal'.trans goal)
    have now := unrest_of_turn_point phase goal
    rw [swing_of_aligned aligned] at now
    exact .inl (by omega)
  | @turnToPoint x goal dull aligned =>
    refine .inr ⟨phase'.trans phase.symm, ?_⟩
    rw [unrest_of_turn_point phase' (goal'.trans goal), unrest_of_turn_point phase goal, swing]
  | turnNowhere goal =>
    have := sound.ready.goal (by rw [phase]; rfl)
    rw [goal] at this; cases this

theorem Unlocated.unplannable (h : c.Unlocated) (sure : c.Sure) : c.Unplannable := by
  rw [Unplannable, (ignorance_eq_zero.1 sure.1).1]
  exact h sure.2

theorem Approaches.nearer [Scalar.Ordered α] {side : Side}
    (h : Approaches c.pose c.belief (c.pilot.survey c.belief) side next q)
    (hd : d = c.again .drive next q b) (phase : c.pilot.phase = .drive) (goal : c.pilot.goal = some (.post side))
    (sound : c.Sound) (unlocated : c.Unlocated) (steady : c.Steady d .drive)
    (ids : q.searchedAround = c.pilot.searchedAround) : c.Nearer d := by
  have swing := swing_again hd (h.orders.trans Pilot.survey_orders |> congrArg (·.1))
  obtain ⟨phase', goal', aim', -⟩ := of_again hd
  have goal : (c.pilot.survey c.belief).goal = some (.post side) := Pilot.survey_goal.trans goal
  have now := unrest_of_drive phase (Pilot.survey_goal.symm.trans goal)
  cases h with
  | lose lost =>
    have then_ := unrest_of_spin phase'
    rcases now with ⟨sure, -, now⟩ | ⟨-, now⟩
    · have held := Belief.hasPost_of_hasGate (Bool.and_eq_true_iff.1 sure.2).1 side
      rcases lost with nowhere | gone
      · have := (sound.placed side).trans held
        rw [nowhere] at this; cases this
      · rw [held] at gone; cases gone
    · exact .inl (by omega)
  | reachAgain location held near old =>
    have then_ := unrest_of_spin phase'
    rcases now with ⟨sure, free, now⟩ | ⟨-, now⟩
    · rw [Pilot.survey_settings] at near
      exact absurd ⟨unlocated.unplannable sure, _, location, near⟩ free
    · exact .inl (by omega)
  | reach location held near new layout =>
    have longer := congrArg List.length ids
    simp at longer
  | @stray x location held far off =>
    rw [Pilot.survey_settings] at off
    have aligned := swing_of_not_aligned (not_aligned_of_off sound.tolerances off)
    have then_ := unrest_of_turn phase' (goal'.trans goal)
    rw [show d.pilot.aim = some x from aim', steady.belief, location, steady.sure, swing, aligned] at then_
    refine .inl ?_
    grind
  | @drive x location held far on =>
    rw [Pilot.survey_settings] at far
    have then_ := unrest_of_drive phase' (goal'.trans goal)
    rw [steady.sure] at then_
    have free : ¬ d.Stuck side := by
      rintro ⟨-, y, hy, near⟩
      rw [steady.belief, show _ = some x from location] at hy
      cases hy
      subst hd
      rw [show (c.again .drive .drive _ b).pilot.settings = c.pilot.settings by simp [again, Pilot.atWork]] at near
      exact far near
    refine .inr ⟨phase'.trans phase.symm, ?_⟩
    grind

theorem Searches.nearer_of_drive [Scalar.Ordered α] (h : c.Searches .drive next q b)
    (hd : d = c.again .drive next q b) (phase : c.pilot.phase = .drive) (sound : c.Sound) (steady : c.Steady d .drive)
    (ids : q.searchedAround = c.pilot.searchedAround) (searching : next.Searching) :
    c.Nearer d := by
  have swing := swing_again hd (congrArg (·.1) h.orders)
  obtain ⟨phase', goal', aim', belief⟩ := of_again hd
  cases h with
  | locate => rcases searching with searching | searching <;> cases searching
  | driveToPost goal unlocated move => exact move.nearer hd phase goal sound unlocated steady ids
  | inspectDriving goal worth =>
    have now := unrest_of_drive_point phase goal
    have then_ := steady.unrest_of_stop phase' belief worth
    exact .inl (by omega)
  | reachPoint goal dull near =>
    have now := unrest_of_drive_point phase goal
    have then_ := unrest_of_spin phase'
    exact .inl (by omega)
  | strayFromPoint goal dull far off =>
    have now := unrest_of_drive_point phase goal
    have then_ := unrest_of_turn_point phase' (goal'.trans goal)
    rw [swing, swing_of_not_aligned (not_aligned_of_off sound.tolerances off)] at then_
    exact .inl (by omega)
  | driveToPoint goal dull far on =>
    refine .inr ⟨phase'.trans phase.symm, ?_⟩
    rw [unrest_of_drive_point phase goal, unrest_of_drive_point phase' (goal'.trans goal)]
  | driveNowhere goal =>
    have := sound.ready.goal (by rw [phase]; rfl)
    rw [goal] at this; cases this

theorem Searches.nearer [Scalar.Ordered α] (h : c.Searches executed next q b)
    (hd : d = c.again executed next q b) (phase : c.pilot.phase = executed) (sound : c.Sound) (free : ¬ c.Cornered)
    (steady : c.Steady d executed) (agenda : q.agenda = c.pilot.agenda)
    (ids : q.searchedAround = c.pilot.searchedAround)
    (searching : next.Searching) : c.Nearer d := by
  cases executed
  case spin => exact h.nearer_of_spin hd phase agenda searching steady
  case spinWait => exact h.nearer_of_spinWait hd phase sound.placed steady
  case turn => exact h.nearer_of_turn hd phase sound free steady
  case drive => exact h.nearer_of_drive hd phase sound steady ids searching
  all_goals cases h

/-- No cycle of a search adds to what is left of it, and one that changes the phase takes something away. -/
theorem Searches.effort [Scalar.Ordered α] (h : c.Searches executed next q b)
    (hd : d = c.again executed next q b) (phase : c.pilot.phase = executed) (sound : c.Sound) (free : ¬ c.Cornered)
    (searching : next.Searching) : d.effort < c.effort ∨ d.pilot.phase = c.pilot.phase ∧ d.effort ≤ c.effort := by
  have agenda' : d.pilot.agenda = q.agenda := by subst hd; exact Pilot.moved_agenda
  have ids' : d.pilot.searchedAround = q.searchedAround := by subst hd; exact Pilot.moved_searchedAround
  simp only [Cycle.effort, Prod.Lex.toLex_lt_toLex, Prod.Lex.toLex_le_toLex, agenda']
  rcases h.ignorance with learns | steady
  · rw [← hd] at learns
    exact .inl (.inl learns)
  rw [← hd] at steady
  have same_unsearched (ids : q.searchedAround = c.pilot.searchedAround) : d.unsearched = c.unsearched := by
    simp only [unsearched, fresh, steady.belief, ids', ids]
  cases h.schedules with
  | layOut held new ids =>
    have fewer := unsearched_lt steady.belief held new (ids'.trans ids)
    exact .inl (.inr ⟨steady.ignorance, .inl fewer⟩)
  | take next ids =>
    obtain ⟨points, -⟩ := Agenda.next_eq_some next
    have fewer : q.agenda.remaining < c.pilot.agenda.remaining := by
      unfold Agenda.remaining; rw [points, List.length_cons]; omega
    exact .inl (.inr ⟨steady.ignorance, .inr ⟨same_unsearched ids, .inl fewer⟩⟩)
  | keep agenda ids =>
    rw [agenda, same_unsearched ids, steady.ignorance]
    rcases h.nearer hd phase sound free steady agenda ids searching with nearer | ⟨same, nearer⟩
    · exact .inl (.inr ⟨rfl, .inr ⟨rfl, .inr ⟨rfl, nearer⟩⟩⟩)
    · exact .inr ⟨same, .inr ⟨rfl, .inr ⟨rfl, .inr ⟨rfl, nearer⟩⟩⟩⟩

end Steps

end Search

end Cycle
end GateNav
