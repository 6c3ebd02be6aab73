import GateNav.Proofs.Pilot.Knowledge
import GateNav.Proofs.Pilot.PhaseData

/-!
# Where passages come from

In some cycles a passage is planned, from the posts that the pilot knows just then: on the drive to a post, on the drive
to the center of the passage as it was, and at the end of a detour. `Cycle.drafted?` is what comes of it. Every passage
that a pilot has was drafted in some cycle, and it leads between the two posts known after that cycle
(`Pilot.redraws_of_shown`). Which of them is the left-hand one is decided by their ids, or, if these are the same, by
the part of the image (`Cycle.Drafts`).
-/

namespace GateNav
variable {α : Type} [Scalar α] [Trig α]

namespace Cycle

/-- The passage `g` leads between the two posts known to `p`, with the first one given on its left. -/
inductive Drafts (waypoint : Option (Waypoint α)) (p : Pilot α) (g : Passage α) : KnownPost α → KnownPost α → Prop
  | asSeen {a b : KnownPost α} (known : p.known = ⟨some a, some b⟩)
      (first : leftHandFirst waypoint a b = .ok true)
      (plan : Passage.plan? a.location b.location p.settings.standoff = some g) : Drafts waypoint p g a b
  | crossed {a b : KnownPost α} (known : p.known = ⟨some a, some b⟩)
      (first : leftHandFirst waypoint a b = .ok false)
      (plan : Passage.plan? b.location a.location p.settings.standoff = some g) : Drafts waypoint p g b a

/-- The detour is over in this cycle. -/
def endsDetour (c : Cycle α) : Bool :=
  match c.pilot.phase, c.pilot.detour with
  | .turnToFarPost, [] | .driveToFarPost, [] => true
  | .driveToFarPost, [q] => c.pose.distanceTo q ≤ c.pilot.settings.arrivalTolerance
  | _, _ => false

/-- The pilot between whose posts a passage is planned in this cycle. -/
def drafter? (c : Cycle α) : Option (Pilot α) :=
  match c.pilot.phase, c.pilot.goal with
  | .drive, some (.post _) => if c.belief.gateSettled then some (c.pilot.trust c.belief) else none
  | .driveToCenter, _ =>
    if c.lostSide?.isNone && c.belief.trackers.left.confident && c.belief.trackers.right.confident then
      some (c.pilot.trust c.belief)
    else none
  | _, _ => if c.endsDetour then some (c.pilot.survey c.belief) else none

/-- The passage that is planned in this cycle, if one is. -/
def drafted? (c : Cycle α) : Option (Passage α) := c.drafter?.bind fun p => (draft? c.waypoint p).toOption.join

variable {c : Cycle α} {executed next : Phase} {p q : Pilot α} {b : Belief α} {g : Passage α}

theorem drafts_of_draft? {waypoint : Option (Waypoint α)} (h : draft? waypoint p = .ok (some g)) :
    ∃ leftHand rightHand, Drafts waypoint p g leftHand rightHand := by
  unfold draft? at h
  split at h
  · next a b left right =>
    obtain ⟨leftFirst, first, h⟩ := Checked.bind_eq_ok.1 h
    have known : p.known = ⟨some a, some b⟩ := by cases hk : p.known; simp_all
    cases leftFirst with
    | true => exact ⟨a, b, .asSeen known first (Checked.pure_eq_ok.1 h)⟩
    | false => exact ⟨b, a, .crossed known first (Checked.pure_eq_ok.1 h)⟩
  · cases h

omit [Scalar α] [Trig α] in
/-- On the gate that is searched for, the left-hand post is the one with the waypoint's own id. Two posts of one id are
taken as they are seen. -/
theorem leftHandFirst_of_carried {w : Waypoint α} (numbered : w.Numbered) {a b : KnownPost α}
    (ha : w.carries a.id = true) (hb : w.carries b.id = true) :
    leftHandFirst (some w) a b = .ok (a.id = b.id || a.id = w.id) := by
  unfold leftHandFirst
  dsimp only
  by_cases same : a.id = b.id
  · rw [if_pos same, same]
    simp [pure, Except.pure]
  · rw [if_neg same, Waypoint.isGatePost_of_numbered numbered, Waypoint.isGatePost_of_numbered numbered, ha, hb]
    simp [bind, Except.bind, pure, Except.pure, same]

/-- Of two posts of the gate with different ids, the left-hand one carries the first id and the other one the second. -/
theorem Drafts.ids {w : Waypoint α} {a b : KnownPost α} (h : Drafts (some w) p g a b) (numbered : w.Numbered)
    (ha : w.carries a.id = true) (hb : w.carries b.id = true) :
    (a.id ≠ b.id → a.id = w.id ∧ b.id = w.id + 1) ∧ (a.id = b.id → p.known.left = some a) := by
  cases h with
  | asSeen known first =>
    rw [leftHandFirst_of_carried numbered ha hb, Except.ok.injEq, Bool.or_eq_true, decide_eq_true_eq,
      decide_eq_true_eq] at first
    refine ⟨?_, fun _ => by rw [known]⟩
    intro other
    have own := first.resolve_left other
    exact ⟨own, (Waypoint.eq_of_carries hb).resolve_left fun same => other (own.trans same.symm)⟩
  | crossed known first =>
    rw [leftHandFirst_of_carried numbered hb ha, Except.ok.injEq, Bool.or_eq_false_iff, decide_eq_false_iff_not,
      decide_eq_false_iff_not] at first
    obtain ⟨other, foreign⟩ := first
    have second := (Waypoint.eq_of_carries hb).resolve_left foreign
    refine ⟨fun _ => ⟨?_, second⟩, fun same => absurd same.symm other⟩
    exact (Waypoint.eq_of_carries ha).resolve_right fun same => other (second.trans same.symm)

theorem Drafts.known_ids {waypoint : Option (Waypoint α)} {a b : KnownPost α} (h : Drafts waypoint p g a b) :
    p.known.toList.map (·.map (·.id)) = [some a.id, some b.id] ∨
      p.known.toList.map (·.map (·.id)) = [some b.id, some a.id] := by
  cases h with
  | asSeen known => rw [known]; exact .inl rfl
  | crossed known => rw [known]; exact .inr rfl

theorem Drafts.mem_knownPosts {waypoint : Option (Waypoint α)} {a b post : KnownPost α} (h : Drafts waypoint p g a b)
    (known : post ∈ p.knownPosts) : post = a ∨ post = b := by
  unfold Pilot.knownPosts at known
  cases h with
  | asSeen both => rw [both] at known; simpa [Sided.toList] using known
  | crossed both =>
    rw [both] at known
    have seen : post = b ∨ post = a := by simpa [Sided.toList] using known
    exact seen.symm

/-- A passage is drafted from the posts known and the settings alone. -/
theorem Drafts.congr {waypoint : Option (Waypoint α)} {a b : KnownPost α} (h : Drafts waypoint p g a b)
    (known : q.known = p.known) (settings : q.settings = p.settings) : Drafts waypoint q g a b := by
  cases h with
  | asSeen both first plan => exact .asSeen (known.trans both) first (by rw [settings]; exact plan)
  | crossed both first plan => exact .crossed (known.trans both) first (by rw [settings]; exact plan)

/-! ### What a move does to the passage -/

theorem drafted?_of_plan {p : Pilot α} {draft : Option (Passage α)} (h : c.drafter? = some p)
    (plan : draft? c.waypoint p = .ok draft) : c.drafted? = draft := by
  rw [drafted?, h, Option.bind_some, plan]; rfl

/-- After a move that leads to `p`, the passage is the one drafted, between the posts now known, or the one before. -/
structure Redraws (c : Cycle α) (p : Pilot α) : Prop where
  passage : p.passage = c.drafted?.or c.pilot.passage
  plan : ∀ g, c.drafted? = some g → draft? c.waypoint p = .ok (some g)

theorem redraws_of_none (none : c.drafted? = none) (passage : p.passage = c.pilot.passage) : c.Redraws p :=
  ⟨by rw [none]; exact passage, fun g h => by rw [none] at h; cases h⟩

theorem redraws_of_idle (none : c.drafter? = none) (passage : p.passage = c.pilot.passage) : c.Redraws p :=
  redraws_of_none (by rw [drafted?, none]; rfl) passage

theorem redraws_of_plan {draft : Option (Passage α)} (drafter : c.drafter? = some p)
    (plan : draft? c.waypoint p = .ok draft) (passage : q.passage = draft.or c.pilot.passage)
    (known : q.known = p.known) (settings : q.settings = p.settings) : c.Redraws q := by
  have drafted := drafted?_of_plan drafter plan
  refine ⟨by rw [drafted]; exact passage, ?_⟩
  intro g h
  rw [draft?_congr known settings, plan, ← drafted, h]

theorem drafter?_eq_none (h : executed ∉ [.drive, .driveToCenter, .turnToFarPost, .driveToFarPost])
    (phase : c.pilot.phase = executed) : c.drafter? = none := by
  unfold drafter? endsDetour
  rw [phase]
  cases executed <;> first | rfl | exact absurd (by decide) h

theorem drafter?_of_driveToCenter (phase : c.pilot.phase = .driveToCenter) (held : c.lostSide? = none) :
    c.drafter? = if c.belief.trackers.left.confident && c.belief.trackers.right.confident then
      some (c.pilot.trust c.belief) else none := by
  simp only [drafter?, phase, held, Option.isNone_none, Bool.true_and]

theorem Approaches.passage {pose : Pose α} {side : Side} (h : Approaches pose b p side next q) :
    q.passage = p.passage := by
  cases h <;> rfl

theorem DrivesUp.passage {pose : Pose α} (h : DrivesUp pose b p next q) : q.passage = p.passage := by
  cases h <;> rfl

theorem Searches.redraws (h : c.Searches executed next q b) (phase : c.pilot.phase = executed) :
    c.Redraws (q.moved b executed next) := by
  have known := h.known
  cases h with
  | inspect | sweep | takePoint | runOut | vanish | wait | approach | loseAim | facePost | turnToPost | inspectTurning
  | facePoint | turnToPoint | turnNowhere =>
    exact redraws_of_idle (drafter?_eq_none (by decide) phase) Pilot.moved_passage
  | inspectDriving goal | reachPoint goal | strayFromPoint goal | driveToPoint goal | driveNowhere goal =>
    have none_drafts : c.drafter? = none := by simp [drafter?, endsDetour, phase, goal]
    exact redraws_of_idle none_drafts Pilot.moved_passage
  | locate goal sight plan =>
    have drafter : c.drafter? = some (c.pilot.trust c.belief) := by simp [drafter?, phase, goal, sight]
    exact redraws_of_plan drafter plan Pilot.moved_passage (known.trans (if_pos rfl)) Pilot.moved_settings
  | driveToPost goal unlocated move =>
    have kept : q.passage = c.pilot.passage := move.passage.trans Pilot.survey_passage
    cases sight : c.belief.gateSettled with
    | true =>
      have drafter : c.drafter? = some (c.pilot.trust c.belief) := by simp [drafter?, phase, goal, sight]
      exact redraws_of_none (drafted?_of_plan drafter (unlocated sight)) (Pilot.moved_passage.trans kept)
    | false =>
      have none_drafts : c.drafter? = none := by simp [drafter?, phase, goal, sight]
      exact redraws_of_idle none_drafts (Pilot.moved_passage.trans kept)

theorem Nears.redraws (h : c.Nears executed next q b) (phase : c.pilot.phase = executed) :
    c.Redraws (q.moved b executed next) := by
  cases h with
  | loseFacing | turnBlindly | faceCenter | turnToCenter | faceNothing | turnToFace | lineUp | noPost | goAround =>
    exact redraws_of_idle (drafter?_eq_none (by decide) phase) Pilot.moved_passage
  | loseDriving lost =>
    have none_drafts : c.drafter? = none := by simp [drafter?, phase, lost]
    exact redraws_of_idle none_drafts Pilot.moved_passage
  | driveUp held plan move =>
    cases plan with
    | anew sight plan =>
      have drafter := (drafter?_of_driveToCenter phase held).trans (if_pos sight)
      refine redraws_of_plan drafter plan (Pilot.moved_passage.trans (move.passage.trans Pilot.adopt_passage)) ?_ ?_
      · exact Pilot.trust_known_of (.inr (move.known.trans Pilot.adopt_known))
      · exact Pilot.moved_settings.trans ((congrArg (·.1) move.orders).trans Pilot.adopt_settings)
    | leave blind =>
      have none_drafts := (drafter?_of_driveToCenter phase held).trans (if_neg (by simp [blind]))
      exact redraws_of_idle none_drafts (Pilot.moved_passage.trans move.passage)

theorem Finishes.redraws {waypoint : Option (Waypoint α)} {pose : Pose α} (h : Finishes pose waypoint b p next q) :
    ∃ draft, draft? waypoint (p.survey b) = .ok draft ∧ q.passage = draft.or p.passage ∧
      q.known = (p.survey b).known ∧ q.settings = (p.survey b).settings := by
  cases h with
  | lineUp plan => exact ⟨_, plan, by simp, Pilot.adopt_known, by simp⟩
  | giveUp plan => exact ⟨_, plan, by simp, Pilot.adopt_known, by simp⟩

theorem Passes.redraws (h : c.Passes executed next q b) (phase : c.pilot.phase = executed)
    (ready : c.pilot.Ready executed) : c.Redraws (q.moved b executed next) := by
  cases h with
  | endTurning detour | endDriving detour => exact absurd detour (ready.detour rfl)
  | faceLeg detour | turnToLeg detour | reachLeg detour =>
    have none_drafts : c.drafter? = none := by simp [drafter?, endsDetour, phase, detour]
    exact redraws_of_idle none_drafts Pilot.moved_passage
  | @strayFromLeg _ rest detour far | @driveToLeg _ rest detour far =>
    have none_drafts : c.drafter? = none := by cases rest <;> simp [drafter?, endsDetour, phase, detour, far]
    exact redraws_of_idle none_drafts Pilot.moved_passage
  | turnPast | facePoint | turnToPoint | drivePast | traverse | reachPoint | strayFromPoint | driveToPoint =>
    exact redraws_of_idle (drafter?_eq_none (by decide) phase) Pilot.moved_passage
  | reachEnd detour near finish =>
    have drafter : c.drafter? = some (c.pilot.survey c.belief) := by simp [drafter?, endsDetour, phase, detour, near]
    obtain ⟨draft, plan, passage, known, settings⟩ := finish.redraws
    -- The detour that is left does not matter for what the survey learns.
    obtain ⟨same, settled⟩ : (Pilot.survey { c.pilot with steering := .hold, detour := [] } c.belief).known =
        (c.pilot.survey c.belief).known ∧
        (Pilot.survey { c.pilot with steering := .hold, detour := [] } c.belief).settings =
          (c.pilot.survey c.belief).settings := by
      unfold Pilot.survey; split <;> exact ⟨rfl, rfl⟩
    rw [draft?_congr same settled] at plan
    exact redraws_of_plan drafter plan (Pilot.moved_passage.trans passage) (known.trans same)
      (Pilot.moved_settings.trans (settings.trans settled))

theorem Advances.redraws (h : c.Advances executed next q b) (phase : c.pilot.phase = executed)
    (ready : c.pilot.Ready executed) : c.Redraws (q.moved b executed next) := by
  cases h with
  | searches h => exact h.redraws phase
  | nears h => exact h.redraws phase
  | passes h => exact h.redraws phase ready
  | idle idle =>
    refine redraws_of_idle (drafter?_eq_none ?_ phase) Pilot.moved_passage
    revert idle
    cases executed <;> decide

end Cycle

theorem Pilot.redraws_of_shown {p p' : Pilot α} {v : View α} (h : p.shown v = .ok p') (ready : p.Ready p.phase) :
    (v.cycle p).Redraws p' := by
  obtain ⟨next, q, b, move, rfl⟩ := of_shown h
  exact move.redraws rfl ready

end GateNav
