import GateNav.Proofs.Pilot.Effort

/-!
# What is left to be done at a standstill

A search goes through parts: it looks for the posts, drives up to the gate, faces it, goes around it and drives
through. At a standstill no way leads back to an earlier part (`Phase.stage`). Within the search there is less and less
left to do (`Cycle.effort`); on the other ways there are fewer and fewer points, and to the next of them the rover
turns, drives and turns back at most, since what is off its course is not aligned. So `Cycle.rank` only descends, and
it does so whenever the phase changes (`Cycle.Advances.descends`).
-/

namespace GateNav
variable {α : Type}

namespace Phase

/-- The part of the search that a phase is of, the later ones lower. Without the whole gate in sight there is a way back
from its center to looking around, but none from there to the center again. -/
def stage (gate : Bool) : Phase → Nat
  | spin | spinWait | turn | drive => if gate then 6 else 4
  | turnToCenter | driveToCenter => 5
  | face => 3
  | turnToFarPost | driveToFarPost => 2
  | turnThrough | driveThrough => 1
  | _ => 0

/-- The rover turns to the next point of its way up to the gate, around it or through it. -/
def turns : Phase → Bool
  | turnToCenter | turnToFarPost | turnThrough => true
  | _ => false

/-- The rover drives to that point. -/
def drives : Phase → Bool
  | driveToCenter | driveToFarPost | driveThrough => true
  | _ => false

/-- Both phases are of the same part, and it is not the one that looks for posts. -/
def Along (executed next : Phase) : Prop :=
  ¬ executed.Searching ∧ ¬ next.Searching ∧ ∀ gate gate', next.stage gate = executed.stage gate'

instance (executed next : Phase) : Decidable (executed.Along next) := inferInstanceAs (Decidable (_ ∧ _ ∧ _))

end Phase

namespace Cycle

/-- The points that are left of the way up to the gate, around it or through it. -/
def way (c : Cycle α) : List (Pose α) :=
  match c.pilot.phase with
  | .turnToCenter | .driveToCenter => (c.pilot.passage.map (·.center)).toList
  | .turnToFarPost | .driveToFarPost => c.pilot.detour
  | .turnThrough | .driveThrough => c.pilot.through
  | _ => []

section Way
variable {c : Cycle α} {executed : Phase}

theorem way_of_near {g : Passage α} (phase : c.pilot.phase = executed)
    (near : executed = .turnToCenter ∨ executed = .driveToCenter) (passage : c.pilot.passage = some g) :
    c.way = [g.center] := by
  unfold way
  rcases near with rfl | rfl <;> rw [phase, passage] <;> rfl

theorem way_of_detours (phase : c.pilot.phase = executed) (around : executed.detours = true) :
    c.way = c.pilot.detour := by
  unfold way
  rw [phase]
  cases executed <;> first | rfl | cases around

theorem way_of_passes (phase : c.pilot.phase = executed) (through : executed.passes = true) :
    c.way = c.pilot.through := by
  unfold way
  rw [phase]
  cases executed <;> first | rfl | cases through

end Way

variable [Scalar α] [Trig α]

/-- How far the rover is from the end of its way to the next of these points. -/
def poise (c : Cycle α) : Nat :=
  if c.pilot.phase.turns then c.swing c.way.head? else if c.pilot.phase.drives then 1 else 0

/-- What is left to be done at a standstill. -/
noncomputable def rank (c : Cycle α) : ℕ ×ₗ ℕ ×ₗ ℕ ×ₗ ℕ ×ₗ ℕ :=
  toLex (c.pilot.phase.stage c.belief.hasGate,
    if c.pilot.phase.Searching then c.effort else toLex (0, toLex (0, toLex (c.way.length, c.poise))))

/-- There is less left to be done, or no more and the phase is still the same. -/
def Descends (c d : Cycle α) : Prop := d.rank < c.rank ∨ d.pilot.phase = c.pilot.phase ∧ d.rank ≤ c.rank

variable {c d : Cycle α} {executed next : Phase} {p q : Pilot α} {b : Belief α} {x y : Pose α} {rest : List (Pose α)}

/-! ### Further on the way -/

theorem descends_of_stage (phase : c.pilot.phase = executed) (phase' : d.pilot.phase = next)
    (later : next.stage d.belief.hasGate < executed.stage c.belief.hasGate) : c.Descends d := by
  rw [← phase, ← phase'] at later
  exact .inl (Prod.Lex.toLex_lt_toLex.2 (.inl later))

theorem descends_of_later (phase : c.pilot.phase = executed) (phase' : d.pilot.phase = next)
    (later : ∀ gate gate', next.stage gate < executed.stage gate') : c.Descends d :=
  descends_of_stage phase phase' (later _ _)

theorem descends_along (phase : c.pilot.phase = executed) (phase' : d.pilot.phase = next)
    (along : executed.Along next)
    (less : d.way.length < c.way.length ∨
      d.way.length = c.way.length ∧ (d.poise < c.poise ∨ next = executed ∧ d.poise ≤ c.poise)) :
    c.Descends d := by
  obtain ⟨away, away', stage⟩ := along
  unfold Descends rank
  rw [phase, phase', if_neg away, if_neg away', stage d.belief.hasGate c.belief.hasGate]
  simp only [Prod.Lex.toLex_lt_toLex, Prod.Lex.toLex_le_toLex, lt_self_iff_false, true_and, false_or]
  rcases less with less | ⟨same, less | ⟨phase, less⟩⟩
  · exact .inl (.inl less)
  · exact .inl (.inr ⟨same, less⟩)
  · exact .inr ⟨phase, .inr ⟨same, less⟩⟩

theorem poise_of_turns (phase : c.pilot.phase = executed) (turns : executed.turns = true) (way : c.way = x :: rest) :
    c.poise = c.swing (some x) := by
  unfold poise; rw [phase, if_pos turns, way]; rfl

theorem poise_of_drives (phase : c.pilot.phase = executed) (drives : executed.drives = true) : c.poise = 1 := by
  have straight : executed.turns = false := by cases executed <;> first | rfl | cases drives
  unfold poise; rw [phase, straight, if_neg (by decide), if_pos drives]

/-- Aligned with the next point, the rover drives off. -/
theorem descends_of_aligned (phase : c.pilot.phase = executed) (phase' : d.pilot.phase = next)
    (along : executed.Along next) (turns : executed.turns = true) (drives : next.drives = true)
    (way : c.way = x :: rest) (way' : d.way = x :: rest) (aligned : c.aligned (c.pose.bearingTo x) = true) :
    c.Descends d := by
  have now := poise_of_turns phase turns way
  have then_ := poise_of_drives phase' drives
  rw [swing_of_aligned aligned] at now
  exact descends_along phase phase' along (.inr ⟨by rw [way, way'], .inl (by omega)⟩)

/-- Off its course to the next point, the rover has to turn, and it is not aligned. -/
theorem descends_of_off [Scalar.Ordered α] (phase : c.pilot.phase = executed) (phase' : d.pilot.phase = next)
    (along : executed.Along next) (drives : executed.drives = true) (turns : next.turns = true)
    (way : c.way = x :: rest) (way' : d.way = y :: rest) (swing : d.swing (some y) = c.swing (some y)) (sound : c.Sound)
    (off : c.pilot.settings.offCourseTolerance < Bearing.gap (c.pose.bearingTo y) c.pose.heading) :
    c.Descends d := by
  have now := poise_of_drives phase drives
  have then_ := poise_of_turns phase' turns way'
  rw [swing, swing_of_not_aligned (not_aligned_of_off sound.tolerances off)] at then_
  exact descends_along phase phase' along (.inr ⟨by rw [way, way']; rfl, .inl (by omega)⟩)

theorem descends_of_turning (phase : c.pilot.phase = executed) (phase' : d.pilot.phase = executed)
    (along : executed.Along executed) (turns : executed.turns = true) (way : c.way = x :: rest)
    (way' : d.way = x :: rest) (swing : d.swing (some x) = c.swing (some x)) : c.Descends d := by
  have now := poise_of_turns phase turns way
  have then_ := poise_of_turns phase' turns way'
  exact descends_along phase phase' along (.inr ⟨by rw [way, way'], .inr ⟨rfl, by omega⟩⟩)

theorem descends_of_driving (phase : c.pilot.phase = executed) (phase' : d.pilot.phase = executed)
    (along : executed.Along executed) (drives : executed.drives = true) (way : c.way = x :: rest)
    (way' : d.way = y :: rest) : c.Descends d := by
  have now := poise_of_drives phase drives
  have then_ := poise_of_drives phase' drives
  exact descends_along phase phase' along (.inr ⟨by rw [way, way']; rfl, .inr ⟨rfl, by omega⟩⟩)

theorem descends_of_reached (phase : c.pilot.phase = executed) (phase' : d.pilot.phase = next)
    (along : executed.Along next) (way : c.way = x :: rest) (way' : d.way = rest) : c.Descends d :=
  descends_along phase phase' along (.inl (by rw [way, way']; exact Nat.lt_succ_self _))

/-! ### In front of the gate -/

theorem DrivesUp.descends [Scalar.Ordered α] (h : DrivesUp c.pose c.belief p next q)
    (hd : d = c.again .driveToCenter next q b) (phase : c.pilot.phase = .driveToCenter)
    (settings : p.settings = c.pilot.settings) (passage : p.passage.isSome = true) (sound : c.Sound) :
    c.Descends d := by
  obtain ⟨phase', -⟩ := of_again hd
  have passage' : d.pilot.passage = q.passage := by subst hd; exact Pilot.moved_passage
  obtain ⟨f, before⟩ := Option.isSome_iff_exists.1 (sound.ready.passage (by rw [phase]; rfl))
  have way := way_of_near phase (.inr rfl) before
  cases h with
  | blind gone => rw [gone] at passage; cases passage
  | rest there | drive there =>
    have way' := way_of_near phase' (.inr rfl) (passage'.trans there)
    exact descends_of_driving phase phase' (by decide) rfl way way'
  | settle => exact descends_of_later phase phase' (by decide)
  | stray there far off =>
    have way' := way_of_near phase' (.inl rfl) (passage'.trans there)
    rw [settings] at off
    exact descends_of_off phase phase' (by decide) rfl rfl way way' (swing_again hd settings _) sound off

theorem Nears.descends [Scalar.Ordered α] (h : c.Nears executed next q b) (hd : d = c.again executed next q b)
    (phase : c.pilot.phase = executed) (sound : c.Sound) : c.Descends d := by
  obtain ⟨phase', -, -, belief⟩ := of_again hd
  have ready := phase ▸ sound.ready
  have swing := swing_again hd (congrArg (·.1) h.orders)
  have passage' : d.pilot.passage = q.passage := by subst hd; exact Pilot.moved_passage
  have follows := h.follows ready
  cases h with
  | loseFacing lost | loseDriving lost =>
    refine descends_of_stage phase phase' ?_
    rw [belief, not_hasGate_of_lostSide? lost]
    decide
  | turnBlindly held gone | faceNothing gone =>
    have := ready.passage rfl
    rw [gone] at this; cases this
  | faceCenter held passage aligned =>
    have way := way_of_near phase (.inl rfl) passage
    have way' := way_of_near phase' (.inr rfl) (passage'.trans passage)
    exact descends_of_aligned phase phase' (by decide) rfl rfl way way' aligned
  | turnToCenter held passage aligned =>
    have way := way_of_near phase (.inl rfl) passage
    have way' := way_of_near phase' (.inl rfl) (passage'.trans passage)
    exact descends_of_turning phase phase' (by decide) rfl way way' (swing _)
  | driveUp held plan move =>
    exact move.descends hd phase (congrArg (·.1) plan.orders) ((plan.ready ready).passage rfl) sound
  | turnToFace =>
    refine descends_along phase phase' (by decide) (.inr ⟨?_, .inr ⟨rfl, ?_⟩⟩)
    · unfold way; rw [phase, phase']
    · unfold poise; rw [phase, phase']; exact Nat.le_refl 0
  | lineUp | goAround => exact descends_of_later phase phase' (by decide)
  | noPost => exact absurd follows (by decide)

/-! ### Around and through the gate -/

theorem Passes.descends [Scalar.Ordered α] (h : c.Passes executed next q b) (hd : d = c.again executed next q b)
    (phase : c.pilot.phase = executed) (sound : c.Sound) : c.Descends d := by
  obtain ⟨phase', -⟩ := of_again hd
  have ready := phase ▸ sound.ready
  have swing := swing_again hd (congrArg (·.1) h.orders)
  have detour' : d.pilot.detour = q.detour := by subst hd; exact Pilot.moved_detour
  have through' : d.pilot.through = q.through := by subst hd; exact Pilot.moved_through
  cases h with
  | endTurning detour | endDriving detour => exact absurd detour (ready.detour rfl)
  | turnPast through | drivePast through => exact absurd through (ready.through rfl)
  | reachEnd detour near finish =>
    obtain rfl := finish.follows (ready.passage rfl)
    exact descends_of_later phase phase' (by decide)
  | traverse => exact descends_of_later phase phase' (by decide)
  | faceLeg detour aligned =>
    have way := (way_of_detours phase rfl).trans detour
    have way' := (way_of_detours phase' rfl).trans (detour'.trans detour)
    exact descends_of_aligned phase phase' (by decide) rfl rfl way way' aligned
  | turnToLeg detour aligned =>
    have way := (way_of_detours phase rfl).trans detour
    have way' := (way_of_detours phase' rfl).trans (detour'.trans detour)
    exact descends_of_turning phase phase' (by decide) rfl way way' (swing _)
  | reachLeg detour near =>
    have way := (way_of_detours phase rfl).trans detour
    exact descends_of_reached phase phase' (by decide) way ((way_of_detours phase' rfl).trans detour')
  | strayFromLeg detour far off =>
    have way := (way_of_detours phase rfl).trans detour
    have way' := (way_of_detours phase' rfl).trans (detour'.trans detour)
    exact descends_of_off phase phase' (by decide) rfl rfl way way' (swing _) sound off
  | driveToLeg detour far on =>
    have way := (way_of_detours phase rfl).trans detour
    have way' := (way_of_detours phase' rfl).trans (detour'.trans detour)
    exact descends_of_driving phase phase' (by decide) rfl way way'
  | facePoint through aligned =>
    have way := (way_of_passes phase rfl).trans through
    have way' := (way_of_passes phase' rfl).trans (through'.trans through)
    exact descends_of_aligned phase phase' (by decide) rfl rfl way way' aligned
  | turnToPoint through aligned =>
    have way := (way_of_passes phase rfl).trans through
    have way' := (way_of_passes phase' rfl).trans (through'.trans through)
    exact descends_of_turning phase phase' (by decide) rfl way way' (swing _)
  | reachPoint through near =>
    have way := (way_of_passes phase rfl).trans through
    exact descends_of_reached phase phase' (by decide) way ((way_of_passes phase' rfl).trans through')
  | strayFromPoint through far off =>
    have way := (way_of_passes phase rfl).trans through
    have way' := (way_of_passes phase' rfl).trans (through'.trans through)
    exact descends_of_off phase phase' (by decide) rfl rfl way way' (swing _) sound off
  | driveToPoint through far on =>
    have way := (way_of_passes phase rfl).trans through
    have way' := (way_of_passes phase' rfl).trans (through'.trans through)
    exact descends_of_driving phase phase' (by decide) rfl way way'

/-! ### Every cycle -/

/-- A search goes on, or it ends at the gate or in vain. -/
theorem Searches.ends (h : c.Searches executed next q b) :
    executed.Searching ∧ (next.Searching ∨ next = .notFound ∨
      next = .turnToCenter ∧ executed = .drive ∧ c.belief.gateSettled = true) := by
  cases h
  case runOut => exact ⟨.inl rfl, .inr (.inl rfl)⟩
  case locate sight draft => exact ⟨.inr rfl, .inr (.inr ⟨rfl, rfl, sight⟩)⟩
  case driveToPost move => cases move <;> exact ⟨by decide, .inl (by decide)⟩
  all_goals exact ⟨by decide, .inl (by decide)⟩

theorem Searches.descends [Scalar.Ordered α] (h : c.Searches executed next q b) (hd : d = c.again executed next q b)
    (phase : c.pilot.phase = executed) (sound : c.Sound) (free : ¬ c.Cornered) : c.Descends d := by
  obtain ⟨phase', -, -, belief⟩ := of_again hd
  have gate : d.belief.hasGate = c.belief.hasGate := by
    rcases (Advances.searches h).belief with same | same <;> rw [belief, same]; rfl
  have stage {phase : Phase} (searching : phase.Searching) :
      phase.stage c.belief.hasGate = if c.belief.hasGate then 6 else 4 := by
    cases phase <;> first | rfl | (rcases searching with searching | searching <;> cases searching)
  obtain ⟨searching, searching' | rfl | ⟨rfl, rfl, sight⟩⟩ := h.ends
  · have less := h.effort hd phase sound free searching'
    unfold Descends rank
    rw [phase, phase', if_pos searching, if_pos searching', gate, stage searching, stage searching']
    simp only [Prod.Lex.toLex_lt_toLex, Prod.Lex.toLex_le_toLex, lt_self_iff_false, true_and, false_or]
    rwa [phase, phase'] at less
  · refine descends_of_stage phase phase' ?_
    rw [stage searching]
    show 0 < _
    split <;> decide
  · refine descends_of_stage phase phase' ?_
    rw [stage searching, (Bool.and_eq_true_iff.1 sight).1]
    show 5 < 6
    decide

theorem Advances.descends [Scalar.Ordered α] (h : c.Advances executed next q b) (hd : d = c.again executed next q b)
    (phase : c.pilot.phase = executed) (sound : c.Sound) (free : ¬ c.Cornered) : c.Descends d := by
  obtain ⟨phase', -⟩ := of_again hd
  cases h with
  | searches h => exact h.descends hd phase sound free
  | nears h => exact h.descends hd phase sound
  | passes h => exact h.descends hd phase sound
  | idle idle =>
    have rests : executed = .off ∨ executed = .done ∨ executed = .traversed ∨ executed = .notFound := by
      revert idle; cases executed <;> decide
    refine descends_along phase phase' ?_ (.inr ⟨?_, .inr ⟨rfl, ?_⟩⟩)
    · rcases rests with rfl | rfl | rfl | rfl <;> decide
    · unfold way; rw [phase, phase']; rcases rests with rfl | rfl | rfl | rfl <;> rfl
    · unfold poise; rw [phase, phase']; rcases rests with rfl | rfl | rfl | rfl <;> exact Nat.le_refl 0

end Cycle

end GateNav
