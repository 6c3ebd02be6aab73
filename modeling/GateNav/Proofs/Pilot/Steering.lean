import GateNav.Proofs.Exact
import GateNav.Proofs.Pilot.Traverse

/-!
# Where the rover is steered

The steering is set in many places, and some moves change the list a point was taken from, or the passage, right before
or after. `Pilot.Agrees` is what holds of it once a cycle is over: in the four phases that drive, the rover is steered
to the point that the phase pursues as the pilot has it now (`Pilot.pursued?`), only in front of the gate it may also
hold; in all other phases it turns on the spot or holds. Each move leaves the steering so, whatever it was before, and
no induction along the search is needed (`Logbook.steered_as_pursued`).
-/

namespace GateNav
variable {α : Type}

/-- The rover drives to a point. -/
def Phase.travels : Phase → Bool
  | drive | driveToCenter | driveToFarPost | driveThrough => true
  | _ => false

namespace Pilot

/-- The point that the phase is after: the search point or where the post was last believed to be, the center of the
passage, or the next point around or through the gate. -/
def pursued? (p : Pilot α) : Phase → Option (Pose α)
  | .drive =>
    match p.goal with
    | some (.searchPoint q) => some q
    | some (.post _) => p.aim
    | none => none
  | .driveToCenter => p.center?
  | .driveToFarPost => p.detour.head?
  | .driveThrough => p.through.head?
  | _ => none

/-- The steering agrees with the phase, for a rover that was at `pose` in the cycle that led to it. -/
def Agrees [Scalar α] [Trig α] (p : Pilot α) (pose : Pose α) (phase : Phase) : Prop :=
  match phase with
  | .drive | .driveToFarPost | .driveThrough => ∃ q, p.pursued? phase = some q ∧ p.steering = .point q
  | .driveToCenter => ∃ q, p.pursued? .driveToCenter = some q ∧
      (p.steering = .point q ∨ p.steering = .hold ∧ pose.distanceTo q ≤ p.settings.standoff)
  | .spinWait | .traversed | .notFound => p.steering = .hold
  | _ => p.steering = .hold ∨ ∃ bearing, p.steering = .heading bearing

section Agrees
variable {p : Pilot α} {b : Belief α} {pose q : Pose α} {executed next phase : Phase}

theorem moved_pursued? : (p.moved b executed next).pursued? phase = p.pursued? phase := by
  cases phase <;> simp [pursued?, center?]

variable [Scalar α] [Trig α]

theorem Agrees.moved (h : p.Agrees pose next) : (p.moved b executed next).Agrees pose next := by
  cases next <;> simpa [Agrees, moved_pursued?] using h

theorem Agrees.point (h : p.Agrees pose phase) (steered : p.steering = .point q) :
    phase.travels = true ∧ p.pursued? phase = some q := by
  cases phase <;> simp_all [Agrees, Phase.travels]

end Agrees

end Pilot

namespace Cycle
variable [Scalar α] [Trig α] {c : Cycle α} {executed next : Phase} {p q : Pilot α} {b : Belief α} {pose : Pose α}

theorem Approaches.agrees {side : Side} (h : Approaches pose b p side next q) (goal : p.goal = some (.post side)) :
    q.Agrees pose next := by
  cases h with
  | lose | reachAgain | reach => exact .inl rfl
  | stray => exact .inr ⟨_, rfl⟩
  | drive => exact ⟨_, by simp [Pilot.pursued?, goal], rfl⟩

theorem Searches.agrees (h : c.Searches executed next q b) : q.Agrees c.pose next := by
  cases h with
  | inspect | wait | runOut | inspectTurning | inspectDriving => rfl
  | takePoint | vanish | loseAim | turnNowhere | reachPoint | driveNowhere => exact .inl rfl
  | sweep | approach | turnToPost | turnToPoint | locate | strayFromPoint => exact .inr ⟨_, rfl⟩
  | facePost goal held aim => exact ⟨_, by simp [Pilot.pursued?, goal, aim], rfl⟩
  | facePoint goal | driveToPoint goal => exact ⟨_, by simp [Pilot.pursued?, goal], rfl⟩
  | driveToPost goal unlocated move => exact move.agrees (by simpa using goal)

theorem DrivesUp.agrees (h : DrivesUp pose b p next q) : q.Agrees pose next := by
  cases h with
  | blind | settle => exact .inl rfl
  | stray => exact .inr ⟨_, rfl⟩
  | rest passage near => exact ⟨_, by simp [Pilot.pursued?, Pilot.center?, passage], .inr ⟨rfl, near⟩⟩
  | drive passage => exact ⟨_, by simp [Pilot.pursued?, Pilot.center?, passage], .inl rfl⟩

theorem Nears.agrees (h : c.Nears executed next q b) : q.Agrees c.pose next := by
  cases h with
  | loseFacing | turnBlindly | loseDriving | faceNothing | lineUp | noPost | goAround => exact .inl rfl
  | turnToCenter | turnToFace => exact .inr ⟨_, rfl⟩
  | faceCenter held passage => exact ⟨_, by simp [Pilot.pursued?, Pilot.center?, passage], .inl rfl⟩
  | driveUp held plan move => exact move.agrees

theorem Finishes.agrees {waypoint : Option (Waypoint α)} (h : Finishes pose waypoint b p next q) :
    q.Agrees pose next := by
  cases h <;> exact .inl rfl

theorem Passes.agrees (h : c.Passes executed next q b) : q.Agrees c.pose next := by
  cases h with
  | endTurning detour finish | endDriving detour finish | reachEnd detour near finish => exact finish.agrees
  | turnToLeg | strayFromLeg | turnToPoint | strayFromPoint => exact .inr ⟨_, rfl⟩
  -- At a corner of the detour the rover stops and turns; on the way through it goes straight on.
  | reachLeg => exact .inl rfl
  | reachPoint => exact ⟨_, rfl, rfl⟩
  | faceLeg detour | driveToLeg detour => exact ⟨_, by simp [Pilot.pursued?, detour], rfl⟩
  | facePoint through | driveToPoint through => exact ⟨_, by simp [Pilot.pursued?, through], rfl⟩
  | turnPast | drivePast | traverse => rfl

theorem Advances.agrees (h : c.Advances executed next q b) : q.Agrees c.pose next := by
  cases h with
  | searches h => exact h.agrees
  | nears h => exact h.agrees
  | passes h => exact h.agrees
  | idle idle =>
    revert idle
    cases executed <;> simp [Phase.isTerminal, Phase.isGate, Pilot.Agrees]

end Cycle

theorem Pilot.agrees_of_shown [Scalar α] [Trig α] {p p' : Pilot α} {v : View α} (h : p.shown v = .ok p') :
    p'.Agrees v.pose p'.phase := by
  obtain ⟨next, q, b, move, rfl⟩ := of_shown h
  exact move.agrees.moved

/-- The rover is steered as its phase asks for. After every cycle of a search it drives to the point that the phase now
pursues, if this is a phase that drives, where in front of the gate it may also hold as long as it is no farther from
the center than the standoff; it holds while it waits, and when the search is over; and it turns on the spot or holds in
all other phases. So it is never steered to a point outside the phases that drive, nor to any point but the one that is
pursued. -/
theorem Logbook.steered_as_pursued [Scalar α] [Trig α] [Numeral α] (L : Logbook α) (i : Nat) (hi : i < L.length) :
    (L.pilot (i + 1)).Agrees (L.view i).pose (L.pilot (i + 1)).phase ∧
    ∀ q, (L.pilot (i + 1)).steering = .point q →
      (L.pilot (i + 1)).phase.travels = true ∧ (L.pilot (i + 1)).pursued? (L.pilot (i + 1)).phase = some q := by
  have agrees := Pilot.agrees_of_shown (L.step i hi)
  exact ⟨agrees, fun q steered => agrees.point steered⟩

/-- On its way through the gate the rover is steered to the first point that is left. -/
theorem Logbook.steered_as_pursued_straight :
    8 < Exact.straight.length ∧ (Exact.straight.pilot 9).phase = .driveThrough ∧
      ∃ q, (Exact.straight.pilot 9).through.head? = some q ∧ (Exact.straight.pilot 9).steering = .point q := by
  have driving : (Exact.straight.pilot 9).phase = .driveThrough := by decide +kernel
  have agrees := (steered_as_pursued Exact.straight 8 (by decide)).1
  rw [driving] at agrees
  exact ⟨by decide, driving, agrees⟩

end GateNav
