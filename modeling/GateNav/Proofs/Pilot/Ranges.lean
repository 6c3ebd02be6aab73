import GateNav.Double
import GateNav.Proofs.Belief.Ranges
import GateNav.Proofs.Pilot.Settling
import GateNav.Proofs.Pilot.Sweeps

/-!
# What a pilot counts

A pilot counts the search points it has visited, the stops of its sweep and the cycles it rests in front of the gate. It
visits no more points than there are cycles, a sweep has a last stop, and the rest is over after as many cycles as a
window has places (`Pilot.InRange`). So each of these counts has room for one more in every cycle (`Cycle.InRange`).
-/

namespace GateNav

/-- Kinds of number whose whole parts are counts. -/
class Scalar.Counted (α : Type) [Scalar α] : Prop where
  ceil_le (x : α) : Scalar.ceil x ≤ maxCount

instance : Scalar.Counted Rat where
  ceil_le _ := Nat.min_le_right _ _

theorem Float64.ceil_le (x : Float) : Float64.ceil x ≤ maxCount := by
  have word : Float64.floorCount x ≤ maxCount := Nat.le_of_lt_succ x.toUInt64.toNat_lt
  unfold Float64.ceil
  dsimp only
  split
  · exact Nat.min_le_right _ _
  · exact word

instance : Scalar.Counted Float where
  ceil_le := Float64.ceil_le

instance : Scalar.Counted Double where
  ceil_le x := Float64.ceil_le x.value

variable {α : Type} [Scalar α]

/-- The next stop of a sweep that is on. -/
structure Sweep.InRange (s : Sweep α) : Prop where
  stop : s.stop < s.stops
  stops : s.stops ≤ maxCount

theorem Sweep.inRange_start [Scalar.Counted α] {settings : TraverseSettings α} {origin : α} :
    (start settings origin).InRange :=
  ⟨Nat.le_max_right _ _, Nat.max_le.2 ⟨Scalar.Counted.ceil_le _, by decide⟩⟩

/-- What the pilot has counted is no more than the cycles and the places of a window allow. -/
structure Pilot.InRange (p : Pilot α) (windowSize cycles : Nat) : Prop where
  visited : p.agenda.visited ≤ cycles
  sweep : ∀ s ∈ p.sweep, s.InRange
  settled : p.settledCycles ≤ windowSize

variable [Trig α]

namespace Cycle
variable {c : Cycle α} {executed next : Phase} {p q : Pilot α} {b : Belief α} {pose : Pose α} {cycles : Nat}

/-- Each count has room for one more. -/
structure InRange (c : Cycle α) : Prop where
  belief : c.belief.InRange
  visited : c.pilot.agenda.visited + 1 ≤ maxCount
  sweep : c.currentSweep.InRange
  settled : c.pilot.settledCycles + 1 ≤ maxCount
  pattern : c.pilot.pattern.Fits

theorem inRange_currentSweep [Scalar.Counted α] (h : ∀ s ∈ c.pilot.sweep, s.InRange) : c.currentSweep.InRange := by
  unfold currentSweep
  cases on : c.pilot.sweep with
  | none => exact Sweep.inRange_start
  | some s => exact h s on

/-- A sweep that is not over after a cycle is still in range. -/
theorem inRange_nextSweep (h : c.currentSweep.InRange) (on : c.nextSweep.isExhausted = false) :
    c.nextSweep.InRange := by
  refine ⟨?_, ?_⟩
  · simpa [Sweep.isExhausted] using on
  · unfold nextSweep
    dsimp only
    split <;> exact h.stops

theorem DrivesUp.settledCycles_le (h : DrivesUp pose b p next q) {places : Nat}
    (settled : p.settledCycles ≤ places) (same : b.settings.windowSize = places) : q.settledCycles ≤ places := by
  cases h with
  | blind => exact settled
  | rest passage near unsettled => exact same ▸ unsettled
  | settle | stray | drive => exact Nat.zero_le _

theorem Advances.settledCycles_le (h : c.Advances executed next q b)
    (settled : c.pilot.settledCycles ≤ c.belief.settings.windowSize) :
    q.settledCycles ≤ c.belief.settings.windowSize := by
  cases h with
  | searches h => rwa [h.settledCycles.2]
  | passes h => rwa [h.settledCycles.2]
  | idle => exact settled
  | nears h =>
    cases h with
    | driveUp held plan move => exact move.settledCycles_le (plan.settledCycles ▸ settled) rfl
    | _ => exact settled

end Cycle

namespace Pilot
variable {p p' : Pilot α} {v : View α} {b : Belief α} {cycles : Nat}

theorem inRange_of_start {settings : TraverseSettings α} {area : Waypoint α} {windowSize : Nat}
    (h : start settings area = .ok p) : p.InRange windowSize cycles := by
  obtain ⟨points, -, rfl⟩ := of_start h
  exact ⟨Nat.zero_le _, nofun, Nat.zero_le _⟩

theorem Schedules.visited_le (h : Schedules b p p') : p'.agenda.visited ≤ p.agenda.visited + 1 := by
  cases h with
  | keep agenda => rw [agenda]; exact Nat.le_succ _
  | take next => rw [(Agenda.next_eq_some next).2.2]
  | layOut _ _ _ _ agenda => rw [agenda]; exact Nat.le_succ _

/-- A sweep that is over is not kept. -/
theorem inRange_sweep_of_shown [Scalar.Counted α] (h : p.shown v = .ok p') (ready : p.Ready p.phase)
    (sweep : ∀ s ∈ p.sweep, s.InRange) : ∀ s ∈ p'.sweep, s.InRange := by
  intro s hs
  have open_ := (Pilot.ready_of_shown h ready).sweep s hs
  cases rotates_of_shown h ready with
  | leave none_left => rw [none_left] at hs; cases hs
  | pause same => rw [same] at hs; exact sweep s hs
  | turn executed same =>
    rw [same] at hs
    cases hs
    refine Cycle.inRange_nextSweep (Cycle.inRange_currentSweep sweep) ?_
    simpa [Sweep.isExhausted] using open_.2

/-- One cycle adds no more than one to each count. -/
theorem InRange.shown [Scalar.Counted α] (h : p.InRange v.belief.settings.windowSize cycles)
    (shown : p.shown v = .ok p') (ready : p.Ready p.phase) :
    p'.InRange v.belief.settings.windowSize (cycles + 1) := by
  refine ⟨?_, inRange_sweep_of_shown shown ready h.sweep, ?_⟩
  · exact Nat.le_trans (schedules_of_shown shown).visited_le (Nat.succ_le_succ h.visited)
  · obtain ⟨next, q, b, move, rfl⟩ := of_shown shown
    rw [moved_settledCycles]
    exact move.settledCycles_le h.settled

/-- As long as the cycles can be counted, so can all else. -/
theorem InRange.atWork [Scalar.Counted α] {pose : Pose α} {waypoint : Option (Waypoint α)}
    (h : p.InRange b.settings.windowSize cycles) (few : cycles < maxCount) (belief : b.InRange)
    (pattern : p.pattern.Fits) : (p.atWork pose waypoint b).InRange where
  belief := belief
  visited := Nat.lt_of_le_of_lt h.visited few
  sweep := Cycle.inRange_currentSweep h.sweep
  settled := Nat.lt_of_le_of_lt h.settled belief.windowSize
  pattern := pattern

end Pilot

end GateNav
