import GateNav.Proofs.Exact
import GateNav.Proofs.Navigator.Alike
import GateNav.Proofs.Pilot.Ranges

/-!
# When a cycle halts

Two sums of a cycle can leave their words: the count of the cycles, and the second id of a gate that carries the largest
one. The second id is only looked at for a post that is not the first; once such a post is seen the cycle is over, so
none is ever held or known (`Navigator.Answered`), and the pilot never comes to compare it. All other counts have room
for one more as long as the cycles do (`Navigator.InRange`). Both are kept by every order, and so the condition for a
halt is exact (`Journal.halts_iff_overflows`).
-/

namespace GateNav
variable {α : Type} [Scalar α] [Trig α]

namespace Navigator
variable {n m : Navigator α} {frame : Frame α} {belief : Belief α} {seen events : List (Event α)} {command : Command α}

/-- The cycles can be counted no further, or a post is seen that could only be on the gate with the second id, which
there is not. -/
def Overflows (n : Navigator α) (frame : Frame α) : Prop :=
  n.cycles = maxCount ∨
    ∃ w ∈ n.waypoint, w.isGate = true ∧ w.id = Int32.maxValue ∧
      ∃ side, (frame.sightings.get side).detected = true ∧ (frame.sightings.get side).id ≠ Int32.maxValue

/-- Of all posts that are held or known it can be said whether they are on the gate. -/
structure Answered (n : Navigator α) : Prop where
  belief : n.belief.Names (Answerable n.waypoint)
  pilot : ∀ p ∈ n.pilot, p.Names (Answerable n.waypoint)

theorem perceive_eq_error {halt : Halt α} :
    n.perceive frame = .error halt ↔
      halt = .sumTooLarge ∧
        ∃ w ∈ n.waypoint, w.isGate = true ∧ w.id = Int32.maxValue ∧
          ∃ side, (frame.sightings.get side).detected = true ∧ (frame.sightings.get side).id ≠ Int32.maxValue := by
  unfold perceive
  rw [Belief.update_eq_error]
  refine and_congr_right fun _ => ?_
  constructor
  · rintro ⟨side, detected, unanswered⟩
    obtain ⟨w, hw, gate, last, other⟩ := not_answerable_iff.1 unanswered
    exact ⟨w, hw, gate, last, side, detected, other⟩
  · rintro ⟨w, hw, gate, last, side, detected, other⟩
    exact ⟨side, detected, not_answerable_iff.2 ⟨w, hw, gate, last, other⟩⟩

theorem Answered.perceive (h : n.Answered) (perceived : n.perceive frame = .ok ⟨belief, seen⟩) :
    belief.Names (Answerable n.waypoint) := by
  have before : ((n.belief.setObstacle frame.obstacle).setSightings frame.sightings).Names (Answerable n.waypoint) :=
    h.belief
  exact before.update perceived

theorem Answered.ticks (h : n.Answered) (tick : n.Ticks frame m command events) : m.Answered := by
  cases tick with
  | rest idle perceived => exact ⟨h.perceive perceived, h.pilot⟩
  | go busy perceived run on =>
    obtain ⟨known, held⟩ := Pilot.names_of_run run (h.pilot _ busy) (h.perceive perceived)
    exact ⟨held, fun p hp => by cases hp; exact known⟩
  | finish busy perceived run terminal =>
    obtain ⟨-, held⟩ := Pilot.names_of_run run (h.pilot _ busy) (h.perceive perceived)
    exact ⟨held, fun _ hp => by cases hp⟩

theorem Obeys.answered [Numeral α] {order : Order α} {reply : Reply α} (obeys : n.Obeys order reply)
    (h : n.Answered) : reply.navigator.Answered := by
  cases obeys with
  | search built =>
    obtain ⟨points, -, start⟩ := Pilot.of_start (Pilot.of_build built).2
    refine ⟨Belief.names_reset, fun p hp => ?_⟩
    cases hp
    rw [start]
    intro side
    cases side <;> exact nofun
  | tick cycle => exact h.ticks cycle
  | interrupt => exact ⟨h.belief, fun _ hp => by cases hp⟩
  | rest => exact ⟨h.belief, h.pilot⟩

/-- A halt comes before the pilot is asked, for the pilot has an answer to whatever is perceived. -/
theorem tick_eq_error (answered : n.Answered) (layout : ∀ p ∈ n.pilot, p.LaysOut) (few : n.cycles ≤ maxCount)
    {halt : Halt α} : n.tick frame = .error halt ↔ halt = .sumTooLarge ∧ n.Overflows frame := by
  by_cases last : n.cycles = maxCount
  · have halts : n.tick frame = .error .sumTooLarge := by
      unfold tick
      rw [if_pos (Nat.le_of_eq last.symm)]
      rfl
    rw [halts, Except.error.injEq, Overflows, eq_comm]
    simp [last]
  · have few : n.cycles < maxCount := Nat.lt_of_le_of_ne few last
    cases perceived : n.perceive frame with
    | error e =>
      have halts : n.tick frame = .error e := by
        unfold tick
        rw [if_neg (Nat.not_le_of_lt few), perceived]
        rfl
      obtain ⟨rfl, overflows⟩ := perceive_eq_error.1 perceived
      rw [halts, Except.error.injEq, eq_comm]
      exact (and_iff_left (.inr overflows)).symm
    | ok noted =>
      obtain ⟨r, hr⟩ := exists_tick_of_run few perceived fun p busy =>
        Pilot.exists_run (answered.pilot p busy) (answered.perceive perceived) (layout p busy)
      have within : ¬ n.Overflows frame := by
        rintro (full | overflows)
        · exact last full
        · have := perceive_eq_error.2 ⟨rfl, overflows⟩
          rw [perceived] at this
          cases this
      rw [hr]
      simp [within]

/-! ### What a navigator counts -/

/-- All that is counted fits its word. -/
structure InRange (n : Navigator α) : Prop where
  cycles : n.cycles ≤ maxCount
  visited : n.visited ≤ n.cycles
  belief : n.belief.InRange
  pilot : ∀ p ∈ n.pilot, p.InRange n.belief.settings.windowSize n.cycles

theorem InRange.perceive (h : n.InRange) (perceived : n.perceive frame = .ok ⟨belief, seen⟩) :
    belief.InRange ∧ belief.settings = n.belief.settings := by
  have before : ((n.belief.setObstacle frame.obstacle).setSightings frame.sightings).InRange :=
    ⟨h.belief.windowSize, h.belief.trackers⟩
  refine ⟨before.update perceived, ?_⟩
  have after := Belief.update_eq_ok perceived
  dsimp only at after
  rw [after]
  rfl

section Step
variable [Scalar.Counted α]

/-- What a pilot and its belief have counted after a cycle. -/
theorem InRange.run (h : n.InRange) {p : Pilot α} {c : Cycle α} (busy : n.pilot = some p) (ready : p.Ready p.phase)
    (perceived : n.perceive frame = .ok ⟨belief, seen⟩) (run : p.run frame.pose n.waypoint belief = .ok c) :
    c.belief.InRange ∧ c.pilot.InRange c.belief.settings.windowSize (n.cycles + 1) := by
  obtain ⟨held, same⟩ := h.perceive perceived
  have counted : p.InRange belief.settings.windowSize n.cycles := same ▸ h.pilot p busy
  have shown := Pilot.shown_of_run (v := ⟨frame.pose, n.waypoint, belief⟩) run
  rcases Pilot.pardons_of_run run with kept | ⟨forgiven, -⟩
  · rw [kept]; exact ⟨held, counted.shown shown ready⟩
  · rw [forgiven]; exact ⟨held.forgive, counted.shown shown ready⟩

theorem InRange.ticks (h : n.InRange) (few : n.cycles < maxCount) (ready : ∀ p ∈ n.pilot, p.Ready p.phase)
    (tick : n.Ticks frame m command events) : m.InRange := by
  cases tick with
  | rest idle perceived =>
    refine ⟨few, Nat.le_succ_of_le h.visited, (h.perceive perceived).1, fun p busy => ?_⟩
    rw [idle] at busy
    cases busy
  | go busy perceived run on =>
    obtain ⟨held, counted⟩ := h.run busy (ready _ busy) perceived run
    refine ⟨few, Nat.le_succ_of_le h.visited, held, fun p hp => ?_⟩
    cases hp
    exact counted
  | finish busy perceived run terminal =>
    obtain ⟨held, counted⟩ := h.run busy (ready _ busy) perceived run
    exact ⟨few, counted.visited, held, fun _ hp => by cases hp⟩

end Step

omit [Trig α] in
theorem inRange_of_build [Numeral α] {s : Settings α} (h : build s = .ok (.ok n)) : n.InRange := by
  obtain ⟨-, b, prepared, rfl⟩ := of_build h
  exact ⟨Nat.zero_le _, Nat.zero_le _, Belief.inRange_of_prepare prepared, fun _ hp => by cases hp⟩

end Navigator

namespace Journal
variable [Numeral α] {L : Journal α} {t : Nat}

theorem answered (ht : t ≤ L.length) : (L.navigator t).Answered := by
  refine invariant ⟨Belief.names_start, fun _ hp => by cases hp⟩ ?_ ht
  exact fun obeys before => obeys.answered before

theorem pattern_fits (ht : t ≤ L.length) : ∀ p ∈ (L.navigator t).pilot, p.pattern.Fits := by
  intro p busy
  exact (Pattern.fits_iff _ _).2 (laysOut ht p busy p.area.pose p.settings.spacing)

variable [Scalar.Counted α]

theorem inRange (ht : t ≤ L.length) : (L.navigator t).InRange := by
  induction t with
  | zero => exact Navigator.inRange_of_build L.begins
  | succ t ih =>
    have before := ih (Nat.le_of_lt ht)
    cases order : L.order t with
    | search w =>
      obtain ⟨p, events, built, after, -⟩ := begun ht order
      rw [after]
      refine ⟨before.cycles, Nat.zero_le _, before.belief.reset, fun q hq => ?_⟩
      cases hq
      exact Pilot.inRange_of_start (Pilot.of_build built).2
    | tick frame =>
      obtain ⟨c, -, tick⟩ := tick ht order
      have ready := pilot_invariant (P := fun p => p.Ready p.phase) Pilot.ready_of_start Pilot.ready_of_shown
        (Nat.le_of_lt ht)
      exact before.ticks (Navigator.few_of_tick tick) ready (Navigator.ticks_of_tick tick)
    | abort =>
      rcases aborted ht order with ⟨p, -, after⟩ | ⟨-, after, -⟩
      · rw [after]
        exact ⟨before.cycles, before.visited, before.belief, fun _ hp => by cases hp⟩
      · rw [after]
        exact ⟨before.cycles, before.visited, before.belief, before.pilot⟩

/-- Whatever a navigator was told, the next cycle halts exactly if the cycles cannot be counted any further, or if the
gate that was last searched for has the largest id and a post with another one is seen. In all other cases the cycle
takes place, and everything that it counts and cuts out on the way fits: the tallies and windows of the belief it forms,
and, each with room for one more, the points visited, the stops of the sweep and the cycles at rest. -/
theorem halts_iff_overflows (L : Journal α) (t : Nat) (ht : t ≤ L.length) (frame : Frame α) :
    (L.navigator t).InRange ∧
    ((∃ halt, (L.navigator t).tick frame = .error halt) ↔ (L.navigator t).Overflows frame) ∧
    (¬ (L.navigator t).Overflows frame →
      ∃ m command events belief seen,
        (L.navigator t).tick frame = .ok ⟨(m, command), events⟩ ∧ m.InRange ∧
        (L.navigator t).perceive frame = .ok ⟨belief, seen⟩ ∧ belief.InRange ∧
        ∀ p ∈ (L.navigator t).pilot, (p.atWork frame.pose (L.navigator t).waypoint belief).InRange) := by
  have counted := inRange ht
  have halts {halt : Halt α} : (L.navigator t).tick frame = .error halt ↔ _ :=
    Navigator.tick_eq_error (answered ht) (laysOut ht) counted.cycles
  refine ⟨counted, ?_, fun within => ?_⟩
  · constructor
    · rintro ⟨halt, h⟩
      exact (halts.1 h).2
    · intro overflows
      exact ⟨_, halts.2 ⟨rfl, overflows⟩⟩
  · cases tick : (L.navigator t).tick frame with
    | error halt => exact absurd (halts.1 tick).2 within
    | ok r =>
      obtain ⟨⟨m, command⟩, events⟩ := r
      have few := Navigator.few_of_tick tick
      have ready := pilot_invariant (P := fun p => p.Ready p.phase) Pilot.ready_of_start Pilot.ready_of_shown ht
      have ticks := Navigator.ticks_of_tick tick
      obtain ⟨belief, seen, perceived, -⟩ := ticks.belief
      obtain ⟨held, same⟩ := counted.perceive perceived
      refine ⟨m, command, events, belief, seen, rfl, counted.ticks few ready ticks, perceived, held, ?_⟩
      intro p busy
      have before : p.InRange belief.settings.windowSize (L.navigator t).cycles := same ▸ counted.pilot p busy
      exact before.atWork few held (pattern_fits ht p busy)

end Journal

/-- A gate with the largest id. -/
def Exact.lastGate : Waypoint Rat := { gate with id := Int32.maxValue }

/-- A search for this gate, with its one post in sight. -/
def Exact.seekingLast : Nat → Order Rat
  | 0 => .search lastGate
  | _ + 1 => .tick ⟨place 0 (-2) 0, ⟨⟨3, -30, Int32.maxValue⟩, .none⟩, .clear⟩

def Exact.last : Journal Rat := .ofOrders ⟨prompt, carefree⟩ navigator build_eq seekingLast 3 (by decide +kernel)

/-- The post with the largest id is taken in, and one with the smallest is not. -/
theorem Journal.halts_iff_overflows_last :
    (∃ halt, (Exact.last.navigator 3).tick (Exact.passing 0) = .error halt) ∧
      ∃ r, (Exact.last.navigator 3).tick Exact.lookout = .ok r := by
  have gate : (Exact.last.navigator 3).waypoint = some Exact.lastGate := by decide +kernel
  constructor
  · refine (halts_iff_overflows Exact.last 3 (by decide) (Exact.passing 0)).2.1.2 (.inr ?_)
    exact ⟨Exact.lastGate, gate, rfl, rfl, .left, by decide +kernel, by decide +kernel⟩
  · obtain ⟨m, command, events, -, -, tick, -⟩ :=
      (halts_iff_overflows Exact.last 3 (by decide) Exact.lookout).2.2 (by
        rintro (full | ⟨w, -, -, -, side, detected, -⟩)
        · revert full; decide +kernel
        · revert detected; cases side <;> decide +kernel)
    exact ⟨_, tick⟩

end GateNav
