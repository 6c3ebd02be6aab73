import GateNav.Navigator
import GateNav.Proofs.Pilot.Logbook

/-!
# The cycles of the navigator

`Navigator.Ticks` says what one cycle of the navigator can be: one at rest, one of a search that goes on, or the one
in which a search ends. `Navigator.watch` runs over a list of frames and collects the events.
-/

namespace GateNav.Navigator
variable {α : Type} [Scalar α] [Trig α]

/-- One cycle: the navigator and the command that it leads to, and the events met. -/
inductive Ticks (n : Navigator α) (frame : Frame α) : Navigator α → Command α → List (Event α) → Prop
  | rest {belief : Belief α} {seen : List (Event α)} (idle : n.pilot = none)
      (perceived : n.perceive frame = .ok ⟨belief, seen⟩) :
      Ticks n frame { n with cycles := n.cycles + 1, belief := belief } ⟨n.cycles + 1, n.phase, .hold⟩ seen
  | go {belief : Belief α} {seen : List (Event α)} {pilot : Pilot α} {c : Cycle α} (busy : n.pilot = some pilot)
      (perceived : n.perceive frame = .ok ⟨belief, seen⟩) (run : pilot.run frame.pose n.waypoint belief = .ok c)
      (on : c.pilot.phase.isTerminal = false) :
      Ticks n frame
        { n with belief := c.belief, pilot := some c.pilot, phase := c.pilot.phase, cycles := n.cycles + 1 }
        ⟨n.cycles + 1, c.pilot.phase, c.pilot.steering⟩
        (seen ++ c.events ++ changes n.phase c.pilot.phase (n.cycles + 1) c.pilot.agenda.visited)
  | finish {belief : Belief α} {seen : List (Event α)} {pilot : Pilot α} {c : Cycle α} (busy : n.pilot = some pilot)
      (perceived : n.perceive frame = .ok ⟨belief, seen⟩) (run : pilot.run frame.pose n.waypoint belief = .ok c)
      (terminal : c.pilot.phase.isTerminal = true) :
      Ticks n frame
        { n with
          belief := c.belief, pilot := none, phase := c.pilot.phase, cycles := n.cycles + 1
          visited := c.pilot.agenda.visited }
        ⟨n.cycles + 1, c.pilot.phase, c.pilot.steering⟩
        (seen ++ c.events ++ changes n.phase c.pilot.phase (n.cycles + 1) c.pilot.agenda.visited)

variable {n m : Navigator α} {frame : Frame α} {command : Command α} {events : List (Event α)}

theorem ticks_of_tick (h : n.tick frame = .ok ⟨(m, command), events⟩) : n.Ticks frame m command events := by
  unfold tick at h
  dsimp only at h
  split at h
  · cases h
  · obtain ⟨⟨belief, seen⟩, perceived, h⟩ := Checked.bind_eq_ok.1 h
    dsimp only at h
    split at h
    · next idle => cases h; exact .rest idle perceived
    · next pilot busy =>
      obtain ⟨c, run, h⟩ := Checked.bind_eq_ok.1 h
      cases terminal : c.pilot.phase.isTerminal with
      | false =>
        simp only [terminal, Bool.false_eq_true, if_false] at h
        cases h; exact .go busy perceived run terminal
      | true =>
        simp only [terminal, if_true] at h
        cases h; exact .finish busy perceived run terminal

theorem few_of_tick {r : Noted α (Navigator α × Command α)} (h : n.tick frame = .ok r) : n.cycles < maxCount := by
  unfold tick at h
  by_cases many : maxCount ≤ n.cycles
  · rw [if_pos many] at h; cases h
  · exact Nat.lt_of_not_le many

/-- As long as the cycles can be counted, each of these cycles takes place. -/
theorem Ticks.tick (h : n.Ticks frame m command events) (few : n.cycles < maxCount) :
    n.tick frame = .ok ⟨(m, command), events⟩ := by
  unfold Navigator.tick
  rw [if_neg (Nat.not_le_of_lt few)]
  cases h with
  | rest idle perceived => rw [perceived, idle]; rfl
  | go busy perceived run on =>
    rw [perceived, busy]
    simp only [bind, Except.bind, run, on, pure, Except.pure]
    rfl
  | finish busy perceived run terminal =>
    rw [perceived, busy]
    simp only [bind, Except.bind, run, terminal, pure, Except.pure]
    rfl

/-- A navigator takes a frame in if it can perceive it and its pilot has an answer to what is perceived. -/
theorem exists_tick_of_run {belief : Belief α} {seen : List (Event α)} (few : n.cycles < maxCount)
    (perceived : n.perceive frame = .ok ⟨belief, seen⟩)
    (answer : ∀ p ∈ n.pilot, ∃ c, p.run frame.pose n.waypoint belief = .ok c) : ∃ r, n.tick frame = .ok r := by
  cases busy : n.pilot with
  | none => exact ⟨_, Ticks.tick (.rest busy perceived) few⟩
  | some p =>
    obtain ⟨c, run⟩ := answer p busy
    cases terminal : c.pilot.phase.isTerminal with
    | false => exact ⟨_, Ticks.tick (.go busy perceived run terminal) few⟩
    | true => exact ⟨_, Ticks.tick (.finish busy perceived run terminal) few⟩

theorem Ticks.waypoint (h : n.Ticks frame m command events) : m.waypoint = n.waypoint := by
  cases h <;> rfl

/-- The pilot makes no more of the belief than to let the misses be forgotten. -/
theorem Ticks.belief (h : n.Ticks frame m command events) :
    ∃ belief seen, n.perceive frame = .ok ⟨belief, seen⟩ ∧ (m.belief = belief ∨ m.belief = belief.forgive) := by
  cases h with
  | rest idle perceived => exact ⟨_, _, perceived, .inl rfl⟩
  | go busy perceived run | finish busy perceived run =>
    obtain ⟨next, q, b, move, same, -⟩ := Cycle.pilot_of_run run
    refine ⟨_, _, perceived, ?_⟩
    dsimp only
    rw [same]
    exact move.belief

/-- The navigator after the frames, with the events of all of them. -/
def watch (n : Navigator α) : List (Frame α) → Checked α (Noted α (Navigator α))
  | [] => pure ⟨n, []⟩
  | frame :: frames => do
    let ⟨(m, _), events⟩ ← n.tick frame
    let ⟨last, later⟩ ← m.watch frames
    return ⟨last, events ++ later⟩

theorem watch_cons {frames : List (Frame α)} {last : Noted α (Navigator α)}
    (h : n.watch (frame :: frames) = .ok last) :
    ∃ m command events later, n.tick frame = .ok ⟨(m, command), events⟩ ∧ m.watch frames = .ok later ∧
      last = ⟨later.result, events ++ later.events⟩ := by
  obtain ⟨⟨⟨m, command⟩, events⟩, first, h⟩ := Checked.bind_eq_ok.1 h
  obtain ⟨later, rest, h⟩ := Checked.bind_eq_ok.1 h
  cases h
  exact ⟨m, command, events, later, first, rest, rfl⟩

omit [Trig α] in
/-- A navigator is only built under valid settings, with the windows of its belief set aside. -/
theorem of_build [Numeral α] {s : Settings α} (h : build s = .ok (.ok n)) :
    s.validate = .ok () ∧ ∃ b, Belief.prepare s.tracking = .ok b ∧ n = start s b := by
  unfold build at h
  split at h
  · cases h
  · next valid =>
    obtain ⟨b, prepared, h⟩ := Checked.bind_eq_ok.1 h
    rw [Checked.pure_eq_ok, Except.ok.injEq] at h
    exact ⟨valid, b, prepared, h.symm⟩

/-- A search begins with a pilot of its own, and with nothing believed about posts. -/
theorem of_search [Numeral α] {w : Waypoint α} {started : Noted α (Navigator α)}
    (h : n.search w = .ok (.ok started)) :
    ∃ p events, Pilot.build n.settings.traverse w = .ok (.ok ⟨p, events⟩) ∧
      started.result = { n with
        belief := n.belief.reset, pilot := some p, waypoint := some w, phase := p.phase, visited := 0
        abortedIn := none } ∧
      started.events = events ++ [.searchStarted w.id p.pattern.kind p.agenda.remaining] := by
  obtain ⟨built, hb, h⟩ := Checked.bind_eq_ok.1 h
  split at h
  · cases h
  · next p events => cases h; exact ⟨p, events, hb, rfl, rfl⟩

end GateNav.Navigator
