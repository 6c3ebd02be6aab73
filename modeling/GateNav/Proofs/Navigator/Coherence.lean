import GateNav.Proofs.Navigator.Course

/-!
# The navigator and its pilot

A navigator keeps its own copy of its pilot's phase, and gives the pilot up when a search ends. So its fields have to
agree with each other whatever it is told (`Navigator.Coherent`), and with what it tells the drive layer.
-/

namespace GateNav
variable {α : Type}

/-- The fields of the navigator agree with each other. -/
structure Navigator.Coherent (n : Navigator α) : Prop where
  busy : ∀ p ∈ n.pilot, n.phase = p.phase ∧ n.phase.isGate = true ∧ n.phase.isTerminal = false ∧
    n.waypoint.isSome = true ∧ n.abortedIn = none
  idle : n.pilot = none → n.phase = .off ∨ n.phase = .traversed ∨ n.phase = .notFound
  broken : ∀ phase ∈ n.abortedIn, n.pilot = none ∧ n.phase = .off ∧ phase.isGate = true ∧ phase.isTerminal = false

namespace Navigator

theorem Employs.coherent [Scalar α] [Trig α] {n : Navigator α} {p : Pilot α} {taken : Nat} (h : n.Employs p taken) :
    n.Coherent where
  busy q hq := by
    have same : q = p := Option.some.inj (hq.symm.trans h.busy)
    subst same
    rw [h.phase]
    exact ⟨rfl, h.sails.ready.searching, h.sails.on, h.waypoint, h.unbroken⟩
  idle none_left := by rw [h.busy] at none_left; cases none_left
  broken phase hp := by rw [h.unbroken] at hp; cases hp

theorem Recalls.coherent {n : Navigator α} {dismissed : Prop} {o : Outcome} (h : n.Recalls dismissed o)
    (idle : n.pilot = none) : n.Coherent where
  busy p hp := by rw [idle] at hp; cases hp
  idle _ := by
    cases h with
    | traversed _ kept lost =>
      by_cases gone : dismissed
      · exact .inl (lost gone)
      · exact .inr (.inl (kept gone))
    | notFound _ kept lost =>
      by_cases gone : dismissed
      · exact .inl (lost gone)
      · exact .inr (.inr (kept gone))
    | aborted _ off => exact .inl off
  broken phase hp := by
    cases h with
    | traversed unbroken | notFound unbroken => rw [unbroken] at hp; cases hp
    | aborted broken off gate on =>
      rw [broken] at hp; cases hp
      exact ⟨idle, off, gate, on⟩

end Navigator

namespace Journal
variable [Scalar α] [Trig α] [Numeral α] {L : Journal α} {s t : Nat}

theorem coherent_at (ht : t ≤ L.length) : (L.navigator t).Coherent := by
  obtain ⟨r, stands⟩ := due ht
  cases stands with
  | fresh quiet =>
    obtain ⟨idle, off, unbroken⟩ := quiet.off ht
    refine ⟨fun p hp => ?_, fun _ => .inl off, fun phase hp => ?_⟩
    · rw [idle] at hp; cases hp
    · rw [unbroken] at hp; cases hp
  | underway goes =>
    obtain ⟨p, employs⟩ := goes.employs
    exact employs.coherent
  | ended ends le quiet =>
    have rests := ends.rests le ht quiet
    exact rests.recalls.coherent rests.idle

/-- Each tick tells the phase that it leads to, and to hold where no search is left. -/
theorem told {frame : Frame α} (given : t < L.length) (order : L.order t = .tick frame) :
    ∃ c, L.command (t + 1) = some c ∧ c.phase = (L.navigator (t + 1)).phase ∧
      ((L.navigator (t + 1)).pilot = none → c.steering = .hold) := by
  obtain ⟨c, told, tick⟩ := ticks given order
  refine ⟨c, told, ?_⟩
  generalize L.navigator (t + 1) = m, L.events (t + 1) = events at tick ⊢
  cases tick with
  | rest => exact ⟨rfl, fun _ => rfl⟩
  | go => exact ⟨rfl, nofun⟩
  | finish busy perceived run terminal => exact ⟨rfl, fun _ => Pilot.hold_of_run run terminal⟩

/-- A search that has ended is not taken up again by a tick. -/
theorem phase_of_tick {frame : Frame α} (given : t < L.length) (order : L.order t = .tick frame)
    (terminal : (L.navigator t).phase.isTerminal = true) : (L.navigator (t + 1)).phase = (L.navigator t).phase := by
  have idle : (L.navigator t).pilot = none := by
    cases busy : (L.navigator t).pilot with
    | none => rfl
    | some p =>
      obtain ⟨-, -, on, -⟩ := (coherent_at (Nat.le_of_lt given)).busy p busy
      rw [on] at terminal; cases terminal
  obtain ⟨c, -, tick⟩ := ticks given order
  obtain ⟨⟨belief, after⟩, -⟩ := tick.of_idle idle
  rw [after]

theorem phase_of_ticks (hst : s ≤ t) (ht : t ≤ L.length)
    (ticking : ∀ i, s ≤ i → i < t → ∃ frame, L.order i = .tick frame)
    (terminal : (L.navigator s).phase.isTerminal = true) : (L.navigator t).phase = (L.navigator s).phase := by
  induction t, hst using Nat.le_induction with
  | base => rfl
  | succ t hst ih =>
    have same := ih (Nat.le_of_lt ht) fun i hs ht => ticking i hs (Nat.lt_succ_of_lt ht)
    obtain ⟨frame, order⟩ := ticking t hst (Nat.lt_succ_self t)
    rw [← same] at terminal
    exact (phase_of_tick ht order terminal).trans same

/-- A search that ended in vain has counted its search points. -/
theorem visited_of_notFound (ht : t ≤ L.length) (failed : (L.navigator t).phase = .notFound) :
    ∃ s < t, (L.order s).isSearch = true ∧ L.Quiet (s + 1) t ∧ (L.navigator t).visited = L.taken s t := by
  obtain ⟨r, stands⟩ := due ht
  cases stands with
  | fresh quiet =>
    obtain ⟨-, off, -⟩ := quiet.off ht
    rw [off] at failed; cases failed
  | underway goes =>
    obtain ⟨p, employs⟩ := goes.employs
    have on := employs.sails.on
    rw [← employs.phase, failed] at on; cases on
  | ended ends le quiet =>
    obtain ⟨idle, recalls, visited⟩ := ends.rests le ht quiet
    refine ⟨_, Nat.lt_of_lt_of_le ends.lt le, ends.isSearch, ends.quiet.trans quiet, visited ?_⟩
    cases recalls with
    | traversed unbroken | notFound unbroken => exact unbroken
    | aborted _ off => rw [off] at failed; cases failed

/-- Whatever a navigator is told, its fields agree with each other; each tick tells the phase that it leads to, and to
hold where no search is left; the end of a search is told again by every tick until something else is ordered; and
after a search in vain the navigator has counted the search points that were taken in it. -/
theorem coherent_throughout (L : Journal α) :
    (∀ t ≤ L.length, (L.navigator t).Coherent) ∧
    (∀ t < L.length, ∀ frame, L.order t = .tick frame →
      ∃ c, L.command (t + 1) = some c ∧ c.phase = (L.navigator (t + 1)).phase ∧
        ((L.navigator (t + 1)).pilot = none → c.steering = .hold)) ∧
    (∀ s t, s ≤ t → t ≤ L.length → (∀ i, s ≤ i → i < t → ∃ frame, L.order i = .tick frame) →
      (L.navigator s).phase.isTerminal = true → (L.navigator t).phase = (L.navigator s).phase) ∧
    ∀ t ≤ L.length, (L.navigator t).phase = .notFound →
      ∃ s < t, (L.order s).isSearch = true ∧ L.Quiet (s + 1) t ∧ (L.navigator t).visited = L.taken s t :=
  ⟨fun _ ht => coherent_at ht, fun _ ht _ order => told ht order,
    fun _ _ hst ht ticking terminal => phase_of_ticks hst ht ticking terminal, fun _ ht => visited_of_notFound ht⟩

end Journal

end GateNav
