import GateNav.Proofs.Pilot.Moves
import GateNav.Proofs.Waypoint

/-!
# The record of a search

In each cycle the pilot is shown a `View`: a pose, a waypoint and a belief, each of them whatever it may be. A
`Logbook` holds the views of a search and the pilots that they make of the one it was built with.
`Pilot.of_shown` is the inversion of one cycle, and `Logbook.invariant` the induction along a search.
-/

namespace GateNav
variable {α : Type}

/-- What the pilot is shown in one cycle. -/
structure View (α : Type) where
  pose : Pose α
  waypoint : Option (Waypoint α)
  belief : Belief α

/-- Every id is on the gate that is shown or off it. -/
def View.Numbered (v : View α) : Prop := ∀ w ∈ v.waypoint, w.Numbered

/-- A pilot at work on a view. -/
abbrev View.cycle (v : View α) (p : Pilot α) : Cycle α := p.atWork v.pose v.waypoint v.belief

namespace Pilot

/-- The pilot after the move of a phase: the posts are recorded where the phase allows it, and the phase changes. -/
def moved (p : Pilot α) (b : Belief α) (executed next : Phase) : Pilot α :=
  { (if Cycle.placesPosts executed then p.trust b else p) with phase := next }

section Moved
variable {p : Pilot α} {b : Belief α} {executed next : Phase}

@[simp] theorem moved_phase : (p.moved b executed next).phase = next := rfl

@[simp] theorem moved_orders : (p.moved b executed next).orders = p.orders := by
  unfold moved; split <;> rfl

@[simp] theorem moved_settings : (p.moved b executed next).settings = p.settings := by
  unfold moved; split <;> rfl

@[simp] theorem moved_agenda : (p.moved b executed next).agenda = p.agenda := by
  unfold moved; split <;> rfl

@[simp] theorem moved_passage : (p.moved b executed next).passage = p.passage := by
  unfold moved; split <;> rfl

@[simp] theorem moved_goal : (p.moved b executed next).goal = p.goal := by
  unfold moved; split <;> rfl

@[simp] theorem moved_aim : (p.moved b executed next).aim = p.aim := by
  unfold moved; split <;> rfl

@[simp] theorem moved_sweep : (p.moved b executed next).sweep = p.sweep := by
  unfold moved; split <;> rfl

@[simp] theorem moved_detour : (p.moved b executed next).detour = p.detour := by
  unfold moved; split <;> rfl

@[simp] theorem moved_through : (p.moved b executed next).through = p.through := by
  unfold moved; split <;> rfl

@[simp] theorem moved_searchedAround : (p.moved b executed next).searchedAround = p.searchedAround := by
  unfold moved; split <;> rfl

@[simp] theorem moved_steering : (p.moved b executed next).steering = p.steering := by
  unfold moved; split <;> rfl

@[simp] theorem moved_settledCycles : (p.moved b executed next).settledCycles = p.settledCycles := by
  unfold moved; split <;> rfl

end Moved

variable [Scalar α] [Trig α]

/-- The pilot after a cycle in which it is shown `v`. -/
def shown (p : Pilot α) (v : View α) : Checked α (Pilot α) := (·.pilot) <$> p.run v.pose v.waypoint v.belief

/-- The pilot after the first so many views, as far as it has an answer to them. -/
def after (p : Pilot α) (view : Nat → View α) : Nat → Pilot α
  | 0 => p
  | i + 1 => ((p.after view i).shown (view i)).toOption.getD (p.after view i)

theorem after_succ {p q : Pilot α} {view : Nat → View α} {i : Nat} (h : (p.after view i).shown (view i) = .ok q) :
    p.after view (i + 1) = q := by
  rw [after, h]; rfl

end Pilot

theorem Cycle.pilot_of_run [Scalar α] [Trig α] {c d : Cycle α} (h : c.run = .ok d) :
    ∃ next q b, c.Advances c.pilot.phase next q b ∧ d.belief = b ∧ d.pilot = q.moved b c.pilot.phase next := by
  unfold Cycle.run at h
  obtain ⟨⟨next, e⟩, he, h⟩ := Checked.bind_eq_ok.1 h
  rw [Checked.pure_eq_ok] at h
  refine ⟨next, e.pilot, e.belief, advances_of_advance he, ?_⟩
  subst h
  unfold Pilot.moved record
  dsimp only
  constructor <;> split <;> split <;> rfl

namespace Pilot
variable [Scalar α] [Trig α] {p p' : Pilot α} {v : View α}

/-- One cycle is the move of the pilot's phase and what is made of it. -/
theorem of_shown (h : p.shown v = .ok p') :
    ∃ next q b, (v.cycle p).Advances p.phase next q b ∧ p' = q.moved b p.phase next := by
  obtain ⟨d, hd, rfl⟩ := Checked.map_eq_ok.1 h
  obtain ⟨next, q, b, hq, -, hp⟩ := Cycle.pilot_of_run hd
  exact ⟨next, q, b, hq, hp⟩

theorem shown_of_run {c : Cycle α} (h : p.run v.pose v.waypoint v.belief = .ok c) : p.shown v = .ok c.pilot := by
  rw [shown, h]; rfl

theorem orders_of_shown (h : p.shown v = .ok p') : p'.orders = p.orders := by
  obtain ⟨next, q, b, hq, rfl⟩ := of_shown h
  rw [moved_orders]; exact hq.orders

theorem of_start {settings : TraverseSettings α} {area : Waypoint α} (h : start settings area = .ok p) :
    ∃ points, searchPoints (Pattern.ofSettings settings) settings.spacing area area.pose = .ok points ∧
      p = {
        settings := settings, pattern := Pattern.ofSettings settings, area := area, phase := .spin,
        known := ⟨none, none⟩, agenda := .ofList points settings.maxPoints, passage := none, rightSide := false,
        goal := none, aim := none, sweep := none, detour := [], through := [], steering := .hold,
        searchedAround := [], settledCycles := 0 } := by
  obtain ⟨points, layout, h⟩ := Checked.bind_eq_ok.1 h
  exact ⟨points, layout, (Checked.pure_eq_ok.1 h).symm⟩

/-- A pilot is only built under valid settings. -/
theorem of_build [Numeral α] {settings : TraverseSettings α} {area : Waypoint α} {events : List (Event α)}
    (h : build settings area = .ok (.ok ⟨p, events⟩)) :
    settings.validate = .ok () ∧ start settings area = .ok p := by
  unfold build at h
  split at h
  · cases h
  · next valid =>
    obtain ⟨q, hq, h⟩ := Checked.bind_eq_ok.1 h
    rw [Checked.pure_eq_ok, Except.ok.injEq, Noted.mk.injEq] at h
    exact ⟨valid, h.1 ▸ hq⟩

end Pilot

/-- The record of a search: the views shown to the pilot and the pilots they lead to. -/
structure Logbook (α : Type) [Scalar α] [Trig α] [Numeral α] where
  settings : TraverseSettings α
  /-- The waypoint searched for. -/
  area : Waypoint α
  view : Nat → View α
  pilot : Nat → Pilot α
  /-- How many cycles the search has had. -/
  length : Nat
  begins : ∃ events, Pilot.build settings area = .ok (.ok ⟨pilot 0, events⟩)
  step : ∀ i < length, (pilot i).shown (view i) = .ok (pilot (i + 1))

namespace Logbook
variable [Scalar α] [Trig α] [Numeral α] (L : Logbook α)

theorem valid : L.settings.validate = .ok () := let ⟨_, h⟩ := L.begins; (Pilot.of_build h).1

theorem starts : Pilot.start L.settings L.area = .ok (L.pilot 0) := let ⟨_, h⟩ := L.begins; (Pilot.of_build h).2

/-- What holds of the first pilot and is kept by every cycle holds of all. -/
theorem invariant {P : Pilot α → Prop} (start : P (L.pilot 0))
    (keep : ∀ {p p' v}, p.shown v = .ok p' → P p → P p') {i : Nat} (hi : i ≤ L.length) : P (L.pilot i) := by
  induction i with
  | zero => exact start
  | succ i ih => exact keep (L.step i hi) (ih (Nat.le_of_lt hi))

variable {i : Nat}

/-- A pilot keeps the settings, the pattern and the area it was built with. -/
theorem orders (hi : i ≤ L.length) : (L.pilot i).orders = (L.settings, Pattern.ofSettings L.settings, L.area) := by
  refine L.invariant (P := fun p => p.orders = _) ?_ (fun h ih => (Pilot.orders_of_shown h).trans ih) hi
  obtain ⟨points, -, h⟩ := Pilot.of_start L.starts
  rw [h]; rfl

theorem settings_eq (hi : i ≤ L.length) : (L.pilot i).settings = L.settings := congrArg (·.1) (L.orders hi)

theorem area_eq (hi : i ≤ L.length) : (L.pilot i).area = L.area := congrArg (·.2.2) (L.orders hi)

end Logbook

end GateNav
