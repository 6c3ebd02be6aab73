import Mathlib.Algebra.BigOperators.Intervals
import GateNav.Proofs.Navigator.Retry

/-!
# The journal of a navigator

A navigator is told to begin a search, to take a frame in, or to break off what it does, in any order and however
often. A `Journal` holds these orders and what came of each of them. `Navigator.Obeys` says what one order can lead to,
`Journal.invariant` is the induction over a journal, and `Journal.Search` is the part of it that belongs to one search.

After `t` orders the navigator is `L.navigator t`, and `L.command t` and `L.events t` are what came with it.
-/

namespace GateNav
variable {α : Type}

/-- What a navigator can be told. -/
inductive Order (α : Type) where
  /-- A search is begun, in place of any that is on. -/
  | search (waypoint : Waypoint α)
  | tick (frame : Frame α)
  | abort

def Order.isSearch : Order α → Bool
  | .search _ => true
  | _ => false

/-- What comes of an order: the navigator after it, the command of a cycle, and the events met. -/
structure Reply (α : Type) where
  navigator : Navigator α
  command : Option (Command α)
  events : List (Event α)

namespace Navigator
variable [Scalar α] [Trig α] [Numeral α]

/-- One order. A search that cannot be begun under these settings changes nothing. -/
def obey (n : Navigator α) : Order α → Checked α (Reply α)
  | .search w => do
    match ← n.search w with
    | .error _ => return ⟨n, none, []⟩
    | .ok started => return ⟨started.result, none, started.events⟩
  | .tick frame => do
    let ⟨(m, command), events⟩ ← n.tick frame
    return ⟨m, some command, events⟩
  | .abort => return ⟨n.abort.result, none, n.abort.events⟩

/-- The navigator in whose hands a new search is. -/
def begun (n : Navigator α) (w : Waypoint α) (p : Pilot α) : Navigator α :=
  { n with
    belief := n.belief.reset, pilot := some p, waypoint := some w, phase := p.phase, visited := 0, abortedIn := none }

/-- One order under valid settings. -/
inductive Obeys (n : Navigator α) : Order α → Reply α → Prop
  | search {w : Waypoint α} {p : Pilot α} {events : List (Event α)}
      (built : Pilot.build n.settings.traverse w = .ok (.ok ⟨p, events⟩)) :
      Obeys n (.search w)
        ⟨n.begun w p, none, events ++ [.searchStarted w.id p.pattern.kind p.agenda.remaining]⟩
  | tick {frame : Frame α} {m : Navigator α} {command : Command α} {events : List (Event α)}
      (cycle : n.Ticks frame m command events) : Obeys n (.tick frame) ⟨m, some command, events⟩
  | interrupt {p : Pilot α} (busy : n.pilot = some p) :
      Obeys n .abort
        ⟨{ n with pilot := none, abortedIn := some n.phase, phase := .off }, none, [.searchAborted n.phase n.cycles]⟩
  | rest (idle : n.pilot = none) : Obeys n .abort ⟨{ n with phase := .off }, none, []⟩

variable {n : Navigator α} {order : Order α} {reply : Reply α}

theorem obeys_of_obey (valid : n.settings.traverse.validate = .ok ()) (h : n.obey order = .ok reply) :
    n.Obeys order reply := by
  cases order with
  | search w =>
    obtain ⟨begun, hb, h⟩ := Checked.bind_eq_ok.1 h
    cases begun with
    | error e =>
      -- Nothing but the settings stands in the way of a search.
      obtain ⟨built, hp, hb⟩ := Checked.bind_eq_ok.1 hb
      unfold Pilot.build at hp
      rw [valid] at hp
      obtain ⟨p, -, hp⟩ := Checked.bind_eq_ok.1 hp
      cases hp; cases hb
    | ok started =>
      obtain ⟨p, events, built, hs, he⟩ := of_search hb
      cases h
      rw [hs, he]
      exact .search built
  | tick frame =>
    obtain ⟨⟨⟨m, command⟩, events⟩, cycle, h⟩ := Checked.bind_eq_ok.1 h
    cases h
    exact .tick (ticks_of_tick cycle)
  | abort =>
    cases h
    cases busy : n.pilot with
    | none =>
      have resting : n.abort = ⟨{ n with phase := .off }, []⟩ := by unfold Navigator.abort; rw [busy]
      rw [resting]
      exact .rest busy
    | some p =>
      have broken : n.abort = ⟨{ n with pilot := none, abortedIn := some n.phase, phase := .off },
          [.searchAborted n.phase n.cycles]⟩ := by unfold Navigator.abort; rw [busy]
      rw [broken]
      exact .interrupt busy

theorem Obeys.settings (h : n.Obeys order reply) : reply.navigator.settings = n.settings := by
  cases h with
  | search | interrupt | rest => rfl
  | tick cycle => cases cycle <;> rfl

/-- What holds of every pilot at its start and is kept by every cycle holds of the pilot that is at work. -/
theorem Obeys.pilot {P : Pilot α → Prop} (h : n.Obeys order reply)
    (start : ∀ {settings area p}, Pilot.start settings area = .ok p → P p)
    (keep : ∀ {p q : Pilot α} {v : View α}, p.shown v = .ok q → P p → P q) (before : ∀ p ∈ n.pilot, P p) :
    ∀ p ∈ reply.navigator.pilot, P p := by
  intro p busy
  cases h with
  | search built =>
    cases busy
    exact start (Pilot.of_build built).2
  | interrupt => cases busy
  | rest => exact before p busy
  | tick cycle =>
    cases cycle with
    | rest => exact before p busy
    | @go belief seen pilot c at_work perceived run =>
      cases busy
      exact keep (Pilot.shown_of_run (v := ⟨_, _, _⟩) run) (before pilot at_work)
    | finish => cases busy

end Navigator

/-- The orders given to a navigator from its start, and what came of them. -/
structure Journal (α : Type) [Scalar α] [Trig α] [Numeral α] where
  settings : Settings α
  order : Nat → Order α
  /-- What there is after so many orders. -/
  reply : Nat → Reply α
  /-- How many orders were given. -/
  length : Nat
  begins : Navigator.build settings = .ok (.ok (reply 0).navigator)
  step : ∀ t < length, (reply t).navigator.obey (order t) = .ok (reply (t + 1))

namespace Journal
variable [Scalar α] [Trig α] [Numeral α] (L : Journal α)

/-- The navigator after `t` orders. -/
def navigator (t : Nat) : Navigator α := (L.reply t).navigator

/-- The command that came of the last of `t` orders. -/
def command (t : Nat) : Option (Command α) := (L.reply t).command

/-- The events that the last of `t` orders met. -/
def events (t : Nat) : List (Event α) := (L.reply t).events

theorem of_begins : L.settings.tracking.Valid ∧ L.settings.traverse.Valid ∧
    L.navigator 0 = .start L.settings (.start L.settings.tracking) := by
  obtain ⟨valid, b, prepared, h⟩ := Navigator.of_build L.begins
  obtain ⟨tracking, traverse⟩ := Settings.validate_eq_ok.1 valid
  obtain ⟨_, -, hb⟩ := Checked.bind_eq_ok.1 prepared
  cases hb
  exact ⟨tracking, traverse, h⟩

variable {L} {t : Nat}

theorem settings_eq (ht : t ≤ L.length) : (L.navigator t).settings = L.settings := by
  induction t with
  | zero => rw [L.of_begins.2.2]; rfl
  | succ t ih =>
    have same := ih (Nat.le_of_lt ht)
    have valid : (L.navigator t).settings.traverse.validate = .ok () := by
      rw [same]; exact TraverseSettings.validate_eq_ok.2 L.of_begins.2.1
    exact (Navigator.obeys_of_obey valid (L.step t ht)).settings.trans same

/-- Each order is obeyed. -/
theorem obeys (ht : t < L.length) : (L.navigator t).Obeys (L.order t) (L.reply (t + 1)) := by
  refine Navigator.obeys_of_obey ?_ (L.step t ht)
  rw [settings_eq (Nat.le_of_lt ht)]
  exact TraverseSettings.validate_eq_ok.2 L.of_begins.2.1

theorem tick {frame : Frame α} (given : t < L.length) (order : L.order t = .tick frame) :
    ∃ c, L.command (t + 1) = some c ∧
      (L.navigator t).tick frame = .ok ⟨(L.navigator (t + 1), c), L.events (t + 1)⟩ := by
  have step := L.step t given
  rw [order] at step
  obtain ⟨⟨⟨m, c⟩, events⟩, cycle, reply⟩ := Checked.bind_eq_ok.1 step
  unfold navigator command Journal.events
  rw [← Checked.pure_eq_ok.1 reply]
  exact ⟨c, rfl, cycle⟩

theorem ticks {frame : Frame α} (given : t < L.length) (order : L.order t = .tick frame) :
    ∃ c, L.command (t + 1) = some c ∧ (L.navigator t).Ticks frame (L.navigator (t + 1)) c (L.events (t + 1)) := by
  obtain ⟨c, told, cycle⟩ := tick given order
  exact ⟨c, told, Navigator.ticks_of_tick cycle⟩

theorem begun {w : Waypoint α} (given : t < L.length) (order : L.order t = .search w) :
    ∃ p events, Pilot.build L.settings.traverse w = .ok (.ok ⟨p, events⟩) ∧
      L.navigator (t + 1) = (L.navigator t).begun w p ∧ L.command (t + 1) = none ∧
      L.events (t + 1) = events ++ [.searchStarted w.id p.pattern.kind p.agenda.remaining] := by
  have obeys := obeys given
  rw [order] at obeys
  have same := settings_eq (Nat.le_of_lt given)
  unfold navigator command events
  generalize L.reply (t + 1) = reply at obeys ⊢
  cases obeys with
  | search built => exact ⟨_, _, same ▸ built, rfl, rfl, rfl⟩

theorem aborted (given : t < L.length) (order : L.order t = .abort) :
    (∃ p, (L.navigator t).pilot = some p ∧ L.navigator (t + 1) =
      { L.navigator t with pilot := none, abortedIn := some (L.navigator t).phase, phase := .off }) ∨
    ((L.navigator t).pilot = none ∧ L.navigator (t + 1) = { L.navigator t with phase := .off } ∧
      L.events (t + 1) = []) := by
  have obeys := obeys given
  rw [order] at obeys
  change (L.reply t).navigator.Obeys .abort (L.reply (t + 1)) at obeys
  unfold navigator events
  generalize L.reply (t + 1) = reply at obeys ⊢
  cases obeys with
  | interrupt busy => exact .inl ⟨_, busy, rfl⟩
  | rest idle => exact .inr ⟨idle, rfl, rfl⟩

/-- What holds of a navigator at its start and is kept by every order holds throughout. -/
theorem invariant {P : Navigator α → Prop} (start : P (.start L.settings (.start L.settings.tracking)))
    (keep : ∀ {n order reply}, n.Obeys order reply → P n → P reply.navigator) (ht : t ≤ L.length) :
    P (L.navigator t) := by
  induction t with
  | zero => rwa [L.of_begins.2.2]
  | succ t ih => exact keep (obeys ht) (ih (Nat.le_of_lt ht))

theorem pilot_invariant {P : Pilot α → Prop} (start : ∀ {settings area p}, Pilot.start settings area = .ok p → P p)
    (keep : ∀ {p q : Pilot α} {v : View α}, p.shown v = .ok q → P p → P q) (ht : t ≤ L.length) :
    ∀ p ∈ (L.navigator t).pilot, P p := by
  refine invariant (P := fun n => ∀ p ∈ n.pilot, P p) ?_ (fun obeys before => obeys.pilot start keep before) ht
  intro p busy
  cases busy

variable (L)

/-- Of the first `t` orders, the first `s + 1` end with one to search for `w`, and those after it show these frames. -/
inductive Search (s : Nat) (w : Waypoint α) : Nat → List (Frame α) → Prop
  | begin (given : s < L.length) (order : L.order s = .search w) : Search s w (s + 1) []
  | tick {t : Nat} {frames : List (Frame α)} {frame : Frame α} (before : Search s w t frames) (given : t < L.length)
      (order : L.order t = .tick frame) : Search s w (t + 1) (frames ++ [frame])

/-- How many search points were taken between order `s` and the navigator after `t` orders. -/
def taken (s t : Nat) : Nat := ∑ i ∈ Finset.Ioc s t, (L.events i).countP (·.takesPoint)

variable {L} {s : Nat}

theorem Search.le {w : Waypoint α} {frames : List (Frame α)} (h : L.Search s w t frames) : t ≤ L.length := by
  cases h with
  | begin given => exact given
  | tick _ given => exact given

theorem Search.of_ticks {w : Waypoint α} {frame : Nat → Frame α} {k : Nat} (begins : L.order s = .search w)
    (ticking : ∀ i < k, L.order (s + 1 + i) = .tick (frame i)) (given : s + k < L.length) :
    L.Search s w (s + 1 + k) ((List.range k).map frame) := by
  induction k with
  | zero => exact .begin given begins
  | succ k ih =>
    have before := ih (fun i hi => ticking i (Nat.lt_succ_of_lt hi)) (by omega)
    rw [List.range_succ, List.map_append]
    exact before.tick (by omega) (ticking k (Nat.lt_succ_self k))

theorem taken_succ (later : s ≤ t) :
    L.taken s (t + 1) = L.taken s t + (L.events (t + 1)).countP (·.takesPoint) :=
  Finset.sum_Ioc_succ_top later _

theorem taken_self : L.taken s (s + 1) = (L.events (s + 1)).countP (·.takesPoint) := by
  rw [taken_succ (Nat.le_refl s), taken, Finset.Ioc_self, Finset.sum_empty, Nat.zero_add]

end Journal

/-! ### Journals of given orders -/

section OfOrders
variable [Scalar α] [Trig α] [Numeral α]

/-- What there is after the first so many orders, as far as they are answered. -/
def Navigator.after (n : Navigator α) (order : Nat → Order α) : Nat → Reply α
  | 0 => ⟨n, none, []⟩
  | t + 1 =>
    let before := n.after order t
    (before.navigator.obey (order t)).toOption.getD before

theorem Navigator.after_succ {n : Navigator α} {order : Nat → Order α} {t : Nat} {reply : Reply α}
    (h : (n.after order t).navigator.obey (order t) = .ok reply) : n.after order (t + 1) = reply := by
  rw [after, h]; rfl

/-- The journal of so many orders that are answered one after the other. -/
def Journal.ofOrders (settings : Settings α) (n : Navigator α) (begins : Navigator.build settings = .ok (.ok n))
    (order : Nat → Order α) (length : Nat)
    (answered : ∀ t < length, ((n.after order t).navigator.obey (order t)).isOk = true) : Journal α where
  settings := settings
  order := order
  reply := n.after order
  length := length
  begins := begins
  step t ht := by
    have ok := answered t ht
    cases h : (n.after order t).navigator.obey (order t) with
    | error => rw [h] at ok; cases ok
    | ok reply => rw [Navigator.after_succ h]

end OfOrders

end GateNav
