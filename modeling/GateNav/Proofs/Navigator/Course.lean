import GateNav.Proofs.Navigator.Journal
import GateNav.Proofs.Pilot.PhaseData

/-!
# The course of the searches

`Journal.Goes` and `Journal.Ends` say from the orders and the commands alone that a search is on, and how it ended.
While a search is on the navigator has a pilot at work (`Goes.employs`, by induction over the search); once it has
ended, the navigator remembers how, as far as it does (`Ends.rests`, by induction over the orders since). Either of them
holds of the last search begun, after any orders: `Journal.due`.
-/

namespace GateNav
variable {α : Type}

theorem Phase.eq_of_isTerminal {phase : Phase} (h : phase.isTerminal = true) :
    phase = .traversed ∨ phase = .notFound := by
  cases phase
  case traversed => exact .inl rfl
  case notFound => exact .inr rfl
  all_goals cases h

/-! ### The pilot's part -/

namespace Cycle
variable [Scalar α] [Trig α] {c : Cycle α} {executed next : Phase} {q : Pilot α} {b : Belief α}

/-- A search ends at rest. -/
theorem Advances.hold_of_terminal (h : c.Advances executed next q b) (terminal : next.isTerminal = true) :
    q.steering = .hold := by
  cases h with
  | searches h =>
    cases h
    case runOut => rfl
    case driveToPost move => cases move <;> cases terminal
    all_goals cases terminal
  | nears h =>
    cases h
    case driveUp move => cases move <;> cases terminal
    all_goals cases terminal
  | passes h =>
    cases h
    case endTurning finish | endDriving finish | reachEnd finish => cases finish <;> cases terminal
    case turnPast | drivePast | traverse => rfl
    all_goals cases terminal
  | idle => rfl

end Cycle

namespace Pilot
variable [Scalar α] [Trig α] {p : Pilot α} {pose : Pose α} {waypoint : Option (Waypoint α)} {b : Belief α}
  {c : Cycle α}

theorem hold_of_run (h : p.run pose waypoint b = .ok c) (terminal : c.pilot.phase.isTerminal = true) :
    c.pilot.steering = .hold := by
  obtain ⟨next, q, b', move, -, hp⟩ := Cycle.pilot_of_run h
  rw [hp] at terminal ⊢
  have held : (q.moved b' p.phase next).steering = q.steering := by unfold moved; split <;> rfl
  exact held.trans (move.hold_of_terminal terminal)

theorem not_takesPoint_of_build [Numeral α] {settings : TraverseSettings α} {area : Waypoint α}
    {events : List (Event α)} (h : build settings area = .ok (.ok ⟨p, events⟩)) :
    events.countP (·.takesPoint) = 0 := by
  unfold build at h
  split at h
  · cases h
  · obtain ⟨q, -, h⟩ := Checked.bind_eq_ok.1 h
    cases h; rfl

/-- A pilot at work: it holds what its phase relies on, and its search is not over. -/
structure Sails (p : Pilot α) : Prop where
  ready : p.Ready p.phase
  layout : p.LaysOut
  on : p.phase.isTerminal = false

theorem sails_of_start {settings : TraverseSettings α} {area : Waypoint α} (h : start settings area = .ok p) :
    p.Sails := by
  have on : p.phase.isTerminal = false := by
    obtain ⟨points, -, rfl⟩ := of_start h
    rfl
  exact ⟨ready_of_start h, laysOut_of_start h, on⟩

theorem Sails.run (sails : p.Sails) (h : p.run pose waypoint b = .ok c) (on : c.pilot.phase.isTerminal = false) :
    c.pilot.Sails := by
  have shown : p.shown ⟨pose, waypoint, b⟩ = .ok c.pilot := shown_of_run h
  exact ⟨ready_of_shown shown sails.ready, laysOut_of_shown shown sails.layout, on⟩

end Pilot

/-! ### What a navigator remembers -/

namespace Navigator

/-- The navigator lets the pilot `p` work, which has taken so many search points. -/
structure Employs [Scalar α] [Trig α] (n : Navigator α) (p : Pilot α) (taken : Nat) : Prop where
  busy : n.pilot = some p
  sails : p.Sails
  phase : n.phase = p.phase
  waypoint : n.waypoint.isSome = true
  unbroken : n.abortedIn = none
  visited : p.agenda.visited = taken

section Employs
variable [Scalar α] [Trig α] {n m : Navigator α} {p : Pilot α} {taken : Nat} {frame : Frame α} {command : Command α}
  {events : List (Event α)}

/-- A cycle at rest. -/
theorem Ticks.of_idle (tick : n.Ticks frame m command events) (idle : n.pilot = none) :
    (∃ belief, m = { n with cycles := n.cycles + 1, belief := belief }) ∧
      command = ⟨n.cycles + 1, n.phase, .hold⟩ ∧ events.countP (·.takesPoint) = 0 := by
  cases tick with
  | rest _ perceived => exact ⟨⟨_, rfl⟩, rfl, not_takesPoint_of_perceive perceived⟩
  | go busy | finish busy => rw [idle] at busy; cases busy

/-- After a cycle of its pilot the navigator lets it work on, unless the search is over. -/
theorem Employs.ticks (h : n.Employs p taken) (tick : n.Ticks frame m command events) :
    (command.phase.isTerminal = false ∧ ∃ q, m.Employs q (taken + events.countP (·.takesPoint))) ∨
    (command.phase.isTerminal = true ∧ command.steering = .hold ∧ m.pilot = none ∧ m.phase = command.phase ∧
      m.abortedIn = none ∧ m.visited = taken + events.countP (·.takesPoint)) := by
  cases tick with
  | rest idle => rw [h.busy] at idle; cases idle
  | @go belief seen pilot c busy perceived run on =>
    have same : pilot = p := Option.some.inj (busy.symm.trans h.busy)
    subst same
    rw [← h.visited]
    exact .inl ⟨on, c.pilot, rfl, h.sails.run run on, rfl, h.waypoint, h.unbroken,
      (taken_of_cycle perceived run).symm⟩
  | @finish belief seen pilot c busy perceived run terminal =>
    have same : pilot = p := Option.some.inj (busy.symm.trans h.busy)
    subst same
    rw [← h.visited]
    exact .inr ⟨terminal, Pilot.hold_of_run run terminal, rfl, rfl, h.unbroken,
      (taken_of_cycle perceived run).symm⟩

/-- A new search is in the hands of a pilot. -/
theorem employs_begun [Numeral α] {settings : TraverseSettings α} {w : Waypoint α}
    (built : Pilot.build settings w = .ok (.ok ⟨p, events⟩)) : (n.begun w p).Employs p 0 := by
  have starts := (Pilot.of_build built).2
  refine ⟨rfl, Pilot.sails_of_start starts, rfl, rfl, rfl, ?_⟩
  obtain ⟨points, -, rfl⟩ := Pilot.of_start starts
  rfl

end Employs

/-- The navigator at rest remembers how the last search ended. Once it is dismissed, it knows no more than that it is
at rest, unless the search was broken off. -/
inductive Recalls (n : Navigator α) (dismissed : Prop) : Outcome → Prop
  | traversed (unbroken : n.abortedIn = none) (kept : ¬ dismissed → n.phase = .traversed)
      (lost : dismissed → n.phase = .off) : Recalls n dismissed (.ok ())
  | notFound (unbroken : n.abortedIn = none) (kept : ¬ dismissed → n.phase = .notFound)
      (lost : dismissed → n.phase = .off) : Recalls n dismissed (.error (.notFound n.visited))
  | aborted {phase : Phase} (broken : n.abortedIn = some phase) (off : n.phase = .off) (gate : phase.isGate = true)
      (on : phase.isTerminal = false) : Recalls n dismissed (.error (.aborted phase))

theorem Recalls.congr {n m : Navigator α} {d d' : Prop} {o : Outcome} (h : n.Recalls d o) (phase : m.phase = n.phase)
    (visited : m.visited = n.visited) (abortedIn : m.abortedIn = n.abortedIn) (same : d' ↔ d) : m.Recalls d' o := by
  cases h with
  | traversed unbroken kept lost =>
    exact .traversed (abortedIn.trans unbroken) (fun h => phase.trans (kept (mt same.2 h)))
      fun h => phase.trans (lost (same.1 h))
  | notFound unbroken kept lost =>
    rw [← visited]
    exact .notFound (abortedIn.trans unbroken) (fun h => phase.trans (kept (mt same.2 h)))
      fun h => phase.trans (lost (same.1 h))
  | aborted broken off gate on => exact .aborted (abortedIn.trans broken) (phase.trans off) gate on

/-- Whatever a navigator at rest remembers, it is dismissed by an abort. -/
theorem Recalls.dismiss {n : Navigator α} {d d' : Prop} {o : Outcome} (h : n.Recalls d o) (dismissed : d') :
    { n with phase := Phase.off }.Recalls d' o := by
  cases h with
  | traversed unbroken => exact .traversed unbroken (absurd dismissed) fun _ => rfl
  | notFound unbroken => exact .notFound unbroken (absurd dismissed) fun _ => rfl
  | aborted broken _ gate on => exact .aborted broken rfl gate on

end Navigator

/-! ### How a search stands -/

namespace Journal
variable [Scalar α] [Trig α] [Numeral α] (L : Journal α)

/-- The search begun by order `s` is on after `t` orders: no tick since has shown its end. -/
inductive Goes (s : Nat) : Nat → Prop
  | begin {w : Waypoint α} (given : s < L.length) (order : L.order s = .search w) : Goes s (s + 1)
  | tick {t : Nat} {frame : Frame α} {c : Command α} (before : Goes s t) (given : t < L.length)
      (order : L.order t = .tick frame) (told : L.command (t + 1) = some c) (on : c.phase.isTerminal = false) :
      Goes s (t + 1)

/-- The search begun by order `s` has ended with the last of so many orders. -/
inductive Ends (s : Nat) : Nat → Outcome → Prop
  | traversed {t : Nat} {frame : Frame α} {c : Command α} (before : L.Goes s t) (given : t < L.length)
      (order : L.order t = .tick frame) (told : L.command (t + 1) = some c) (phase : c.phase = .traversed) :
      Ends s (t + 1) (.ok ())
  | notFound {t : Nat} {frame : Frame α} {c : Command α} (before : L.Goes s t) (given : t < L.length)
      (order : L.order t = .tick frame) (told : L.command (t + 1) = some c) (phase : c.phase = .notFound) :
      Ends s (t + 1) (.error (.notFound (L.taken s (t + 1))))
  | aborted {t : Nat} (before : L.Goes s t) (given : t < L.length) (order : L.order t = .abort) :
      Ends s (t + 1) (.error (.aborted (L.navigator t).phase))

/-- No order from the `s`th on and before the `t`th begins a search. -/
def Quiet (s t : Nat) : Prop := ∀ i, s ≤ i → i < t → (L.order i).isSearch = false

/-- After `e` orders and before the `t`th one there was an abort. -/
def Dismissed (e t : Nat) : Prop := ∃ i, e ≤ i ∧ i < t ∧ L.order i = .abort

/-- How the last search has ended after `t` orders, if one was begun and has ended. -/
inductive Due (t : Nat) : Option Outcome → Prop
  | fresh (quiet : L.Quiet 0 t) : Due t none
  | underway {s : Nat} (goes : L.Goes s t) : Due t none
  | ended {s e : Nat} {o : Outcome} (ends : L.Ends s e o) (le : e ≤ t) (quiet : L.Quiet e t) : Due t (some o)

/-- After `t` orders the navigator is at rest, with what it remembers of the search that `s` began and that ended. -/
structure Rests (s e t : Nat) (o : Outcome) : Prop where
  idle : (L.navigator t).pilot = none
  recalls : (L.navigator t).Recalls (L.Dismissed e t) o
  visited : (L.navigator t).abortedIn = none → (L.navigator t).visited = L.taken s t

variable {L} {s e t : Nat} {o : Outcome}

theorem Quiet.succ (h : L.Quiet s t) (order : (L.order t).isSearch = false) : L.Quiet s (t + 1) := by
  intro i hs ht
  rcases Nat.lt_succ_iff_lt_or_eq.1 ht with earlier | rfl
  · exact h i hs earlier
  · exact order

theorem Quiet.not_search {w : Waypoint α} {i : Nat} (h : L.Quiet s t) (later : s ≤ i) (before : i < t)
    (order : L.order i = .search w) : False := by
  have no_search := h i later before
  rw [order] at no_search; cases no_search

theorem quiet_self : L.Quiet t t := fun i hs ht => by omega

theorem Quiet.trans (h : L.Quiet s e) (k : L.Quiet e t) : L.Quiet s t := by
  intro i hs ht
  by_cases earlier : i < e
  · exact h i hs earlier
  · exact k i (Nat.le_of_not_lt earlier) ht

theorem Goes.lt (h : L.Goes s t) : s < t := by
  induction h with
  | begin => exact Nat.lt_succ_self s
  | tick _ _ _ _ _ ih => exact Nat.lt_succ_of_lt ih

theorem Ends.goes (h : L.Ends s e o) : ∃ t, e = t + 1 ∧ t < L.length ∧ L.Goes s t := by
  cases h with
  | traversed before given | notFound before given | aborted before given => exact ⟨_, rfl, given, before⟩

theorem Ends.lt (h : L.Ends s e o) : s < e := by
  obtain ⟨t, rfl, -, goes⟩ := h.goes
  exact Nat.lt_succ_of_lt goes.lt

theorem Goes.isSearch (h : L.Goes s t) : (L.order s).isSearch = true := by
  induction h with
  | begin _ order => rw [order]; rfl
  | tick _ _ _ _ _ ih => exact ih

/-- While a search is on, no other is begun. -/
theorem Goes.quiet (h : L.Goes s t) : L.Quiet (s + 1) t := by
  induction h with
  | begin => exact quiet_self
  | tick _ _ order _ _ ih => exact ih.succ (by rw [order]; rfl)

theorem Ends.isSearch (h : L.Ends s e o) : (L.order s).isSearch = true := by
  obtain ⟨t, -, -, goes⟩ := h.goes
  exact goes.isSearch

theorem Ends.quiet (h : L.Ends s e o) : L.Quiet (s + 1) e := by
  cases h with
  | traversed before _ order | notFound before _ order | aborted before _ order =>
    exact before.quiet.succ (by rw [order]; rfl)

theorem dismissed_self : ¬ L.Dismissed t t := fun ⟨i, hs, ht, _⟩ => by omega

theorem dismissed_succ_of_tick {frame : Frame α} (order : L.order t = .tick frame) :
    L.Dismissed e (t + 1) ↔ L.Dismissed e t := by
  refine ⟨fun ⟨i, he, ht, h⟩ => ?_, fun ⟨i, he, ht, h⟩ => ⟨i, he, Nat.lt_succ_of_lt ht, h⟩⟩
  rcases Nat.lt_succ_iff_lt_or_eq.1 ht with earlier | rfl
  · exact ⟨i, he, earlier, h⟩
  · rw [order] at h; cases h

/-! ### The navigator follows the searches -/

/-- While a search is on, its pilot is at work. -/
theorem Goes.employs (h : L.Goes s t) : ∃ p, (L.navigator t).Employs p (L.taken s t) := by
  induction h with
  | begin given order =>
    obtain ⟨p, events, built, after, -, noted⟩ := begun given order
    have none_taken : L.taken s (s + 1) = 0 := by
      rw [taken_self, noted, List.countP_append, Pilot.not_takesPoint_of_build built]
      rfl
    rw [after, none_taken]
    exact ⟨p, Navigator.employs_begun built⟩
  | tick before given order told on ih =>
    obtain ⟨p, employs⟩ := ih
    obtain ⟨c, heard, tick⟩ := ticks given order
    cases heard.symm.trans told
    rw [taken_succ (Nat.le_of_lt before.lt)]
    rcases employs.ticks tick with ⟨-, employs⟩ | ⟨terminal, -⟩
    · exact employs
    · rw [on] at terminal; cases terminal

/-- The tick that shows the end of a search leaves no pilot. -/
theorem Goes.finish {frame : Frame α} {c : Command α} (h : L.Goes s t) (given : t < L.length)
    (order : L.order t = .tick frame) (told : L.command (t + 1) = some c) (terminal : c.phase.isTerminal = true) :
    (L.navigator (t + 1)).pilot = none ∧ (L.navigator (t + 1)).phase = c.phase ∧
      (L.navigator (t + 1)).abortedIn = none ∧ (L.navigator (t + 1)).visited = L.taken s (t + 1) := by
  obtain ⟨p, employs⟩ := h.employs
  obtain ⟨c, heard, tick⟩ := ticks given order
  cases heard.symm.trans told
  rw [taken_succ (Nat.le_of_lt h.lt)]
  rcases employs.ticks tick with ⟨on, -⟩ | ⟨-, -, finished⟩
  · rw [terminal] at on; cases on
  · exact finished

/-- The navigator when a search ends. -/
theorem Ends.rests_self (h : L.Ends s e o) : L.Rests s e e o := by
  cases h with
  | traversed goes given order told phase =>
    obtain ⟨idle, same, unbroken, visited⟩ := goes.finish given order told (by rw [phase]; rfl)
    exact ⟨idle, .traversed unbroken (fun _ => same.trans phase) fun h => absurd h dismissed_self, fun _ => visited⟩
  | notFound goes given order told phase =>
    obtain ⟨idle, same, unbroken, visited⟩ := goes.finish given order told (by rw [phase]; rfl)
    rw [← visited]
    exact ⟨idle, .notFound unbroken (fun _ => same.trans phase) fun h => absurd h dismissed_self, fun _ => visited⟩
  | @aborted t goes given order =>
    obtain ⟨p, employs⟩ := goes.employs
    rcases Journal.aborted given order with ⟨_, -, after⟩ | ⟨idle, -⟩
    · have gate : (L.navigator t).phase.isGate = true := by rw [employs.phase]; exact employs.sails.ready.searching
      have on : (L.navigator t).phase.isTerminal = false := by rw [employs.phase]; exact employs.sails.on
      refine ⟨?_, .aborted ?_ ?_ gate on, ?_⟩
      all_goals rw [after]
      exact nofun
    · rw [employs.busy] at idle; cases idle

theorem Rests.tick {frame : Frame α} (h : L.Rests s e t o) (later : s ≤ t) (given : t < L.length)
    (order : L.order t = .tick frame) : L.Rests s e (t + 1) o := by
  obtain ⟨c, -, tick⟩ := ticks given order
  obtain ⟨⟨belief, after⟩, -, none_taken⟩ := tick.of_idle h.idle
  constructor
  case visited => rw [taken_succ later, none_taken, after]; exact h.visited
  all_goals rw [after]
  case idle => exact h.idle
  case recalls => exact h.recalls.congr rfl rfl rfl (dismissed_succ_of_tick order)

theorem Rests.abort (h : L.Rests s e t o) (later : s ≤ t) (le : e ≤ t) (given : t < L.length)
    (order : L.order t = .abort) : L.Rests s e (t + 1) o := by
  rcases aborted given order with ⟨_, busy, -⟩ | ⟨-, after, noted⟩
  · rw [h.idle] at busy; cases busy
  · constructor
    case visited => rw [taken_succ later, noted, after]; exact h.visited
    all_goals rw [after]
    case idle => exact h.idle
    case recalls => exact h.recalls.dismiss ⟨t, le, Nat.lt_succ_self t, order⟩

/-- What the navigator remembers of a search that has ended stays until the next search, but for an abort. -/
theorem Ends.rests (h : L.Ends s e o) (le : e ≤ t) (ht : t ≤ L.length) (quiet : L.Quiet e t) : L.Rests s e t o := by
  induction t, le using Nat.le_induction with
  | base => exact h.rests_self
  | succ t le ih =>
    have before := ih (Nat.le_of_lt ht) fun i he ht => quiet i he (Nat.lt_succ_of_lt ht)
    have later : s ≤ t := Nat.le_of_lt (Nat.lt_of_lt_of_le h.lt le)
    cases order : L.order t with
    | search w => exact (quiet.not_search le (Nat.lt_succ_self t) order).elim
    | tick frame => exact before.tick later ht order
    | abort => exact before.abort later le ht order

/-- Before the first search the navigator is off. -/
theorem Quiet.off (quiet : L.Quiet 0 t) (ht : t ≤ L.length) :
    (L.navigator t).pilot = none ∧ (L.navigator t).phase = .off ∧ (L.navigator t).abortedIn = none := by
  induction t with
  | zero => rw [L.of_begins.2.2]; exact ⟨rfl, rfl, rfl⟩
  | succ t ih =>
    obtain ⟨idle, off, unbroken⟩ := ih (fun i hs ht => quiet i hs (Nat.lt_succ_of_lt ht)) (Nat.le_of_lt ht)
    cases order : L.order t with
    | search w => exact (quiet.not_search (Nat.zero_le t) (Nat.lt_succ_self t) order).elim
    | tick frame =>
      obtain ⟨c, -, tick⟩ := ticks ht order
      obtain ⟨⟨belief, after⟩, -⟩ := tick.of_idle idle
      rw [after]; exact ⟨idle, off, unbroken⟩
    | abort =>
      rcases aborted ht order with ⟨_, busy, -⟩ | ⟨-, after, -⟩
      · rw [idle] at busy; cases busy
      · rw [after]; exact ⟨idle, rfl, unbroken⟩

/-- A tick of a search that is on leaves it on, or it shows its end. An abort is its end. -/
theorem Goes.due (h : L.Goes s t) (given : t < L.length) (no_search : (L.order t).isSearch = false) :
    ∃ r, L.Due (t + 1) r := by
  cases order : L.order t with
  | search w => rw [order] at no_search; cases no_search
  | tick frame =>
    obtain ⟨c, told, -⟩ := ticks given order
    cases terminal : c.phase.isTerminal with
    | false => exact ⟨_, .underway (h.tick given order told terminal)⟩
    | true =>
      rcases Phase.eq_of_isTerminal terminal with phase | phase
      · exact ⟨_, .ended (.traversed h given order told phase) (Nat.le_refl _) quiet_self⟩
      · exact ⟨_, .ended (.notFound h given order told phase) (Nat.le_refl _) quiet_self⟩
  | abort => exact ⟨_, .ended (.aborted h given order) (Nat.le_refl _) quiet_self⟩

/-- After any orders no search was begun, or the last one is on, or it has ended. -/
theorem due (ht : t ≤ L.length) : ∃ r, L.Due t r := by
  induction t with
  | zero => exact ⟨_, .fresh quiet_self⟩
  | succ t ih =>
    obtain ⟨r, before⟩ := ih (Nat.le_of_lt ht)
    cases order : L.order t with
    | search w => exact ⟨_, .underway (.begin ht order)⟩
    | tick | abort =>
      have no_search : (L.order t).isSearch = false := by rw [order]; rfl
      cases before with
      | fresh quiet => exact ⟨_, .fresh (quiet.succ no_search)⟩
      | underway goes => exact goes.due ht no_search
      | ended ends le quiet => exact ⟨_, .ended ends (Nat.le_succ_of_le le) (quiet.succ no_search)⟩

end Journal

end GateNav
