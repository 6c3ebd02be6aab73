import Mathlib.Data.List.Forall2
import Mathlib.Data.Nat.Init
import GateNav.Proofs.Pilot.Retry
import GateNav.Proofs.Pilot.Traverse

/-!
# No search point is passed over

A search point is taken, and the search given up, only at the end of a whole sweep. A sweep may be interrupted when
something comes in sight, but then the rover holds and the sweep goes on where it was; so the cycles that faced its
stops are in order, with no drive between them (`Logbook.Swept`). Nothing but a stop or the arrival ends the way to a
search point. Together this is `Logbook.points_swept`.

`Cycle.Rotates` says what one cycle does to the sweep, and `Logbook.Accounts` is the invariant along a search: the
stops that the sweep counts have been faced.
-/

namespace GateNav
variable {α : Type}

namespace TraverseSettings
variable [Scalar α]

/-- How many stops a sweep has. -/
def stops (s : TraverseSettings α) : Nat := max (Scalar.ceil (s.spinArc / s.spinStep)) 1

/-- The heading of stop `k` of a sweep from `origin`. -/
def stopHeading (s : TraverseSettings α) (origin : α) (k : Nat) : α :=
  Bearing.normalize (origin + (k : α) * s.spinStep)

end TraverseSettings

theorem Phase.looksAround_of_pursues {phase : Phase} (h : phase.pursues = true) : phase.looksAround = false := by
  cases phase <;> first | rfl | cases h

namespace Pilot
variable {p : Pilot α} {b : Belief α} {q : Pose α} {executed next : Phase}

/-- The pilot is on its way to the search point `q`. -/
def HeadsFor (p : Pilot α) (q : Pose α) : Prop := p.phase.pursues = true ∧ p.goal = some (.searchPoint q)

/-- The search points still to be reached, the one that is the goal first. -/
def unreached (p : Pilot α) : List (Pose α) :=
  match p.phase.pursues, p.goal with
  | true, some (.searchPoint q) => q :: p.agenda.points
  | _, _ => p.agenda.points

theorem HeadsFor.unreached (h : p.HeadsFor q) : p.unreached = q :: p.agenda.points := by
  unfold Pilot.unreached; rw [h.1, h.2]

theorem unreached_of_not_pursues (h : p.phase.pursues = false) : p.unreached = p.agenda.points := by
  unfold unreached; rw [h]

theorem headsFor_moved (pursues : next.pursues = true) (goal : p.goal = some (.searchPoint q)) :
    (p.moved b executed next).HeadsFor q := ⟨pursues, by rw [moved_goal, goal]⟩

theorem unreached_moved (resting : next.pursues = false) : (p.moved b executed next).unreached = p.agenda.points := by
  rw [unreached_of_not_pursues resting, moved_agenda]

/-- The pilot goes from search point to search point, until there is none left. -/
inductive Roams (p : Pilot α) : Prop
  | look (phase : p.phase = .spin)
  | go {q : Pose α} (heads : p.HeadsFor q)
  | fail (phase : p.phase = .notFound) (points : p.agenda.points = [])

end Pilot

theorem ordered_concat {calls : List Nat} {n : Nat} (ordered : calls.Pairwise (· < ·)) (before : ∀ i ∈ calls, i < n) :
    (calls ++ [n]).Pairwise (· < ·) ∧ ∀ i ∈ calls ++ [n], i < n + 1 := by
  constructor
  · rw [List.pairwise_append]
    refine ⟨ordered, List.pairwise_singleton _ _, ?_⟩
    intro i hi j hj
    rw [List.mem_singleton.1 hj]
    exact before i hi
  · intro i hi
    rcases List.mem_append.1 hi with hi | hi
    · exact Nat.lt_succ_of_lt (before i hi)
    · rw [List.mem_singleton.1 hi]; exact Nat.lt_succ_self n

theorem Cycle.worthInspecting_of_nothing {c : Cycle α} (nothing : ∀ side, (c.belief.tracker side).hasPost = false) :
    c.worthInspecting = false := by
  have left : c.belief.trackers.left.held = none :=
    Option.not_isSome_iff_eq_none.1 (Bool.eq_false_iff.1 (nothing .left))
  have right : c.belief.trackers.right.held = none :=
    Option.not_isSome_iff_eq_none.1 (Bool.eq_false_iff.1 (nothing .right))
  simp [worthInspecting, Belief.hasGate, Tracker.hasPost, Sided.toList, Tracker.id?, left, right]

variable [Scalar α] [Trig α]

namespace Cycle
variable {c : Cycle α} {executed next : Phase} {p q : Pilot α} {b : Belief α} {pose point : Pose α}

/-- What one cycle does to the sweep. -/
inductive Rotates (c : Cycle α) (q : Pilot α) : Prop
  | leave (sweep : q.sweep = none)
  /-- It is interrupted, or it is taken up again. -/
  | pause (sweep : q.sweep = c.pilot.sweep) (hold : q.steering = .hold)
  | turn (executed : c.pilot.phase = .spin) (sweep : q.sweep = some c.nextSweep)
      (steering : q.steering = .heading c.nextSweep.heading)

theorem Approaches.no_sweep {side : Side} (h : Approaches pose b p side next q) (off : p.sweep = none) :
    q.sweep = none := by
  cases h <;> first | rfl | exact off

theorem Searches.rotates (h : c.Searches executed next q b) (phase : c.pilot.phase = executed)
    (ready : c.pilot.Ready executed) : c.Rotates q := by
  cases h with
  | inspect | vanish | wait => exact .pause rfl rfl
  | sweep => exact .turn phase rfl rfl
  | takePoint | runOut | approach | loseAim | reachPoint => exact .leave rfl
  | facePost | turnToPost | inspectTurning | facePoint | turnToPoint | turnNowhere | inspectDriving | strayFromPoint
  | driveToPoint | driveNowhere => exact .leave (ready.no_sweep rfl)
  | locate => exact .leave (ready.no_sweep rfl)
  | driveToPost goal unlocated move => exact .leave (move.no_sweep (Pilot.survey_sweep.trans (ready.no_sweep rfl)))

theorem Replans.no_sweep (h : c.Replans p) (off : c.pilot.sweep = none) : p.sweep = none := by
  cases h with
  | anew => exact Pilot.adopt_sweep.trans off
  | leave => exact off

theorem DrivesUp.no_sweep (h : DrivesUp pose b p next q) (off : p.sweep = none) : q.sweep = none := by
  cases h <;> exact off

theorem Nears.no_sweep (h : c.Nears executed next q b) (off : c.pilot.sweep = none) : q.sweep = none := by
  cases h
  case driveUp plan move => exact move.no_sweep (plan.no_sweep off)
  all_goals first | rfl | exact off

theorem Finishes.no_sweep {waypoint : Option (Waypoint α)} (h : Finishes pose waypoint b p next q)
    (off : p.sweep = none) : q.sweep = none := by
  cases h <;> exact Pilot.adopt_sweep.trans (Pilot.survey_sweep.trans off)

theorem Passes.no_sweep (h : c.Passes executed next q b) (off : c.pilot.sweep = none) : q.sweep = none := by
  cases h
  case endTurning finish | endDriving finish | reachEnd finish => exact finish.no_sweep off
  all_goals exact off

theorem Advances.rotates (h : c.Advances executed next q b) (phase : c.pilot.phase = executed)
    (ready : c.pilot.Ready executed) : c.Rotates q := by
  cases h with
  | searches h => exact h.rotates phase ready
  | nears h => exact .leave (h.no_sweep (ready.no_sweep (by cases h <;> rfl)))
  | passes h => exact .leave (h.no_sweep (ready.no_sweep (by cases h <;> rfl)))
  | idle => exact .pause rfl rfl

/-- A point is taken, or the search given up, at the end of a sweep only. -/
theorem Advances.concludes (h : c.Advances executed next q b) :
    (executed = .spin ∧ c.nextSweep.isExhausted = true ∧ q.steering = .hold ∧
      ∀ point, c.pilot.agenda.next = (some point, q.agenda) → next = .turn ∧ q.goal = some (.searchPoint point)) ∨
    q.agenda.visited = c.pilot.agenda.visited ∧ (next = .notFound → executed = .notFound) := by
  cases h with
  | searches h =>
    cases h with
    | takePoint dull swept next =>
      refine .inl ⟨rfl, swept, rfl, ?_⟩
      intro point again
      cases next.symm.trans again
      exact ⟨rfl, rfl⟩
    | runOut dull swept points =>
      refine .inl ⟨rfl, swept, rfl, ?_⟩
      intro point next
      rw [(Agenda.next_eq_some next).1] at points; cases points
    | driveToPost goal unlocated move =>
      refine .inr ⟨?_, by cases move <;> nofun⟩
      have kept : (c.pilot.survey c.belief).agenda.visited = c.pilot.agenda.visited := by rw [Pilot.survey_agenda]
      cases move <;> exact kept
    | _ => exact .inr ⟨rfl, nofun⟩
  | nears h =>
    refine .inr ⟨by rw [h.keeps_agenda.1], ?_⟩
    cases h
    case driveUp plan move => cases move <;> nofun
    all_goals nofun
  | passes h =>
    refine .inr ⟨by rw [h.keeps_agenda.1], ?_⟩
    cases h
    case endTurning finish | endDriving finish | reachEnd finish => cases finish <;> nofun
    all_goals nofun
  | idle => exact .inr ⟨rfl, id⟩

theorem nextSweep_le (ready : c.pilot.Ready executed) : c.nextSweep.stop ≤ c.nextSweep.stops := by
  have left : c.currentSweep.stop < c.currentSweep.stops := by
    unfold currentSweep
    cases sweep : c.pilot.sweep with
    | none => exact Nat.le_max_right _ _
    | some s => exact (ready.sweep s sweep).2
  unfold nextSweep
  dsimp only
  split
  · exact left
  · exact Nat.le_of_lt left

end Cycle

namespace Pilot
variable {p p' : Pilot α} {v : View α} {q : Pose α}

theorem rotates_of_shown (h : p.shown v = .ok p') (ready : p.Ready p.phase) : (v.cycle p).Rotates p' := by
  obtain ⟨next, q, b, hq, rfl⟩ := of_shown h
  cases hq.rotates rfl ready with
  | leave sweep => exact .leave (moved_sweep.trans sweep)
  | pause sweep hold => exact .pause (moved_sweep.trans sweep) (moved_steering.trans hold)
  | turn executed sweep steering => exact .turn executed (moved_sweep.trans sweep) (moved_steering.trans steering)

/-- What a cycle does to a pilot on its way to the search point `q`. -/
inductive Fares (v : View α) (p p' : Pilot α) (q : Pose α) : Prop
  | onward (heads : p'.HeadsFor q) (agenda : p'.agenda = p.agenda)
  | look (worth : (v.cycle p).worthInspecting = true) (next : p'.phase = .spinWait) (sweep : p'.sweep = p.sweep)
  | arrive (executed : p.phase = .drive) (near : v.pose.distanceTo q ≤ p.settings.arrivalTolerance)
      (next : p'.phase = .spin) (agenda : p'.agenda = p.agenda) (sweep : p'.sweep = none)

theorem fares_of_shown (h : p.shown v = .ok p') (heads : p.HeadsFor q) : Fares v p p' q := by
  obtain ⟨pursues, goal⟩ := heads
  obtain ⟨next, r, b, hq, rfl⟩ := of_shown h
  generalize he : p.phase = executed at hq pursues
  cases hq.of_searching (.inr pursues) with
  | inspect | sweep | takePoint | runOut | vanish | wait | approach => cases pursues
  -- The goal is a search point, so no post is approached.
  | loseAim other | facePost other | turnToPost other | turnNowhere other | locate other | driveToPost other
  | driveNowhere other => cases goal.symm.trans other
  | inspectTurning other worth | inspectDriving other worth => exact .look worth rfl moved_sweep
  | facePoint | turnToPoint | strayFromPoint | driveToPoint => exact .onward (headsFor_moved rfl goal) moved_agenda
  | reachPoint other dull near =>
    cases goal.symm.trans other
    exact .arrive he near rfl moved_agenda moved_sweep

/-- As long as no post is held, the pilot takes the points in turn and gives none of them up. -/
theorem roams_of_shown (h : p.shown v = .ok p') (nothing : ∀ side, (v.belief.tracker side).hasPost = false)
    (roams : p.Roams) :
    p'.Roams ∧ (p'.unreached = p.unreached ∨ p.phase = .drive ∧
      ∃ q, v.pose.distanceTo q ≤ p.settings.arrivalTolerance ∧ p.unreached = q :: p'.unreached) := by
  have dull : (v.cycle p).worthInspecting = false := Cycle.worthInspecting_of_nothing nothing
  cases roams with
  | look phase =>
    rw [unreached_of_not_pursues (p := p) (by rw [phase]; rfl)]
    obtain ⟨next, r, b, hq, rfl⟩ := of_shown h
    rw [phase] at hq ⊢
    cases hq.of_searching (.inl rfl) with
    | inspect worth => cases worth.symm.trans dull
    | sweep => exact ⟨.look rfl, .inl (unreached_moved rfl)⟩
    | takePoint _ _ next =>
      refine ⟨.go (headsFor_moved rfl rfl), .inl ((headsFor_moved rfl rfl).unreached.trans ?_)⟩
      rw [moved_agenda]
      exact (Agenda.next_eq_some next).1.symm
    | runOut _ _ empty => exact ⟨.fail rfl (by rw [moved_agenda]; exact empty), .inl (unreached_moved rfl)⟩
  | @go q heads =>
    rw [heads.unreached]
    cases fares_of_shown h heads with
    | onward on agenda => exact ⟨.go on, .inl (by rw [on.unreached, agenda])⟩
    | look worth => cases worth.symm.trans dull
    | arrive executed near next agenda =>
      have rest : p'.unreached = p.agenda.points := by rw [unreached_of_not_pursues (by rw [next]; rfl), agenda]
      exact ⟨.look next, .inr ⟨executed, q, near, by rw [rest]⟩⟩
  | fail phase empty =>
    rw [unreached_of_not_pursues (p := p) (by rw [phase]; rfl)]
    obtain ⟨next, r, b, hq, rfl⟩ := of_shown h
    rw [phase] at hq ⊢
    cases hq with
    | idle => exact ⟨.fail rfl (by rw [moved_agenda]; exact empty), .inl (unreached_moved rfl)⟩
    | searches hq => cases hq
    | nears hq => cases hq
    | passes hq => cases hq

end Pilot

namespace Logbook
variable [Numeral α] (L : Logbook α) {i j m n s t : Nat} {origin : α} {calls : List Nat} {q : Pose α}

/-- Cycle `i` takes the search point `q` from the agenda. -/
def TakesPoint (i : Nat) (q : Pose α) : Prop := (L.pilot i).agenda.next = (some q, (L.pilot (i + 1)).agenda)

/-- Cycle `i` takes a search point or ends the search in vain. -/
def Concludes (i : Nat) : Prop :=
  (∃ q, L.TakesPoint i q) ∨ (L.pilot i).phase ≠ .notFound ∧ (L.pilot (i + 1)).phase = .notFound

/-- In cycle `i` the rover is driving and has arrived at the search point `q`. -/
def Visits (i : Nat) (q : Pose α) : Prop :=
  (L.pilot i).phase = .drive ∧ (L.view i).pose.distanceTo q ≤ L.settings.arrivalTolerance

/-- In cycle `i` the rover is looking around and faces stop `k` of a sweep from `origin`. -/
def FacesStop (origin : α) (k i : Nat) : Prop :=
  (L.pilot i).phase = .spin ∧
    Bearing.gap (L.settings.stopHeading origin k) (L.view i).pose.heading ≤ L.settings.turnTolerance

/-- The cycles `calls`, from `s` on and before `t`, faced the first stops of a sweep from `origin` one after the other,
and since the first of them the rover was steered to no point. -/
structure Swept (s t : Nat) (origin : α) (calls : List Nat) : Prop where
  ordered : calls.Pairwise (· < ·)
  within : ∀ i ∈ calls, s ≤ i ∧ i < t
  faces : ∀ k i, calls[k]? = some i → L.FacesStop origin k i
  onTheSpot : ∀ i ∈ calls, ∀ j, i ≤ j → j < t → ∀ q, (L.pilot (j + 1)).steering ≠ .point q

/-- A whole sweep took place, from cycle `s` on and before `t`. -/
def SweptAll (s t : Nat) : Prop := ∃ origin calls, calls.length = L.settings.stops ∧ L.Swept s t origin calls

/-- The sweep is one of this search, and its stops counted so far were faced since cycle `s`. -/
structure Accounts (s t : Nat) (sweep : Sweep α) : Prop where
  step : sweep.step = L.settings.spinStep
  stops : sweep.stops = L.settings.stops
  swept : ∃ calls, calls.length = sweep.stop ∧ L.Swept s t sweep.origin calls

variable {L}

theorem Swept.nil : L.Swept s t origin [] := ⟨.nil, nofun, nofun, nofun⟩

theorem Swept.pause (h : L.Swept s t origin calls) (still : ∀ q, (L.pilot (t + 1)).steering ≠ .point q) :
    L.Swept s (t + 1) origin calls where
  ordered := h.ordered
  within i hi := ⟨(h.within i hi).1, Nat.lt_succ_of_lt (h.within i hi).2⟩
  faces := h.faces
  onTheSpot i hi j hij hj := by
    rcases Nat.eq_or_lt_of_le (Nat.le_of_lt_succ hj) with rfl | hj
    · exact still
    · exact h.onTheSpot i hi j hij hj

theorem Swept.face (h : L.Swept s t origin calls) (hs : s ≤ t) (faces : L.FacesStop origin calls.length t)
    (still : ∀ q, (L.pilot (t + 1)).steering ≠ .point q) : L.Swept s (t + 1) origin (calls ++ [t]) where
  ordered := (ordered_concat h.ordered fun i hi => (h.within i hi).2).1
  within i hi := by
    refine ⟨?_, (ordered_concat h.ordered fun i hi => (h.within i hi).2).2 i hi⟩
    rcases List.mem_append.1 hi with hi | hi
    · exact (h.within i hi).1
    · rw [List.mem_singleton.1 hi]; exact hs
  faces k i hk := by
    rw [List.getElem?_append] at hk
    split at hk
    · exact h.faces k i hk
    · rw [List.getElem?_singleton] at hk
      split at hk
      · cases hk
        rw [show k = calls.length by omega]; exact faces
      · cases hk
  onTheSpot i hi j hij hj := by
    rcases List.mem_append.1 hi with hi | hi
    · exact (h.pause still).onTheSpot i hi j hij hj
    · rw [List.mem_singleton.1 hi] at hij
      rw [show j = t by omega]; exact still

theorem accounts_current (h : ∀ sweep ∈ (L.pilot i).sweep, L.Accounts s i sweep) (hi : i ≤ L.length) :
    L.Accounts s i ((L.view i).cycle (L.pilot i)).currentSweep := by
  have current : ((L.view i).cycle (L.pilot i)).currentSweep =
      (L.pilot i).sweep.getD (.start L.settings ((L.view i).cycle (L.pilot i)).sweepOrigin) := by
    rw [← L.settings_eq hi]; rfl
  rw [current]
  cases sweep : (L.pilot i).sweep with
  | none => exact ⟨rfl, rfl, [], rfl, .nil⟩
  | some w => exact h w sweep

theorem Accounts.next (h : L.Accounts s i ((L.view i).cycle (L.pilot i)).currentSweep) (hs : s ≤ i)
    (hi : i < L.length) (phase : (L.pilot i).phase = .spin) (still : ∀ q, (L.pilot (i + 1)).steering ≠ .point q) :
    L.Accounts s (i + 1) ((L.view i).cycle (L.pilot i)).nextSweep := by
  obtain ⟨step, stops, calls, length, swept⟩ := h
  unfold Cycle.nextSweep
  dsimp only
  split
  · next aligned =>
    refine ⟨step, stops, calls ++ [i], by simp [length], swept.face hs ⟨phase, ?_⟩ still⟩
    rw [length, TraverseSettings.stopHeading, ← step, ← L.settings_eq (Nat.le_of_lt hi)]
    exact of_decide_eq_true aligned
  · exact ⟨step, stops, calls, length, swept.pause still⟩

/-- From a cycle without a sweep on, the stops that a sweep counts are faced. -/
theorem accounts (hs : s ≤ i) (hi : i ≤ L.length) (off : (L.pilot s).sweep = none) :
    ∀ sweep ∈ (L.pilot i).sweep, L.Accounts s i sweep := by
  -- A sweep that is taken up again brings along what it counts, so the accounts are kept through the pauses too.
  induction i, hs using Nat.le_induction with
  | base => rw [off]; nofun
  | succ i hs ih =>
    have before := ih (Nat.le_of_lt hi)
    cases Pilot.rotates_of_shown (L.step i hi) (L.ready (Nat.le_of_lt hi)) with
    | leave sweep => rw [sweep]; nofun
    | pause sweep hold =>
      rw [sweep]
      intro w hw
      obtain ⟨step, stops, calls, length, swept⟩ := before w hw
      exact ⟨step, stops, calls, length, swept.pause (by rw [hold]; nofun)⟩
    | turn phase sweep steering =>
      rw [sweep]
      intro w hw
      cases hw
      exact (accounts_current before (Nat.le_of_lt hi)).next hs hi phase (by rw [steering]; nofun)

theorem Concludes.exhausted (h : L.Concludes i) (hi : i < L.length) :
    (L.pilot i).phase = .spin ∧ ((L.view i).cycle (L.pilot i)).nextSweep.isExhausted = true ∧
      (L.pilot (i + 1)).steering = .hold := by
  obtain ⟨next, q, b, hq, hp⟩ := Pilot.of_shown (L.step i hi)
  rcases hq.concludes with ⟨spin, swept, hold, -⟩ | ⟨visited, notFound⟩
  · exact ⟨spin, swept, by rw [hp, Pilot.moved_steering, hold]⟩
  · rcases h with ⟨point, takes⟩ | ⟨before, after⟩
    · have one := (Agenda.next_eq_some takes).2.2
      rw [hp, Pilot.moved_agenda, visited] at one
      exact absurd one (Nat.ne_of_lt (Nat.lt_succ_self _))
    · exact absurd (notFound (by rw [hp] at after; exact after)) before

theorem TakesPoint.headsFor (h : L.TakesPoint i q) (hi : i < L.length) : (L.pilot (i + 1)).HeadsFor q := by
  obtain ⟨next, r, b, hq, hp⟩ := Pilot.of_shown (L.step i hi)
  unfold TakesPoint at h
  rw [hp] at h ⊢
  rw [Pilot.moved_agenda] at h
  rcases hq.concludes with ⟨-, -, -, taken⟩ | ⟨visited, -⟩
  · obtain ⟨rfl, goal⟩ := taken q h
    exact Pilot.headsFor_moved rfl goal
  · have one := (Agenda.next_eq_some h).2.2
    exact absurd (visited.symm.trans one) (Nat.ne_of_lt (Nat.lt_succ_self _))

theorem sweptAll_of_concludes (hs : s ≤ j) (hj : j < L.length) (off : (L.pilot s).sweep = none) (h : L.Concludes j) :
    L.SweptAll s (j + 1) := by
  obtain ⟨spin, exhausted, hold⟩ := h.exhausted hj
  have current := accounts_current (accounts hs (Nat.le_of_lt hj) off) (Nat.le_of_lt hj)
  obtain ⟨-, stops, calls, length, swept⟩ := current.next hs hj spin (by rw [hold]; nofun)
  have few := Cycle.nextSweep_le (c := (L.view j).cycle (L.pilot j)) (L.ready (Nat.le_of_lt hj))
  have all := of_decide_eq_true exhausted
  exact ⟨_, calls, by omega, swept⟩

/-- The way to a search point ends where the rover stops to look at something or arrives, with no sweep on. -/
theorem headsFor_or_left (hi : i ≤ n) (hn : n ≤ L.length) (heads : (L.pilot i).HeadsFor q) :
    (L.pilot n).HeadsFor q ∨ ∃ m, i ≤ m ∧ m < n ∧ (L.Visits m q ∨ (L.pilot (m + 1)).phase = .spinWait) ∧
      (L.pilot (m + 1)).sweep = none := by
  induction n, hi using Nat.le_induction with
  | base => exact .inl heads
  | succ n hi ih =>
    rcases ih (Nat.le_of_lt hn) with heads | ⟨m, him, hmn, left⟩
    · cases Pilot.fares_of_shown (L.step n hn) heads with
      | onward heads => exact .inl heads
      | look worth next sweep =>
        have off : (L.pilot n).sweep = none :=
          (L.ready (Nat.le_of_lt hn)).no_sweep (Phase.looksAround_of_pursues heads.1)
        exact .inr ⟨n, hi, Nat.lt_succ_self n, .inr next, sweep.trans off⟩
      | arrive executed near next agenda sweep =>
        rw [L.settings_eq (Nat.le_of_lt hn)] at near
        exact .inr ⟨n, hi, Nat.lt_succ_self n, .inl ⟨executed, near⟩, sweep⟩
    · exact .inr ⟨m, him, Nat.lt_succ_of_lt hmn, left⟩

/-- As long as no post is held, the points that are no longer to be reached have been visited in order. -/
theorem visited_in_order (hn : n ≤ L.length)
    (nothing : ∀ i < n, ∀ side, ((L.view i).belief.tracker side).hasPost = false) :
    (L.pilot n).Roams ∧ ∃ (calls : List Nat) (points : List (Pose α)),
      calls.Pairwise (· < ·) ∧ (∀ i ∈ calls, i < n) ∧ List.Forall₂ L.Visits calls points ∧
      points ++ (L.pilot n).unreached = (L.pilot 0).agenda.points := by
  induction n with
  | zero =>
    refine ⟨.look L.phase_zero, [], [], .nil, nofun, .nil, ?_⟩
    exact Pilot.unreached_of_not_pursues (by rw [L.phase_zero]; rfl)
  | succ n ih =>
    obtain ⟨roams, calls, points, ordered, before, visits, all⟩ :=
      ih (Nat.le_of_lt hn) fun i hi => nothing i (Nat.lt_succ_of_lt hi)
    obtain ⟨roams, same | ⟨drives, q, near, reached⟩⟩ :=
      Pilot.roams_of_shown (L.step n hn) (nothing n (Nat.lt_succ_self n)) roams
    · exact ⟨roams, calls, points, ordered, fun i hi => Nat.lt_succ_of_lt (before i hi), visits, same ▸ all⟩
    · rw [L.settings_eq (Nat.le_of_lt hn)] at near
      obtain ⟨ordered, before⟩ := ordered_concat ordered before
      refine ⟨roams, calls ++ [n], points ++ [q], ordered, before, ?_, ?_⟩
      · exact List.rel_append visits (.cons ⟨drives, near⟩ .nil)
      · rw [← all, reached, List.append_assoc]; rfl

variable (L)

/-- No search point is passed over. Between a cycle that takes one and any later one that takes another or ends the
search in vain, the rover arrived at it or stopped to look at something; and after that there was a whole sweep, whose
stops it faced one after the other without being steered to a point in between. A whole sweep also comes before the
first point is taken. So a search that ends in vain without ever having held a post has visited all the points it began
with, in order. -/
theorem points_swept :
    (∀ i j q, i < j → j < L.length → L.TakesPoint i q → L.Concludes j →
      ∃ m, i < m ∧ m < j ∧ (L.Visits m q ∨ (L.pilot (m + 1)).phase = .spinWait) ∧ L.SweptAll (m + 1) (j + 1)) ∧
    (∀ j < L.length, L.Concludes j → L.SweptAll 0 (j + 1)) ∧
    ∀ n ≤ L.length, (L.pilot n).phase = .notFound →
      (∀ i < n, ∀ side, ((L.view i).belief.tracker side).hasPost = false) →
      ∃ calls : List Nat, calls.Pairwise (· < ·) ∧ (∀ i ∈ calls, i < n) ∧
        List.Forall₂ L.Visits calls (L.pilot 0).agenda.points := by
  refine ⟨?_, ?_, ?_⟩
  · intro i j q hij hj taken concludes
    have heads := taken.headsFor (Nat.lt_trans hij hj)
    rcases headsFor_or_left hij (Nat.le_of_lt hj) heads with still | ⟨m, him, hmj, left, off⟩
    · -- The next point is only taken while the rover looks around.
      have pursues := still.1
      rw [(concludes.exhausted hj).1] at pursues; cases pursues
    · exact ⟨m, him, hmj, left, sweptAll_of_concludes hmj hj off concludes⟩
  · intro j hj concludes
    refine sweptAll_of_concludes (Nat.zero_le j) hj ?_ concludes
    obtain ⟨points, -, h⟩ := Pilot.of_start L.starts
    rw [h]
  · intro n hn failed nothing
    obtain ⟨roams, calls, points, ordered, before, visits, all⟩ := visited_in_order hn nothing
    have none_left : (L.pilot n).unreached = [] := by
      cases roams with
      | look phase => rw [phase] at failed; cases failed
      | go heads => have := heads.1; rw [failed] at this; cases this
      | fail phase empty => rw [Pilot.unreached_of_not_pursues (by rw [phase]; rfl), empty]
    rw [none_left, List.append_nil] at all
    exact ⟨calls, ordered, before, all ▸ visits⟩

end Logbook

/-- The record of a search of an empty field, by a rover at the only search point. -/
def Exact.vain : Logbook Rat := search (fun _ => ⟨place 0 3 0, some gate, .start prompt⟩) (fun _ => rfl) 4

theorem Logbook.points_swept_vain :
    Exact.vain.TakesPoint 0 (Exact.place 0 3 0) ∧ (Exact.vain.pilot 4).phase = .notFound ∧ Exact.vain.SweptAll 0 1 ∧
      (∃ m, 0 < m ∧ m < 3 ∧ Exact.vain.SweptAll (m + 1) 4) ∧
      ∃ calls : List Nat, List.Forall₂ Exact.vain.Visits calls [Exact.place 0 3 0] := by
  have taken : Exact.vain.TakesPoint 0 (Exact.place 0 3 0) := by unfold TakesPoint; decide +kernel
  have failed : (Exact.vain.pilot 4).phase = .notFound := by decide +kernel
  have points : (Exact.vain.pilot 0).agenda.points = [Exact.place 0 3 0] := by decide +kernel
  obtain ⟨between, before, all⟩ := points_swept Exact.vain
  obtain ⟨m, hm, hmj, -, swept⟩ := between 0 3 _ (by decide) (by decide) taken (.inr ⟨by decide +kernel, failed⟩)
  obtain ⟨calls, -, -, visits⟩ := all 4 (by decide) failed fun i _ side => by cases side <;> rfl
  exact ⟨taken, failed, before 0 (by decide) (.inl ⟨_, taken⟩), ⟨m, hm, hmj, swept⟩, calls, points ▸ visits⟩

end GateNav
