import GateNav.Proofs.Navigator.Known

/-!
# How long a post is held that is not seen

A tracker alone gives a post up after one miss more than the threshold. But the pilot has the misses forgiven, whenever
it stops to look at something and whenever it has reached a search point, and then the count begins anew. So a post
that is not seen is only held as long as this happens often enough, at least once in as many cycles as the threshold
(`Journal.stale_unless_forgiven`).

How often it can happen is a matter of the phases. Having stopped to look, the pilot waits and then turns to a post
that is held, and in neither cycle are misses forgiven; having reached a search point it looks around, so that it takes
three cycles at least to the next one. With a threshold of three that is just often enough
(`Journal.stale_from_point_to_point`).
-/

namespace GateNav
variable {α : Type} [Scalar α]

/-! ### Trackers that see nothing -/

theorem nextTally_le_iff {n k : Nat} (few : k < maxTally) : nextTally n ≤ k ↔ n < k := by
  unfold nextTally; omega

namespace Tracker
variable {s : TrackingSettings α} {t : Tracker α} {seen : Sighting α}

theorem misses_of_unseen (unseen : seen.detected = false) :
    (t.observe s seen).result.misses = nextTally t.misses := by
  unfold observe
  rw [unseen]
  dsimp only
  simp only [Bool.false_eq_true, if_false]
  split <;> rfl

theorem hasPost_of_unseen (unseen : seen.detected = false) :
    (t.observe s seen).result.hasPost = true ↔ t.hasPost = true ∧ nextTally t.misses ≤ s.missThreshold := by
  have same : t.miss.hasPost = t.hasPost := rfl
  have count : t.miss.misses = nextTally t.misses := rfl
  have dropped : t.miss.drop.hasPost = false := rfl
  unfold observe
  simp only [unseen, Bool.false_eq_true, if_false, same, count]
  rcases Nat.lt_or_ge s.missThreshold (nextTally t.misses) with many | few
  · cases held : t.hasPost <;> simp [many, dropped, same, held]
  · have kept : ¬ s.missThreshold < nextTally t.misses := Nat.not_lt.2 few
    simp [kept, few, same]

end Tracker

namespace Pilot
variable [Trig α] {p : Pilot α} {pose : Pose α} {waypoint : Option (Waypoint α)} {b : Belief α} {c : Cycle α}

/-- The pilot waits to choose a post, or it is on its way to one. -/
inductive Chases (p : Pilot α) : Prop
  | wait (phase : p.phase = .spinWait)
  | turn {side : Side} (phase : p.phase = .turn) (goal : p.goal = some (.post side))
  | drive {side : Side} (phase : p.phase = .drive) (goal : p.goal = some (.post side))

theorem Chases.not_pardons (h : p.Chases) (run : p.run pose waypoint b = .ok c) :
    ¬ p.Pardons pose c.pilot.phase := by
  obtain ⟨next, q, b', move, -, after⟩ := Cycle.pilot_of_run run
  rw [after, moved_phase]
  intro pardons
  cases pardons with
  | reach driving point =>
    cases h with
    | wait phase | turn phase => rw [driving] at phase; cases phase
    | drive phase goal => rw [point] at goal; cases goal
  | inspect moving =>
    change Cycle.Advances _ p.phase .spinWait q b' at move
    cases h with
    | wait phase => exact moving phase
    | turn phase goal =>
      rw [phase] at move
      cases move.of_searching (.inr rfl) with
      | inspectTurning point => cases goal.symm.trans point
    | drive phase goal =>
      rw [phase] at move
      cases move.of_searching (.inr rfl) with
      | inspectDriving point => cases goal.symm.trans point
      | driveToPost _ _ approach => cases approach

/-- Having waited, with a post in sight, the pilot goes on waiting or turns to a post that is held. -/
theorem run_of_spinWait (waiting : p.phase = .spinWait) (run : p.run pose waypoint b = .ok c) {side : Side}
    (held : (b.tracker side).hasPost = true) :
    c.pilot.phase = .spinWait ∨ c.pilot.phase = .turn ∧
      ∃ side, c.pilot.goal = some (.post side) ∧ c.pilot.aim.isSome = true ∧ (b.tracker side).hasPost = true := by
  obtain ⟨next, q, b', move, -, after⟩ := Cycle.pilot_of_run run
  rw [after, moved_phase, moved_goal, moved_aim]
  change Cycle.Advances _ p.phase next q b' at move
  rw [waiting] at move
  cases move.of_searching (.inl rfl) with
  | vanish pick => cases held.symm.trans (Cycle.not_hasPost_of_pickSide? pick side)
  | wait => exact .inl rfl
  | approach pick => exact .inr ⟨rfl, _, rfl, rfl, Cycle.hasPost_of_pickSide? pick⟩

/-- As long as its post is held, a pilot that has turned to it goes on. -/
theorem run_of_turn {side : Side} (turning : p.phase = .turn) (goal : p.goal = some (.post side))
    (aim : p.aim.isSome = true) (held : (b.tracker side).hasPost = true) (run : p.run pose waypoint b = .ok c) :
    c.pilot.phase.isTerminal = false ∧ c.pilot.Chases := by
  obtain ⟨next, q, b', move, -, after⟩ := Cycle.pilot_of_run run
  rw [after, moved_phase]
  change Cycle.Advances _ p.phase next q b' at move
  rw [turning] at move
  cases move.of_searching (.inr rfl) with
  | loseAim post lost =>
    cases goal.symm.trans post
    rcases lost with lost | lost
    · cases held.symm.trans lost
    · change p.aim = none at lost
      rw [lost] at aim; cases aim
  | facePost => exact ⟨rfl, .drive rfl (moved_goal.trans goal)⟩
  | turnToPost => exact ⟨rfl, .turn rfl (moved_goal.trans goal)⟩
  | inspectTurning point | facePoint point | turnToPoint point => cases goal.symm.trans point
  | turnNowhere nowhere => cases goal.symm.trans nowhere

/-- The pilot only stops to look where a post is held, and has all misses forgiven. -/
theorem forgiven_of_stop (moving : p.phase ≠ .spinWait) (run : p.run pose waypoint b = .ok c)
    (stops : c.pilot.phase = .spinWait) :
    c.belief = b.forgive ∧ ∃ side, (b.tracker side).hasPost = true := by
  obtain ⟨next, q, b', move, same, after⟩ := Cycle.pilot_of_run run
  rw [after, moved_phase] at stops
  rw [same]
  subst stops
  generalize executed : (p.atWork pose waypoint b).pilot.phase = phase at move
  cases move with
  | searches move =>
    cases move with
    | inspect worth | inspectTurning _ worth | inspectDriving _ worth => exact ⟨rfl, Cycle.exists_hasPost worth⟩
    | wait => exact absurd executed moving
    | driveToPost _ _ move => cases move
  | nears move => cases move with | driveUp _ _ move => cases move
  | passes move => cases move with
    | endTurning _ finish | endDriving _ finish | reachEnd _ _ finish => cases finish
  | idle idle => exact absurd executed moving

end Pilot

theorem Navigator.tracker_of_perceive [Trig α] {n : Navigator α} {frame : Frame α} {belief : Belief α}
    {seen : List (Event α)} (perceived : n.perceive frame = .ok ⟨belief, seen⟩) (side : Side) :
    belief.tracker side = ((n.belief.tracker side).observe n.belief.settings
      (Belief.admitted n.waypoint (frame.sightings.get side))).result.locate frame.pose := by
  have taken : belief = _ := Belief.update_eq_ok perceived
  rw [taken]
  cases side <;> rfl

theorem Belief.admitted_none (waypoint : Option (Waypoint α)) :
    Belief.admitted waypoint (.none : Sighting α) = .none := by
  unfold admitted
  split
  · rfl
  · split <;> rfl

/-! ### Searches that see nothing -/

namespace Journal
variable [Trig α] [Numeral α] (L : Journal α)

/-- Order `t` shows a frame with nothing on `side` that is admitted. -/
def Unseen (side : Side) (t : Nat) : Prop :=
  ∃ frame, L.order t = .tick frame ∧
    (Belief.admitted (L.navigator t).waypoint (frame.sightings.get side)).detected = false

/-- After `t` orders a post is held on `side`. -/
def Holds (side : Side) (t : Nat) : Prop := ((L.navigator t).belief.tracker side).hasPost = true

/-- The misses on `side` that count after `t` orders. -/
def missed (side : Side) (t : Nat) : Nat := ((L.navigator t).belief.tracker side).misses

/-- Order `t` is a tick in which the pilot has the misses forgiven. -/
def Forgives (t : Nat) : Prop :=
  ∃ frame p, L.order t = .tick frame ∧ (L.navigator t).pilot = some p ∧
    p.Pardons frame.pose (L.navigator (t + 1)).phase

/-- In tick `t` the pilot stops to look at something. -/
def StopsToLook (t : Nat) : Prop := L.Forgives t ∧ (L.navigator (t + 1)).phase = .spinWait

variable {L} {side : Side} {t i k n : Nat} {frame : Frame α} {p : Pilot α}

theorem belief_of_tick (given : t < L.length) (order : L.order t = .tick frame) :
    ∃ belief seen, (L.navigator t).perceive frame = .ok ⟨belief, seen⟩ ∧
      ((L.navigator (t + 1)).belief = belief ∨ (L.navigator (t + 1)).belief = belief.forgive ∧ L.Forgives t) := by
  cases busy : (L.navigator t).pilot with
  | none =>
    obtain ⟨command, -, tick⟩ := ticks given order
    generalize L.navigator (t + 1) = m, L.events (t + 1) = events at tick ⊢
    cases tick with
    | rest idle perceived => exact ⟨_, _, perceived, .inl rfl⟩
    | go before | finish before => cases before.symm.trans busy
  | some p =>
    obtain ⟨belief, seen, c, perceived, run, same, phase, -⟩ := run_of_busy given order busy
    refine ⟨belief, seen, perceived, ?_⟩
    rw [same]
    rcases Pilot.pardons_of_run run with kept | ⟨forgiven, pardons⟩
    · exact .inl kept
    · exact .inr ⟨forgiven, frame, p, order, busy, phase ▸ pardons⟩

theorem Unseen.step (unseen : L.Unseen side t) (given : t < L.length)
    (few : L.settings.tracking.missThreshold < maxTally) :
    (L.Holds side (t + 1) ↔ L.Holds side t ∧ L.missed side t < L.settings.tracking.missThreshold) ∧
      (L.missed side (t + 1) = nextTally (L.missed side t) ∨ L.Forgives t) := by
  obtain ⟨frame, order, nothing⟩ := unseen
  obtain ⟨belief, seen, perceived, after⟩ := belief_of_tick given order
  obtain ⟨chronicle, recorded⟩ := recorded (Nat.le_of_lt given)
  have tracker := Navigator.tracker_of_perceive perceived side
  rw [recorded.settings] at tracker
  have held : (belief.tracker side).hasPost = true ↔
      L.Holds side t ∧ L.missed side t < L.settings.tracking.missThreshold := by
    rw [tracker, Tracker.hasPost, Tracker.locate_held, ← Tracker.hasPost, Tracker.hasPost_of_unseen nothing,
      nextTally_le_iff few]
    exact Iff.rfl
  have count : (belief.tracker side).misses = nextTally (L.missed side t) := by
    rw [tracker, Tracker.locate_misses, Tracker.misses_of_unseen nothing]; rfl
  unfold Holds missed at *
  rcases after with same | ⟨same, forgives⟩
  · rw [same]; exact ⟨held, .inl count⟩
  · rw [same, Belief.tracker_forgive]; exact ⟨held, .inr forgives⟩

theorem holds_of_le (few : L.settings.tracking.missThreshold < maxTally) (given : i + k ≤ L.length)
    (unseen : ∀ j, i ≤ j → j < i + k → L.Unseen side j) (held : L.Holds side (i + k)) : L.Holds side i := by
  induction k with
  | zero => exact held
  | succ k ih =>
    have last := ((unseen (i + k) (by omega) (by omega)).step (by omega) few).1.1 held
    exact ih (by omega) (fun j hi hj => unseen j hi (by omega)) last.1

/-- As long as nothing is forgiven, every tick counts. -/
theorem le_missed (few : L.settings.tracking.missThreshold < maxTally) (given : i + k ≤ L.length)
    (unseen : ∀ j, i ≤ j → j < i + k → L.Unseen side j) (held : L.Holds side (i + k))
    (calm : ∀ j, i ≤ j → j < i + k → ¬ L.Forgives j) : k ≤ L.missed side (i + k) := by
  induction k with
  | zero => exact Nat.zero_le _
  | succ k ih =>
    obtain ⟨kept, count⟩ := (unseen (i + k) (by omega) (by omega)).step (by omega) few
    obtain ⟨before, patient⟩ := kept.1 held
    have counted := ih (by omega) (fun j hi hj => unseen j hi (by omega)) before fun j hi hj => calm j hi (by omega)
    have count := count.resolve_right (calm (i + k) (by omega) (by omega))
    rw [nextTally_of_lt (Nat.lt_trans patient few)] at count
    rw [← Nat.add_assoc, count]
    omega

/-- A post that is still held after one tick more than the threshold has had its misses forgiven in one of the ticks but
the last. -/
theorem exists_forgives (few : L.settings.tracking.missThreshold < maxTally)
    (given : i + L.settings.tracking.missThreshold + 1 ≤ L.length)
    (unseen : ∀ j, i ≤ j → j ≤ i + L.settings.tracking.missThreshold → L.Unseen side j)
    (held : L.Holds side (i + L.settings.tracking.missThreshold + 1)) :
    ∃ j, i ≤ j ∧ j < i + L.settings.tracking.missThreshold ∧ L.Forgives j := by
  by_contra none_forgives
  have calm (j : Nat) (hi : i ≤ j) (hj : j < i + L.settings.tracking.missThreshold) : ¬ L.Forgives j :=
    fun forgives => none_forgives ⟨j, hi, hj, forgives⟩
  obtain ⟨before, patient⟩ := ((unseen _ (by omega) (Nat.le_refl _)).step (by omega) few).1.1 held
  have counted := le_missed few (by omega) (fun j hi hj => unseen j hi (by omega)) before calm
  omega

/-! ### How often misses are forgiven -/

theorem not_forgives_of_chases (given : t < L.length) (busy : (L.navigator t).pilot = some p) (chases : p.Chases) :
    ¬ L.Forgives t := by
  rintro ⟨frame, q, order, same, pardons⟩
  cases busy.symm.trans same
  obtain ⟨belief, seen, c, -, run, -, phase, -⟩ := run_of_busy given order busy
  exact chases.not_pardons run (phase ▸ pardons)

/-- Having stopped to look, the pilot waits with no misses on either side, and a post is held. -/
theorem StopsToLook.waits (h : L.StopsToLook t) (given : t < L.length) :
    (∃ p, (L.navigator (t + 1)).pilot = some p ∧ p.phase = .spinWait) ∧ (∀ side, L.missed side (t + 1) = 0) ∧
      ∃ side, L.Holds side (t + 1) := by
  obtain ⟨⟨frame, p, order, busy, pardons⟩, waits⟩ := h
  obtain ⟨belief, seen, c, -, run, same, phase, pilot⟩ := run_of_busy given order busy
  rw [phase] at waits
  have moving : p.phase ≠ .spinWait := by
    rw [phase, waits] at pardons
    cases pardons with
    | inspect moving => exact moving
  obtain ⟨forgiven, side, held⟩ := Pilot.forgiven_of_stop moving run waits
  unfold missed Holds
  rw [pilot, same, waits, forgiven]
  refine ⟨⟨c.pilot, rfl, waits⟩, fun side => by rw [Belief.tracker_forgive], side, ?_⟩
  rw [Belief.tracker_forgive]
  exact held

/-- While the pilot waits or goes to a post, the belief is what the frame makes it. -/
theorem run_of_chases (given : t < L.length) (order : L.order t = .tick frame)
    (busy : (L.navigator t).pilot = some p) (chases : p.Chases) :
    ∃ c, p.run frame.pose (L.navigator t).waypoint (L.navigator (t + 1)).belief = .ok c ∧
      (L.navigator (t + 1)).pilot = if c.pilot.phase.isTerminal then none else some c.pilot := by
  obtain ⟨belief, seen, c, -, run, same, -, pilot⟩ := run_of_busy given order busy
  rcases Pilot.pardons_of_run run with kept | ⟨-, pardons⟩
  · rw [same, kept]; exact ⟨c, run, pilot⟩
  · exact absurd pardons (chases.not_pardons run)

theorem chases_of_waits (given : t < L.length) (order : L.order t = .tick frame)
    (busy : (L.navigator t).pilot = some p) (waits : p.phase = .spinWait) (held : L.Holds side (t + 1)) :
    ∃ q, (L.navigator (t + 1)).pilot = some q ∧ (q.phase = .spinWait ∨ q.phase = .turn ∧
      ∃ side, q.goal = some (.post side) ∧ q.aim.isSome = true ∧ L.Holds side (t + 1)) := by
  obtain ⟨c, run, pilot⟩ := run_of_chases given order busy (.wait waits)
  have follows := Pilot.run_of_spinWait waits run held
  refine ⟨c.pilot, ?_, follows⟩
  rcases follows with phase | ⟨phase, -⟩ <;> (rw [pilot, phase]; rfl)

theorem chases_of_turns (given : t < L.length) (order : L.order t = .tick frame)
    (busy : (L.navigator t).pilot = some p) (turning : p.phase = .turn) (goal : p.goal = some (.post side))
    (aim : p.aim.isSome = true) (held : L.Holds side (t + 1)) :
    ∃ q, (L.navigator (t + 1)).pilot = some q ∧ q.Chases := by
  obtain ⟨c, run, pilot⟩ := run_of_chases given order busy (.turn turning goal)
  obtain ⟨on, chases⟩ := Pilot.run_of_turn turning goal aim held run
  exact ⟨c.pilot, by rw [pilot, on]; rfl, chases⟩

theorem StopsToLook.calm_next (h : L.StopsToLook t) (given : t + 1 < L.length) : ¬ L.Forgives (t + 1) := by
  obtain ⟨⟨p, busy, waits⟩, -⟩ := h.waits (by omega)
  exact not_forgives_of_chases given busy (.wait waits)

/-- Two cycles after a stop nothing is forgiven as long as a post is held. -/
theorem StopsToLook.calm_second (h : L.StopsToLook t) (given : t + 2 < L.length)
    (unseen : L.Unseen side (t + 1)) (held : L.Holds side (t + 2)) : ¬ L.Forgives (t + 2) := by
  obtain ⟨⟨p, busy, waits⟩, -⟩ := h.waits (by omega)
  obtain ⟨frame, order, -⟩ := unseen
  obtain ⟨q, busy, chase⟩ := chases_of_waits (by omega) order busy waits held
  refine not_forgives_of_chases given busy ?_
  rcases chase with waits | ⟨turning, side, goal, -⟩
  · exact .wait waits
  · exact .turn turning goal

/-- Nor three cycles after it, if nothing is seen on either side: a post that the pilot has turned to is held as long
as any. -/
theorem StopsToLook.calm_third (h : L.StopsToLook t) (few : L.settings.tracking.missThreshold < maxTally)
    (given : t + 3 < L.length) (unseen : ∀ side i, t < i → i < t + 3 → L.Unseen side i)
    (held : L.Holds side (t + 3)) : ¬ L.Forgives (t + 3) := by
  obtain ⟨⟨p, busy, waits⟩, fresh, -⟩ := h.waits (by omega)
  have second (side : Side) := (unseen side (t + 1) (by omega) (by omega)).step (by omega) few
  have third (side : Side) := (unseen side (t + 2) (by omega) (by omega)).step (by omega) few
  -- Both sides have had one miss since the stop, so that there is room for another on either.
  have once (side : Side) : L.missed side (t + 2) = 1 := by
    rw [(second side).2.resolve_right (h.calm_next (by omega)), fresh side]; rfl
  obtain ⟨before, patient⟩ := (third side).1.1 held
  rw [once side] at patient
  obtain ⟨frame, order, -⟩ := unseen side (t + 1) (by omega) (by omega)
  obtain ⟨frame', order', -⟩ := unseen side (t + 2) (by omega) (by omega)
  obtain ⟨q, busy, waits | ⟨turning, side', goal, aim, kept⟩⟩ := chases_of_waits (by omega) order busy waits before
  · obtain ⟨r, busy, chase⟩ := chases_of_waits (by omega) order' busy waits held
    refine not_forgives_of_chases given busy ?_
    rcases chase with waits | ⟨turning, side, goal, -⟩
    · exact .wait waits
    · exact .turn turning goal
  · have kept : L.Holds side' (t + 3) := (third side').1.2 ⟨kept, by rw [once side']; exact patient⟩
    obtain ⟨r, busy, chases⟩ := chases_of_turns (by omega) order' busy turning goal aim kept
    exact not_forgives_of_chases given busy chases

theorem Forgives.stops_or_reaches (h : L.Forgives t) : L.StopsToLook t ∨ (L.navigator (t + 1)).phase = .spin := by
  have again := h
  obtain ⟨frame, p, -, -, pardons⟩ := again
  generalize phase : (L.navigator (t + 1)).phase = next at pardons
  cases pardons with
  | inspect => exact .inl ⟨h, phase⟩
  | reach => exact .inr rfl

/-- From a search point it takes more than two cycles to the next one. -/
theorem Forgives.stops_soon (h : L.Forgives t) (spins : (L.navigator (t + 1)).phase = .spin) (given : t + 2 < L.length)
    (order : L.order (t + 1) = .tick frame) :
    (L.Forgives (t + 1) → L.StopsToLook (t + 1)) ∧ (L.Forgives (t + 2) → L.StopsToLook (t + 2)) := by
  obtain ⟨frame₀, p, order₀, busy, -⟩ := h
  obtain ⟨-, -, c, -, -, -, phase, pilot⟩ := run_of_busy (by omega) order₀ busy
  rw [phase] at spins
  rw [spins] at pilot
  have stops {t : Nat} {p : Pilot α} (busy : (L.navigator t).pilot = some p) (phase : p.phase ≠ .drive)
      (forgives : L.Forgives t) : L.StopsToLook t := by
    refine ⟨forgives, ?_⟩
    obtain ⟨frame, q, -, same, pardons⟩ := forgives
    cases busy.symm.trans same
    generalize (L.navigator (t + 1)).phase = next at pardons
    cases pardons with
    | inspect => rfl
    | reach driving => exact absurd driving phase
  refine ⟨stops pilot (by rw [spins]; decide), fun forgives => ?_⟩
  obtain ⟨_, _, c', -, run, -, -, after⟩ := run_of_busy (by omega) order pilot
  have again := forgives
  obtain ⟨-, q, -, busy, -⟩ := again
  obtain ⟨next, q', b, move, -, moved⟩ := Cycle.pilot_of_run run
  change Cycle.Advances _ c.pilot.phase next q' b at move
  rw [spins] at move
  have follows := (move.of_searching (.inl rfl)).follows
  have on := busy.symm.trans after
  split at on
  · cases on
  · cases on
    refine stops busy ?_ forgives
    rw [moved, Pilot.moved_phase]
    rintro rfl
    revert follows; decide

section Row
variable {a b : Nat} (few : L.settings.tracking.missThreshold < maxTally) (given : b ≤ L.length)
include few given

theorem holds_of_mem (unseen : ∀ i, a ≤ i → i < b → L.Unseen side i) (held : L.Holds side b) (hi : a ≤ i)
    (hib : i ≤ b) : L.Holds side i := by
  obtain ⟨k, rfl⟩ := Nat.exists_eq_add_of_le hib
  exact holds_of_le few given (fun j hj => unseen j (by omega)) held

/-- A post that is still held after a row of unseen ticks has often had its misses forgiven. -/
theorem often_forgives (unseen : ∀ i, a ≤ i → i < b → L.Unseen side i) (held : L.Holds side b) (hi : a ≤ i)
    (hib : i + L.settings.tracking.missThreshold < b) :
    ∃ j, i ≤ j ∧ j < i + L.settings.tracking.missThreshold ∧ L.Forgives j :=
  exists_forgives few (by omega) (fun j hj hjb => unseen j (by omega) (by omega))
    (holds_of_mem few given unseen held (by omega) (by omega))

/-- After a stop the misses are not forgiven soon enough for a small threshold. -/
theorem StopsToLook.not_stale (stops : L.StopsToLook i) (small : L.settings.tracking.missThreshold ≤ 2)
    (unseen : ∀ i, a ≤ i → i < b → L.Unseen side i) (held : L.Holds side b) (hi : a ≤ i)
    (hib : i + 1 + L.settings.tracking.missThreshold < b) : False := by
  obtain ⟨j, hij, hj, forgives⟩ := often_forgives few given unseen held (i := i + 1) (by omega) hib
  have soon : j = i + 1 ∨ j = i + 2 := by omega
  rcases soon with rfl | rfl
  · exact stops.calm_next (by omega) forgives
  · exact stops.calm_second (by omega) (unseen (i + 1) (by omega) (by omega))
      (holds_of_mem few given unseen held (by omega) (by omega)) forgives

/-- Nor are they at search points alone. -/
theorem not_holds_of_small (small : L.settings.tracking.missThreshold ≤ 2)
    (long : a + 4 * (L.settings.tracking.missThreshold + 1) ≤ b) (unseen : ∀ i, a ≤ i → i < b → L.Unseen side i) :
    ¬ L.Holds side b := by
  intro held
  obtain ⟨i, hi, hia, forgives⟩ := often_forgives few given unseen held (Nat.le_refl a) (by omega)
  rcases forgives.stops_or_reaches with stops | spins
  · exact stops.not_stale few given small unseen held hi (by omega)
  · obtain ⟨frame, order, -⟩ := unseen (i + 1) (by omega) (by omega)
    obtain ⟨next, second⟩ := forgives.stops_soon spins (by omega) order
    obtain ⟨j, hij, hj, again⟩ := often_forgives few given unseen held (i := i + 1) (by omega) (by omega)
    have soon : j = i + 1 ∨ j = i + 2 := by omega
    rcases soon with rfl | rfl
    · exact (next again).not_stale few given small unseen held (by omega) (by omega)
    · exact (second again).not_stale few given small unseen held (by omega) (by omega)

variable (unseen : ∀ side i, a ≤ i → i < b → L.Unseen side i) (stops : L.StopsToLook i) (hi : a ≤ i)
include unseen stops hi

theorem StopsToLook.calm (later : i < t) (soon : t ≤ i + 3) (ht : t < b) (held : L.Holds side t) :
    ¬ L.Forgives t := by
  have soon : t = i + 1 ∨ t = i + 2 ∨ t = i + 3 := by omega
  rcases soon with rfl | rfl | rfl
  · exact stops.calm_next (by omega)
  · exact stops.calm_second (by omega) (unseen side (i + 1) (by omega) (by omega)) held
  · exact stops.calm_third few (by omega) (fun side j hj hji => unseen side j (by omega) (by omega)) held

/-- With nothing in sight, all that a stop finds is soon given up. -/
theorem StopsToLook.gone (small : L.settings.tracking.missThreshold ≤ 3)
    (later : i + L.settings.tracking.missThreshold + 1 < t) (ht : t ≤ b) : ¬ L.Holds side t := by
  intro held
  have row (j : Nat) (hj : i + 1 ≤ j) (hjt : j < t) : L.Unseen side j := unseen side j (by omega) (by omega)
  have given : t ≤ L.length := Nat.le_trans ht given
  obtain ⟨j, hij, hj, forgives⟩ := often_forgives few given row held (Nat.le_refl (i + 1)) (by omega)
  have held := holds_of_mem few given row held hij (by omega)
  exact stops.calm few ‹b ≤ L.length› unseen hi (by omega) (by omega) (by omega) held forgives

theorem StopsToLook.last (small : L.settings.tracking.missThreshold ≤ 3) (later : i < t) (ht : t < b) :
    ¬ L.StopsToLook t := by
  intro again
  obtain ⟨-, -, side, held⟩ := again.waits (by omega)
  have before := (((unseen side t (by omega) ht).step (by omega) few).1.1 held).1
  rcases Nat.lt_or_ge (i + L.settings.tracking.missThreshold + 1) (t + 1) with late | soon
  · exact stops.gone few given unseen hi small late ht held
  · exact stops.calm few given unseen hi later (by omega) ht before again.1

end Row

/-- A post that is not seen is not held forever. Let `T` be the threshold of misses.
If it is still held after a row of unseen ticks, then in every `T` of them but the last its misses were forgiven at
least once: the pilot stopped to look at something, or it reached a search point.
If `T` is at most two, it is not held after `4 * (T + 1)` unseen ticks.
If `T` is at most three and nothing is seen on either side, then the pilot does not stop to look a second time, and
`T + 1` ticks after it has stopped nothing is held any more. -/
theorem stale_unless_forgiven (L : Journal α) (few : L.settings.tracking.missThreshold < maxTally) :
    (∀ side a b, b ≤ L.length → (∀ i, a ≤ i → i < b → L.Unseen side i) → L.Holds side b →
      ∀ i, a ≤ i → i + L.settings.tracking.missThreshold < b →
        ∃ j, i ≤ j ∧ j < i + L.settings.tracking.missThreshold ∧ L.Forgives j) ∧
    (L.settings.tracking.missThreshold ≤ 2 → ∀ side a b, b ≤ L.length →
      a + 4 * (L.settings.tracking.missThreshold + 1) ≤ b → (∀ i, a ≤ i → i < b → L.Unseen side i) →
      ¬ L.Holds side b) ∧
    (L.settings.tracking.missThreshold ≤ 3 → ∀ a b, b ≤ L.length →
      (∀ side i, a ≤ i → i < b → L.Unseen side i) → ∀ i, a ≤ i → i < b → L.StopsToLook i →
        (∀ side t, i + L.settings.tracking.missThreshold + 1 < t → t ≤ b → ¬ L.Holds side t) ∧
        ∀ t, i < t → t < b → ¬ L.StopsToLook t) := by
  refine ⟨fun side a b given unseen held i hi hib => ?_, fun small side a b given long unseen => ?_,
    fun small a b given unseen i hi hib stops => ⟨fun side t later ht => ?_, fun t later ht => ?_⟩⟩
  · exact often_forgives few given unseen held hi hib
  · exact not_holds_of_small few given small long unseen
  · exact stops.gone few given unseen hi small later ht
  · exact stops.last few given unseen hi small later ht

end Journal

/-- A threshold of three misses, and search points so near that each is reached as soon as the rover turns to it. -/
def Exact.lenient : Settings Rat :=
  ⟨{ prompt with missThreshold := 3 }, { carefree with arrivalTolerance := 1000, rings := 2, maxPoints := 8 }⟩

/-- A post is seen four times, and then nothing. -/
def Exact.glimpse (i : Nat) : Frame Rat :=
  ⟨place 0 (-5) 0, if i < 4 then ⟨⟨1, 0, 3⟩, .none⟩ else Sighting.nothing, .clear⟩

def Exact.hopping : Nat → Order Rat
  | 0 => .search gate
  | t + 1 => .tick (glimpse t)

theorem Exact.build_lenient :
    Navigator.build lenient = .ok (.ok (.start lenient (.start lenient.tracking))) := by decide +kernel

/-- The search goes from one search point to the next. -/
def Exact.hops : Journal Rat := .ofOrders lenient _ build_lenient hopping 24 (by decide +kernel)

theorem Exact.unseen_hops (side : Side) (i : Nat) (hi : 5 ≤ i) : hops.Unseen side i := by
  obtain ⟨t, rfl⟩ := Nat.exists_eq_add_of_le' (Nat.le_trans (by decide : 1 ≤ 5) hi)
  have nothing : (glimpse t).sightings.get side = .none := by
    unfold glimpse
    rw [if_neg (by omega)]
    cases side <;> rfl
  refine ⟨glimpse t, rfl, ?_⟩
  rw [nothing, Belief.admitted_none]
  exact Sighting.not_detected_none

theorem Exact.holds_hops : hops.Holds .left 21 := by
  unfold Journal.Holds
  decide +kernel

theorem Journal.stale_unless_forgiven_hops :
    Exact.hops.settings.tracking.missThreshold = 3 ∧ ∃ j, 10 ≤ j ∧ j < 13 ∧ Exact.hops.Forgives j := by
  obtain ⟨often, -⟩ := stale_unless_forgiven Exact.hops (by decide)
  exact ⟨rfl, often .left 5 21 (by decide) (fun i hi _ => Exact.unseen_hops .left i hi)
    Exact.holds_hops 10 (by decide) (by decide)⟩

/-- With a threshold of three, a post is held that has not been seen for sixteen ticks of one search. -/
theorem Journal.stale_from_point_to_point :
    Exact.hops.settings.tracking.missThreshold = 3 ∧ (∀ i, 5 ≤ i → i < 5 + 4 * (3 + 1) → Exact.hops.Unseen .left i) ∧
      Exact.hops.Search 0 Exact.gate (5 + 4 * (3 + 1)) ((List.range 20).map Exact.glimpse) ∧
      Exact.hops.Holds .left (5 + 4 * (3 + 1)) := by
  refine ⟨rfl, fun i hi _ => Exact.unseen_hops .left i hi, ?_, Exact.holds_hops⟩
  refine Search.of_ticks (k := 20) rfl (fun i _ => ?_) (by decide)
  rw [Nat.zero_add, Nat.add_comm]
  rfl

end GateNav
