import GateNav.Proofs.Navigator.Evidence
import GateNav.Proofs.Pilot.Learning

/-!
# What is remembered was seen

A post that the pilot remembers is meant to be one that was seen in the cycle: "seen" is a tracker without misses, and a
tracker that sees nothing has a miss. `Tracker.Takes` and `Tracker.Exchanges` are the two ways in which a tracker can be
without one after a frame. The third way to lose the misses is that the pilot has them forgiven, and on the way to a
search point it records the posts right after that: then a post that was not seen is remembered where the rover, as it
has moved since, would have seen it (`Journal.known_from_sightings`, `Journal.known_unseen`).
-/

namespace GateNav
variable {α : Type}

variable [Scalar α]

theorem nextTally_pos (n : Nat) : 0 < nextTally n := by
  unfold nextTally maxTally; omega

namespace Tracker
variable {s : TrackingSettings α} {t : Tracker α} {h : Chronicle α} {seen : Sighting α}

/-- The sighting is a hit: it is like the one held, or the first. -/
def Takes (s : TrackingSettings α) (t : Tracker α) (seen : Sighting α) : Prop :=
  seen.detected = true ∧ ∀ held ∈ t.held, similar s held seen = true

/-- The post held was missed too often and is given up for the one that is seen. -/
def Exchanges (s : TrackingSettings α) (t : Tracker α) (seen : Sighting α) : Prop :=
  seen.detected = true ∧ s.missThreshold < nextTally t.misses ∧ ∃ held ∈ t.held, similar s held seen = false

/-- Without a miss after a sighting, it was taken. A post it was exchanged for has this one sample. -/
theorem Follows.takes (hf : t.Follows s h) (seen_now : (h.observe s seen).misses = 0) :
    t.Takes s seen ∨ t.Exchanges s seen ∧ (h.observe s seen).taken.length = 1 := by
  have missed := Nat.ne_of_gt (nextTally_pos h.misses)
  unfold Chronicle.observe at seen_now ⊢
  cases last : h.taken.getLast? with
  | none =>
    have empty : t.held = none := hf.held.trans last
    simp only [last] at seen_now
    split at seen_now
    · next detected => exact .inl ⟨detected, by simp [empty]⟩
    · exact absurd seen_now missed
  | some held =>
    have full : t.held = some held := hf.held.trans last
    simp only [last] at seen_now ⊢
    split at seen_now
    · next like =>
      rw [Bool.and_eq_true] at like
      exact .inl ⟨like.1, by simpa [full] using like.2⟩
    · next unlike =>
      split at seen_now
      · exact absurd seen_now missed
      · next many =>
        split at seen_now
        · next detected =>
          refine .inr ⟨⟨detected, ?_, held, full, by simpa [detected] using unlike⟩, ?_⟩
          · rw [hf.misses]; exact Nat.lt_of_not_le many
          · rw [if_neg unlike, if_neg many, if_pos detected]; rfl
        · exact absurd seen_now missed

end Tracker

namespace Journal
variable [Trig α] [Numeral α] {L : Journal α} {t : Nat} {frame : Frame α}

theorem pilot?_of_busy (ht : t ≤ L.length) {p : Pilot α} (busy : (L.navigator t).pilot = some p) :
    L.pilot? t = some p := by
  induction t generalizing p with
  | zero => rw [L.of_begins.2.2] at busy; cases busy
  | succ t ih =>
    unfold pilot?
    cases order : L.order t with
    | search w => exact busy
    | abort =>
      rcases aborted ht order with ⟨q, -, after⟩ | ⟨idle, after, -⟩
      · rw [after] at busy; cases busy
      · rw [after] at busy
        exact ih (Nat.le_of_lt ht) busy
    | tick frame =>
      obtain ⟨command, -, tick⟩ := ticks ht order
      generalize L.navigator (t + 1) = m, L.events (t + 1) = events at tick busy
      cases tick with
      | rest idle perceived => rw [idle] at busy; cases busy
      | go before perceived run on =>
        cases busy
        change ((L.navigator t).steered? frame).or (L.pilot? t) = _
        rw [Navigator.steered?_of_run before perceived run]
        rfl
      | finish => cases busy

theorem run_of_busy (given : t < L.length) (order : L.order t = .tick frame) {p : Pilot α}
    (busy : (L.navigator t).pilot = some p) :
    ∃ belief seen c, (L.navigator t).perceive frame = .ok ⟨belief, seen⟩ ∧
      p.run frame.pose (L.navigator t).waypoint belief = .ok c ∧
      (L.navigator (t + 1)).belief = c.belief ∧ (L.navigator (t + 1)).phase = c.pilot.phase ∧
      (L.navigator (t + 1)).pilot = if c.pilot.phase.isTerminal then none else some c.pilot := by
  obtain ⟨command, -, tick⟩ := ticks given order
  generalize L.navigator (t + 1) = m, L.events (t + 1) = events at tick ⊢
  cases tick with
  | rest idle => cases idle.symm.trans busy
  | go before perceived run on =>
    cases before.symm.trans busy
    exact ⟨_, _, _, perceived, run, rfl, rfl, by rw [on]; rfl⟩
  | finish before perceived run terminal =>
    cases before.symm.trans busy
    exact ⟨_, _, _, perceived, run, rfl, rfl, by rw [terminal]; rfl⟩

/-- A tick in which the last pilot changes is a cycle of it. -/
theorem run_of_pilot?_ne (given : t < L.length) (order : L.order t = .tick frame) {p q : Pilot α}
    (before : L.pilot? t = some p) (after : L.pilot? (t + 1) = some q) (change : q ≠ p) :
    ∃ belief seen c, (L.navigator t).perceive frame = .ok ⟨belief, seen⟩ ∧
      p.run frame.pose (L.navigator t).waypoint belief = .ok c ∧ c.pilot = q ∧
      (L.navigator (t + 1)).belief = c.belief := by
  simp only [pilot?, order, before] at after
  cases busy : (L.navigator t).pilot with
  | none =>
    have unsteered : (L.navigator t).steered? frame = none := by unfold Navigator.steered?; rw [busy]; rfl
    rw [unsteered] at after
    exact absurd (Option.some.inj after).symm change
  | some pilot =>
    cases (pilot?_of_busy (Nat.le_of_lt given) busy).symm.trans before
    obtain ⟨belief, seen, c, perceived, run, same, -⟩ := run_of_busy given order busy
    rw [Navigator.steered?_of_run busy perceived run] at after
    exact ⟨belief, seen, c, perceived, run, Option.some.inj after, same⟩

/-- Posts are remembered as they are seen. If a tick changes the post that is remembered on a side, this is the post
now held there, where it is believed to stand, and its tracker has taken the sighting admitted in this tick: as a hit,
or for a new post if one sample is enough. The exception is a pilot on its way to a search point that has the misses
forgiven. -/
theorem known_from_sightings (L : Journal α) (t : Nat) (frame : Frame α) (given : t < L.length)
    (order : L.order t = .tick frame) (side : Side) (p q : Pilot α) (before : L.pilot? t = some p)
    (after : L.pilot? (t + 1) = some q) (change : q.known.get side ≠ p.known.get side) :
    (∃ post, q.known.get side = some post ∧
      ((L.navigator (t + 1)).belief.tracker side).id? = some post.id ∧
      ((L.navigator (t + 1)).belief.tracker side).location = some post.location) ∧
    (((L.navigator t).belief.tracker side).Takes L.settings.tracking
        (Belief.admitted (L.navigator t).waypoint (frame.sightings.get side)) ∨
      L.settings.tracking.minSamples = 1 ∧ ((L.navigator t).belief.tracker side).Exchanges L.settings.tracking
        (Belief.admitted (L.navigator t).waypoint (frame.sightings.get side)) ∨
      p.phase = .drive ∧ (∃ point, p.goal = some (.searchPoint point)) ∧ p.Pardons frame.pose q.phase) := by
  obtain ⟨belief, seen, c, perceived, run, rfl, same⟩ :=
    run_of_pilot?_ne given order before after fun h => change (by rw [h])
  rw [same]
  rcases Pilot.learns_of_run run with learns | ⟨learns, forgiven, pardons, driving, goal⟩
  · -- What the belief can place without forgiveness was seen.
    obtain ⟨post, placed, known⟩ := (learns side).resolve_left change
    obtain ⟨seen_now, settled, hid, location⟩ := Tracker.of_placed? placed
    have valid := L.of_begins.1
    obtain ⟨chronicle, recorded⟩ := recorded (Nat.le_of_lt given)
    have records := (Navigator.recorded_of_perceive recorded valid perceived).trackers side
    refine ⟨⟨post, known, ?_⟩, ?_⟩
    · rcases Pilot.pardons_of_run run with kept | ⟨forgiven, -⟩
      · rw [kept]; exact ⟨hid, location⟩
      · rw [forgiven, Belief.tracker_forgive]; exact ⟨hid, location⟩
    · rw [records.misses] at seen_now
      have enough := records.settled.1 settled
      have before := (recorded.trackers side).toFollows.report (frame.sightings.get side)
      rcases before.takes seen_now with taken | ⟨exchanged, single⟩
      · exact .inl taken
      · rw [single] at enough
        exact .inr (.inl ⟨Nat.le_antisymm enough valid.minSamples.1, exchanged⟩)
  · obtain ⟨post, placed, known⟩ := (learns side).resolve_left change
    obtain ⟨-, -, hid, location⟩ := Tracker.of_placed? placed
    rw [forgiven]
    exact ⟨⟨post, known, hid, location⟩, .inr (.inr ⟨driving, goal, pardons⟩)⟩

end Journal

/-- A post is seen on the left until the pilot knows it; then the rover is on its way to a search point, and another
post is seen on the right. -/
def Exact.glimpses (i : Nat) : Frame Rat :=
  if i < 6 then ⟨place 0 (-5) 0, ⟨⟨1, 0, 3⟩, .none⟩, .clear⟩ else ⟨place 2 (-5) 0, ⟨.none, ⟨4, 10, 4⟩⟩, .clear⟩

def Exact.glimpsing : Nat → Order Rat
  | 0 => .search gate
  | t + 1 => .tick (glimpses t)

def Exact.glance : Journal Rat := .ofOrders ⟨prompt, carefree⟩ navigator build_eq glimpsing 8 (by decide +kernel)

theorem Journal.known_from_sightings_first :
    ∃ p q : Pilot Rat, Exact.glance.pilot? 2 = some p ∧ Exact.glance.pilot? 3 = some q ∧
      q.known.get .left ≠ p.known.get .left ∧
      ((Exact.glance.navigator 2).belief.tracker .left).Takes Exact.prompt ⟨1, 0, 3⟩ := by
  have learned : ((Exact.glance.pilot? 2).any fun p => decide (p.phase = .spinWait) &&
      (Exact.glance.pilot? 3).any fun q => decide (q.known.get .left ≠ p.known.get .left)) = true := by decide +kernel
  obtain ⟨p, before, learned⟩ := (Option.any_eq_true _ _).1 learned
  rw [Bool.and_eq_true, decide_eq_true_eq] at learned
  obtain ⟨q, after, change⟩ := (Option.any_eq_true _ _).1 learned.2
  have change : q.known.get .left ≠ p.known.get .left := of_decide_eq_true change
  have admitted : Belief.admitted (Exact.glance.navigator 2).waypoint ⟨1, 0, 3⟩ = ⟨1, 0, 3⟩ := by decide +kernel
  have seen := (known_from_sightings Exact.glance 2 (Exact.glimpses 1) (by decide) rfl .left p q before after change).2
  rw [show (Exact.glimpses 1).sightings.get .left = ⟨1, 0, 3⟩ from rfl, admitted] at seen
  refine ⟨p, q, before, after, change, ?_⟩
  rcases seen with taken | ⟨-, -, missed, -⟩ | ⟨driving, -⟩
  · exact taken
  · exact absurd missed (by decide +kernel)
  · rw [learned.1] at driving; cases driving

/-- On the way to a search point nothing is seen on the left, and yet the post there is remembered anew. -/
theorem Journal.known_unseen :
    ∃ p q : Pilot Rat, Exact.glance.order 7 = .tick (Exact.glimpses 6) ∧
      ((Exact.glimpses 6).sightings.get .left).detected = false ∧
      Exact.glance.pilot? 7 = some p ∧ Exact.glance.pilot? 8 = some q ∧
      q.known.get .left ≠ p.known.get .left := by
  have moved : ((Exact.glance.pilot? 7).any fun p => (Exact.glance.pilot? 8).any fun q =>
      decide (q.known.get .left ≠ p.known.get .left)) = true := by decide +kernel
  obtain ⟨p, before, moved⟩ := (Option.any_eq_true _ _).1 moved
  obtain ⟨q, after, change⟩ := (Option.any_eq_true _ _).1 moved
  exact ⟨p, q, rfl, by decide, before, after, of_decide_eq_true change⟩

end GateNav
