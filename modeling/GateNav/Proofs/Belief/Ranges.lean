import GateNav.Proofs.Belief.Update

/-!
# What the trackers count

Hits and misses stop where their word ends, and a window holds no more samples than it has places. So what the mean of
a window counts and cuts out is always there (`Window.InRange`), whatever the sightings are.
-/

namespace GateNav
variable {α : Type} [Scalar α]

namespace Window
variable {w : Window α} {x : α} {n : Nat}

/-- The number of samples that are averaged can be held between one and all of them, and the cut ends within them. -/
structure InRange (w : Window α) : Prop where
  places : 1 ≤ w.capacity ∧ w.capacity ≤ maxCount
  samples : w.samples.length ≤ w.capacity
  kept : w.samples ≠ [] →
    1 ≤ keep w.proportion w.samples.length ∧ keep w.proportion w.samples.length ≤ w.samples.length
  cut : w.samples ≠ [] →
    (w.samples.length - keep w.proportion w.samples.length) / 2 + keep w.proportion w.samples.length ≤ w.samples.length

theorem keep_in_range (proportion : α) (some_left : 1 ≤ n) : 1 ≤ keep proportion n ∧ keep proportion n ≤ n := by
  unfold keep
  omega

theorem inRange_of_length (places : 1 ≤ w.capacity ∧ w.capacity ≤ maxCount) (samples : w.samples.length ≤ w.capacity) :
    w.InRange := by
  have kept (h : w.samples ≠ []) := keep_in_range w.proportion (List.length_pos_iff.2 h)
  refine ⟨places, samples, kept, fun h => ?_⟩
  have := kept h
  omega

/-- The cut is as long as it should be. -/
theorem length_middle (proportion : α) (sorted : List α) :
    (middle proportion sorted).length = keep proportion sorted.length := by
  have within : keep proportion sorted.length ≤ sorted.length := Nat.min_le_right _ _
  unfold middle
  rw [List.length_take, List.length_drop]
  omega

theorem InRange.push (h : w.InRange) : (w.push x).InRange := by
  refine inRange_of_length h.places ?_
  have places := h.places.1
  have room := h.samples
  unfold Window.push
  dsimp only
  rw [List.length_append, List.length_singleton]
  split
  · rw [List.length_tail]; omega
  · omega

theorem InRange.clear (h : w.InRange) : w.clear.InRange :=
  inRange_of_length h.places (Nat.zero_le _)

theorem inRange_empty {capacity minSamples : Nat} {proportion : α} (few : capacity ≤ maxCount) :
    (empty capacity proportion minSamples).InRange := by
  refine inRange_of_length ⟨Nat.le_max_right _ _, ?_⟩ (Nat.zero_le _)
  exact Nat.max_le.2 ⟨few, by decide⟩

end Window

theorem nextTally_le (n : Nat) : nextTally n ≤ maxTally := Nat.min_le_right _ _

namespace Tracker
variable {s : TrackingSettings α} {t : Tracker α} {seen : Sighting α}

/-- The tallies fit their words, and the windows their places. -/
structure InRange (t : Tracker α) : Prop where
  hits : t.hits ≤ maxTally
  misses : t.misses ≤ maxTally
  bearings : t.bearings.InRange
  distances : t.distances.InRange

theorem inRange_start {side : Side} (few : s.windowSize ≤ maxCount) : (start side s).InRange :=
  ⟨Nat.zero_le _, Nat.zero_le _, Window.inRange_empty few, Window.inRange_empty few⟩

theorem InRange.accept (h : t.InRange) : (t.accept seen).InRange :=
  ⟨nextTally_le _, Nat.zero_le _, h.bearings.push, h.distances.push⟩

theorem InRange.replace (h : t.InRange) : (t.replace seen).InRange :=
  ⟨Nat.zero_le _, Nat.zero_le _, h.bearings.clear.push, h.distances.clear.push⟩

theorem InRange.drop (h : t.InRange) : t.drop.InRange :=
  ⟨Nat.zero_le _, h.misses, h.bearings.clear, h.distances.clear⟩

theorem InRange.miss (h : t.InRange) : t.miss.InRange := ⟨h.hits, nextTally_le _, h.bearings, h.distances⟩

theorem InRange.forgive (h : t.InRange) : { t with misses := 0 }.InRange :=
  ⟨h.hits, Nat.zero_le _, h.bearings, h.distances⟩

theorem InRange.reset (h : t.InRange) : t.reset.InRange := h.drop.forgive

theorem InRange.observe (h : t.InRange) : (t.observe s seen).result.InRange := by
  unfold Tracker.observe
  split
  · split
    · exact h.accept
    · split
      · exact h.accept
      · dsimp only
        split
        · exact h.miss.replace
        · exact h.miss
  · dsimp only
    split
    · exact h.miss.drop
    · exact h.miss

theorem InRange.locate [Trig α] {pose : Pose α} (h : t.InRange) : (t.locate pose).InRange := by
  constructor
  · rw [locate_hits]; exact h.hits
  · rw [locate_misses]; exact h.misses
  · rw [locate_bearings]; exact h.bearings
  · rw [locate_distances]; exact h.distances

end Tracker

namespace Belief
variable {b : Belief α} {s : TrackingSettings α}

/-- All that the trackers count is in range, and so is the size of their windows. -/
structure InRange (b : Belief α) : Prop where
  windowSize : b.settings.windowSize < maxCount
  trackers : ∀ side, (b.tracker side).InRange

/-- Space for the windows has been set aside. -/
theorem inRange_of_prepare (h : prepare s = .ok b) : b.InRange := by
  obtain ⟨⟨⟩, room, h⟩ := Checked.bind_eq_ok.1 h
  cases h
  have few : s.windowSize < maxCount := by
    rw [reserve_eq_ok, Window.sampleSize, maxBytes] at room
    unfold maxCount
    omega
  refine ⟨few, fun side => ?_⟩
  cases side <;> exact Tracker.inRange_start (Nat.le_of_lt few)

theorem InRange.forgive (h : b.InRange) : b.forgive.InRange := by
  refine ⟨h.windowSize, fun side => ?_⟩
  cases side
  · exact (h.trackers .left).forgive
  · exact (h.trackers .right).forgive

theorem InRange.reset (h : b.InRange) : b.reset.InRange := by
  refine ⟨h.windowSize, fun side => ?_⟩
  cases side
  · exact (h.trackers .left).reset
  · exact (h.trackers .right).reset

theorem InRange.update [Trig α] {pose : Pose α} {waypoint : Option (Waypoint α)} {n : Noted α (Belief α)}
    (h : b.InRange) (hn : b.update pose waypoint = .ok n) : n.result.InRange := by
  rw [update_eq_ok hn]
  refine ⟨h.windowSize, fun side => ?_⟩
  cases side
  · exact (h.trackers .left).observe.locate
  · exact (h.trackers .right).observe.locate

end Belief

end GateNav
