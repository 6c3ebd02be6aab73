import Mathlib.Data.List.Chain
import Mathlib.Data.List.DropRight
import GateNav.Proofs.Belief.Update
import GateNav.Proofs.Exact
import GateNav.Proofs.Settings.Validate

/-!
# What a tracker remembers

A `Chronicle` is the history of one side of the image: the sightings taken for the post that is held, from the one with
which it was first held, and the misses since the last of them. It is told by the sightings alone, with no windows, no
counting of hits and no locations. `Tracker.Records` says that a tracker is what its chronicle makes it: the last
sighting is held, the windows show the last of them, and the hits count them.

`Tracker.Records.observe` is the step, one case for each thing that can happen to a sighting, and
`Belief.records_chronicle` the induction over whatever is asked of the belief.
-/

namespace GateNav
variable {α : Type} [Scalar α]

/-! ### The window of a series -/

/-- The window that has seen a series. -/
def Window.ofSeries (s : TrackingSettings α) (series : List α) : Window α :=
  { Window.empty s.windowSize s.proportion s.minSamples with samples := series.rtake s.windowSize }

namespace Window
variable {s : TrackingSettings α} {series : List α} {x : α}

theorem ofSeries_nil : ofSeries s [] = empty s.windowSize s.proportion s.minSamples := by
  simp [ofSeries, empty, List.rtake]

/-- A further sample goes to the end of the series. -/
theorem push_ofSeries (places : 1 ≤ s.windowSize) : (ofSeries s series).push x = ofSeries s (series ++ [x]) := by
  have capacity : max s.windowSize 1 = s.windowSize := Nat.max_eq_left places
  simp only [ofSeries, push, empty, List.rtake, capacity, List.length_drop, List.length_append, List.length_singleton,
    mk.injEq, and_true]
  split
  · rw [List.tail_drop, List.drop_append_of_le_length (by omega)]
    congr 2; omega
  · rw [List.drop_append_of_le_length (by omega)]
    congr 2; omega

theorem clear_ofSeries : (ofSeries s series).clear = ofSeries s [] := by
  simp [ofSeries, clear, List.rtake]

theorem ready_ofSeries (few : 1 ≤ s.minSamples ∧ s.minSamples ≤ s.windowSize) :
    (ofSeries s series).ready = true ↔ s.minSamples ≤ series.length := by
  simp only [ofSeries, ready, empty, List.rtake, List.length_drop, decide_eq_true_eq]
  omega

theorem exists_value?_ofSeries (places : 1 ≤ s.windowSize) (h : series ≠ []) :
    ∃ x, (ofSeries s series).value? = some x := by
  have some_left : (ofSeries s series).samples ≠ [] := by
    have := List.length_pos_iff.2 h
    simp only [ofSeries, List.rtake, ne_eq, List.drop_eq_nil_iff]
    omega
  unfold value?
  rw [if_neg (by simpa using some_left)]
  exact ⟨_, rfl⟩

end Window

/-! ### Chronicles -/

/-- The history of one side of the image. -/
structure Chronicle (α : Type) where
  /-- The sighting last reported. -/
  raw : Sighting α
  /-- The sightings taken for the post that is held, since it is held. -/
  taken : List (Sighting α)
  /-- The first of them took the place of another post. -/
  replaced : Bool
  /-- The misses that count. -/
  misses : Nat

namespace Chronicle
variable (s : TrackingSettings α)

def start : Chronicle α := ⟨.none, [], false, 0⟩

/-- A sighting is taken if it is like the last one, or if there is none. Otherwise it counts as a miss, and one miss
too many ends the history; a post that is seen then begins the next. -/
def observe (h : Chronicle α) (seen : Sighting α) : Chronicle α :=
  match h.taken.getLast? with
  | none =>
    if seen.detected then { h with taken := [seen], replaced := false, misses := 0 }
    else { h with misses := nextTally h.misses }
  | some last =>
    if seen.detected && Tracker.similar s last seen then { h with taken := h.taken ++ [seen], misses := 0 }
    else if nextTally h.misses ≤ s.missThreshold then { h with misses := nextTally h.misses }
    else if seen.detected then { h with taken := [seen], replaced := true, misses := 0 }
    else { h with taken := [], replaced := false, misses := nextTally h.misses }

theorem raw_observe (h : Chronicle α) (seen : Sighting α) : (h.observe s seen).raw = h.raw := by
  unfold observe
  split
  · split <;> rfl
  · split
    · rfl
    · split
      · rfl
      · split <;> rfl

/-- No more sightings are taken than there are. -/
theorem length_observe_le (h : Chronicle α) (seen : Sighting α) :
    (h.observe s seen).taken.length ≤ h.taken.length + seen.detected.toNat := by
  unfold observe
  cases seen.detected with
  | true =>
    split
    · simp
    · split
      · simp
      · split <;> simp
  | false =>
    split
    · simp
    · split
      · next like => cases like
      · split <;> simp

end Chronicle

/-- The tracker is what its chronicle makes it, but for the location. -/
structure Tracker.Follows (s : TrackingSettings α) (t : Tracker α) (h : Chronicle α) : Prop where
  held : t.held = h.taken.getLast?
  bearings : t.bearings = Window.ofSeries s (h.taken.map (·.bearing))
  distances : t.distances = Window.ofSeries s (h.taken.map (·.distance))
  /-- A post that took the place of another one has no hit for its first sighting. -/
  hits : t.hits = min (if h.replaced then h.taken.length - 1 else h.taken.length) maxTally
  misses : t.misses = h.misses
  /-- A post that is held has not been missed too often. -/
  patient : h.taken ≠ [] → h.misses ≤ s.missThreshold
  /-- Each sighting is like the one before it. -/
  alike : h.taken.IsChain fun a b => Tracker.similar s a b = true

theorem nextTally_of_lt {n : Nat} (h : n < maxTally) : nextTally n = n + 1 := by
  unfold nextTally; omega

namespace Tracker
variable {s : TrackingSettings α} {t : Tracker α} {h : Chronicle α} {seen : Sighting α}

theorem nextTally_min (n : Nat) : nextTally (min n maxTally) = min (n + 1) maxTally := by
  unfold nextTally; omega

theorem Follows.first (hf : t.Follows s h) (none_taken : h.taken = []) (places : 1 ≤ s.windowSize) :
    (t.accept seen).Follows s { h with taken := [seen], replaced := false, misses := 0 } where
  held := rfl
  bearings := by
    simp only [accept, hf.bearings, none_taken]
    exact Window.push_ofSeries places
  distances := by
    simp only [accept, hf.distances, none_taken]
    exact Window.push_ofSeries places
  hits := by
    have := hf.hits
    simp only [none_taken, List.length_nil, Nat.zero_sub, ite_self] at this
    simp only [accept, this]
    exact nextTally_min 0
  misses := rfl
  patient _ := Nat.zero_le _
  alike := .singleton seen

theorem Follows.again (hf : t.Follows s h) {last : Sighting α} (hl : h.taken.getLast? = some last)
    (like : similar s last seen = true) (places : 1 ≤ s.windowSize) :
    (t.accept seen).Follows s { h with taken := h.taken ++ [seen], misses := 0 } where
  held := by simp [accept]
  bearings := by
    simp only [accept, hf.bearings, List.map_append, List.map_cons, List.map_nil]
    exact Window.push_ofSeries places
  distances := by
    simp only [accept, hf.distances, List.map_append, List.map_cons, List.map_nil]
    exact Window.push_ofSeries places
  hits := by
    have some_taken : 1 ≤ h.taken.length := by
      refine List.length_pos_iff.2 fun none_taken => ?_
      rw [none_taken] at hl; cases hl
    simp only [accept, hf.hits, nextTally_min, List.length_append, List.length_singleton]
    congr 1
    split <;> omega
  misses := rfl
  patient _ := Nat.zero_le _
  alike := by
    refine hf.alike.append (.singleton seen) fun a ha b hb => ?_
    rw [hl] at ha
    cases ha; cases hb
    exact like

theorem Follows.miss (hf : t.Follows s h) (few : h.taken ≠ [] → nextTally h.misses ≤ s.missThreshold) :
    t.miss.Follows s { h with misses := nextTally h.misses } :=
  { hf with misses := congrArg nextTally hf.misses, patient := few }

theorem Follows.replace (hf : t.Follows s h) (places : 1 ≤ s.windowSize) :
    (t.replace seen).Follows s { h with taken := [seen], replaced := true, misses := 0 } where
  held := rfl
  bearings := by
    simp only [Tracker.replace, hf.bearings, Window.clear_ofSeries]
    exact Window.push_ofSeries places
  distances := by
    simp only [Tracker.replace, hf.distances, Window.clear_ofSeries]
    exact Window.push_ofSeries places
  hits := rfl
  misses := rfl
  patient _ := Nat.zero_le _
  alike := .singleton seen

theorem Follows.drop (hf : t.Follows s h) : t.drop.Follows s { h with taken := [], replaced := false } where
  held := rfl
  bearings := by simp only [Tracker.drop, hf.bearings, Window.clear_ofSeries]; rfl
  distances := by simp only [Tracker.drop, hf.distances, Window.clear_ofSeries]; rfl
  hits := rfl
  misses := hf.misses
  patient none_taken := absurd rfl none_taken
  alike := .nil

theorem Follows.forgive (hf : t.Follows s h) : { t with misses := 0 }.Follows s { h with misses := 0 } :=
  { hf with misses := rfl, patient := fun _ => Nat.zero_le _ }

/-- What a tracker makes of a sighting is what its chronicle makes of it. -/
theorem Follows.observe (hf : t.Follows s h) (places : 1 ≤ s.windowSize) :
    (t.observe s seen).result.Follows s (h.observe s seen) := by
  have misses : t.miss.misses = nextTally h.misses := congrArg nextTally hf.misses
  unfold Tracker.observe Chronicle.observe
  dsimp only
  rw [hf.held, misses]
  -- A tracker asks first whether a post is seen, a chronicle whether one is held: all cases of both have to be met.
  cases hl : h.taken.getLast? with
  | none =>
    have none_taken : h.taken = [] := List.getLast?_eq_none_iff.1 hl
    have empty : t.miss.hasPost = false := by rw [hasPost, Tracker.miss, hf.held, hl]; rfl
    cases seen.detected with
    | true => exact hf.first none_taken places
    | false =>
      rw [empty, Bool.and_false]
      exact hf.miss fun some_taken => absurd none_taken some_taken
  | some last =>
    have full : t.miss.hasPost = true := by rw [hasPost, Tracker.miss, hf.held, hl]; rfl
    have patient := Nat.not_lt (a := s.missThreshold) (b := nextTally h.misses)
    cases detected : seen.detected with
    | true =>
      cases like : similar s last seen with
      | true =>
        simp only [like, Bool.and_true, if_true]
        exact hf.again hl like places
      | false =>
        by_cases few : nextTally h.misses ≤ s.missThreshold
        · simp only [like, Bool.and_false, Bool.false_eq_true, if_false, if_true, if_pos few, if_neg (patient.2 few)]
          exact hf.miss fun _ => few
        · simp only [like, Bool.and_false, Bool.false_eq_true, if_false, if_true, if_neg few,
            if_pos (Nat.lt_of_not_le few)]
          exact (hf.replace places :)
    | false =>
      by_cases few : nextTally h.misses ≤ s.missThreshold
      · simp only [full, Bool.false_and, Bool.and_true, Bool.false_eq_true, if_false, if_pos few, decide_eq_true_eq,
          if_neg (patient.2 few)]
        exact hf.miss fun _ => few
      · simp only [full, Bool.false_and, Bool.and_true, Bool.false_eq_true, if_false, if_neg few, decide_eq_true_eq,
          if_pos (Nat.lt_of_not_le few)]
        exact hf.drop.miss fun some_taken => absurd rfl some_taken

theorem Follows.reset (hf : t.Follows s h) : t.reset.Follows s { h with taken := [], replaced := false, misses := 0 } :=
  hf.drop.forgive

theorem Follows.report (hf : t.Follows s h) (raw : Sighting α) : t.Follows s { h with raw := raw } :=
  { hf with }

theorem follows_start {side : Side} : (Tracker.start side s).Follows s Chronicle.start where
  held := rfl
  bearings := Window.ofSeries_nil.symm
  distances := Window.ofSeries_nil.symm
  hits := rfl
  misses := rfl
  patient none_taken := absurd rfl none_taken
  alike := .nil

variable [Trig α] {pose : Pose α}

theorem Follows.locate (hf : t.Follows s h) : (t.locate pose).Follows s h where
  held := locate_held.trans hf.held
  bearings := locate_bearings.trans hf.bearings
  distances := locate_distances.trans hf.distances
  hits := locate_hits.trans hf.hits
  misses := locate_misses.trans hf.misses
  patient := hf.patient
  alike := hf.alike

/-- A post that is held is placed. -/
theorem Follows.location_locate (hf : t.Follows s h) (places : 1 ≤ s.windowSize) (some_taken : h.taken ≠ []) :
    (t.locate pose).location.isSome = true := by
  have series (f : Sighting α → α) : h.taken.map f ≠ [] := by simpa using some_taken
  obtain ⟨bearing, hb⟩ := Window.exists_value?_ofSeries places (series (·.bearing))
  obtain ⟨distance, hd⟩ := Window.exists_value?_ofSeries places (series (·.distance))
  have full : t.hasPost = true := by
    rw [hasPost, hf.held]; simpa using some_taken
  unfold Tracker.locate
  rw [full, hf.bearings, hf.distances, hb, hd]
  rfl

theorem locate_of_held_eq_none (h : t.held = none) : t.locate pose = t := by
  unfold locate hasPost
  rw [h]; rfl

end Tracker

/-- The tracker is what its chronicle makes it. -/
structure Tracker.Records (s : TrackingSettings α) (t : Tracker α) (h : Chronicle α) : Prop
    extends t.Follows s h where
  located : t.location.isSome = true ↔ h.taken ≠ []
  settled : t.settled = true ↔ s.minSamples ≤ h.taken.length

namespace Tracker
variable {s : TrackingSettings α} {t : Tracker α} {h : Chronicle α} {seen : Sighting α}

/-- A tracker that gives its post up gives up its location as well. -/
theorem location_of_observe (before : t.held = none → t.location = none)
    (after : (t.observe s seen).result.held = none) : (t.observe s seen).result.location = none := by
  revert after
  unfold observe
  dsimp only
  split
  · split
    · exact nofun
    · split
      · exact nofun
      · split
        · exact nofun
        · exact before
  · split
    · exact fun _ => rfl
    · exact before

theorem Follows.records (hf : t.Follows s h) (located : t.location.isSome = true ↔ h.taken ≠ [])
    (few : 1 ≤ s.minSamples ∧ s.minSamples ≤ s.windowSize) : t.Records s h :=
  { hf with
    located := located
    settled := by
      unfold Tracker.settled
      rw [hf.bearings, hf.distances, Bool.and_eq_true, Window.ready_ofSeries few, Window.ready_ofSeries few,
        List.length_map, List.length_map, and_self] }

/-- A tracker after an update is what its chronicle makes of the sighting. -/
theorem Records.observe [Trig α] {pose : Pose α} (hr : t.Records s h) (places : 1 ≤ s.windowSize)
    (few : 1 ≤ s.minSamples ∧ s.minSamples ≤ s.windowSize) :
    ((t.observe s seen).result.locate pose).Records s (h.observe s seen) := by
  have after : (t.observe s seen).result.Follows s (h.observe s seen) := hr.toFollows.observe places
  refine after.locate.records ⟨fun placed none_taken => ?_, after.location_locate places⟩ few
  -- A location is only left standing by `locate`, so it must be gone already when no post is held.
  have gone : (t.observe s seen).result.held = none := by rw [after.held, none_taken]; rfl
  have before (gone : t.held = none) : t.location = none := by
    have none_taken : h.taken = [] := List.getLast?_eq_none_iff.1 (hr.held.symm.trans gone)
    exact Option.not_isSome_iff_eq_none.1 fun placed => hr.located.1 placed none_taken
  rw [locate_of_held_eq_none gone, location_of_observe before gone] at placed
  cases placed

end Tracker

/-! ### Whatever is asked of the belief -/

/-- What can be asked of the belief. -/
inductive Belief.Request (α : Type) where
  | setObstacle (obstacle : Obstacle α)
  | setSightings (sightings : Sided (Sighting α))
  | update (pose : Pose α) (waypoint : Option (Waypoint α))
  | forgive
  | reset

/-- Every id is on the gate of the request or off it. -/
def Belief.Request.Numbered : Belief.Request α → Prop
  | .update _ waypoint => ∀ w ∈ waypoint, w.Numbered
  | _ => True

/-- The history after a request, as seen from one side. -/
def Chronicle.next (s : TrackingSettings α) (side : Side) (h : Chronicle α) : Belief.Request α → Chronicle α
  | .setObstacle _ => h
  | .setSightings sightings => { h with raw := sightings.get side }
  | .update _ waypoint => h.observe s (Belief.admitted waypoint h.raw)
  | .forgive => { h with misses := 0 }
  | .reset => .start

/-- The history of one side under all these requests. -/
def Chronicle.of (s : TrackingSettings α) (side : Side) (requests : List (Belief.Request α)) : Chronicle α :=
  requests.foldl (Chronicle.next s side) .start

namespace Belief

/-- The belief is what the chronicles of its two sides make it. -/
structure Recorded (s : TrackingSettings α) (b : Belief α) (h : Side → Chronicle α) : Prop where
  settings : b.settings = s
  raw : ∀ side, b.raw.get side = (h side).raw
  trackers : ∀ side, (b.tracker side).Records s (h side)

variable {s : TrackingSettings α} {b : Belief α} {h : Side → Chronicle α}

theorem recorded_start (valid : s.Valid) : (start s).Recorded s fun _ => .start where
  settings := rfl
  raw side := by cases side <;> rfl
  trackers side := by
    have located {side : Side} :
        (Tracker.start side s).location.isSome = true ↔ (Chronicle.start : Chronicle α).taken ≠ [] :=
      ⟨nofun, fun some_taken => absurd rfl some_taken⟩
    cases side <;> exact Tracker.follows_start.records located valid.minSamples

theorem Recorded.setSightings (hb : b.Recorded s h) (sightings : Sided (Sighting α)) :
    (b.setSightings sightings).Recorded s fun side => { h side with raw := sightings.get side } := by
  refine ⟨hb.settings, fun _ => rfl, fun side => ?_⟩
  have hr := hb.trackers side
  exact { hr with }

theorem Recorded.forgive (hb : b.Recorded s h) (valid : s.Valid) :
    b.forgive.Recorded s fun side => { h side with misses := 0 } := by
  refine ⟨hb.settings, hb.raw, fun side => ?_⟩
  have hr := hb.trackers side
  cases side
  all_goals exact hr.forgive.records hr.located valid.minSamples

theorem Recorded.reset (hb : b.Recorded s h) (valid : s.Valid) : b.reset.Recorded s fun _ => .start := by
  have located {t : Tracker α} :
      t.reset.location.isSome = true ↔ (Chronicle.start : Chronicle α).taken ≠ [] :=
    ⟨nofun, fun some_taken => absurd rfl some_taken⟩
  refine ⟨hb.settings, fun side => by cases side <;> rfl, fun side => ?_⟩
  have hr := hb.trackers side
  cases side
  all_goals exact (hr.reset.report .none).records located valid.minSamples

/-- A belief is only built under valid settings, and it starts with nothing. -/
theorem of_build [Numeral α] (begins : Belief.build s = .ok (.ok b)) : s.Valid ∧ b = start s := by
  unfold Belief.build at begins
  split at begins
  · cases begins
  · next valid =>
    obtain ⟨started, prepared, same⟩ := Checked.bind_eq_ok.1 begins
    cases same
    obtain ⟨_, -, started⟩ := Checked.bind_eq_ok.1 prepared
    cases started
    exact ⟨TrackingSettings.validate_eq_ok.1 valid, rfl⟩

variable [Trig α]

/-- After an update each tracker is what its chronicle makes of the sighting that is admitted. -/
theorem Recorded.update (hb : b.Recorded s h) (valid : s.Valid) {pose : Pose α} {waypoint : Option (Waypoint α)}
    {n : Noted α (Belief α)} (hn : b.update pose waypoint = .ok n) :
    n.result.Recorded s fun side => (h side).observe s (admitted waypoint (h side).raw) := by
  have step (side : Side) : (b.updated pose waypoint side).Records s
      ((h side).observe s (admitted waypoint (h side).raw)) := by
    unfold updated observed
    rw [hb.settings, hb.raw]
    exact (hb.trackers side).observe valid.windowSize valid.minSamples
  rw [update_eq_ok hn]
  refine ⟨hb.settings, fun side => (hb.raw side).trans (Chronicle.raw_observe s _ _).symm, fun side => ?_⟩
  cases side
  all_goals exact step _

/-- The belief after a request. -/
def serve (b : Belief α) : Request α → Checked α (Belief α)
  | .setObstacle obstacle => pure (b.setObstacle obstacle)
  | .setSightings sightings => pure (b.setSightings sightings)
  | .update pose waypoint => (·.result) <$> b.update pose waypoint
  | .forgive => pure b.forgive
  | .reset => pure b.reset

/-- The belief after all these requests. -/
def serveAll (b : Belief α) (requests : List (Request α)) : Checked α (Belief α) := requests.foldlM serve b

/-- A request leaves the belief what the chronicles make of it. -/
theorem Recorded.serve (hb : b.Recorded s h) (valid : s.Valid) {r : Request α} (numbered : r.Numbered) :
    ∃ b', b.serve r = .ok b' ∧ b'.Recorded s fun side => (h side).next s side r := by
  cases r with
  | setObstacle obstacle => exact ⟨_, rfl, { hb with }⟩
  | setSightings sightings => exact ⟨_, rfl, hb.setSightings sightings⟩
  | update pose waypoint =>
    have answer := update_of_numbered numbered pose (b := b)
    exact ⟨_, by rw [Belief.serve, answer]; rfl, hb.update valid answer⟩
  | forgive => exact ⟨_, rfl, hb.forgive valid⟩
  | reset => exact ⟨_, rfl, hb.reset valid⟩

theorem Recorded.serveAll (hb : b.Recorded s h) (valid : s.Valid) {requests : List (Request α)}
    (numbered : ∀ r ∈ requests, r.Numbered) :
    ∃ b', b.serveAll requests = .ok b' ∧
      b'.Recorded s fun side => requests.foldl (Chronicle.next s side) (h side) := by
  induction requests generalizing b h with
  | nil => exact ⟨b, rfl, hb⟩
  | cons r requests ih =>
    obtain ⟨next, hr, recorded⟩ := hb.serve valid (numbered r (by simp))
    obtain ⟨last, hl, recorded⟩ := ih recorded fun r hr => numbered r (by simp [hr])
    refine ⟨last, ?_, recorded⟩
    rw [Belief.serveAll, List.foldlM_cons, hr]
    exact hl

/-- A request that is answered leaves the belief what some chronicles make of it, whatever the waypoint. -/
theorem Recorded.of_serve (hb : b.Recorded s h) (valid : s.Valid) {r : Request α} {b' : Belief α}
    (served : b.serve r = .ok b') : ∃ h', b'.Recorded s h' := by
  cases r with
  | setObstacle obstacle => cases served; exact ⟨h, { hb with }⟩
  | setSightings sightings => cases served; exact ⟨_, hb.setSightings sightings⟩
  | update pose waypoint =>
    obtain ⟨n, hn, rfl⟩ := Checked.map_eq_ok.1 served
    exact ⟨_, hb.update valid hn⟩
  | forgive => cases served; exact ⟨_, hb.forgive valid⟩
  | reset => cases served; exact ⟨_, hb.reset valid⟩

theorem Recorded.of_serveAll (hb : b.Recorded s h) (valid : s.Valid) {requests : List (Request α)} {b' : Belief α}
    (served : b.serveAll requests = .ok b') : ∃ h', b'.Recorded s h' := by
  induction requests generalizing b h with
  | nil => cases served; exact ⟨h, hb⟩
  | cons r requests ih =>
    rw [Belief.serveAll, List.foldlM_cons, Checked.bind_eq_ok] at served
    obtain ⟨next, hr, served⟩ := served
    obtain ⟨h', recorded⟩ := hb.of_serve valid hr
    exact ih recorded served

/-- Whatever was asked of the belief, a post is placed if it is held. -/
theorem placed_of_serveAll [Numeral α] (begins : Belief.build s = .ok (.ok b)) {requests : List (Request α)}
    {last : Belief α} (served : b.serveAll requests = .ok last) (side : Side) :
    (last.tracker side).location.isSome = (last.tracker side).hasPost := by
  obtain ⟨valid, rfl⟩ := of_build begins
  obtain ⟨h, recorded⟩ := (recorded_start valid).of_serveAll valid served
  have records := recorded.trackers side
  rw [Bool.eq_iff_iff, records.located, Tracker.hasPost, records.held]
  simp

/-- Under valid settings, and whatever is asked of the belief with numbered waypoints, there is an answer, and each
tracker is the history of the sightings taken since its post is held: the last of them is held; the windows show the
bearings and the distances of as many of the last ones as there are places; the tracker has settled once there are
enough of them; each of them is like the one before; the hits count them, but for the first one of a post that took
another's place; and a post that is held has not been missed too often. -/
theorem records_chronicle [Numeral α] (begins : Belief.build s = .ok (.ok b)) (requests : List (Request α))
    (numbered : ∀ r ∈ requests, r.Numbered) :
    ∃ last, b.serveAll requests = .ok last ∧
      ∀ side, (last.tracker side).Records s (Chronicle.of s side requests) := by
  unfold Belief.build at begins
  split at begins
  · cases begins
  · next valid =>
    obtain ⟨started, prepared, same⟩ := Checked.bind_eq_ok.1 begins
    cases same
    obtain ⟨_, -, hs⟩ := Checked.bind_eq_ok.1 prepared
    cases hs
    have valid := TrackingSettings.validate_eq_ok.1 valid
    obtain ⟨last, hl, recorded⟩ := (recorded_start valid).serveAll valid numbered
    exact ⟨last, hl, recorded.trackers⟩

end Belief

/-- A post is seen on the left, then another one for so long that it takes the place of the first, and once more. -/
def Exact.relief : List (Belief.Request Rat) :=
  [.setSightings ⟨⟨1, 0, 3⟩, .none⟩, .update (place 0 0 0) none, .setSightings ⟨⟨5, 0, 4⟩, .none⟩] ++
    List.replicate 7 (.update (place 0 0 0) none)

theorem Belief.records_chronicle_relief :
    ∃ b last : Belief Rat, Belief.build Exact.prompt = .ok (.ok b) ∧ b.serveAll Exact.relief = .ok last ∧
      (Chronicle.of Exact.prompt .left Exact.relief).taken = [⟨5, 0, 4⟩, ⟨5, 0, 4⟩] ∧
      (last.tracker .left).Records Exact.prompt (Chronicle.of Exact.prompt .left Exact.relief) ∧
      (last.tracker .left).hits = 1 := by
  have ends : (match Belief.build Exact.prompt with
      | .ok (.ok _) => true
      | _ => false) = true := by decide +kernel
  have history : (Chronicle.of Exact.prompt .left Exact.relief).taken = [⟨5, 0, 4⟩, ⟨5, 0, 4⟩] ∧
      (Chronicle.of Exact.prompt .left Exact.relief).replaced = true := by decide +kernel
  split at ends
  · next b begins =>
    have numbered : ∀ r ∈ Exact.relief, r.Numbered := by
      intro r hr
      simp only [Exact.relief, List.mem_append, List.mem_cons, List.not_mem_nil, or_false, List.mem_replicate] at hr
      rcases hr with (rfl | rfl | rfl) | ⟨-, rfl⟩
      · trivial
      · exact nofun
      · trivial
      · exact nofun
    obtain ⟨last, served, records⟩ := records_chronicle begins Exact.relief numbered
    refine ⟨b, last, begins, served, history.1, records .left, ?_⟩
    rw [(records .left).hits, history.1, history.2]
    rfl
  · cases ends

end GateNav
