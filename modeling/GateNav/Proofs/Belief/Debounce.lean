import GateNav.Proofs.Belief.Chronicle

/-!
# When a post is given up

A post that is held and not seen again, or not where it was, is held on to until there is one miss more than the
threshold. It does not matter which of the misses come from a frame without a post and which from another post: up to
the threshold they are only counted (`Tracker.Sees.waits`), and what the last one is decides what becomes of the tracker
(`Belief.debounced`).
-/

namespace GateNav
variable {α : Type}

theorem Window.push_clear {w : Window α} {x : α} (places : 1 ≤ w.capacity) :
    w.clear.push x = { w with samples := [x] } := by
  have room : ([] : List α).length ≠ w.capacity := Nat.ne_of_lt places
  unfold clear push
  dsimp only
  rw [if_neg room, List.nil_append]

/-! ### What becomes of the tracker -/

namespace Tracker
variable {t t' t'' : Tracker α} {seen : Sighting α}

/-- The tracker holds on to its post and counts so many misses. -/
structure Waits (t t' : Tracker α) (misses : Nat) : Prop where
  held : t'.held = t.held
  hits : t'.hits = t.hits
  bearings : t'.bearings = t.bearings
  distances : t'.distances = t.distances
  misses : t'.misses = misses

/-- The post is seen again: the sighting is one more hit and one more sample, and the misses are forgotten. -/
structure Resumes (t t' : Tracker α) (seen : Sighting α) : Prop where
  held : t'.held = some seen
  hits : t'.hits = nextTally t.hits
  bearings : t'.bearings = t.bearings.push seen.bearing
  distances : t'.distances = t.distances.push seen.distance
  misses : t'.misses = 0

/-- The post is given up. -/
structure GivesUp (t t' : Tracker α) (misses : Nat) : Prop where
  held : t'.held = none
  hits : t'.hits = 0
  bearings : t'.bearings = { t.bearings with samples := [] }
  distances : t'.distances = { t.distances with samples := [] }
  location : t'.location = none
  misses : t'.misses = misses

/-- Another post takes the place of the one held, with this sighting and no other. -/
structure BeginsAnew (t t' : Tracker α) (seen : Sighting α) : Prop where
  held : t'.held = some seen
  hits : t'.hits = 0
  bearings : t'.bearings = { t.bearings with samples := [seen.bearing] }
  distances : t'.distances = { t.distances with samples := [seen.distance] }
  misses : t'.misses = 0

theorem Waits.trans {m n : Nat} (h : t.Waits t' m) (h' : t'.Waits t'' n) : t.Waits t'' n :=
  ⟨h'.held.trans h.held, h'.hits.trans h.hits, h'.bearings.trans h.bearings, h'.distances.trans h.distances, h'.misses⟩

theorem Waits.resumes {n : Nat} (h : t.Waits t' n) (h' : t'.Resumes t'' seen) : t.Resumes t'' seen :=
  ⟨h'.held, h.hits ▸ h'.hits, h.bearings ▸ h'.bearings, h.distances ▸ h'.distances, h'.misses⟩

theorem Waits.givesUp {m n : Nat} (h : t.Waits t' m) (h' : t'.GivesUp t'' n) : t.GivesUp t'' n :=
  ⟨h'.held, h'.hits, h.bearings ▸ h'.bearings, h.distances ▸ h'.distances, h'.location, h'.misses⟩

theorem Waits.beginsAnew {n : Nat} (h : t.Waits t' n) (h' : t'.BeginsAnew t'' seen) : t.BeginsAnew t'' seen :=
  ⟨h'.held, h'.hits, h.bearings ▸ h'.bearings, h.distances ▸ h'.distances, h'.misses⟩

end Tracker

/-! ### One sighting of a post that is held -/

variable [Scalar α]

namespace Tracker
variable {s : TrackingSettings α} {t t' t'' : Tracker α} {c seen : Sighting α}

theorem observe_of_like (held : t.held = some c) (detected : seen.detected = true) (like : similar s c seen = true) :
    (t.observe s seen).result = t.accept seen := by
  unfold observe
  rw [if_pos detected, held]
  simp [like]

/-- Up to the threshold a miss is only counted. -/
theorem observe_of_unlike (held : t.held = some c) (unlike : seen.detected = true → similar s c seen = false)
    (few : nextTally t.misses ≤ s.missThreshold) : (t.observe s seen).result = t.miss := by
  have patient : ¬ s.missThreshold < t.miss.misses := Nat.not_lt.2 few
  unfold observe
  cases detected : seen.detected with
  | true => simp [held, unlike detected, patient]
  | false => simp [patient]

theorem observe_of_unseen (held : t.held = some c) (unseen : seen.detected = false)
    (many : s.missThreshold < nextTally t.misses) : (t.observe s seen).result = t.miss.drop := by
  have full : t.miss.hasPost = true := by rw [hasPost, miss, held]; rfl
  have impatient : s.missThreshold < t.miss.misses := many
  unfold observe
  simp [unseen, full, impatient]

theorem observe_of_other (held : t.held = some c) (detected : seen.detected = true) (unlike : similar s c seen = false)
    (many : s.missThreshold < nextTally t.misses) : (t.observe s seen).result = t.miss.replace seen := by
  have impatient : s.missThreshold < t.miss.misses := many
  unfold observe
  simp [detected, held, unlike, impatient]

variable [Trig α] {pose : Pose α}

theorem resumes_of_like (held : t.held = some c) (detected : seen.detected = true) (like : similar s c seen = true) :
    t.Resumes ((t.observe s seen).result.locate pose) seen := by
  rw [observe_of_like held detected like]
  constructor <;> simp [accept]

theorem waits_of_unlike (held : t.held = some c) (unlike : seen.detected = true → similar s c seen = false)
    (few : t.misses + 1 ≤ s.missThreshold) (fits : s.missThreshold < maxTally) :
    t.Waits ((t.observe s seen).result.locate pose) (t.misses + 1) := by
  have next : nextTally t.misses = t.misses + 1 := nextTally_of_lt (by omega)
  rw [observe_of_unlike held unlike (next ▸ few)]
  constructor <;> simp [miss, next]

theorem givesUp_of_unseen (held : t.held = some c) (unseen : seen.detected = false)
    (last : t.misses = s.missThreshold) (fits : s.missThreshold < maxTally) :
    t.GivesUp ((t.observe s seen).result.locate pose) (s.missThreshold + 1) := by
  have next : nextTally t.misses = s.missThreshold + 1 := by rw [last, nextTally_of_lt fits]
  have nowhere : t.miss.drop.locate pose = t.miss.drop := locate_of_held_eq_none rfl
  rw [observe_of_unseen held unseen (by omega), nowhere]
  exact ⟨rfl, rfl, rfl, rfl, rfl, next⟩

theorem beginsAnew_of_other (held : t.held = some c) (detected : seen.detected = true)
    (unlike : similar s c seen = false) (last : t.misses = s.missThreshold) (fits : s.missThreshold < maxTally)
    (places : 1 ≤ t.bearings.capacity ∧ 1 ≤ t.distances.capacity) :
    t.BeginsAnew ((t.observe s seen).result.locate pose) seen := by
  have next : nextTally t.misses = s.missThreshold + 1 := by rw [last, nextTally_of_lt fits]
  rw [observe_of_other held detected unlike (by omega)]
  constructor <;> simp [replace, miss, Window.push_clear, places.1, places.2]

/-! ### A row of sightings -/

/-- What a tracker makes of a row of sightings, each followed by a placing of the post. -/
inductive Sees (s : TrackingSettings α) : Tracker α → List (Sighting α) → Tracker α → Prop
  | nil {t : Tracker α} : Sees s t [] t
  | cons {t t' : Tracker α} {seen : Sighting α} {rest : List (Sighting α)} (pose : Pose α)
    (after : Sees s ((t.observe s seen).result.locate pose) rest t') : Sees s t (seen :: rest) t'

variable {row : List (Sighting α)}

theorem Sees.exists_last {row : List (Sighting α)} (h : t.Sees s (row ++ [seen]) t'') :
    ∃ t' pose, t.Sees s row t' ∧ t'' = (t'.observe s seen).result.locate pose := by
  induction row generalizing t with
  | nil =>
    obtain _ | ⟨pose, ⟨⟩⟩ := h
    exact ⟨t, pose, .nil, rfl⟩
  | cons first row ih =>
    obtain _ | ⟨pose, after⟩ := h
    obtain ⟨t', last, before, same⟩ := ih after
    exact ⟨t', last, .cons pose before, same⟩

/-- As long as there are no more misses than the threshold, the tracker holds on to its post. -/
theorem Sees.waits (h : t.Sees s row t') (held : t.held = some c)
    (unlike : ∀ seen ∈ row, seen.detected = true → similar s c seen = false)
    (few : t.misses + row.length ≤ s.missThreshold) (fits : s.missThreshold < maxTally) :
    t.Waits t' (t.misses + row.length) := by
  induction h with
  | nil => exact ⟨rfl, rfl, rfl, rfl, rfl⟩
  | @cons t t' seen row pose after ih =>
    rw [List.length_cons] at few ⊢
    have step : t.Waits ((t.observe s seen).result.locate pose) (t.misses + 1) :=
      waits_of_unlike held (unlike seen List.mem_cons_self) (by omega) fits
    have rest := ih (step.held.trans held) (fun other h => unlike other (List.mem_cons_of_mem _ h))
    rw [step.misses] at rest
    have rest := rest (by omega)
    rw [show t.misses + (row.length + 1) = t.misses + 1 + row.length by omega]
    exact step.trans rest

/-- With one miss more, the last of which shows no post, the post is given up. -/
theorem Sees.givesUp (h : t.Sees s (row ++ [seen]) t') (held : t.held = some c)
    (unlike : ∀ other ∈ row ++ [seen], other.detected = true → similar s c other = false)
    (full : t.misses + row.length = s.missThreshold) (fits : s.missThreshold < maxTally)
    (unseen : seen.detected = false) : t.GivesUp t' (s.missThreshold + 1) := by
  obtain ⟨t'', pose, before, rfl⟩ := h.exists_last
  have waits := before.waits held (fun other h => unlike other (List.mem_append_left _ h)) (Nat.le_of_eq full) fits
  exact waits.givesUp (givesUp_of_unseen (waits.held.trans held) unseen (waits.misses.trans full) fits)

/-- With one miss more, the last of which shows another post, the tracker begins anew with that one. -/
theorem Sees.beginsAnew (h : t.Sees s (row ++ [seen]) t') (held : t.held = some c)
    (unlike : ∀ other ∈ row ++ [seen], other.detected = true → similar s c other = false)
    (full : t.misses + row.length = s.missThreshold) (fits : s.missThreshold < maxTally)
    (detected : seen.detected = true) (places : 1 ≤ t.bearings.capacity ∧ 1 ≤ t.distances.capacity) :
    t.BeginsAnew t' seen := by
  obtain ⟨t'', pose, before, rfl⟩ := h.exists_last
  have waits := before.waits held (fun other h => unlike other (List.mem_append_left _ h)) (Nat.le_of_eq full) fits
  have other := unlike seen (List.mem_append_right _ (List.mem_singleton_self seen)) detected
  refine waits.beginsAnew (beginsAnew_of_other (waits.held.trans held) detected other (waits.misses.trans full) fits ?_)
  rw [waits.bearings, waits.distances]
  exact places

end Tracker

/-! ### Whatever else is asked of the belief -/

namespace Belief

/-- A request that leaves the misses alone. -/
def Request.Calm : Request α → Prop
  | .forgive | .reset => False
  | _ => True

/-- The sightings admitted on one side, one for each update. -/
def readings (side : Side) : Sighting α → List (Request α) → List (Sighting α)
  | _, [] => []
  | raw, .setObstacle _ :: rest => readings side raw rest
  | _, .setSightings sightings :: rest => readings side (sightings.get side) rest
  | raw, .update _ waypoint :: rest => admitted waypoint raw :: readings side raw rest
  | raw, .forgive :: rest => readings side raw rest
  | _, .reset :: rest => readings side .none rest

variable [Trig α] {s : TrackingSettings α} {b later : Belief α} {more : List (Request α)}

/-- Requests that leave the misses alone show a tracker the sightings that are admitted, and nothing else. -/
theorem sees_of_serveAll (side : Side) (calm : ∀ r ∈ more, r.Calm) (served : b.serveAll more = .ok later) :
    (b.tracker side).Sees b.settings (readings side (b.raw.get side) more) (later.tracker side) := by
  induction more generalizing b with
  | nil => cases served; exact .nil
  | cons r more ih =>
    rw [serveAll, List.foldlM_cons, Checked.bind_eq_ok] at served
    obtain ⟨next, answer, served⟩ := served
    have rest := ih (fun r hr => calm r (List.mem_cons_of_mem _ hr)) served
    cases r with
    | setObstacle | setSightings => cases answer; exact rest
    | update pose waypoint =>
      obtain ⟨noted, update, rfl⟩ := Checked.map_eq_ok.1 answer
      rw [update_eq_ok update] at rest
      refine .cons pose ?_
      cases side
      all_goals exact rest
    | forgive | reset => exact (calm _ List.mem_cons_self).elim

/-- Under valid settings, and whatever was asked of the belief before, let a post be held on one side, and let only
sightings be admitted there that show none or are not like it, while no misses are forgiven.

Up to the threshold the tracker holds on to the post with all that is known of it, and one sighting like it is enough
for it to go on as if nothing had been missed. With one miss more than the threshold the post is given up if the last
sighting shows none; if it shows another post, the tracker begins anew with that one. -/
theorem debounced [Numeral α] (begins : Belief.build s = .ok (.ok b)) {requests : List (Request α)} {now : Belief α}
    (served : b.serveAll requests = .ok now) (fits : s.missThreshold < maxTally) (side : Side) {c : Sighting α}
    (held : (now.tracker side).held = some c) (calm : ∀ r ∈ more, r.Calm) {row : List (Sighting α)}
    (shown : readings side (now.raw.get side) more = row)
    (unlike : ∀ seen ∈ row, seen.detected = true → Tracker.similar s c seen = false) :
    ((∀ r ∈ more, r.Numbered) → ∃ later, now.serveAll more = .ok later) ∧
      ∀ later, now.serveAll more = .ok later →
        ((now.tracker side).misses + row.length ≤ s.missThreshold →
          (now.tracker side).Waits (later.tracker side) ((now.tracker side).misses + row.length) ∧
          ∀ further last seen, (∀ r ∈ further, r.Calm) → later.serveAll further = .ok last →
            readings side (later.raw.get side) further = [seen] → seen.detected = true →
            Tracker.similar s c seen = true → (now.tracker side).Resumes (last.tracker side) seen) ∧
        ((now.tracker side).misses + row.length = s.missThreshold + 1 → ∀ seen, row.getLast? = some seen →
          (seen.detected = false → (now.tracker side).GivesUp (later.tracker side) (s.missThreshold + 1)) ∧
          (seen.detected = true → (now.tracker side).BeginsAnew (later.tracker side) seen)) := by
  obtain ⟨valid, rfl⟩ := of_build begins
  obtain ⟨h, recorded⟩ := (recorded_start valid).of_serveAll valid served
  refine ⟨fun numbered => ?_, fun later after => ?_⟩
  · obtain ⟨later, after, -⟩ := recorded.serveAll valid numbered
    exact ⟨later, after⟩
  have sees := sees_of_serveAll side calm after
  rw [shown, recorded.settings] at sees
  refine ⟨fun few => ?_, fun ends seen final => ?_⟩
  · have waits := sees.waits held unlike few fits
    refine ⟨waits, fun further last seen calm again one detected like => ?_⟩
    obtain ⟨h', recorded'⟩ := recorded.of_serveAll valid after
    have once := sees_of_serveAll side calm again
    rw [one, recorded'.settings, ← List.nil_append [seen]] at once
    obtain ⟨t', pose, ⟨⟩, same⟩ := once.exists_last
    rw [same]
    exact waits.resumes (Tracker.resumes_of_like (waits.held.trans held) detected like)
  · obtain ⟨before, rfl⟩ := List.getLast?_eq_some_iff.1 final
    rw [List.length_append, List.length_singleton] at ends
    have full : (now.tracker side).misses + before.length = s.missThreshold := by omega
    refine ⟨fun unseen => sees.givesUp held unlike full fits unseen, fun detected => ?_⟩
    -- The windows of a belief that was built have at least one place.
    have places : 1 ≤ max s.windowSize 1 := Nat.le_max_right _ _
    refine sees.beginsAnew held unlike full fits detected ⟨?_, ?_⟩
    · rw [(recorded.trackers side).bearings]; exact places
    · rw [(recorded.trackers side).distances]; exact places

end Belief

/-- A post is seen on the left. -/
def Exact.sighted : List (Belief.Request Rat) :=
  [.setSightings ⟨⟨1, 0, 3⟩, .none⟩, .update (place 0 0 0) none]

/-- Another post is seen three times, then none twice, and then this. -/
def Exact.wavering (last : Sighting Rat) : List (Sighting Rat) :=
  List.replicate 3 ⟨5, 0, 4⟩ ++ List.replicate 2 .none ++ [last]

/-- One after the other is seen on the left. -/
def Exact.showing (row : List (Sighting Rat)) : List (Belief.Request Rat) :=
  row.flatMap fun seen => [.setSightings ⟨seen, .none⟩, .update (place 0 0 0) none]

theorem Exact.calm_showing (row : List (Sighting Rat)) : ∀ r ∈ showing row, r.Calm ∧ r.Numbered := by
  intro r hr
  obtain ⟨seen, -, hr⟩ := List.mem_flatMap.1 hr
  rw [List.mem_pair] at hr
  rcases hr with rfl | rfl
  · exact ⟨trivial, trivial⟩
  · exact ⟨trivial, nofun⟩

theorem Exact.unlike_wavering {last : Sighting Rat}
    (unlike : last.detected = true → Tracker.similar prompt ⟨1, 0, 3⟩ last = false) :
    ∀ seen ∈ wavering last, seen.detected = true → Tracker.similar prompt ⟨1, 0, 3⟩ seen = false := by
  intro seen h
  simp only [wavering, List.mem_append, List.mem_replicate, List.mem_singleton] at h
  rcases h with (⟨-, rfl⟩ | ⟨-, rfl⟩) | rfl
  · exact fun _ => by decide +kernel
  · exact nofun
  · exact unlike

theorem Belief.debounced_wavering :
    ∃ b now lost other : Belief Rat, Belief.build Exact.prompt = .ok (.ok b) ∧ b.serveAll Exact.sighted = .ok now ∧
      (now.tracker .left).held = some ⟨1, 0, 3⟩ ∧
      now.serveAll (Exact.showing (Exact.wavering .none)) = .ok lost ∧
      (now.tracker .left).GivesUp (lost.tracker .left) 6 ∧
      now.serveAll (Exact.showing (Exact.wavering ⟨5, 0, 4⟩)) = .ok other ∧
      (now.tracker .left).BeginsAnew (other.tracker .left) ⟨5, 0, 4⟩ := by
  have begins : Belief.build Exact.prompt = .ok (.ok (.start Exact.prompt)) := by decide +kernel
  have first : (match (Belief.start Exact.prompt).serveAll Exact.sighted with
      | .ok now => decide ((now.tracker .left).held = some ⟨1, 0, 3⟩ ∧ (now.tracker .left).misses = 0)
      | .error _ => false) = true := by decide +kernel
  split at first
  · next now served =>
    obtain ⟨held, fresh⟩ := of_decide_eq_true first
    have full (last : Sighting Rat) :
        (now.tracker .left).misses + (Exact.wavering last).length = Exact.prompt.missThreshold + 1 := by
      rw [fresh]; rfl
    have law (last : Sighting Rat)
        (unlike : last.detected = true → Tracker.similar Exact.prompt ⟨1, 0, 3⟩ last = false) :=
      debounced begins served (by decide) .left held (fun r hr => (Exact.calm_showing (Exact.wavering last) r hr).1) rfl
        (Exact.unlike_wavering unlike)
    have none_seen := law .none nofun
    have seen_other := law ⟨5, 0, 4⟩ fun _ => by decide +kernel
    obtain ⟨lost, gone⟩ := none_seen.1 fun r hr => (Exact.calm_showing _ r hr).2
    obtain ⟨other, begun⟩ := seen_other.1 fun r hr => (Exact.calm_showing _ r hr).2
    exact ⟨_, now, lost, other, begins, served, held, gone, ((none_seen.2 lost gone).2 (full _) .none rfl).1 rfl, begun,
      ((seen_other.2 other begun).2 (full _) ⟨5, 0, 4⟩ rfl).2 rfl⟩
  · cases first

end GateNav
