import Mathlib.Data.List.Forall2
import GateNav.Proofs.Belief.Update
import GateNav.Proofs.Exact
import GateNav.Proofs.Navigator.Journal
import GateNav.Proofs.Pilot.Answers
import GateNav.Proofs.Pilot.Reports

/-!
# Searches that cannot be told apart

A search begins with trackers that know nothing, whatever was there before, and it takes in no more of a frame than the
pose and the posts of its gate. So two navigators that are shown the same of these stay alike (`Navigator.Alike`): they
differ in what was reported last and in the count of their cycles only.
-/

namespace GateNav
variable {α : Type}

/-! ### What a search takes in -/

section Relevant
variable [Scalar α] {w : Waypoint α} {a b : Sighting α}

/-- The sighting as far as a search for `w` takes it in: no post, and a post that is not of the gate, is none. -/
def Sighting.relevant (w : Waypoint α) (seen : Sighting α) : Sighting α :=
  if seen.detected && (!w.isGate || w.carries seen.id) then seen else .none

/-- The two frames show a search for `w` the same, but for the obstacle. -/
structure Frame.Alike (w : Waypoint α) (f g : Frame α) : Prop where
  pose : g.pose = f.pose
  seen : ∀ side, (g.sightings.get side).relevant w = (f.sightings.get side).relevant w

theorem Frame.alike_concat {xs ys : List (Frame α)} {f g : Frame α}
    (h : List.Forall₂ (Frame.Alike w) (xs ++ [f]) (ys ++ [g])) : List.Forall₂ (Frame.Alike w) xs ys ∧ f.Alike w g := by
  have h := List.forall₂_reverse_iff.2 h
  rw [List.reverse_append, List.reverse_append] at h
  cases h with
  | cons last before => exact ⟨List.forall₂_reverse_iff.1 before, last⟩

/-- A tracker does not look at a sighting that shows no post. -/
theorem Tracker.observe_of_not_detected {s : TrackingSettings α} {t : Tracker α} (ha : a.detected = false)
    (hb : b.detected = false) : t.observe s b = t.observe s a := by
  unfold observe
  rw [ha, hb]
  rfl

theorem Belief.admitted_of_relevant (h : (a.detected && (!w.isGate || w.carries a.id)) = true) :
    Belief.admitted (some w) a = a := by
  obtain ⟨detected, known⟩ := Bool.and_eq_true_iff.1 h
  unfold Belief.admitted
  dsimp only
  rw [detected]
  cases gate : w.isGate <;> simp_all

variable [Scalar.Signed α]

theorem Sighting.detected_relevant : (a.relevant w).detected = (a.detected && (!w.isGate || w.carries a.id)) := by
  unfold relevant
  cases kept : a.detected && (!w.isGate || w.carries a.id) with
  | true => rw [if_pos rfl]; exact (Bool.and_eq_true_iff.1 kept).1
  | false => rw [if_neg (by decide)]; exact Sighting.not_detected_none

theorem Belief.not_detected_admitted (h : (a.detected && (!w.isGate || w.carries a.id)) = false) :
    (Belief.admitted (some w) a).detected = false := by
  unfold Belief.admitted
  dsimp only
  split
  · exact Sighting.not_detected_none
  · next kept => cases detected : a.detected <;> simp_all

/-- A tracker does not tell sightings apart that are the same to the search. -/
theorem Tracker.observe_of_relevant {s : TrackingSettings α} {t : Tracker α} (h : b.relevant w = a.relevant w) :
    t.observe s (Belief.admitted (some w) b) = t.observe s (Belief.admitted (some w) a) := by
  have both := congrArg Sighting.detected h
  rw [Sighting.detected_relevant, Sighting.detected_relevant] at both
  cases kept : a.detected && (!w.isGate || w.carries a.id) with
  | true =>
    rw [kept] at both
    rw [Belief.admitted_of_relevant kept, Belief.admitted_of_relevant both]
    unfold Sighting.relevant at h
    rw [if_pos kept, if_pos both] at h
    rw [h]
  | false =>
    rw [kept] at both
    exact observe_of_not_detected (Belief.not_detected_admitted kept) (Belief.not_detected_admitted both)

end Relevant

/-! ### What a search forgets -/

section Blank
variable [Scalar α] {s : TrackingSettings α} {t : Tracker α} {seen : Sighting α}

theorem Tracker.reset_observe : (t.observe s seen).result.reset = t.reset := by
  unfold observe
  split
  · split
    · rfl
    · split
      · rfl
      · dsimp only
        split <;> rfl
  · dsimp only
    split <;> rfl

/-- What is left of the belief when all that was learned and reported is taken away. -/
def Belief.blank (b : Belief α) : Belief α := (b.setObstacle .clear).reset

theorem Belief.blank_start : (Belief.start s).blank = .start s := rfl

variable [Trig α] {pose : Pose α} {waypoint : Option (Waypoint α)} {b : Belief α}

theorem Tracker.reset_locate : (t.locate pose).reset = t.reset := by
  unfold locate
  split <;> rfl

theorem Belief.blank_update {n : Noted α (Belief α)} (h : b.update pose waypoint = .ok n) :
    n.result.blank = b.blank := by
  have each {side : Side} : (b.updated pose waypoint side).reset = (b.tracker side).reset :=
    Tracker.reset_locate.trans Tracker.reset_observe
  rw [update_eq_ok h]
  simp only [blank, setObstacle, Belief.reset, each]
  rfl

end Blank

/-! ### Navigators that cannot be told apart -/

/-- What the drive layer makes of a command. -/
def Command.told (c : Command α) : Phase × Steering α := (c.phase, c.steering)

namespace Navigator

/-- The two navigators differ only in what was reported last, and in the count of their cycles. -/
structure Alike (n m : Navigator α) : Prop where
  settings : m.settings = n.settings
  belief : m.belief = n.belief.reported m.belief.obstacle m.belief.raw
  pilot : m.pilot = n.pilot
  waypoint : m.waypoint = n.waypoint
  phase : m.phase = n.phase
  visited : m.visited = n.visited
  abortedIn : m.abortedIn = n.abortedIn

theorem Alike.outcome {n m : Navigator α} (h : n.Alike m) : m.outcome? = n.outcome? := by
  unfold outcome?
  rw [h.abortedIn, h.phase, h.visited]

/-- Whatever two navigators believe and report, their new searches are alike. -/
theorem alike_begun [Scalar α] {n m : Navigator α} {w : Waypoint α} {p : Pilot α} (settings : m.settings = n.settings)
    (blank : m.belief.blank = n.belief.blank) : (n.begun w p).Alike (m.begun w p) where
  settings := settings
  belief := congrArg (·.setObstacle m.belief.obstacle) blank
  pilot := rfl
  waypoint := rfl
  phase := rfl
  visited := rfl
  abortedIn := rfl

section Alike
variable [Scalar α] [Trig α] {n m : Navigator α} {w : Waypoint α} {f g : Frame α} {c : Command α}
  {events : List (Event α)}

theorem Alike.run (h : n.Alike m) (like : f.Alike w g) {p : Pilot α} {belief : Belief α} {c : Cycle α}
    (run : p.run f.pose n.waypoint belief = .ok c) :
    p.run g.pose m.waypoint (belief.reported g.obstacle g.sightings) = .ok (c.reported g.obstacle g.sightings) := by
  rw [like.pose, h.waypoint, Pilot.run_reported, run]
  rfl

variable [Scalar.Signed α]

theorem Alike.perceive (h : n.Alike m) (searching : n.waypoint = some w) (numbered : w.Numbered) (like : f.Alike w g)
    {belief : Belief α} {seen : List (Event α)} (perceived : n.perceive f = .ok ⟨belief, seen⟩) :
    m.perceive g = .ok ⟨belief.reported g.obstacle g.sightings, seen⟩ := by
  have each (side : Side) : ((m.belief.setObstacle g.obstacle).setSightings g.sightings).observed (some w) side =
      ((n.belief.setObstacle f.obstacle).setSightings f.sightings).observed (some w) side := by
    rw [h.belief]
    exact Tracker.observe_of_relevant (like.seen side)
  unfold Navigator.perceive at perceived ⊢
  rw [searching, Belief.update_of_numbered (by simpa using numbered)] at perceived
  rw [h.waypoint, searching, Belief.update_of_numbered (by simpa using numbered)]
  cases perceived
  simp only [Belief.updated, each, like.pose]
  rw [h.belief]
  rfl

/-- Shown the same, the two do the same. -/
theorem Alike.ticks (h : n.Alike m) (searching : n.waypoint = some w) (numbered : w.Numbered) (like : f.Alike w g)
    {n' : Navigator α} (tick : n.Ticks f n' c events) :
    ∃ m' events', m.Ticks g m' ⟨m.cycles + 1, c.phase, c.steering⟩ events' ∧ n'.Alike m' := by
  cases tick with
  | rest idle perceived =>
    have perceived := h.perceive searching numbered like perceived
    refine ⟨_, _, by rw [← h.phase]; exact .rest (h.pilot.trans idle) perceived, ?_⟩
    exact ⟨h.settings, rfl, h.pilot, h.waypoint, h.phase, h.visited, h.abortedIn⟩
  | @go belief seen pilot c busy perceived run on =>
    have perceived := h.perceive searching numbered like perceived
    have run := h.run like run
    refine ⟨_, _, .go (c := c.reported g.obstacle g.sightings) (h.pilot.trans busy) perceived run on, ?_⟩
    exact ⟨h.settings, rfl, rfl, h.waypoint, rfl, h.visited, h.abortedIn⟩
  | @finish belief seen pilot c busy perceived run terminal =>
    have perceived := h.perceive searching numbered like perceived
    have run := h.run like run
    refine ⟨_, _, .finish (c := c.reported g.obstacle g.sightings) (h.pilot.trans busy) perceived run terminal, ?_⟩
    exact ⟨h.settings, rfl, rfl, h.waypoint, rfl, rfl, h.abortedIn⟩

end Alike

/-- A navigator takes any frame in, as long as its cycles can be counted and the search points of its pilot fit. -/
theorem exists_tick [Scalar α] [Trig α] {n : Navigator α} (numbered : ∀ w ∈ n.waypoint, w.Numbered)
    (layout : ∀ p ∈ n.pilot, p.LaysOut) (few : n.cycles < maxCount) (frame : Frame α) : ∃ r, n.tick frame = .ok r := by
  have perceived : ∃ noted, n.perceive frame = .ok noted := ⟨_, Belief.update_of_numbered numbered _⟩
  obtain ⟨⟨belief, seen⟩, perceived⟩ := perceived
  refine exists_tick_of_run few perceived fun p busy => ?_
  obtain ⟨q, shown⟩ := Pilot.exists_shown (v := ⟨frame.pose, n.waypoint, belief⟩) numbered (layout p busy)
  obtain ⟨c, run, -⟩ := Checked.map_eq_ok.1 shown
  exact ⟨c, run⟩

section Keeps
variable [Scalar α] [Trig α] [Numeral α] {n : Navigator α} {order : Order α} {reply : Reply α}

theorem Obeys.blank (h : n.Obeys order reply) : reply.navigator.belief.blank = n.belief.blank := by
  cases h with
  | search | interrupt | rest => rfl
  | tick cycle =>
    obtain ⟨belief, seen, perceived, same⟩ := cycle.belief
    have kept : belief.blank = n.belief.blank := Belief.blank_update perceived
    rw [← kept]
    rcases same with same | same
    · rw [same]
    · rw [same]; rfl

end Keeps

end Navigator

namespace Journal
variable [Scalar α] [Trig α] [Numeral α] {L L' : Journal α} {s t s' t' : Nat} {w : Waypoint α}
  {frames frames' : List (Frame α)}

theorem blank (ht : t ≤ L.length) : (L.navigator t).belief.blank = .start L.settings.tracking := by
  refine invariant (P := fun n => n.belief.blank = .start L.settings.tracking) ?_ ?_ ht
  · exact Belief.blank_start
  · exact fun obeys same => obeys.blank.trans same

theorem laysOut (ht : t ≤ L.length) : ∀ p ∈ (L.navigator t).pilot, p.LaysOut :=
  pilot_invariant Pilot.laysOut_of_start Pilot.laysOut_of_shown ht

theorem Search.waypoint (h : L.Search s w t frames) : (L.navigator t).waypoint = some w := by
  induction h with
  | begin given order =>
    obtain ⟨p, events, -, after, -⟩ := begun given order
    rw [after]; rfl
  | tick before given order ih =>
    obtain ⟨c, -, tick⟩ := ticks given order
    exact tick.waypoint.trans ih

theorem Search.alike [Scalar.Signed α] (same : L'.settings = L.settings) (numbered : w.Numbered)
    (h : L.Search s w t frames) (h' : L'.Search s' w t' frames') (like : List.Forall₂ (Frame.Alike w) frames frames') :
    (L.navigator t).Alike (L'.navigator t') ∧ (L'.command t').map Command.told = (L.command t).map Command.told := by
  -- The other search is as long, so it is taken apart step by step along with this one.
  induction h generalizing t' frames' with
  | begin given order =>
    cases h' with
    | tick => simp at like
    | begin given' order' =>
      obtain ⟨p, events, built, after, silent, -⟩ := begun given order
      obtain ⟨p', events', built', after', silent', -⟩ := begun given' order'
      rw [same, built] at built'
      cases built'
      rw [after, after', silent, silent']
      refine ⟨Navigator.alike_begun ?_ ?_, rfl⟩
      · rw [settings_eq (Nat.le_of_lt given), settings_eq (Nat.le_of_lt given'), same]
      · rw [blank (Nat.le_of_lt given), blank (Nat.le_of_lt given'), same]
  | tick before given order ih =>
    cases h' with
    | begin => simp at like
    | tick before' given' order' =>
      obtain ⟨like, last⟩ := Frame.alike_concat like
      obtain ⟨alike, -⟩ := ih before' like
      obtain ⟨c, told, tick⟩ := ticks given order
      obtain ⟨c', told', tick'⟩ := Journal.tick given' order'
      obtain ⟨m, events, same, alike⟩ := alike.ticks before.waypoint numbered last tick
      have result := same.tick (Navigator.few_of_tick tick')
      rw [tick'] at result
      cases result
      rw [told, told']
      exact ⟨alike, rfl⟩

/-- What a search does depends on nothing but what it is shown. Whatever two navigators with the same settings were
told before, once both are told to search for the same waypoint and shown the same poses and the same posts of it, they
stay alike: they differ in the count of their cycles and in what was reported last. So they command the same, and give
the same outcome. And each of them goes on to take in any frame, as long as its cycles can be counted. -/
theorem search_blind [Scalar.Signed α] (L L' : Journal α) (same : L'.settings = L.settings) (w : Waypoint α)
    (numbered : w.isGate = false ∨ w.id < Int32.maxValue) (s t s' t' : Nat) (frames frames' : List (Frame α))
    (search : L.Search s w t frames) (search' : L'.Search s' w t' frames')
    (like : List.Forall₂ (Frame.Alike w) frames frames') :
    (L.navigator t).Alike (L'.navigator t') ∧
      (L'.command t').map Command.told = (L.command t).map Command.told ∧
      (L'.navigator t').outcome? = (L.navigator t).outcome? ∧
      ∀ frame,
        ((L.navigator t).cycles < maxCount → ∃ r, (L.navigator t).tick frame = .ok r) ∧
        ((L'.navigator t').cycles < maxCount → ∃ r, (L'.navigator t').tick frame = .ok r) := by
  have numbered : w.Numbered := by
    intro gate
    rcases numbered with other | small
    · rw [gate] at other; cases other
    · exact Int32.ne_of_lt small
  obtain ⟨alike, told⟩ := search.alike same numbered search' like
  refine ⟨alike, told, alike.outcome, fun frame => ⟨fun few => ?_, fun few => ?_⟩⟩
  · refine Navigator.exists_tick ?_ (laysOut search.le) few frame
    rw [search.waypoint]
    simpa using numbered
  · refine Navigator.exists_tick ?_ (laysOut search'.le) few frame
    rw [search'.waypoint]
    simpa using numbered

end Journal

/-- A post of another gate and an obstacle: nothing that a search for the gate takes in. -/
def Exact.distraction : Frame Rat := ⟨place 0 3 0, ⟨⟨2, 10, 9⟩, ⟨-1, 50, 4⟩⟩, ⟨0, 1⟩⟩

/-- A first search, with nothing in sight. -/
def Exact.plainly : Nat → Order Rat
  | 0 => .search gate
  | _ + 1 => .tick lookout

/-- A search that was broken off with the gate in sight, and then one with distractions. -/
def Exact.again : Nat → Order Rat
  | 0 => .search gate
  | 1 => .tick (passing 0)
  | 2 => .tick (passing 1)
  | 3 => .abort
  | 4 => .search gate
  | _ + 5 => .tick distraction

/-- The two searches are the same: both end in vain. -/
theorem Journal.search_blind_again :
    ∃ L L' : Journal Rat, L'.settings = L.settings ∧
      L.Search 0 Exact.gate 5 ((List.range 4).map fun _ => Exact.lookout) ∧
      L'.Search 4 Exact.gate 9 ((List.range 4).map fun _ => Exact.distraction) ∧
      (L.navigator 5).outcome? = some (.error (.notFound 1)) ∧
      (L'.navigator 9).outcome? = some (.error (.notFound 1)) := by
  let L : Journal Rat :=
    .ofOrders ⟨Exact.prompt, Exact.carefree⟩ Exact.navigator Exact.build_eq Exact.plainly 5 (by decide +kernel)
  let L' : Journal Rat :=
    .ofOrders ⟨Exact.prompt, Exact.carefree⟩ Exact.navigator Exact.build_eq Exact.again 9 (by decide +kernel)
  have search : L.Search 0 Exact.gate 5 ((List.range 4).map fun _ => Exact.lookout) := by
    refine Search.of_ticks (k := 4) rfl (fun i _ => ?_) (by decide)
    rw [Nat.add_comm]
    rfl
  have search' : L'.Search 4 Exact.gate 9 ((List.range 4).map fun _ => Exact.distraction) := by
    refine Search.of_ticks (k := 4) rfl (fun i _ => ?_) (by decide)
    rw [Nat.add_comm]
    rfl
  have like : Frame.Alike Exact.gate Exact.lookout Exact.distraction := by
    refine ⟨rfl, fun side => ?_⟩
    cases side <;> decide +kernel
  have failed : (L.navigator 5).outcome? = some (.error (.notFound 1)) := by decide +kernel
  obtain ⟨-, -, same, -⟩ := search_blind L L' rfl Exact.gate (.inr (by decide)) 0 5 4 9 _ _ search search'
    (.cons like (.cons like (.cons like (.cons like .nil))))
  exact ⟨L, L', rfl, search, search', failed, same.trans failed⟩

end GateNav
