import Mathlib.Tactic.Set
import GateNav.Proofs.Pilot.Learning

/-!
# What is left to learn

While the pilot is shown the same belief over and over it soon learns nothing more. The misses are forgiven once, if at
all, and with the misses as they are the posts are recorded once. `Cycle.ignorance` counts the two, and it does not grow
from one cycle of a search to the next (`Cycle.Searches.ignorance`). Where it stays the same so do the belief and, once
the misses are forgiven, the posts that are known (`Cycle.Steady`).
-/

namespace GateNav
variable {α : Type}

theorem Sided.ext_get {β : Type} {u v : Sided β} (h : ∀ side, u.get side = v.get side) : u = v := by
  cases u; cases v
  exact congr (congrArg Sided.mk (h .left)) (h .right)

/-! ### Posts that can be placed -/

theorem Belief.settled_of_hasPost {b : Belief α} (settled : b.settled = true) {side : Side}
    (held : (b.tracker side).hasPost = true) : (b.tracker side).settled = true := by
  simp only [Belief.settled, holding, Bool.and_eq_true, List.all_eq_true, List.mem_filter] at settled
  refine settled.2 _ ⟨?_, held⟩
  cases side <;> simp [tracker, Sided.get, Sided.toList]

theorem Belief.hasPost_of_hasGate {b : Belief α} (gate : b.hasGate = true) (side : Side) :
    (b.tracker side).hasPost = true := by
  unfold hasGate at gate
  rw [Bool.and_eq_true] at gate
  cases side
  · exact gate.1
  · exact gate.2

theorem Belief.gateSettled_iff {b : Belief α} :
    b.gateSettled = true ↔ ∀ side, (b.tracker side).hasPost = true ∧ (b.tracker side).settled = true := by
  constructor
  · intro sight side
    obtain ⟨gate, settled⟩ := Bool.and_eq_true_iff.1 sight
    have held := hasPost_of_hasGate gate side
    exact ⟨held, settled_of_hasPost settled held⟩
  · intro both
    have left : b.trackers.left.hasPost = true ∧ b.trackers.left.settled = true := both .left
    have right : b.trackers.right.hasPost = true ∧ b.trackers.right.settled = true := both .right
    simp [Belief.gateSettled, hasGate, Belief.settled, holding, Sided.toList, left, right]

theorem Belief.gateSettled_forgive (b : Belief α) : b.forgive.gateSettled = b.gateSettled := by
  rw [Bool.eq_iff_iff, gateSettled_iff, gateSettled_iff]
  simp only [tracker_forgive]
  rfl

/-- A post that is held and settled is placed once the misses are forgiven. -/
theorem Tracker.exists_placed? {t : Tracker α} (located : t.location.isSome = t.hasPost) (held : t.hasPost = true)
    (settled : t.settled = true) (seen : t.misses = 0) :
    ∃ post, t.placed? = some post ∧ t.id? = some post.id := by
  obtain ⟨id, hid⟩ := exists_id held
  obtain ⟨q, location⟩ := Option.isSome_iff_exists.1 (located.trans held)
  have confident : t.confident = true := by
    rw [Tracker.confident, held, seen, settled]; rfl
  exact ⟨⟨id, q⟩, by rw [placed?, confident, hid, location], hid⟩

namespace Pilot
variable {p q : Pilot α} {b : Belief α}

theorem trust_get (p : Pilot α) (b : Belief α) (side : Side) :
    (p.trust b).known.get side = (b.tracker side).placed?.or (p.known.get side) := by
  cases side <;> rfl

theorem trust_known_of (h : q.known = p.known ∨ q.known = (p.trust b).known) :
    (q.trust b).known = (p.trust b).known := by
  have or_or {x y : Option (KnownPost α)} : x.or (x.or y) = x.or y := by cases x <;> rfl
  rcases h with same | trusted
  · simp only [trust, same]
  · simp only [trust, trusted, or_or]

theorem isKnown_of_get {side : Side} {post : KnownPost α} (h : p.known.get side = some post) :
    p.isKnown post.id = true := by
  unfold isKnown knownPosts
  cases side
  all_goals
    simp only [Sided.get] at h
    simp [Sided.toList, h]

/-- Where both posts can be placed, all that is remembered of them is replaced. -/
theorem trust_known_of_gateSettled (sight : b.gateSettled = true)
    (placed : ∀ side, (b.tracker side).location.isSome = (b.tracker side).hasPost) (p q : Pilot α) :
    (p.trust b.forgive).known = (q.trust b.forgive).known := by
  refine Sided.ext_get fun side => ?_
  obtain ⟨held, settled⟩ := Belief.gateSettled_iff.1 ((Belief.gateSettled_forgive b).trans sight) side
  have located : (b.forgive.tracker side).location.isSome = (b.forgive.tracker side).hasPost := by
    rw [Belief.tracker_forgive]; exact placed side
  obtain ⟨post, place, -⟩ := Tracker.exists_placed? located held settled (by rw [Belief.tracker_forgive])
  rw [trust_get, trust_get, place]; rfl

end Pilot

namespace Cycle

theorem worthInspecting_congr {c d : Cycle α} (belief : d.belief = c.belief) (known : d.pilot.known = c.pilot.known) :
    d.worthInspecting = c.worthInspecting := by
  simp only [worthInspecting, Pilot.isKnown, Pilot.knownPosts, belief, known]

/-- Trusted on the belief as it is, no more is known than before. -/
def Informed (c : Cycle α) : Prop := (c.pilot.trust c.belief).known = c.pilot.known

/-- What is left to learn: misses are to be forgiven, or posts to be recorded. -/
noncomputable def ignorance (c : Cycle α) : Nat :=
  open Classical in if c.belief.forgive = c.belief then if c.Informed then 0 else 1 else 2

variable {c d : Cycle α} {executed next : Phase} {q : Pilot α} {b : Belief α}

theorem ignorance_le_two (c : Cycle α) : c.ignorance ≤ 2 := by
  unfold ignorance
  split
  · split <;> omega
  · exact Nat.le_refl 2

theorem ignorance_le_one : c.ignorance ≤ 1 ↔ c.belief.forgive = c.belief := by
  unfold ignorance
  split
  · next forgiven => simp only [forgiven, iff_true]; split <;> omega
  · next unforgiven => simp only [unforgiven, iff_false]; omega

theorem ignorance_eq_zero : c.ignorance = 0 ↔ c.belief.forgive = c.belief ∧ c.Informed := by
  unfold ignorance
  split
  · next forgiven => split <;> simp_all
  · next unforgiven => simp [unforgiven]

/-- All is learned, and the whole gate can be trusted. -/
def Sure (c : Cycle α) : Prop := c.ignorance = 0 ∧ c.belief.gateSettled = true

/-- Once all is learned nothing but the whole gate is worth a stop. -/
theorem gateSettled_of_worth (learned : c.ignorance = 0)
    (placed : ∀ side, (c.belief.tracker side).location.isSome = (c.belief.tracker side).hasPost)
    (settled : c.belief.settled = true) (worth : c.worthInspecting = true) : c.belief.gateSettled = true := by
  obtain ⟨forgiven, informed⟩ := ignorance_eq_zero.1 learned
  have known {side : Side} {id : Int32} (hid : (c.belief.tracker side).id? = some id) :
      c.pilot.isKnown id = true := by
    have held : (c.belief.tracker side).hasPost = true := Tracker.hasPost_of_id? hid
    have seen : (c.belief.tracker side).misses = 0 := by
      rw [← forgiven, Belief.tracker_forgive]
    obtain ⟨post, place, same⟩ :=
      Tracker.exists_placed? (placed side) held (Belief.settled_of_hasPost settled held) seen
    obtain rfl : post.id = id := Option.some.inj (same.symm.trans hid)
    refine Pilot.isKnown_of_get (?_ : c.pilot.known.get side = some post)
    rw [← show (c.pilot.trust c.belief).known = c.pilot.known from informed, Pilot.trust_get, place]
    rfl
  unfold worthInspecting at worth
  rw [Bool.or_eq_true, List.any_eq_true] at worth
  rcases worth with gate | ⟨t, ht, new⟩
  · rw [Belief.gateSettled, gate, settled]; rfl
  · obtain ⟨id, hid, unknown⟩ := (Option.any_eq_true _ _).1 new
    obtain ⟨side, rfl⟩ : ∃ side, t = c.belief.tracker side := by
      simp only [Sided.toList, List.mem_cons, List.not_mem_nil, or_false] at ht
      rcases ht with rfl | rfl
      · exact ⟨.left, rfl⟩
      · exact ⟨.right, rfl⟩
    rw [known hid] at unknown
    cases unknown

theorem not_hasGate_of_lostSide? {side : Side} (lost : c.lostSide? = some side) : c.belief.hasGate = false := by
  refine Bool.eq_false_iff.2 fun gate => ?_
  have gone := hasPost_of_lostSide? lost
  rw [Belief.hasPost_of_hasGate gate] at gone
  cases gone

/-- What stays as it is from `c` to `d`, the phase `executed` between them, if nothing is learned. -/
structure Steady (c d : Cycle α) (executed : Phase) : Prop where
  ignorance : d.ignorance = c.ignorance
  belief : d.belief = c.belief
  known : c.ignorance ≤ 1 → d.pilot.known = c.pilot.known
  informed : c.ignorance ≤ 1 → placesPosts executed = true → c.ignorance = 0

theorem Steady.sure (h : c.Steady d executed) : d.Sure ↔ c.Sure := by
  unfold Sure
  rw [h.ignorance, h.belief]

theorem Steady.worth (h : c.Steady d executed) (few : c.ignorance ≤ 1) :
    d.worthInspecting = c.worthInspecting := worthInspecting_congr h.belief (h.known few)

/-- The cycle after the move to `next`, in which the pilot finds the same pose and waypoint. -/
def again (c : Cycle α) (executed next : Phase) (q : Pilot α) (b : Belief α) : Cycle α :=
  (q.moved b executed next).atWork c.pose c.waypoint b

theorem of_again (hd : d = c.again executed next q b) :
    d.pilot.phase = next ∧ d.pilot.goal = q.goal ∧ d.pilot.aim = q.aim ∧ d.belief = b := by
  subst hd
  exact ⟨rfl, Pilot.moved_goal, Pilot.moved_aim, rfl⟩

theorem settings_again (hd : d = c.again executed next q b) (settings : q.settings = c.pilot.settings) :
    d.pilot.settings = c.pilot.settings := by
  subst hd
  exact Pilot.moved_settings.trans settings

theorem aligned_again [Scalar α] (hd : d = c.again executed next q b) (settings : q.settings = c.pilot.settings)
    (bearing : α) : d.aligned bearing = c.aligned bearing := by
  unfold aligned Pilot.aligned
  rw [settings_again hd settings, show d.pose = c.pose by rw [hd]; rfl]

section Cycles
variable [Scalar α] [Trig α]

/-- Where the phase allows it the posts are recorded, and at most once. -/
theorem Searches.known (h : c.Searches executed next q b) :
    (q.moved b executed next).known =
      if placesPosts executed = true then (c.pilot.trust b).known else c.pilot.known := by
  have recorded (places : placesPosts executed = true)
      (known : q.known = c.pilot.known ∨ q.known = (c.pilot.trust b).known) :
      (q.moved b executed next).known =
        if placesPosts executed = true then (c.pilot.trust b).known else c.pilot.known := by
    rw [if_pos places, Pilot.moved, if_pos places]
    exact Pilot.trust_known_of known
  cases h
  case vanish | wait | approach | inspectDriving | reachPoint | strayFromPoint | driveToPoint | driveNowhere =>
    exact recorded rfl (.inl rfl)
  case locate => exact recorded rfl (.inr Pilot.adopt_known)
  case driveToPost move =>
    refine recorded rfl ?_
    rw [move.known, Pilot.survey]
    split
    · exact .inr rfl
    · exact .inl rfl
  all_goals rfl

theorem Searches.ignorance (h : c.Searches executed next q b) :
    (c.again executed next q b).ignorance < c.ignorance ∨ c.Steady (c.again executed next q b) executed := by
  set d := c.again executed next q b
  have known : d.pilot.known = _ := h.known
  have forgiven_again : b = c.belief.forgive → d.ignorance ≤ 1 := by
    rintro rfl
    exact ignorance_le_one.2 rfl
  by_cases forgiven : c.ignorance ≤ 1
  · -- Forgiven once, the misses stay forgiven; what is left is to record the posts, if the phase does that.
    have belief : d.belief = c.belief := by
      rcases (Advances.searches h).belief with same | same
      · exact same
      · exact same.trans (ignorance_le_one.1 forgiven)
    have kept : d.ignorance ≤ 1 := by rw [ignorance_le_one, belief]; exact ignorance_le_one.1 forgiven
    rw [show b = c.belief from belief] at known
    by_cases places : placesPosts executed = true
    · rw [if_pos places] at known
      have informed : d.Informed := by
        rw [Informed, belief, known]
        exact Pilot.trust_known_of (.inr known)
      have learned : d.ignorance = 0 := ignorance_eq_zero.2 ⟨ignorance_le_one.1 kept, informed⟩
      by_cases none_left : c.ignorance = 0
      · exact .inr ⟨learned.trans none_left.symm, belief,
          fun _ => known.trans (ignorance_eq_zero.1 none_left).2, fun _ _ => none_left⟩
      · exact .inl (by omega)
    · rw [if_neg places] at known
      have informed : d.Informed ↔ c.Informed := by
        rw [Informed, Informed, belief, known, Pilot.trust_known_of (.inl known)]
      have same : d.ignorance = 0 ↔ c.ignorance = 0 := by
        rw [ignorance_eq_zero, ignorance_eq_zero, informed, belief]
      exact .inr ⟨by omega, belief, fun _ => known, fun _ h => absurd h places⟩
  · -- Nothing is learned before the misses are forgiven.
    rcases (Advances.searches h).belief with same | same
    · have still : ¬ d.ignorance ≤ 1 := by
        rw [ignorance_le_one, show d.belief = c.belief from same, ← ignorance_le_one]; exact forgiven
      have := c.ignorance_le_two
      have := d.ignorance_le_two
      exact .inr ⟨by omega, same, fun h => absurd h forgiven, fun h => absurd h forgiven⟩
    · exact .inl (by have := forgiven_again same; omega)

end Cycles

end Cycle

end GateNav
