import GateNav.Proofs.Belief.Gate
import GateNav.Proofs.Pilot.Logbook

/-!
# What a pilot learns, and what it forgives

The posts a pilot knows come from trackers that can place theirs, with no misses to their name
(`Cycle.Advances.learns`). But the pilot also has the misses forgiven, when it stops to look at something and when it
has reached a search point (`Pilot.Pardons`). On the way to a search point the two meet: there the posts are recorded
after the misses are gone, and a tracker that saw nothing passes for one that did (`Pilot.learns_of_run`).
-/

namespace GateNav
variable {α : Type}

theorem Tracker.of_placed? {t : Tracker α} {post : KnownPost α} (h : t.placed? = some post) :
    t.misses = 0 ∧ t.settled = true ∧ t.id? = some post.id ∧ t.location = some post.location := by
  unfold placed? at h
  split at h
  · next id location confident hid placed =>
    simp only [Tracker.confident, Bool.and_eq_true, beq_iff_eq] at confident
    cases h
    exact ⟨confident.1.2, confident.2, hid, placed⟩
  · cases h

theorem Tracker.confident_of_placed? {t : Tracker α} {post : KnownPost α} (h : t.placed? = some post) :
    t.confident = true := by
  unfold placed? at h
  split at h
  · assumption
  · cases h

/-- Forgiven misses change nothing else of a tracker. -/
theorem Belief.tracker_forgive (b : Belief α) (side : Side) :
    b.forgive.tracker side = { b.tracker side with misses := 0 } := by
  cases side <;> rfl

namespace Cycle
variable {c : Cycle α}

/-- Something is only worth stopping for if a post is held. -/
theorem exists_hasPost (h : c.worthInspecting = true) :
    ∃ side, (c.belief.tracker side).hasPost = true := by
  have held {t : Tracker α} {p : Int32 → Bool} (h : t.id?.any p = true) : t.hasPost = true := by
    obtain ⟨id, hid, -⟩ := (Option.any_eq_true _ _).1 h
    exact Tracker.hasPost_of_id? hid
  unfold worthInspecting at h
  simp only [Belief.hasGate, Sided.toList, List.any_cons, List.any_nil, Bool.or_false, Bool.or_eq_true,
    Bool.and_eq_true] at h
  rcases h with ⟨left, -⟩ | left | right
  · exact ⟨.left, left⟩
  · exact ⟨.left, held left⟩
  · exact ⟨.right, held right⟩

theorem hasPost_of_pickSide? [Scalar α] {side : Side} (h : c.pickSide? = some side) :
    (c.belief.tracker side).hasPost = true := by
  unfold pickSide? at h
  dsimp only at h
  split at h
  · next left right => split at h <;> (cases h; assumption)
  · next left right => cases h; exact left
  · next left right => cases h; exact right
  · cases h

theorem not_hasPost_of_pickSide? [Scalar α] (h : c.pickSide? = none) (side : Side) :
    (c.belief.tracker side).hasPost = false := by
  unfold pickSide? at h
  dsimp only at h
  split at h
  · split at h <;> cases h
  · cases h
  · cases h
  · next left right => cases side <;> assumption

end Cycle

namespace Pilot

/-- What `q` knows on a side it has from `p`, or from a tracker that can place its post. -/
def Learns (b : Belief α) (p q : Pilot α) : Prop :=
  ∀ side, q.known.get side = p.known.get side ∨
    ∃ post, (b.tracker side).placed? = some post ∧ q.known.get side = some post

section Learns
variable {p q r : Pilot α} {b : Belief α} {executed next : Phase}

theorem Learns.refl (p : Pilot α) : Learns b p p := fun _ => .inl rfl

theorem Learns.of_known (same : q.known = p.known) : Learns b p q := fun side => .inl (by rw [same])

theorem Learns.trans (h : Learns b p q) (k : Learns b q r) : Learns b p r := by
  intro side
  rcases k side with same | new
  · rw [same]; exact h side
  · exact .inr new

theorem learns_trust : Learns b p (p.trust b) := by
  have each (side : Side) (old : Option (KnownPost α)) : (b.tracker side).placed?.or old = old ∨
      ∃ post, (b.tracker side).placed? = some post ∧ (b.tracker side).placed?.or old = some post := by
    cases (b.tracker side).placed? with
    | none => exact .inl rfl
    | some post => exact .inr ⟨post, rfl, rfl⟩
  intro side
  cases side
  · exact each .left p.known.left
  · exact each .right p.known.right

/-- The id of every post that is known has the property. -/
def Names (P : Int32 → Prop) (p : Pilot α) : Prop := ∀ side, ∀ post ∈ p.known.get side, P post.id

/-- The ids of the posts known are ids of posts held at some time. -/
theorem Learns.names {P : Int32 → Prop} (h : Learns b p q) (known : p.Names P) (held : b.Names P) : q.Names P := by
  intro side post hp
  rcases h side with same | ⟨new, placed, same⟩
  · rw [same] at hp
    exact known side post hp
  · cases same.symm.trans hp
    exact held side _ (Tracker.of_placed? placed).2.2.1

theorem learns_survey : Learns b p (p.survey b) := by
  unfold survey
  split
  · exact learns_trust
  · exact .refl p

theorem learns_moved : Learns b p (p.moved b executed next) := by
  unfold moved
  split
  · exact learns_trust
  · exact .refl p

end Learns

/-- The misses are forgiven in this cycle, as the pilot stops to look at something or has reached a search point. -/
inductive Pardons [Scalar α] [Trig α] (p : Pilot α) (pose : Pose α) : Phase → Prop
  | inspect (moving : p.phase ≠ .spinWait) : Pardons p pose .spinWait
  | reach {q : Pose α} (driving : p.phase = .drive) (goal : p.goal = some (.searchPoint q))
      (near : pose.distanceTo q ≤ p.settings.arrivalTolerance) : Pardons p pose .spin

end Pilot

namespace Cycle
variable [Scalar α] [Trig α] {c : Cycle α} {executed next : Phase} {p q : Pilot α} {b : Belief α} {pose : Pose α}

theorem Approaches.known {side : Side} (h : Approaches pose b p side next q) : q.known = p.known := by
  cases h <;> rfl

theorem Searches.learns (h : c.Searches executed next q b) : Pilot.Learns c.belief c.pilot q := by
  cases h
  case locate => exact Pilot.learns_trust.trans (.of_known Pilot.adopt_known)
  case driveToPost move => exact Pilot.learns_survey.trans (.of_known move.known)
  all_goals exact .of_known rfl

theorem Replans.learns (h : c.Replans p) : Pilot.Learns c.belief c.pilot p := by
  cases h with
  | anew => exact Pilot.learns_trust.trans (.of_known Pilot.adopt_known)
  | leave => exact .refl c.pilot

theorem DrivesUp.known (h : DrivesUp pose b p next q) : q.known = p.known := by
  cases h <;> rfl

theorem Nears.learns (h : c.Nears executed next q b) : Pilot.Learns c.belief c.pilot q := by
  cases h
  case driveUp plan move => exact plan.learns.trans (.of_known move.known)
  all_goals exact .of_known rfl

theorem Finishes.learns {waypoint : Option (Waypoint α)} (h : Finishes pose waypoint b p next q) :
    Pilot.Learns b p q := by
  have surveyed {draft : Option (Passage α)} : Pilot.Learns b p ((p.survey b).adopt pose draft) :=
    Pilot.learns_survey.trans (.of_known Pilot.adopt_known)
  cases h <;> exact surveyed

theorem Passes.learns (h : c.Passes executed next q b) : Pilot.Learns c.belief c.pilot q := by
  cases h
  case endTurning finish | endDriving finish | reachEnd finish => exact finish.learns
  all_goals exact .of_known rfl

/-- In its move a phase learns of no posts but those the belief can place. -/
theorem Advances.learns (h : c.Advances executed next q b) : Pilot.Learns c.belief c.pilot q := by
  cases h with
  | searches h => exact h.learns
  | nears h => exact h.learns
  | passes h => exact h.learns
  | idle => exact .of_known rfl

/-- A move leaves the belief as it is, or it has the misses forgiven. Then it learns nothing, and where posts are
recorded after it the rover was on its way to a search point. -/
theorem Advances.pardons (h : c.Advances c.pilot.phase next q b) :
    b = c.belief ∨ b = c.belief.forgive ∧ c.pilot.Pardons c.pose next ∧ q.known = c.pilot.known ∧
      (placesPosts c.pilot.phase = true →
        c.pilot.phase = .drive ∧ ∃ point, c.pilot.goal = some (.searchPoint point)) := by
  generalize phase : c.pilot.phase = executed at h
  cases h with
  | searches h =>
    cases h with
    | inspect => exact .inr ⟨rfl, .inspect (by rw [phase]; decide), rfl, nofun⟩
    | inspectTurning goal => exact .inr ⟨rfl, .inspect (by rw [phase]; decide), rfl, nofun⟩
    | inspectDriving goal => exact .inr ⟨rfl, .inspect (by rw [phase]; decide), rfl, fun _ => ⟨rfl, _, goal⟩⟩
    | reachPoint goal dull near => exact .inr ⟨rfl, .reach phase goal near, rfl, fun _ => ⟨rfl, _, goal⟩⟩
    | _ => exact .inl rfl
  | nears h => cases h <;> exact .inl rfl
  | passes h => cases h <;> exact .inl rfl
  | idle => exact .inl rfl

end Cycle

namespace Pilot
variable [Scalar α] [Trig α] {p : Pilot α} {pose : Pose α} {waypoint : Option (Waypoint α)} {b : Belief α} {c : Cycle α}

/-- The belief is left as it is, unless the pilot has the misses forgiven. -/
theorem pardons_of_run (h : p.run pose waypoint b = .ok c) :
    c.belief = b ∨ c.belief = b.forgive ∧ p.Pardons pose c.pilot.phase := by
  obtain ⟨next, q, b', move, same, after⟩ := Cycle.pilot_of_run h
  rw [same, after, moved_phase]
  rcases move.pardons with kept | ⟨forgiven, pardons, -⟩
  · exact .inl kept
  · exact .inr ⟨forgiven, pardons⟩

/-- In a cycle a pilot learns of no posts but those the belief can place; or it is on its way to a search point, has the
misses forgiven and takes the belief at its word after that. -/
theorem learns_of_run (h : p.run pose waypoint b = .ok c) :
    Learns b p c.pilot ∨ Learns b.forgive p c.pilot ∧ c.belief = b.forgive ∧ p.Pardons pose c.pilot.phase ∧
      p.phase = .drive ∧ ∃ point, p.goal = some (.searchPoint point) := by
  obtain ⟨next, q, b', move, same, after⟩ := Cycle.pilot_of_run h
  rw [same, after]
  rcases move.pardons with rfl | ⟨rfl, pardons, known, driving⟩
  · exact .inl (move.learns.trans learns_moved)
  · by_cases places : Cycle.placesPosts p.phase = true
    · exact .inr ⟨(Learns.of_known known).trans learns_moved, rfl, pardons, driving places⟩
    · refine .inl (.of_known ?_)
      unfold moved
      rw [if_neg (by exact places)]
      exact known

/-- What all ids known and held have in common they keep in a cycle. -/
theorem names_of_run {P : Int32 → Prop} (h : p.run pose waypoint b = .ok c) (known : p.Names P) (held : b.Names P) :
    c.pilot.Names P ∧ c.belief.Names P := by
  constructor
  · rcases learns_of_run h with learns | ⟨learns, -⟩
    · exact learns.names known held
    · exact learns.names known held.forgive
  · rcases pardons_of_run h with kept | ⟨forgiven, -⟩
    · rwa [kept]
    · rw [forgiven]; exact held.forgive

end Pilot

end GateNav
