import GateNav.Proofs.Belief.Mirror
import GateNav.Proofs.Order
import GateNav.Proofs.Pilot.Drafts

/-!
# A pilot in a mirror

Which part of the image a post is seen in says nothing about the gate. So a pilot that knows the same posts in the other
parts, and heads for the same place, moves the same way (`Cycle.Mirrors.run`). The part of the image decides only where
nothing else does: between two posts that are as good to approach, or as near, or as far (`Cycle.tied`), and between the
left-hand and the right-hand post of a gate if the two carry one id (`Cycle.doubled`).
-/

namespace GateNav
variable {α : Type}

def Goal.mirror : Goal α → Goal α
  | .post side => .post side.other
  | .searchPoint point => .searchPoint point

theorem Tracker.on_placed? {t : Tracker α} {side : Side} : (t.on side).placed? = t.placed? := rfl

namespace Pilot

/-- The pilot with the parts of the image exchanged. -/
def mirror (p : Pilot α) : Pilot α := { p with known := p.known.swap, goal := p.goal.map Goal.mirror }

section Fields
variable {p : Pilot α}

@[simp] theorem mirror_settings : p.mirror.settings = p.settings := rfl

@[simp] theorem mirror_phase : p.mirror.phase = p.phase := rfl

@[simp] theorem mirror_known : p.mirror.known = p.known.swap := rfl

@[simp] theorem mirror_agenda : p.mirror.agenda = p.agenda := rfl

@[simp] theorem mirror_passage : p.mirror.passage = p.passage := rfl

@[simp] theorem mirror_rightSide : p.mirror.rightSide = p.rightSide := rfl

@[simp] theorem mirror_goal : p.mirror.goal = p.goal.map Goal.mirror := rfl

@[simp] theorem mirror_aim : p.mirror.aim = p.aim := rfl

@[simp] theorem mirror_sweep : p.mirror.sweep = p.sweep := rfl

@[simp] theorem mirror_detour : p.mirror.detour = p.detour := rfl

@[simp] theorem mirror_through : p.mirror.through = p.through := rfl

@[simp] theorem mirror_searchedAround : p.mirror.searchedAround = p.searchedAround := rfl

@[simp] theorem mirror_settledCycles : p.mirror.settledCycles = p.settledCycles := rfl

@[simp] theorem mirror_center? : p.mirror.center? = p.center? := rfl

end Fields

/-- The two posts known carry one id. -/
def doubles (p : Pilot α) : Bool :=
  match p.known.left, p.known.right with
  | some a, some b => a.id = b.id
  | _, _ => false

variable {p q : Pilot α} {b b' : Belief α} {id : Int32}

theorem knownPosts_mirror : p.mirror.knownPosts = p.knownPosts.reverse := by
  unfold knownPosts mirror Sided.swap
  rcases p.known with ⟨_ | a, _ | b⟩ <;> rfl

theorem length_knownPosts : p.knownPosts.length ≤ 2 := List.length_filterMap_le _ _

theorem isKnown_mirror : p.mirror.isKnown id = p.isKnown id := by
  rw [isKnown, knownPosts_mirror, List.any_reverse]
  rfl

theorem doubles_congr (same : q.known = p.known) : q.doubles = p.doubles := by
  unfold doubles
  rw [same]

theorem doubles_survey_congr (same : q.known = p.known) : (q.survey b).doubles = (p.survey b).doubles := by
  unfold survey trust
  rw [same]
  split
  · rfl
  · exact doubles_congr same

theorem trust_mirror (h : b.Mirrors b') : p.mirror.trust b' = (p.trust b).mirror := by
  unfold trust
  rw [h.left, h.right, Tracker.on_placed?, Tracker.on_placed?]
  rfl

theorem survey_mirror (h : b.Mirrors b') : p.mirror.survey b' = (p.survey b).mirror := by
  unfold survey
  rw [h.gateSettled]
  split
  · exact trust_mirror h
  · rfl

variable [Scalar α] [Trig α] {pose : Pose α} {posts : List (KnownPost α)}

theorem mirror_of_start {settings : TraverseSettings α} {area : Waypoint α} (h : start settings area = .ok p) :
    p.mirror = p := by
  obtain ⟨points, -, h⟩ := Checked.bind_eq_ok.1 h
  cases h
  rfl

theorem adopt_mirror {draft : Option (Passage α)} : p.mirror.adopt pose draft = (p.adopt pose draft).mirror := by
  cases draft <;> rfl

/-- The posts are two, and neither of them is nearer. -/
def equallyFar (pose : Pose α) : List (KnownPost α) → Bool
  | [a, b] =>
    !Scalar.before (pose.distanceTo a.location) (pose.distanceTo b.location) &&
      !Scalar.before (pose.distanceTo b.location) (pose.distanceTo a.location)
  | _ => false

variable [Scalar.Asymmetric α]

theorem before_iff_of_not_equallyFar {a b : KnownPost α} (h : equallyFar pose [a, b] = false) :
    Scalar.before (pose.distanceTo a.location) (pose.distanceTo b.location) =
      !Scalar.before (pose.distanceTo b.location) (pose.distanceTo a.location) := by
  simp only [equallyFar] at h
  cases forth : Scalar.before (pose.distanceTo a.location) (pose.distanceTo b.location) with
  | true => rw [Scalar.Asymmetric.not_before_of_before forth]; rfl
  | false => rw [forth] at h; simpa using h

theorem nearest?_reverse (two : posts.length ≤ 2) (h : equallyFar pose posts = false) :
    nearest? pose posts.reverse = nearest? pose posts := by
  match posts with
  | [] | [_] => rfl
  | [a, b] =>
    simp only [nearest?, List.reverse_cons, List.reverse_nil, List.nil_append, List.cons_append, List.foldl_cons,
      List.foldl_nil, before_iff_of_not_equallyFar h]
    cases Scalar.before (pose.distanceTo b.location) (pose.distanceTo a.location) <;> rfl
  | _ :: _ :: _ :: _ => simp at two

theorem farthest?_reverse (two : posts.length ≤ 2) (h : equallyFar pose posts = false) :
    farthest? pose posts.reverse = farthest? pose posts := by
  match posts with
  | [] | [_] => rfl
  | [a, b] =>
    simp only [farthest?, List.reverse_cons, List.reverse_nil, List.nil_append, List.cons_append, List.foldl_cons,
      List.foldl_nil, before_iff_of_not_equallyFar h]
    cases Scalar.before (pose.distanceTo b.location) (pose.distanceTo a.location) <;> rfl
  | _ :: _ :: _ :: _ => simp at two

end Pilot

/-! ### Passages -/

namespace Cycle

section Hands
variable {w : Waypoint α} {waypoint : Option (Waypoint α)} {a b : KnownPost α}

theorem leftHandFirst_of_numbered (numbered : w.Numbered) (other : a.id ≠ b.id) :
    leftHandFirst (some w) a b =
      .ok (if w.carries a.id && w.carries b.id then a.id = w.id else a.id ≤ b.id) := by
  unfold leftHandFirst
  dsimp only
  rw [if_neg other, Waypoint.isGatePost_of_numbered numbered, Waypoint.isGatePost_of_numbered numbered]
  cases w.carries a.id <;> rfl

theorem leftHandFirst_of_not_numbered (last : ¬ w.Numbered) (other : a.id ≠ b.id) :
    leftHandFirst (some w) a b = .error .sumTooLarge := by
  have halts {id : Int32} (foreign : id ≠ w.id) : w.isGatePost id = .error .sumTooLarge :=
    Waypoint.isGatePost_eq_error.2 ⟨rfl, fun answers => (Waypoint.answers_iff.1 answers).elim last foreign⟩
  unfold leftHandFirst
  dsimp only
  rw [if_neg other]
  -- At least one of the two does not carry the waypoint's own id, and is not answered for.
  by_cases own : a.id = w.id
  · obtain ⟨onGate, answer⟩ := Waypoint.answers_iff.2 (.inr own)
    have gate : w.isGate = true := by
      by_contra none
      exact last fun gate => absurd gate none
    rw [answer, Waypoint.isGatePost_eq_ok answer, halts fun same => other (own.trans same.symm)]
    simp [Waypoint.carries, gate, own, bind, Except.bind]
  · rw [halts own]
    rfl

/-- Of two posts with different ids, either the one or the other is the left-hand one. -/
theorem leftHandFirst_swap (other : a.id ≠ b.id) :
    leftHandFirst waypoint b a = (!·) <$> leftHandFirst waypoint a b := by
  have order : decide (b.id ≤ a.id) = !decide (a.id ≤ b.id) := by
    rcases Int32.le_total a.id b.id with le | le
    · simp [le, Int32.not_le.2 (Int32.lt_of_le_of_ne le other)]
    · simp [le, Int32.not_le.2 (Int32.lt_of_le_of_ne le other.symm)]
  cases waypoint with
  | none => exact congrArg Except.ok order
  | some w =>
    by_cases numbered : w.Numbered
    · rw [leftHandFirst_of_numbered numbered other, leftHandFirst_of_numbered numbered other.symm, Bool.and_comm]
      refine congrArg Except.ok ?_
      cases both : w.carries a.id && w.carries b.id with
      | false => exact order
      | true =>
        -- The one that does not carry the waypoint's id carries the next one.
        obtain ⟨ha, hb⟩ := Bool.and_eq_true_iff.1 both
        simp only [if_true]
        rcases Waypoint.eq_of_carries ha with ha | ha <;> rcases Waypoint.eq_of_carries hb with hb | hb
        · exact absurd (ha.trans hb.symm) other
        · have foreign : b.id ≠ w.id := fun same => other (ha.trans same.symm)
          simp [ha, foreign]
        · have foreign : a.id ≠ w.id := fun same => other (same.trans hb.symm)
          simp [hb, foreign]
        · exact absurd (ha.trans hb.symm) other
    · rw [leftHandFirst_of_not_numbered numbered other, leftHandFirst_of_not_numbered numbered other.symm]
      rfl

variable [Scalar α] [Trig α] {p : Pilot α}

theorem draft?_mirror (distinct : p.doubles = false) : draft? waypoint p.mirror = draft? waypoint p := by
  unfold draft?
  rw [Pilot.mirror_known, Pilot.mirror_settings]
  unfold Pilot.doubles at distinct
  cases left : p.known.left with
  | none => cases right : p.known.right <;> simp [Sided.swap, left, right]
  | some a =>
    cases right : p.known.right with
    | none => simp [Sided.swap, left, right]
    | some b =>
      rw [left, right] at distinct
      simp only [Sided.swap, left, right]
      rw [leftHandFirst_swap (of_decide_eq_false distinct), bind_map_left]
      congr
      funext first
      cases first <;> rfl

end Hands

end Cycle

/-! ### Work -/

/-- The work of the second pilot is that of the first one, with the parts of the image exchanged; what it has noted so
far stands beside. -/
structure Cycle.Mirrors (c d : Cycle α) : Prop where
  pose : d.pose = c.pose
  waypoint : d.waypoint = c.waypoint
  pilot : d.pilot = c.pilot.mirror
  belief : c.belief.Mirrors d.belief

structure Move.Mirrors (m n : Move α) : Prop where
  next : n.next = m.next
  cycle : m.cycle.Mirrors n.cycle

namespace Cycle.Mirrors

section Parts
variable {c d : Cycle α} {p q : Pilot α} {e e' : Event α} {s : Steering α} {next : Phase} {side side' : Side}

theorem note (h : c.Mirrors d) : (c.note e).Mirrors (d.note e') := ⟨h.pose, h.waypoint, h.pilot, h.belief⟩

theorem withPilot (h : c.Mirrors d) (same : q = p.mirror) : (c.withPilot p).Mirrors (d.withPilot q) :=
  ⟨h.pose, h.waypoint, same, h.belief⟩

theorem goTo (h : c.Mirrors d) : (c.goTo next).Mirrors (d.goTo next) := ⟨rfl, h⟩

theorem steer (h : c.Mirrors d) : (c.steer s).Mirrors (d.steer s) := h.withPilot (by rw [h.pilot]; rfl)

theorem hold (h : c.Mirrors d) : c.hold.Mirrors d.hold := h.steer

theorem abandon (h : c.Mirrors d) : c.abandon.Mirrors d.abandon := h.withPilot (by rw [h.pilot]; rfl)

theorem forgive (h : c.Mirrors d) :
    Cycle.Mirrors { c with belief := c.belief.forgive } { d with belief := d.belief.forgive } :=
  ⟨h.pose, h.waypoint, h.pilot, h.belief.forgive⟩

theorem enter (h : c.Mirrors d) :
    (c.withPilot { c.pilot with phase := next }).Mirrors (d.withPilot { d.pilot with phase := next }) :=
  h.withPilot (by rw [h.pilot]; rfl)

theorem record (h : c.Mirrors d) : c.record.Mirrors d.record :=
  h.withPilot (by rw [h.pilot, Pilot.trust_mirror h.belief])

theorem aligned [Scalar α] (h : c.Mirrors d) {bearing : α} : d.aligned bearing = c.aligned bearing := by
  unfold Cycle.aligned
  rw [h.pilot, h.pose]
  rfl

theorem worthInspecting (h : c.Mirrors d) : d.worthInspecting = c.worthInspecting := by
  unfold Cycle.worthInspecting Sided.toList
  simp only [h.belief.hasGate, h.belief.left, h.belief.right, h.pilot, Pilot.isKnown_mirror, Tracker.on_id?,
    List.any_cons, List.any_nil, Bool.or_false]
  exact congrArg _ (Bool.or_comm _ _)

theorem lostSide? (h : c.Mirrors d) : d.lostSide?.isSome = c.lostSide?.isSome := by
  unfold Cycle.lostSide? Side.both
  simp only [List.find?_cons, List.find?_nil, h.belief.tracker, Tracker.on_hasPost, Side.other]
  cases (c.belief.tracker .left).hasPost <;> cases (c.belief.tracker .right).hasPost <;> rfl

theorem losePost (h : c.Mirrors d) : (c.losePost side).Mirrors (d.losePost side') := h.note.abandon.hold.goTo

theorem stopAndWait (h : c.Mirrors d) : c.stopAndWait.Mirrors d.stopAndWait := h.forgive.hold.goTo

theorem giveUp (h : c.Mirrors d) : c.giveUp.Mirrors d.giveUp := h.hold.goTo

theorem nextSearchPoint (h : c.Mirrors d) : c.nextSearchPoint.Mirrors d.nextSearchPoint := by
  have held := h.hold
  unfold Cycle.nextSearchPoint
  dsimp only
  rw [held.pilot, Pilot.mirror_agenda]
  split
  · exact (held.withPilot rfl).note.goTo
  · exact (held.withPilot rfl).note.goTo

end Parts

variable [Scalar α] [Trig α] {c d c' : Cycle α} {x : Pose α} {radius : α} {progress : Progress} {side : Side}

theorem headTo (h : c.Mirrors d) :
    (c.steer (.heading (c.pose.bearingTo x))).Mirrors (d.steer (.heading (d.pose.bearingTo x))) := by
  rw [h.pose]
  exact h.steer

theorem turnToward (h : c.Mirrors d) {whenAligned otherwise : Phase} :
    (c.turnToward x whenAligned otherwise).Mirrors (d.turnToward x whenAligned otherwise) := by
  unfold Cycle.turnToward
  rw [h.pose]
  dsimp only
  rw [h.aligned]
  split
  · exact h.steer.goTo
  · exact h.steer.goTo

theorem driveLeg (h : c.Mirrors d) (leg : c.driveLeg x radius = (progress, c')) :
    ∃ d', d.driveLeg x radius = (progress, d') ∧ c'.Mirrors d' := by
  unfold Cycle.driveLeg at leg ⊢
  rw [h.pose, h.pilot, Pilot.mirror_settings]
  split at leg
  · next near => cases leg; exact ⟨d.hold, if_pos near, h.hold⟩
  · next far =>
    rw [if_neg far]
    dsimp only at leg ⊢
    split at leg
    · next off => cases leg; exact ⟨_, if_pos off, h.steer⟩
    · next on => cases leg; exact ⟨_, if_neg on, h.steer⟩

theorem planPassage (h : c.Mirrors d) (distinct : c.pilot.doubles = false) :
    Checked.Related (fun r s => r.1 = s.1 ∧ r.2.Mirrors s.2) c.planPassage d.planPassage := by
  unfold Cycle.planPassage
  rw [h.waypoint, h.pilot, draft?_mirror distinct]
  cases draft? c.waypoint c.pilot with
  | error halt => exact .halt halt
  | ok draft => exact .answer ⟨rfl, h.withPilot (by rw [h.pose, Pilot.adopt_mirror])⟩

theorem searchAround (h : c.Mirrors d) {id : Option Int32} :
    Checked.Related Cycle.Mirrors (c.searchAround id x) (d.searchAround id x) := by
  unfold Cycle.searchAround
  rw [h.pilot, Pilot.mirror_searchedAround]
  split
  · exact .answer h
  · dsimp only [Cycle.withPilot, Pilot.mirror]
    cases Pilot.searchPoints c.pilot.pattern c.pilot.settings.spacing c.pilot.area x with
    | error halt => exact .halt halt
    | ok points => exact .answer ⟨h.pose, h.waypoint, rfl, h.belief⟩

end Cycle.Mirrors

/-! ### Search -/

namespace Cycle

section Ties
variable [Scalar α] [Trig α]

/-- The posts known that are not held now. -/
def unheld (c : Cycle α) : List (KnownPost α) :=
  c.pilot.knownPosts.filter fun p => !(c.belief.trackers.toList.filterMap (·.id?)).contains p.id

def beginsSweep (c : Cycle α) : Bool := !c.worthInspecting && c.pilot.sweep.isNone

/-- Both posts are settled, and neither is the better one to approach. -/
def tiesPosts (c : Cycle α) : Bool :=
  c.belief.gateSettled && comparePosts c.pilot c.belief.trackers.left c.belief.trackers.right = .eq

/-- The rover faces the gate along its axis, and from behind. -/
def facesFromBehind (c : Cycle α) : Bool :=
  c.pilot.passage.any fun g => c.aligned (g.facing c.pose) && !g.isBefore c.pose

/-- In this cycle the part of the image decides between two posts: neither is nearer as a sweep begins, neither is
the better one to approach, or neither is the far one as a detour is planned. -/
def tied (c : Cycle α) : Bool :=
  match c.pilot.phase with
  | .spin => c.beginsSweep && Pilot.equallyFar c.pose c.unheld
  | .spinWait => c.tiesPosts
  | .face => c.facesFromBehind && Pilot.equallyFar c.pose c.pilot.knownPosts
  | _ => false

/-- A passage is planned in this cycle, between posts with one id. -/
def doubled (c : Cycle α) : Bool := c.drafter?.any (·.doubles)

theorem distinct_of_drafter? {c : Cycle α} {p : Pilot α} (distinct : c.doubled = false)
    (drafter : c.drafter? = some p) : p.doubles = false := by
  rw [doubled, drafter] at distinct
  exact distinct

end Ties

theorem comparePosts_mirror [Scalar α] {p : Pilot α} {s t : Tracker α} {side side' : Side} :
    comparePosts p.mirror (s.on side) (t.on side') = comparePosts p s t := by
  unfold comparePosts
  simp only [Tracker.on_id?, Pilot.isKnown_mirror]
  rfl

theorem Mirrors.unheld {c d : Cycle α} (h : c.Mirrors d) : d.unheld = c.unheld.reverse := by
  unfold Cycle.unheld
  rw [h.pilot, Pilot.knownPosts_mirror, List.filter_reverse]
  refine congrArg List.reverse (List.filter_congr fun p _ => congrArg not ?_)
  unfold Sided.toList
  rw [h.belief.left, h.belief.right, Bool.eq_iff_iff, List.contains_iff_mem, List.contains_iff_mem]
  simp [or_comm]

theorem Mirrors.isSome_pickSide? [Scalar α] {c d : Cycle α} (h : c.Mirrors d) :
    d.pickSide?.isSome = c.pickSide?.isSome := by
  unfold Cycle.pickSide?
  rw [h.belief.left, h.belief.right]
  dsimp only [Tracker.on_hasPost]
  cases c.belief.trackers.left.hasPost <;> cases c.belief.trackers.right.hasPost <;>
    first | rfl | (dsimp only; split <;> split <;> rfl)

variable [Scalar α] [Trig α] [Scalar.Asymmetric α] {c d : Cycle α} {x : Pose α} {side : Side}

omit [Trig α] in
theorem compareDistance_swap {x y : Option α} : compareDistance y x = (compareDistance x y).swap := by
  rcases x with _ | x <;> rcases y with _ | y <;> try rfl
  unfold compareDistance
  dsimp only
  by_cases lt : x < y
  · rw [if_pos lt, if_neg (Scalar.Asymmetric.not_lt_of_lt lt), if_pos lt]
    rfl
  · by_cases gt : y < x
    · simp only [if_neg lt, if_pos gt]
      rfl
    · simp only [if_neg lt, if_neg gt]
      rfl

omit [Trig α] in
theorem comparePosts_swap {p : Pilot α} {s t : Tracker α} : comparePosts p t s = (comparePosts p s t).swap := by
  unfold comparePosts
  simp only [Ordering.swap_then, Nat.compare_swap, ← compareDistance_swap]

namespace Mirrors

theorem sweepOrigin (h : c.Mirrors d) (untied : Pilot.equallyFar c.pose c.unheld = false) :
    d.sweepOrigin = c.sweepOrigin := by
  have two : c.unheld.length ≤ 2 := Nat.le_trans (List.length_filter_le _ _) Pilot.length_knownPosts
  have same := h.unheld
  unfold Cycle.unheld at same two untied
  unfold Cycle.sweepOrigin
  dsimp only
  rw [same, h.pose, Pilot.nearest?_reverse two untied]

theorem nextSweep (h : c.Mirrors d)
    (untied : c.pilot.sweep.isNone = true → Pilot.equallyFar c.pose c.unheld = false) :
    d.nextSweep = c.nextSweep := by
  have current : d.currentSweep = c.currentSweep := by
    unfold currentSweep
    rw [h.pilot, Pilot.mirror_sweep]
    cases sweep : c.pilot.sweep with
    | some sweep => rfl
    | none => rw [h.sweepOrigin (untied (by rw [sweep]; rfl))]; rfl
  unfold Cycle.nextSweep
  rw [current]
  dsimp only
  rw [h.aligned]

theorem spin (h : c.Mirrors d) (untied : (c.beginsSweep && Pilot.equallyFar c.pose c.unheld) = false) :
    c.spin.Mirrors d.spin := by
  unfold Cycle.spin
  rw [h.worthInspecting]
  cases plain : c.worthInspecting with
  | true => exact h.stopAndWait
  | false =>
    have same : d.nextSweep = c.nextSweep := h.nextSweep fun begins => by
      simpa [beginsSweep, plain, begins] using untied
    have noted : Mirrors (if c.pilot.sweep.isSome then c else c.note (.sweepStarted c.sweepOrigin))
        (if d.pilot.sweep.isSome then d else d.note (.sweepStarted d.sweepOrigin)) := by
      rw [h.pilot, Pilot.mirror_sweep]
      split
      · exact h
      · exact h.note
    simp only [Bool.false_eq_true, if_false, same]
    split
    · exact (noted.withPilot (by rw [noted.pilot]; rfl)).note.nextSearchPoint
    · exact (noted.withPilot (by rw [noted.pilot]; rfl)).steer.goTo

omit [Trig α] in
/-- Which post is approached is settled by the posts, unless both are held and neither is the better one. -/
theorem pickSide? (h : c.Mirrors d)
    (untied : c.belief.hasGate = true → comparePosts c.pilot c.belief.trackers.left c.belief.trackers.right ≠ .eq) :
    d.pickSide? = c.pickSide?.map Side.other := by
  unfold Cycle.pickSide?
  rw [h.belief.left, h.belief.right, h.pilot]
  dsimp only [Tracker.on_hasPost]
  rw [comparePosts_mirror, comparePosts_swap (s := c.belief.trackers.left)]
  cases left : c.belief.trackers.left.hasPost <;> cases right : c.belief.trackers.right.hasPost <;> try rfl
  have untied := untied (by rw [Belief.hasGate, left, right]; rfl)
  revert untied
  cases comparePosts c.pilot c.belief.trackers.left c.belief.trackers.right <;> simp [Side.other]

theorem spinWait (h : c.Mirrors d) (untied : c.tiesPosts = false) : c.spinWait.Mirrors d.spinWait := by
  have held := h.hold
  unfold Cycle.spinWait
  dsimp only
  rw [held.belief.settled]
  cases settled : c.hold.belief.settled with
  | false =>
    -- A tie does not count yet.
    have some_iff := held.isSome_pickSide?
    cases pick : c.hold.pickSide? <;> cases pick' : d.hold.pickSide? <;> rw [pick, pick'] at some_iff
    · exact held.note.goTo
    · cases some_iff
    · cases some_iff
    · exact held.goTo
  | true =>
    have same : d.hold.pickSide? = c.hold.pickSide?.map Side.other := held.pickSide? fun gate => by
      have settled : c.belief.gateSettled = true := Bool.and_eq_true_iff.2 ⟨gate, settled⟩
      rw [tiesPosts, settled] at untied
      exact of_decide_eq_false untied
    rw [same]
    cases c.hold.pickSide? with
    | none => exact held.note.goTo
    | some side =>
      simp only [Option.map_some, Bool.not_true, Bool.false_eq_true, if_false]
      rw [held.belief.tracker, Side.other_other, Tracker.on_location]
      cases (c.hold.belief.tracker side).location with
      | none => exact held.goTo
      | some location =>
        have chosen : Mirrors (c.hold.note (.postApproached side (c.hold.belief.tracker side).id?))
            (d.hold.note (.postApproached side.other ((c.hold.belief.tracker side).on side.other).id?)) := held.note
        exact (chosen.withPilot (by rw [chosen.pilot]; rfl)).headTo.goTo

end Mirrors

end Cycle

namespace Cycle.Mirrors
variable [Scalar α] [Trig α] {c d : Cycle α} {x : Pose α} {side : Side}

theorem turn (h : c.Mirrors d) : c.turn.Mirrors d.turn := by
  unfold Cycle.turn
  rw [h.pilot, Pilot.mirror_goal]
  rcases c.pilot.goal with _ | side | point
  · exact h.giveUp
  · dsimp only [Option.map_some, Goal.mirror]
    rw [h.belief.tracker, Side.other_other, Tracker.on_hasPost, Pilot.mirror_aim]
    split
    · exact h.turnToward
    · exact h.losePost
  · dsimp only [Option.map_some, Goal.mirror]
    rw [h.worthInspecting]
    split
    · exact h.stopAndWait
    · exact h.turnToward

theorem locate (h : c.Mirrors d)
    (distinct : c.belief.gateSettled = true → (c.pilot.trust c.belief).doubles = false) :
    Checked.Related (fun r s => r.1 = s.1 ∧ r.2.Mirrors s.2) c.locate d.locate := by
  unfold Cycle.locate
  rw [h.belief.gateSettled]
  split
  · next settled => exact h.record.planPassage (distinct settled)
  · exact .answer ⟨rfl, h⟩

theorem headToCenter (h : c.Mirrors d) :
    Move.Mirrors
      (match c.pilot.center? with
        | some center => (c.steer (.heading (c.pose.bearingTo center))).goTo .turnToCenter
        | none => c.goTo .turnToCenter)
      (match d.pilot.center? with
        | some center => (d.steer (.heading (d.pose.bearingTo center))).goTo .turnToCenter
        | none => d.goTo .turnToCenter) := by
  rw [h.pilot, Pilot.mirror_center?]
  split
  · exact h.headTo.goTo
  · exact h.goTo

theorem headForGate (h : c.Mirrors d) : c.headForGate.Mirrors d.headForGate := by
  have noted : Mirrors (c.note (.gateLocated c.pilot.center? c.pilot.rightSide))
      (d.note (.gateLocated d.pilot.center? d.pilot.rightSide)) := h.note
  exact (noted.withPilot (by rw [noted.pilot]; rfl)).headToCenter

theorem approachPost (h : c.Mirrors d) :
    Checked.Related Move.Mirrors (c.approachPost side) (d.approachPost side.other) := by
  unfold Cycle.approachPost
  dsimp only
  rw [h.belief.tracker, Side.other_other, Tracker.on_hasPost, Tracker.on_location]
  split
  · next location _ _ =>
    have aimed : Mirrors (c.withPilot { c.pilot with aim := some location })
        (d.withPilot { d.pilot with aim := some location }) := h.withPilot (by rw [h.pilot]; rfl)
    rw [h.pilot] at aimed ⊢
    cases leg : (c.withPilot { c.pilot with aim := some location }).driveLeg location
        c.pilot.settings.approachDistance with
    | mk progress c' =>
      obtain ⟨d', leg', h'⟩ := aimed.driveLeg leg
      dsimp only [Cycle.withPilot, Pilot.mirror] at leg leg' ⊢
      rw [leg, leg']
      cases progress with
      | arrived => exact h'.searchAround.map fun h => h.abandon.goTo
      | offCourse => exact .answer h'.goTo
      | driving => exact .answer h'.goTo
  · exact .answer h.losePost

theorem driveToPost (h : c.Mirrors d)
    (distinct : c.belief.gateSettled = true → (c.pilot.trust c.belief).doubles = false) :
    Checked.Related Move.Mirrors (c.driveToPost side) (d.driveToPost side.other) := by
  unfold Cycle.driveToPost
  refine (h.locate distinct).bind ?_
  rintro ⟨located, c'⟩ ⟨_, d'⟩ ⟨rfl, h'⟩
  cases located with
  | true => exact .answer h'.headForGate
  | false => exact h'.approachPost

theorem driveToSearchPoint (h : c.Mirrors d) : (c.driveToSearchPoint x).Mirrors (d.driveToSearchPoint x) := by
  unfold Cycle.driveToSearchPoint
  rw [h.worthInspecting, h.pilot, Pilot.mirror_settings]
  split
  · exact h.stopAndWait
  · cases leg : c.driveLeg x c.pilot.settings.arrivalTolerance with
    | mk progress c' =>
      obtain ⟨d', leg', h'⟩ := h.driveLeg leg
      rw [leg']
      cases progress with
      | arrived => exact h'.note.forgive.abandon.goTo
      | offCourse => exact h'.goTo
      | driving => exact h'.goTo

theorem drive (h : c.Mirrors d) (distinct : ∀ side, c.pilot.goal = some (.post side) →
    c.belief.gateSettled = true → (c.pilot.trust c.belief).doubles = false) :
    Checked.Related Move.Mirrors c.drive d.drive := by
  unfold Cycle.drive
  rw [h.pilot, Pilot.mirror_goal]
  rcases goal : c.pilot.goal with _ | side | point
  · exact .answer h.giveUp
  · exact h.driveToPost (distinct side goal)
  · exact .answer h.driveToSearchPoint

/-! ### In front of the gate -/

theorem turnToCenter (h : c.Mirrors d) : c.turnToCenter.Mirrors d.turnToCenter := by
  have same := h.lostSide?
  unfold Cycle.turnToCenter
  rw [h.pilot, Pilot.mirror_passage]
  cases lost : c.lostSide? <;> cases lost' : d.lostSide? <;> rw [lost, lost'] at same
  · cases c.pilot.passage with
    | none => exact h.giveUp
    | some g => exact h.turnToward
  · cases same
  · cases same
  · exact h.losePost

theorem replan (h : c.Mirrors d)
    (distinct : (c.belief.trackers.left.confident && c.belief.trackers.right.confident) = true →
      (c.pilot.trust c.belief).doubles = false) :
    Checked.Related Mirrors c.replan d.replan := by
  unfold Cycle.replan
  rw [h.belief.left, h.belief.right, Tracker.on_confident, Tracker.on_confident,
    Bool.and_comm c.belief.trackers.right.confident]
  split
  · next sight => exact (h.record.planPassage (distinct sight)).map fun h => h.2
  · exact .answer h

theorem driveToPassage (h : c.Mirrors d) : c.driveToPassage.Mirrors d.driveToPassage := by
  unfold Cycle.driveToPassage
  rw [h.pilot, Pilot.mirror_passage]
  cases c.pilot.passage with
  | none => exact h.giveUp
  | some g =>
    cases leg : c.driveLeg g.center c.pilot.settings.standoff with
    | mk progress c' =>
      obtain ⟨d', leg', h'⟩ := h.driveLeg leg
      dsimp only [Pilot.mirror]
      rw [leg, leg']
      cases progress with
      | arrived =>
        dsimp only
        rw [h'.pilot, h'.belief.settings, Pilot.mirror_settledCycles]
        by_cases few : c'.pilot.settledCycles < c'.belief.settings.windowSize
        · rw [if_pos few, if_pos few]
          exact (h'.withPilot rfl).goTo
        · rw [if_neg few, if_neg few]
          exact (h'.withPilot rfl).goTo
      | offCourse => exact (h'.withPilot (by rw [h'.pilot]; rfl)).goTo
      | driving => exact (h'.withPilot (by rw [h'.pilot]; rfl)).goTo

theorem driveToCenter (h : c.Mirrors d) (distinct : c.lostSide?.isNone = true →
    (c.belief.trackers.left.confident && c.belief.trackers.right.confident) = true →
      (c.pilot.trust c.belief).doubles = false) :
    Checked.Related Move.Mirrors c.driveToCenter d.driveToCenter := by
  have same := h.lostSide?
  unfold Cycle.driveToCenter
  cases lost : c.lostSide? <;> cases lost' : d.lostSide? <;> rw [lost, lost'] at same
  · exact (h.replan (distinct (by rw [lost]; rfl))).map fun h => h.driveToPassage
  · cases same
  · cases same
  · exact .answer h.losePost

theorem face [Scalar.Asymmetric α] (h : c.Mirrors d)
    (untied : (c.facesFromBehind && Pilot.equallyFar c.pose c.pilot.knownPosts) = false) :
    c.face.Mirrors d.face := by
  unfold Cycle.face
  rw [h.pilot, Pilot.mirror_passage]
  cases passage : c.pilot.passage with
  | none => exact h.giveUp
  | some g =>
    dsimp only
    rw [h.pose, h.aligned]
    have judged : Mirrors (c.withPilot { c.pilot with rightSide := g.isBefore c.pose })
        (d.withPilot { d.pilot with rightSide := g.isBefore c.pose }) := h.withPilot (by rw [h.pilot]; rfl)
    rw [h.pilot] at judged
    cases aligned : c.aligned (g.facing c.pose) with
    | false => exact judged.steer.goTo
    | true =>
      cases before : g.isBefore c.pose with
      | true =>
        rw [before] at judged
        exact (judged.withPilot rfl).hold.goTo
      | false =>
        rw [before] at judged
        have behind : c.facesFromBehind = true := by
          rw [facesFromBehind, passage, Option.any_some, aligned, before]
          rfl
        rw [behind, Bool.true_and] at untied
        simp only [Bool.not_true, Bool.false_eq_true, if_false]
        rw [Pilot.knownPosts_mirror, Pilot.farthest?_reverse Pilot.length_knownPosts untied]
        cases Pilot.farthest? c.pose c.pilot.knownPosts with
        | none => exact judged.giveUp
        | some far => exact (judged.note.withPilot rfl).hold.goTo

/-! ### Around and through the gate -/

theorem finishDetour (h : c.Mirrors d) (distinct : (c.pilot.survey c.belief).doubles = false) :
    Checked.Related Move.Mirrors c.finishDetour d.finishDetour := by
  have surveyed : Mirrors (c.withPilot (c.pilot.survey c.belief)) (d.withPilot (d.pilot.survey d.belief)) :=
    h.withPilot (by rw [h.pilot, Pilot.survey_mirror h.belief])
  unfold Cycle.finishDetour
  refine (surveyed.planPassage distinct).bind ?_
  rintro ⟨planned, c'⟩ ⟨_, d'⟩ ⟨rfl, h'⟩
  have noted : Mirrors (if planned && !c'.pilot.rightSide then c'.note .detourEndedBehind else c')
      (if planned && !d'.pilot.rightSide then d'.note .detourEndedBehind else d') := by
    rw [h'.pilot, Pilot.mirror_rightSide]
    split
    · exact h'.note
    · exact h'
  dsimp only
  generalize (if planned && !c'.pilot.rightSide then c'.note .detourEndedBehind else c') = c₁ at noted ⊢
  generalize (if planned && !d'.pilot.rightSide then d'.note .detourEndedBehind else d') = d₁ at noted ⊢
  have through : Mirrors (c₁.withPilot { c₁.pilot with rightSide := true })
      (d₁.withPilot { d₁.pilot with rightSide := true }) := noted.withPilot (by rw [noted.pilot]; rfl)
  rw [noted.pilot] at through ⊢
  dsimp only [Cycle.withPilot, Pilot.mirror] at through ⊢
  rw [noted.pose] at through ⊢
  split
  · exact .answer through.giveUp
  · exact .answer (through.withPilot rfl).hold.goTo

theorem turnToFarPost (h : c.Mirrors d)
    (distinct : c.pilot.detour = [] → (c.pilot.survey c.belief).doubles = false) :
    Checked.Related Move.Mirrors c.turnToFarPost d.turnToFarPost := by
  unfold Cycle.turnToFarPost
  rw [h.pilot, Pilot.mirror_detour]
  cases detour : c.pilot.detour with
  | nil => exact h.finishDetour (distinct detour)
  | cons leg rest => exact .answer h.turnToward

theorem driveToFarPost (h : c.Mirrors d)
    (distinct : (c.pilot.detour = [] ∨ ∃ x, c.pilot.detour = [x] ∧
      c.pose.distanceTo x ≤ c.pilot.settings.arrivalTolerance) → (c.pilot.survey c.belief).doubles = false) :
    Checked.Related Move.Mirrors c.driveToFarPost d.driveToFarPost := by
  unfold Cycle.driveToFarPost
  rw [h.pilot, Pilot.mirror_detour, Pilot.mirror_settings]
  cases detour : c.pilot.detour with
  | nil => exact h.finishDetour (distinct (.inl detour))
  | cons x rest =>
    dsimp only
    cases way : c.driveLeg x c.pilot.settings.arrivalTolerance with
    | mk progress c' =>
      obtain ⟨d', way', h'⟩ := h.driveLeg way
      rw [way']
      cases progress with
      | arrived =>
        have passed : Mirrors (c'.withPilot { c'.pilot with detour := rest })
            (d'.withPilot { d'.pilot with detour := rest }) := h'.withPilot (by rw [h'.pilot]; rfl)
        obtain ⟨near, rfl⟩ := of_driveLeg_arrived way
        cases rest with
        | nil =>
          refine passed.finishDetour ?_
          rw [← distinct (.inr ⟨x, detour, near⟩)]
          exact Pilot.doubles_survey_congr rfl
        | cons next rest => exact .answer passed.goTo
      | offCourse => exact .answer h'.goTo
      | driving => exact .answer h'.goTo

omit [Scalar α] [Trig α] in
theorem traversed (h : c.Mirrors d) : c.traversed.Mirrors d.traversed := h.note.hold.goTo

theorem turnThrough (h : c.Mirrors d) : c.turnThrough.Mirrors d.turnThrough := by
  unfold Cycle.turnThrough
  rw [h.pilot, Pilot.mirror_through]
  cases c.pilot.through with
  | nil => exact h.traversed
  | cons leg rest => exact h.turnToward

theorem driveThrough (h : c.Mirrors d) : c.driveThrough.Mirrors d.driveThrough := by
  unfold Cycle.driveThrough
  rw [h.pilot, Pilot.mirror_through, Pilot.mirror_settings]
  cases c.pilot.through with
  | nil => exact h.traversed
  | cons x rest =>
    dsimp only
    cases leg : c.driveLeg x c.pilot.settings.arrivalTolerance with
    | mk progress c' =>
      obtain ⟨d', leg', h'⟩ := h.driveLeg leg
      rw [leg']
      cases progress with
      | arrived =>
        have passed : Mirrors (c'.withPilot { c'.pilot with through := rest })
            (d'.withPilot { d'.pilot with through := rest }) := h'.withPilot (by rw [h'.pilot]; rfl)
        cases rest with
        | nil => exact passed.traversed
        | cons next rest => exact passed.steer.goTo
      | offCourse => exact h'.goTo
      | driving => exact h'.goTo

/-! ### One cycle -/

variable [Scalar.Asymmetric α]

theorem advance (h : c.Mirrors d) (untied : c.tied = false) (distinct : c.doubled = false) :
    Checked.Related Move.Mirrors (c.advance c.pilot.phase) (d.advance c.pilot.phase) := by
  unfold tied at untied
  cases phase : c.pilot.phase <;> rw [phase] at untied
  case spin => exact .answer (h.spin untied)
  case spinWait => exact .answer (h.spinWait untied)
  case turn => exact .answer h.turn
  case drive =>
    refine h.drive fun side goal settled => distinct_of_drafter? distinct ?_
    simp only [drafter?, phase, goal, settled, if_true]
  case turnToCenter => exact .answer h.turnToCenter
  case driveToCenter =>
    refine h.driveToCenter fun held sight => distinct_of_drafter? distinct ?_
    simp only [drafter?, phase, held, Bool.true_and]
    exact if_pos sight
  case face => exact .answer (h.face untied)
  case turnToFarPost =>
    refine h.turnToFarPost fun ended => distinct_of_drafter? distinct ?_
    simp only [drafter?, endsDetour, phase, ended, if_true]
  case driveToFarPost =>
    refine h.driveToFarPost fun ended => distinct_of_drafter? distinct ?_
    rcases ended with ended | ⟨x, ended, near⟩
    · simp only [drafter?, endsDetour, phase, ended, if_true]
    · simp only [drafter?, endsDetour, phase, ended, near, decide_true, if_true]
  case turnThrough => exact .answer h.turnThrough
  case driveThrough => exact .answer h.driveThrough
  all_goals exact .answer h.hold.goTo

theorem run (h : c.Mirrors d) (untied : c.tied = false) (distinct : c.doubled = false) :
    Checked.Related Mirrors c.run d.run := by
  unfold Cycle.run
  rw [h.pilot, Pilot.mirror_phase]
  refine (h.advance untied distinct).bind ?_
  rintro ⟨_, c'⟩ ⟨next, d'⟩ ⟨same, h'⟩
  obtain rfl : next = _ := same
  have recorded : Mirrors (if placesPosts c.pilot.phase then c'.record else c')
      (if placesPosts c.pilot.phase then d'.record else d') := by
    split
    · exact Mirrors.record h'
    · exact h'
  dsimp only
  generalize (if placesPosts c.pilot.phase then c'.record else c') = c₁ at recorded ⊢
  generalize (if placesPosts c.pilot.phase then d'.record else d') = d₁ at recorded ⊢
  split
  · exact .answer recorded.enter
  · exact .answer recorded.note.enter

end Cycle.Mirrors

end GateNav
