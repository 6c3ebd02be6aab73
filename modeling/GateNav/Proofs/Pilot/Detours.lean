import Mathlib.Data.List.Induction
import GateNav.Proofs.Belief.Mirror
import GateNav.Proofs.Pilot.Direction
import GateNav.Proofs.Pilot.Drafts

/-!
# The belief behind a detour

A rover that faces the gate from behind goes around the far one of the posts it knows, to the entry of its passage. The
passage was planned on the way there, between the posts that were known then. What is recorded afterwards, on the drive
to the center, can stray from it: a cycle that records a post plans the passage anew, unless the other post cannot be
trusted in it, or unless there is no passage between the two (`Cycle.Strays`). `Logbook.Planned` keeps track of the last
plan and of the posts that have strayed since, and `Logbook.exists_planned` carries it along a search.

While no post strays, the passage is the one between the posts as they are known, and the detour leads around one of
these two (`Logbook.detours_as_planned`). Otherwise it can lead around a post that is not on the line of the two posts
the passage was planned between (`Logbook.detours_around_moved_post`).
-/

namespace GateNav
variable {α : Type}

/-- The gate is located, and the way through it or around it is not planned yet. -/
def Phase.approaches : Phase → Bool
  | turnToCenter | driveToCenter | face => true
  | _ => false

theorem Phase.not_approaches_of_idle {phase : Phase} (idle : phase.isTerminal = true ∨ phase.isGate = false) :
    phase.approaches = false := by
  revert idle
  cases phase <;> decide

namespace Cycle
variable [Scalar α] [Trig α] {c : Cycle α} {executed next : Phase} {p q : Pilot α} {b : Belief α}

/-! ### Cycles in front of the gate -/

theorem Approaches.not_approaches {pose : Pose α} {side : Side} (h : Approaches pose b p side next q) :
    next.approaches = false := by
  cases h <;> rfl

/-- The search ends in front of the gate only with a passage planned just then. -/
theorem Searches.drafted (h : c.Searches executed next q b) (phase : c.pilot.phase = executed)
    (near : next.approaches = true) : c.drafted?.isSome = true := by
  cases h with
  | locate goal sight plan =>
    have drafter : c.drafter? = some (c.pilot.trust c.belief) := by simp [drafter?, phase, goal, sight]
    rw [drafted?_of_plan drafter plan]
    rfl
  | driveToPost goal unlocated move => rw [move.not_approaches] at near; cases near
  | _ => cases near

theorem Finishes.not_approaches {pose : Pose α} {waypoint : Option (Waypoint α)}
    (h : Finishes pose waypoint b p next q) : next.approaches = false := by
  cases h <;> rfl

theorem Passes.not_approaches (h : c.Passes executed next q b) : next.approaches = false := by
  cases h with
  | endTurning detour finish | endDriving detour finish | reachEnd detour near finish => exact finish.not_approaches
  | _ => rfl

theorem Nears.approaches (h : c.Nears executed next q b) : executed.approaches = true := by
  cases h <;> rfl

/-- In front of the gate the rover was before, or its passage is planned in this cycle. -/
theorem Advances.approaches (h : c.Advances executed next q b) (phase : c.pilot.phase = executed)
    (near : next.approaches = true) : executed.approaches = true ∨ c.drafted?.isSome = true := by
  cases h with
  | searches h => exact .inr (h.drafted phase near)
  | nears h => exact .inl h.approaches
  | passes h => rw [h.not_approaches] at near; cases near
  | idle => exact .inl near

/-- The post on `side` is recorded while no passage is planned, as the other post cannot be trusted or there is no
passage between the two. -/
structure Strays (c : Cycle α) (p : Pilot α) (side : Side) : Prop where
  executed : c.pilot.phase = .driveToCenter
  recorded : ∃ post, (c.belief.tracker side).placed? = some post ∧ p.known.get side = some post
  unplanned : (c.belief.tracker side.other).confident = false ∨ draft? c.waypoint p = .ok none

/-- Where no passage is planned on the drive to the center, one of the posts cannot be trusted, or there is none. -/
theorem Replans.unplanned (h : c.Replans p) (phase : c.pilot.phase = .driveToCenter) (held : c.lostSide? = none)
    (undrafted : c.drafted? = none) :
    (∃ side, (c.belief.tracker side).confident = false) ∨ draft? c.waypoint (c.pilot.trust c.belief) = .ok none := by
  cases h with
  | anew sight plan =>
    have drafter := (drafter?_of_driveToCenter phase held).trans (if_pos sight)
    rw [drafted?_of_plan drafter plan] at undrafted
    subst undrafted
    exact .inr plan
  | leave blind =>
    rcases Bool.and_eq_false_iff.1 blind with left | right
    · exact .inl ⟨.left, left⟩
    · exact .inl ⟨.right, right⟩

/-- What is recorded in a cycle in which a post cannot be trusted, or there is no passage between the posts. -/
theorem Strays.of_trust (phase : c.pilot.phase = .driveToCenter) (known : p.known = (c.pilot.trust c.belief).known)
    (settings : p.settings = c.pilot.settings)
    (unplanned : (∃ side, (c.belief.tracker side).confident = false) ∨
      draft? c.waypoint (c.pilot.trust c.belief) = .ok none) (side : Side) :
    p.known.get side = c.pilot.known.get side ∨ c.Strays p side := by
  have get : p.known.get side = (c.belief.tracker side).placed?.or (c.pilot.known.get side) := by
    rw [known, Pilot.trust_get]
  cases placed : (c.belief.tracker side).placed? with
  | none => rw [placed, Option.none_or] at get; exact .inl get
  | some post =>
    rw [placed, Option.some_or] at get
    refine .inr ⟨phase, ⟨post, placed, get⟩, ?_⟩
    rcases unplanned with ⟨lost, unsure⟩ | failed
    · -- The post that cannot be trusted is not the one that is placed.
      have other : lost ≠ side := by
        rintro rfl
        rw [Tracker.confident_of_placed? placed] at unsure
        cases unsure
      rw [Side.eq_other_of_ne other] at unsure
      exact .inl unsure
    · exact .inr (by rw [draft?_congr known settings]; exact failed)

/-- A rover that stays in front of the gate, with the passage as it was, knows the posts that it knew before, but for
those that stray in this cycle. -/
theorem Nears.known (h : c.Nears executed next q b) (phase : c.pilot.phase = executed)
    (near : next.approaches = true) (undrafted : c.drafted? = none) (side : Side) :
    (q.moved b executed next).known.get side = c.pilot.known.get side ∨ c.Strays (q.moved b executed next) side := by
  cases h with
  | faceCenter | turnToCenter | turnToFace => exact .inl rfl
  | driveUp held plan move =>
    have unplanned := plan.unplanned phase held undrafted
    have settings : (q.moved c.belief .driveToCenter next).settings = c.pilot.settings :=
      Pilot.moved_settings.trans (congrArg (·.1) (move.orders.trans plan.orders))
    refine Strays.of_trust phase ?_ settings unplanned side
    cases plan with
    | anew => exact Pilot.trust_known_of (.inr (move.known.trans Pilot.adopt_known))
    | leave => exact Pilot.trust_known_of (.inl move.known)
  | _ => cases near

end Cycle

namespace Pilot
variable [Scalar α] [Trig α] {p p' : Pilot α} {v : View α}

theorem approaches_of_shown (h : p.shown v = .ok p') (near : p'.phase.approaches = true) :
    p.phase.approaches = true ∨ (v.cycle p).drafted?.isSome = true := by
  obtain ⟨next, q, b, move, rfl⟩ := of_shown h
  exact move.approaches rfl near

theorem known_of_shown (h : p.shown v = .ok p') (before : p.phase.approaches = true)
    (near : p'.phase.approaches = true) (undrafted : (v.cycle p).drafted? = none) (side : Side) :
    p'.known.get side = p.known.get side ∨ (v.cycle p).Strays p' side := by
  obtain ⟨next, q, b, move, rfl⟩ := of_shown h
  generalize executed : p.phase = here at move before ⊢
  cases move with
  | nears move => exact move.known executed near undrafted side
  | searches move => cases move <;> cases before
  | passes move => cases move <;> cases before
  | idle idle => rw [Phase.not_approaches_of_idle idle] at before; cases before

theorem farthest?_mem {pose : Pose α} {posts : List (KnownPost α)} {far : KnownPost α}
    (h : farthest? pose posts = some far) : far ∈ posts := by
  induction posts using List.reverseRecOn generalizing far with
  | nil => cases h
  | append_singleton init last ih =>
    simp only [farthest?, List.foldl_append, List.foldl_cons, List.foldl_nil] at h ih
    split at h
    · cases h; simp
    · next best leads =>
      split at h
      · cases h; exact List.mem_append_left _ (ih leads)
      · cases h; simp

/-- From facing the gate the rover goes around the far one of the posts known, to the entry of its passage. -/
theorem detour_of_shown (h : p.shown v = .ok p') (faced : p.phase = .face) (around : p'.phase = .turnToFarPost) :
    ∃ g far, p.passage = some g ∧ farthest? v.pose p.knownPosts = some far ∧
      p'.detour = [Cycle.clearancePoint p g far, g.entry] := by
  obtain ⟨next, q, b, move, rfl⟩ := of_shown h
  obtain rfl : next = .turnToFarPost := around
  rw [faced] at move ⊢
  cases move with
  | searches move => cases move
  | passes move => cases move
  | nears move =>
    cases move with
    | goAround passage _ _ far => exact ⟨_, _, passage, far, moved_detour⟩

end Pilot

namespace Logbook
variable [Scalar α] [Trig α] [Numeral α] (L : Logbook α) {i j n : Nat} {g : Passage α}

/-- In cycle `k` the post on `side` strays from the passage. -/
def Strays (k : Nat) (side : Side) : Prop := ((L.view k).cycle (L.pilot k)).Strays (L.pilot (k + 1)) side

/-- Before cycle `n` the passage `g` was planned last in cycle `j`, and it is the passage since. Each post is known as
it was after that cycle, or as it was recorded when it last strayed. -/
structure Planned (j n : Nat) (g : Passage α) : Prop where
  before : j < n
  drafted : ((L.view j).cycle (L.pilot j)).drafted? = some g
  latest : ∀ k, j < k → k < n → ((L.view k).cycle (L.pilot k)).drafted? = none
  passage : (L.pilot n).passage = some g
  known : ∀ side, (L.pilot n).known.get side = (L.pilot (j + 1)).known.get side ∨
    ∃ k, j < k ∧ k < n ∧ L.Strays k side ∧ (L.pilot n).known.get side = (L.pilot (k + 1)).known.get side

variable {L}

theorem Planned.of_drafted (hn : n < L.length) (drafted : ((L.view n).cycle (L.pilot n)).drafted? = some g) :
    L.Planned n (n + 1) g := by
  have redraws := Pilot.redraws_of_shown (L.step n hn) (L.ready (Nat.le_of_lt hn))
  refine ⟨Nat.lt_succ_self n, drafted, fun k hk hkn => by omega, ?_, fun side => .inl rfl⟩
  rw [redraws.passage, drafted]; rfl

theorem Planned.succ (h : L.Planned j n g) (hn : n < L.length) (before : (L.pilot n).phase.approaches = true)
    (near : (L.pilot (n + 1)).phase.approaches = true)
    (undrafted : ((L.view n).cycle (L.pilot n)).drafted? = none) : L.Planned j (n + 1) g := by
  have redraws := Pilot.redraws_of_shown (L.step n hn) (L.ready (Nat.le_of_lt hn))
  refine ⟨Nat.lt_succ_of_lt h.before, h.drafted, fun k hk hkn => ?_, ?_, fun side => ?_⟩
  · rcases Nat.lt_succ_iff_lt_or_eq.1 hkn with earlier | rfl
    · exact h.latest k hk earlier
    · exact undrafted
  · rw [redraws.passage, undrafted, Option.none_or]; exact h.passage
  · rcases Pilot.known_of_shown (L.step n hn) before near undrafted side with kept | strays
    · rw [kept]
      exact (h.known side).imp_right fun ⟨k, hk, hkn, strays, same⟩ => ⟨k, hk, Nat.lt_succ_of_lt hkn, strays, same⟩
    · exact .inr ⟨n, h.before, Nat.lt_succ_self n, strays, rfl⟩

/-- The posts known after the cycle in which the passage was planned are those it was planned between. -/
theorem Planned.drafts (h : L.Planned j n g) (hn : n ≤ L.length) :
    ∃ leftHand rightHand, Cycle.Drafts (L.view j).waypoint (L.pilot (j + 1)) g leftHand rightHand := by
  have hj : j < L.length := Nat.lt_of_lt_of_le h.before hn
  have redraws := Pilot.redraws_of_shown (L.step j hj) (L.ready (Nat.le_of_lt hj))
  exact Cycle.drafts_of_draft? (redraws.plan g h.drafted)

variable (L)

/-- In front of the gate there is a passage, and it was planned in some cycle before. -/
theorem exists_planned (hn : n ≤ L.length) (near : (L.pilot n).phase.approaches = true) :
    ∃ j g, L.Planned j n g := by
  induction n with
  | zero => rw [L.phase_zero] at near; cases near
  | succ n ih =>
    cases drafted : ((L.view n).cycle (L.pilot n)).drafted? with
    | some g => exact ⟨n, g, .of_drafted hn drafted⟩
    | none =>
      have before := (Pilot.approaches_of_shown (L.step n hn) near).resolve_right (by simp [drafted])
      obtain ⟨j, g, planned⟩ := ih (Nat.le_of_lt hn) before
      exact ⟨j, g, planned.succ hn before near drafted⟩

/-- A rover that goes around the gate takes the passage that was planned last, between the two posts known then, and the
far one of the posts known now. A post that is not known as it was then was recorded since, on the drive to the center,
in a cycle in which the other post could not be trusted or there was no passage between the two. If both posts are known
as they were then, the passage is the one between the posts as they are known, and the far post is one of the two it was
planned between. -/
theorem detours_as_planned (waypoint : Option (Waypoint α)) (fixed : ∀ i < L.length, (L.view i).waypoint = waypoint)
    (hi : i < L.length) (faced : (L.pilot i).phase = .face) (around : (L.pilot (i + 1)).phase = .turnToFarPost) :
    ∃ j g leftHand rightHand far, L.Planned j i g ∧
      Cycle.Drafts waypoint (L.pilot (j + 1)) g leftHand rightHand ∧
      Pilot.farthest? (L.view i).pose (L.pilot i).knownPosts = some far ∧
      (L.pilot (i + 1)).detour = [Cycle.clearancePoint (L.pilot i) g far, g.entry] ∧
      ((L.pilot i).known = (L.pilot (j + 1)).known →
        Cycle.Drafts waypoint (L.pilot i) g leftHand rightHand ∧ (far = leftHand ∨ far = rightHand)) := by
  obtain ⟨j, g, planned⟩ := L.exists_planned (Nat.le_of_lt hi) (by rw [faced]; rfl)
  obtain ⟨g', far, passage, farthest, detour⟩ := Pilot.detour_of_shown (L.step i hi) faced around
  obtain rfl : g = g' := Option.some.inj (planned.passage.symm.trans passage)
  have hj : j < L.length := Nat.lt_trans planned.before hi
  obtain ⟨leftHand, rightHand, drafts⟩ := planned.drafts (Nat.le_of_lt hi)
  rw [fixed j hj] at drafts
  refine ⟨j, g, leftHand, rightHand, far, planned, drafts, farthest, detour, fun same => ?_⟩
  have settings : (L.pilot i).settings = (L.pilot (j + 1)).settings := by
    rw [L.settings_eq (Nat.le_of_lt hi), L.settings_eq hj]
  have drafts' := drafts.congr same settings
  exact ⟨drafts', drafts'.mem_knownPosts (Pilot.farthest?_mem farthest)⟩

end Logbook

/-- The rover that has come up to the gate from behind goes around one of the two posts between which the passage leads,
planned in the cycle before it faced the gate. -/
theorem Logbook.detours_as_planned_mirror :
    (∀ i < Exact.mirror.length, (Exact.mirror.view i).waypoint = some Exact.gate) ∧
      (Exact.mirror.pilot 7).phase = .face ∧ (Exact.mirror.pilot 8).phase = .turnToFarPost ∧
      ∃ g leftHand rightHand far, Exact.mirror.Planned 6 7 g ∧
        (Exact.mirror.pilot 8).detour = [Cycle.clearancePoint (Exact.mirror.pilot 7) g far, g.entry] ∧
        Cycle.Drafts (some Exact.gate) (Exact.mirror.pilot 7) g leftHand rightHand ∧
        (far = leftHand ∨ far = rightHand) := by
  have fixed : ∀ i < Exact.mirror.length, (Exact.mirror.view i).waypoint = some Exact.gate := fun _ _ => rfl
  have faced : (Exact.mirror.pilot 7).phase = .face := by decide +kernel
  have around : (Exact.mirror.pilot 8).phase = .turnToFarPost := by decide +kernel
  have replanned : ((Exact.mirror.view 6).cycle (Exact.mirror.pilot 6)).drafted?.isSome = true := by decide +kernel
  obtain ⟨j, g, leftHand, rightHand, far, planned, -, -, detour, unmoved⟩ :=
    detours_as_planned Exact.mirror (some Exact.gate) fixed (i := 7) (by decide) faced around
  obtain rfl : j = 6 := by
    have before := planned.before
    refine Nat.le_antisymm (by omega) (Nat.le_of_not_lt fun earlier => ?_)
    rw [planned.latest 6 earlier (by decide)] at replanned
    cases replanned
  obtain ⟨drafts, far_mem⟩ := unmoved rfl
  exact ⟨fixed, faced, around, g, leftHand, rightHand, far, planned, detour, drafts, far_mem⟩

namespace Exact

/-- The post numbered 4 is seen on the left and the other one on the right; but in one frame the first of them seems to
be farther away, and the other one is missed. -/
def recede (j : Nat) : Sided (Sighting Rat) :=
  if j = 6 then ⟨⟨4, -30, 4⟩, .none⟩ else ⟨⟨3, -30, 4⟩, ⟨3, 30, 3⟩⟩

/-- Both posts are looked at from the south. -/
def receding (i : Nat) : List (Belief.Request Rat) := seeing recede (fun _ => place 0 (-2) 0) (i + 1)

def receded : Logbook Rat :=
  search
    (fun i => ⟨place 0 (-2) 0, some gate, ((Belief.start prompt).serveAll (receding i)).toOption.getD (.start prompt)⟩)
    (fun _ => rfl) 8

theorem serveAll_receding (i : Nat) : (Belief.start prompt).serveAll (receding i) = .ok (receded.view i).belief :=
  serveAll_seeing recede (fun _ => place 0 (-2) 0) (i + 1)

end Exact

/-- With beliefs that are what sightings have made them, the rover goes around the gate along a passage that is not the
one between the posts as they are known, and around a post that is not on the line through the center across it. -/
theorem Logbook.detours_around_moved_post :
    ∃ L : Logbook Rat, (∀ i, (Belief.start Exact.prompt).serveAll (Exact.receding i) = .ok (L.view i).belief) ∧
      (∀ i, (L.view i).waypoint = some Exact.gate) ∧ L.length = 8 ∧ (L.pilot 7).phase = .face ∧
      (L.pilot 8).phase = .turnToFarPost ∧
      ∃ g g' far, (L.pilot 7).passage = some g ∧
        (L.pilot 8).detour = [Cycle.clearancePoint (L.pilot 7) g far, g.entry] ∧
        Cycle.draft? (some Exact.gate) (L.pilot 7) = .ok (some g') ∧ g' ≠ g ∧
        Pilot.farthest? (L.view 7).pose (L.pilot 7).knownPosts = some far ∧
        (far.location.toLocal g.center).dot g.direction ≠ 0 := by
  have faced : (Exact.receded.pilot 7).phase = .face := by decide +kernel
  have around : (Exact.receded.pilot 8).phase = .turnToFarPost := by decide +kernel
  have differ : (Cycle.draft? (some Exact.gate) (Exact.receded.pilot 7)).toOption.join ≠
      (Exact.receded.pilot 7).passage := by decide +kernel
  have drafted : (Cycle.draft? (some Exact.gate) (Exact.receded.pilot 7)).toOption.join.isSome = true := by
    decide +kernel
  have off_line : ((Exact.receded.pilot 7).passage.bind fun g =>
      (Pilot.farthest? (Exact.receded.view 7).pose (Exact.receded.pilot 7).knownPosts).map fun far =>
        (far.location.toLocal g.center).dot g.direction) ≠ some 0 := by decide +kernel
  obtain ⟨g, far, passage, farthest, detour⟩ := Pilot.detour_of_shown (Exact.receded.step 7 (by decide)) faced around
  obtain ⟨g', again⟩ := Option.isSome_iff_exists.1 drafted
  rw [again, passage] at differ
  rw [passage, farthest] at off_line
  refine ⟨Exact.receded, Exact.serveAll_receding, fun _ => rfl, rfl, faced, around, g, g', far, passage, detour, ?_,
    fun same => differ (congrArg some same), farthest, fun on_line => off_line (congrArg some on_line)⟩
  cases draft : Cycle.draft? (some Exact.gate) (Exact.receded.pilot 7) with
  | error halt => rw [draft] at again; cases again
  | ok draft' => rw [draft] at again; exact congrArg Except.ok again

end GateNav
