import GateNav.Proofs.Exact
import GateNav.Proofs.Pilot.PhaseData

/-!
# The way through the gate

Once the rover faces the gate there is no way back to the search. The points of the traverse are planned in one cycle,
from the passage as it is then; from there on the passage stays, and a point only leaves the list when the rover
reaches it. So a search that ends at the far side of the gate has led over the center and the exit of one passage, and
over its entry before if the traverse began off the axis (`Logbook.traversed_in_order`).

`Pilot.Paces` says what one cycle does to the points of the traverse, and `Logbook.Reached` collects along a search
the points that were reached.
-/

namespace GateNav

namespace Phase

/-- The phase comes before the gate is faced. -/
def isEarly : Phase → Bool
  | spin | spinWait | turn | drive | turnToCenter | driveToCenter | notFound => true
  | _ => false

/-- The way through the gate is planned. -/
def closes : Phase → Bool
  | turnThrough | driveThrough | traversed => true
  | _ => false

theorem closes_iff {phase : Phase} : phase.closes = true ↔ phase.passes = true ∨ phase = .traversed := by
  cases phase <;> decide

theorem not_isEarly_of_mem_followers {phase next : Phase} (h : next ∈ phase.followers)
    (faced : phase.isEarly = false) : next.isEarly = false := by
  revert next
  cases phase <;> first | contradiction | decide

end Phase

variable {α : Type} [Scalar α] [Trig α]

namespace Pilot

/-- What one cycle does to the points of the traverse. -/
inductive Paces (v : View α) (p p' : Pilot α) : Prop
  /-- They stay, and so does the passage once the traverse has begun. -/
  | stay (closes : p'.phase.closes = p.phase.closes) (ended : p'.phase = .traversed ↔ p.phase = .traversed)
      (passage : p.phase.closes = true → p'.passage = p.passage) (through : p'.through = p.through)
  /-- They are planned. -/
  | plan {g : Passage α} (executed : p.phase = .face ∨ p.phase = .driveToFarPost) (next : p'.phase = .turnThrough)
      (passage : p'.passage = some g) (through : p'.through = g.legs v.pose p.settings.arrivalTolerance)
  /-- The first of them is reached and leaves the list; with the last one the traverse ends. -/
  | reach {q : Pose α} (executed : p.phase = .driveThrough) (through : p.through = q :: p'.through)
      (near : v.pose.distanceTo q ≤ p.settings.arrivalTolerance) (passage : p'.passage = p.passage)
      (next : p'.phase = .driveThrough ∧ p'.through ≠ [] ∨ p'.phase = .traversed ∧ p'.through = [])

end Pilot

namespace Cycle
variable {c : Cycle α} {executed next : Phase} {p q : Pilot α} {b : Belief α} {pose : Pose α}

theorem Searches.through (h : c.Searches executed next q b) :
    executed.closes = false ∧ next.closes = false ∧ q.through = c.pilot.through := by
  cases h
  case driveToPost move => cases move <;> exact ⟨rfl, rfl, Pilot.survey_through⟩
  all_goals exact ⟨rfl, rfl, rfl⟩

theorem Finishes.through {waypoint : Option (Waypoint α)} (h : Finishes pose waypoint b p next q)
    (passage : p.passage.isSome = true) :
    next = .turnThrough ∧ ∃ g, q.passage = some g ∧ q.through = g.legs pose p.settings.arrivalTolerance := by
  obtain rfl := h.follows passage
  cases h with
  | lineUp plan passage => exact ⟨rfl, _, passage, rfl⟩

theorem Replans.through (h : c.Replans p) : p.through = c.pilot.through := by
  cases h with
  | anew => exact Pilot.adopt_through
  | leave => rfl

theorem Nears.through (h : c.Nears executed next q b) :
    executed.closes = false ∧ next.closes = false ∧ q.through = c.pilot.through ∨
    executed = .face ∧ next = .turnThrough ∧
      ∃ g, q.passage = some g ∧ q.through = g.legs c.pose c.pilot.settings.arrivalTolerance := by
  cases h
  case lineUp g passage _ _ => exact .inr ⟨rfl, rfl, g, passage, rfl⟩
  case driveUp plan move => cases move <;> exact .inl ⟨rfl, rfl, plan.through⟩
  all_goals exact .inl ⟨rfl, rfl, rfl⟩

end Cycle

namespace Pilot
variable {p q p' : Pilot α} {v : View α} {b : Belief α} {executed next : Phase}

theorem paces_of_open (before : p.phase.closes = false) (after : p'.phase.closes = false)
    (through : p'.through = p.through) : Paces v p p' := by
  refine .stay (after.trans before.symm) ⟨fun h => ?_, fun h => ?_⟩ (fun h => ?_) through
  · rw [h] at after; cases after
  · rw [h] at before; cases before
  · rw [before] at h; cases h

theorem paces_of_passes (h : (v.cycle p).Passes p.phase next q b) (ready : p.Ready p.phase) :
    Paces v p (q.moved b p.phase next) := by
  generalize he : p.phase = executed at h ready ⊢
  cases h with
  | endTurning detour | endDriving detour => exact absurd detour (ready.detour rfl)
  | turnPast through | drivePast through => exact absurd through (ready.through rfl)
  | faceLeg | turnToLeg | strayFromLeg | driveToLeg | reachLeg =>
    exact paces_of_open (by rw [he]; rfl) rfl moved_through
  | reachEnd detour near finish =>
    obtain ⟨rfl, g, passage, through⟩ := finish.through (ready.passage rfl)
    exact .plan (.inr he) rfl (moved_passage.trans passage) (moved_through.trans through)
  | facePoint | turnToPoint | strayFromPoint | driveToPoint =>
    exact .stay (by rw [he]; rfl) (by simp [he]) (fun _ => moved_passage) moved_through
  | traverse through near => exact .reach he through near moved_passage (.inr ⟨rfl, rfl⟩)
  | reachPoint through near => exact .reach he through near moved_passage (.inl ⟨rfl, nofun⟩)

theorem paces_of_shown (h : p.shown v = .ok p') (ready : p.Ready p.phase) : Paces v p p' := by
  obtain ⟨next, q, b, hq, rfl⟩ := of_shown h
  generalize he : p.phase = executed at hq
  cases hq with
  | searches hq =>
    obtain ⟨before, after, through⟩ := hq.through
    exact paces_of_open (by rw [he]; exact before) after (moved_through.trans through)
  | nears hq =>
    rcases hq.through with ⟨before, after, through⟩ | ⟨rfl, rfl, g, passage, through⟩
    · exact paces_of_open (by rw [he]; exact before) after (moved_through.trans through)
    · exact .plan (.inl he) rfl (moved_passage.trans passage) (moved_through.trans through)
  | passes hq =>
    subst he
    exact paces_of_passes hq ready
  | idle =>
    exact .stay (by rw [he]; rfl) (by rw [he]; exact Iff.rfl) (fun _ => moved_passage) moved_through

end Pilot

/-- The last two points are the center and the exit. -/
theorem Passage.legs_eq (g : Passage α) (pose : Pose α) (tolerance : α) :
    g.legs pose tolerance = (if g.isOnAxis pose tolerance then [] else [g.entry]) ++ [g.center] ++ [g.exit] := by
  unfold legs; split <;> rfl

namespace Logbook
variable [Numeral α] (L : Logbook α) {i j k n : Nat} {g : Passage α} {q : Pose α} {points : List (Pose α)}

/-- In cycle `i` the rover is driving through the gate and reaches `q`. -/
def Reaches (i : Nat) (q : Pose α) : Prop :=
  (L.pilot i).phase = .driveThrough ∧ (L.view i).pose.distanceTo q ≤ L.settings.arrivalTolerance

/-- In cycle `k` the points of the traverse are planned, along the passage `g`. -/
structure Plans (k : Nat) (g : Passage α) : Prop where
  executed : (L.pilot k).phase = .face ∨ (L.pilot k).phase = .driveToFarPost
  next : (L.pilot (k + 1)).phase = .turnThrough
  passage : (L.pilot (k + 1)).passage = some g
  through : (L.pilot (k + 1)).through = g.legs (L.view k).pose L.settings.arrivalTolerance

/-- The points were reached one after the other, in cycles after `k` and before the one given. -/
inductive Reached (k : Nat) : Nat → List (Pose α) → Prop
  | begin : Reached k (k + 1) []
  | wait {i : Nat} {points : List (Pose α)} (h : Reached k i points) : Reached k (i + 1) points
  | reach {i : Nat} {points : List (Pose α)} {q : Pose α} (h : Reached k i points) (near : L.Reaches i q) :
      Reached k (i + 1) (points ++ [q])

variable {L}

theorem Reached.lt (h : L.Reached k i points) : k < i := by
  induction h with
  | begin => exact Nat.lt_succ_self k
  | wait _ ih | reach _ _ ih => exact Nat.lt_succ_of_lt ih

theorem Reached.last (h : L.Reached k i (points ++ [q])) :
    ∃ j, k < j ∧ j < i ∧ L.Reaches j q ∧ L.Reached k j points := by
  generalize hall : points ++ [q] = all at h
  induction h with
  | begin => simp at hall
  | wait _ ih =>
    obtain ⟨j, hkj, hji, near, before⟩ := ih hall
    exact ⟨j, hkj, Nat.lt_succ_of_lt hji, near, before⟩
  | @reach i _ _ before near =>
    obtain ⟨rfl, hq⟩ := List.append_inj' hall rfl
    cases hq
    exact ⟨i, before.lt, Nat.lt_succ_self i, near, before⟩

variable (L)

theorem paces (hi : i < L.length) : (L.pilot i).Paces (L.view i) (L.pilot (i + 1)) :=
  Pilot.paces_of_shown (L.step i hi) (L.ready (Nat.le_of_lt hi))

theorem phase_zero : (L.pilot 0).phase = .spin := by
  obtain ⟨points, -, h⟩ := Pilot.of_start L.starts
  rw [h]

theorem through_zero : (L.pilot 0).through = [] := by
  obtain ⟨points, -, h⟩ := Pilot.of_start L.starts
  rw [h]

/-- While no traverse is planned, there are no points of one. -/
theorem through_eq_nil (hi : i ≤ L.length) (h : (L.pilot i).phase.closes = false) : (L.pilot i).through = [] := by
  induction i with
  | zero => exact L.through_zero
  | succ i ih =>
    cases L.paces hi with
    | stay closes ended passage through => rw [through]; exact ih (Nat.le_of_lt hi) (closes ▸ h)
    | plan executed next => rw [next] at h; cases h
    | reach executed through near passage next =>
      rcases next with ⟨next, -⟩ | ⟨next, -⟩ <;> (rw [next] at h; cases h)

/-- Once the traverse has begun, it goes on along one passage. -/
theorem closes_of_le (hij : i ≤ j) (hj : j ≤ L.length) (h : (L.pilot i).phase.closes = true) :
    (L.pilot j).phase.closes = true ∧ (L.pilot j).passage = (L.pilot i).passage := by
  induction j with
  | zero => rw [Nat.le_zero.1 hij] at h ⊢; exact ⟨h, rfl⟩
  | succ j ih =>
    rcases Nat.eq_or_lt_of_le hij with rfl | earlier
    · exact ⟨h, rfl⟩
    · obtain ⟨begun, same⟩ := ih (Nat.le_of_lt_succ earlier) (Nat.le_of_lt hj)
      cases L.paces hj with
      | stay closes ended passage => exact ⟨closes ▸ begun, (passage begun).trans same⟩
      | plan executed => rcases executed with h | h <;> (rw [h] at begun; cases begun)
      | reach executed through near passage next =>
        refine ⟨?_, passage.trans same⟩
        rcases next with ⟨next, -⟩ | ⟨next, -⟩ <;> (rw [next]; rfl)

/-- On its way through the gate the rover has reached the points planned that are not left. -/
theorem underway (hi : i ≤ L.length) (h : (L.pilot i).phase.passes = true) :
    ∃ k g done, L.Plans k g ∧ L.Reached k i done ∧
      done ++ (L.pilot i).through = g.legs (L.view k).pose L.settings.arrivalTolerance := by
  induction i with
  | zero => rw [L.phase_zero] at h; cases h
  | succ i ih =>
    cases L.paces hi with
    | stay closes ended passage through =>
      have before : (L.pilot i).phase.passes = true := by
        have begun : (L.pilot i).phase.closes = true := by rw [← closes]; exact Phase.closes_iff.2 (.inl h)
        refine (Phase.closes_iff.1 begun).resolve_right fun traversed => ?_
        rw [ended.2 traversed] at h; cases h
      obtain ⟨k, g, done, plans, reached, legs⟩ := ih (Nat.le_of_lt hi) before
      exact ⟨k, g, done, plans, reached.wait, by rw [through]; exact legs⟩
    | @plan g executed next passage through =>
      rw [L.settings_eq (Nat.le_of_lt hi)] at through
      exact ⟨i, g, [], ⟨executed, next, passage, through⟩, .begin, through⟩
    | @reach q executed through near passage next =>
      obtain ⟨k, g, done, plans, reached, legs⟩ := ih (Nat.le_of_lt hi) (by rw [executed]; rfl)
      rw [L.settings_eq (Nat.le_of_lt hi)] at near
      refine ⟨k, g, done ++ [q], plans, reached.reach ⟨executed, near⟩, ?_⟩
      rw [← legs, through, List.append_assoc]; rfl

/-- What does not hold at first and holds later has begun to hold in some cycle. -/
theorem exists_turn {P : Pilot α → Prop} (start : ¬ P (L.pilot 0)) (h : P (L.pilot n)) :
    ∃ i < n, ¬ P (L.pilot i) ∧ P (L.pilot (i + 1)) := by
  induction n with
  | zero => exact absurd h start
  | succ n ih =>
    by_cases before : P (L.pilot n)
    · obtain ⟨i, hi, turn⟩ := ih before
      exact ⟨i, Nat.lt_succ_of_lt hi, turn⟩
    · exact ⟨n, Nat.lt_succ_self n, before, h⟩

/-- A search that has traversed the gate has done so in a cycle in which it reached the last point. -/
theorem exists_end (hn : n ≤ L.length) (h : (L.pilot n).phase = .traversed) :
    ∃ e q, e < n ∧ L.Reaches e q ∧ (L.pilot e).through = [q] ∧ (L.pilot (e + 1)).phase = .traversed ∧
      ∀ i ≤ e, (L.pilot i).phase ≠ .traversed := by
  obtain ⟨e, he, before, after⟩ := L.exists_turn (P := fun p => p.phase = .traversed) (by rw [L.phase_zero]; decide) h
  have inherit (phase next : Phase) (hf : next ∈ phase.followers) (ht : phase = .traversed) : next = .traversed := by
    subst ht; simpa [Phase.followers] using hf
  cases L.paces (Nat.lt_of_lt_of_le he hn) with
  | stay closes ended => exact absurd (ended.1 after) before
  | plan executed next => rw [next] at after; cases after
  | @reach q executed through near passage next =>
    rcases next with ⟨next, -⟩ | ⟨-, rest⟩
    · rw [next] at after; cases after
    · rw [L.settings_eq (by omega)] at near
      refine ⟨e, q, he, ⟨executed, near⟩, by rw [through, rest], after, fun i hi traversed => before ?_⟩
      exact L.phase_of_le (P := (· = .traversed)) inherit hi (by omega) traversed

theorem Plans.closes {L : Logbook α} (h : L.Plans k g) : (L.pilot (k + 1)).phase.closes = true := by
  rw [h.next]; rfl

theorem Plans.not_closes {L : Logbook α} (h : L.Plans k g) : (L.pilot k).phase.closes = false := by
  rcases h.executed with h | h <;> (rw [h]; rfl)

/-- A traverse is planned once. -/
theorem Plans.le {L : Logbook α} {g' : Passage α} (h : L.Plans k g) (hi : i < L.length) (h' : L.Plans i g') :
    i ≤ k := by
  refine Nat.le_of_not_lt fun later => ?_
  have begun := (L.closes_of_le later (Nat.le_of_lt hi) h.closes).1
  rw [h'.not_closes] at begun; cases begun

/-- Once the rover has faced the gate it never searches again. If it has traversed the gate, then the points of the
traverse were planned in one cycle `k` and in no other, the one in which it first turned to them; the passage is the
same since; and after that cycle it reached the entry, if it was off the axis in cycle `k`, then the center, and then
the exit, in the cycle in which the traverse first was over. -/
theorem traversed_in_order :
    (∀ i j, i ≤ j → j ≤ L.length → (L.pilot i).phase = .face →
      (L.pilot j).phase.isEarly = false) ∧
    ∀ n ≤ L.length, (L.pilot n).phase = .traversed → ∃ k g, k < n ∧ L.Plans k g ∧
      (∀ i ≤ k, (L.pilot i).phase ≠ .turnThrough ∧ (L.pilot i).through = []) ∧
      (∀ i < L.length, i ≠ k →
        (L.pilot (i + 1)).through = (L.pilot i).through ∨
        ∃ q, (L.pilot i).through = q :: (L.pilot (i + 1)).through) ∧
      (∀ i, k < i → i ≤ L.length → (L.pilot i).passage = some g) ∧
      ∃ c e, k < c ∧ c < e ∧ e < n ∧
        (g.isOnAxis (L.view k).pose L.settings.arrivalTolerance = false → ∃ a, k < a ∧ a < c ∧ L.Reaches a g.entry) ∧
        L.Reaches c g.center ∧ L.Reaches e g.exit ∧
        (L.pilot (e + 1)).phase = .traversed ∧ ∀ i ≤ e, (L.pilot i).phase ≠ .traversed := by
  refine ⟨fun i j hij hj faced => ?_, fun n hn traversed => ?_⟩
  · exact L.phase_of_le (P := fun phase => phase.isEarly = false)
      (fun _ _ => Phase.not_isEarly_of_mem_followers) hij hj (by rw [faced]; rfl)
  obtain ⟨e, q, he, last, through, ended, first⟩ := L.exists_end hn traversed
  obtain ⟨k, g, done, plans, reached, legs⟩ := L.underway (i := e) (by omega) (by rw [last.1]; rfl)
  have hk := reached.lt
  have before (i : Nat) (hi : i ≤ k) : (L.pilot i).phase.closes = false := by
    refine Bool.eq_false_iff.2 fun begun => ?_
    have := (L.closes_of_le hi (by omega) begun).1
    rw [plans.not_closes] at this; cases this
  -- The point that is left is the exit, and the one reached before it the center.
  rw [through, Passage.legs_eq] at legs
  obtain ⟨rfl, hq⟩ := List.append_inj' legs rfl
  cases hq
  obtain ⟨c, hkc, hce, center, reached⟩ := reached.last
  refine ⟨k, g, by omega, plans, fun i hi => ⟨fun turning => ?_, L.through_eq_nil (by omega) (before i hi)⟩,
    fun i hi other => ?_, fun i hki hi => ?_, c, e, hkc, hce, he, fun off => ?_, center, last, ended, first⟩
  · have := before i hi
    rw [turning] at this; cases this
  · cases L.paces hi with
    | stay _ _ _ through => exact .inl through
    | reach _ through => exact .inr ⟨_, through⟩
    | plan executed next passage through =>
      rw [L.settings_eq (by omega)] at through
      have again : L.Plans i _ := ⟨executed, next, passage, through⟩
      exact absurd (Nat.le_antisymm (plans.le hi again) (again.le (by omega) plans)) other
  · rw [(L.closes_of_le hki hi plans.closes).2, plans.passage]
  · rw [off, if_neg (by decide)] at reached
    obtain ⟨a, hka, hac, entry, -⟩ := Reached.last (show L.Reached k c ([] ++ [g.entry]) from reached)
    exact ⟨a, hka, hac, entry⟩

end Logbook

/-- The views of a rover that has both posts in sight from the south and then drives through between them. -/
def Exact.drive (i : Nat) : View Rat :=
  ⟨if i < 9 then place 0 (-2) 0 else if i = 9 then place 0 0 0 else place 0 3 0, some gate, inSight⟩

/-- The record of a search of so many cycles, in each of which the gate is shown. -/
def Exact.search (view : Nat → View Rat) (shown : ∀ i, (view i).waypoint = some gate) (length : Nat) : Logbook Rat :=
  .ofViews carefree gate pilot ⟨_, build_pilot⟩ view
    (fun i w hw _ => by rw [shown i] at hw; cases hw; decide) length

def Exact.straight : Logbook Rat := search drive (fun _ => rfl) 11

theorem Logbook.traversed_in_order_straight :
    ∃ L : Logbook Rat, (L.pilot 11).phase = .traversed ∧
      ∃ k g c e, L.Plans k g ∧ k < c ∧ c < e ∧ L.Reaches c g.center ∧ L.Reaches e g.exit := by
  have ends : (match Pilot.build Exact.carefree Exact.gate with
      | .ok (.ok ⟨p, _⟩) => (p.after Exact.drive 11).phase == .traversed
      | _ => false) = true := by decide +kernel
  split at ends
  · next p events begins =>
    have numbered (i : Nat) : (Exact.drive i).Numbered := by
      intro w hw; cases hw; exact fun _ => by decide
    let L := ofViews Exact.carefree Exact.gate p ⟨events, begins⟩ Exact.drive numbered 11
    have traversed : (L.pilot 11).phase = .traversed := eq_of_beq ends
    obtain ⟨k, g, -, plans, -, -, -, c, e, hkc, hce, -, -, center, exit, -⟩ :=
      (traversed_in_order L).2 11 (Nat.le_refl 11) traversed
    exact ⟨L, traversed, k, g, c, e, plans, hkc, hce, center, exit⟩
  · cases ends

end GateNav
