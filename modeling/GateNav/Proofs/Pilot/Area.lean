import GateNav.Proofs.Pilot.Retry
import GateNav.Proofs.Pilot.Traverse
import GateNav.Proofs.Settings.Validate

/-!
# The area of a search

Search points come from two sources: the layout around the waypoint, and the layouts around posts, which may stand
anywhere. Both are cut down to the search area, that of the waypoint the pilot was built for, and a search point becomes
the goal only by being taken from the agenda. So neither the agenda nor the goal ever lies outside
(`Logbook.stays_within_area`).
-/

namespace GateNav
variable {α : Type}

namespace Agenda
variable {β : Type} {a : Agenda β} {points : List β} {q : β}

theorem mem_of_mem_putFirst (h : q ∈ (a.putFirst points).points) : q ∈ points ∨ q ∈ a.points := by
  rw [points_putFirst] at h
  exact List.mem_append.1 (List.mem_of_mem_take h)

theorem mem_of_next {b : Agenda β} (h : a.next = (some q, b)) : q ∈ a.points ∧ ∀ r ∈ b.points, r ∈ a.points := by
  rw [(next_eq_some h).1]
  exact ⟨List.mem_cons_self .., fun r hr => List.mem_cons_of_mem q hr⟩

end Agenda

/-- A search point that is the goal now has been so before, or it was the next one on the agenda. -/
def Pilot.KeepsGoal (p q : Pilot α) : Prop :=
  ∀ x, q.goal = some (.searchPoint x) → p.goal = some (.searchPoint x) ∨ p.agenda.next = (some x, q.agenda)

theorem Pilot.KeepsGoal.of_goal {p q : Pilot α} (same : q.goal = p.goal) : p.KeepsGoal q := fun _ h => .inl (same ▸ h)

theorem Pilot.KeepsGoal.of_none {p q : Pilot α} (none : q.goal = none) : p.KeepsGoal q := fun x h => by
  rw [none] at h; cases h

variable [Scalar α] [Trig α]

theorem Pilot.covers_of_searchPoints {pattern : Pattern} {spacing : α} {area : Waypoint α} {center q : Pose α}
    {points : List (Pose α)} (layout : searchPoints pattern spacing area center = .ok points) (hq : q ∈ points) :
    area.covers q = true := by
  obtain ⟨all, -, layout⟩ := Checked.bind_eq_ok.1 layout
  rw [Checked.pure_eq_ok] at layout
  rw [← layout] at hq
  exact (List.mem_filter.1 hq).2

/-- Whatever the pilot has still to search lies within its area. -/
structure Pilot.WithinArea (p : Pilot α) : Prop where
  agenda : ∀ q ∈ p.agenda.points, p.area.covers q = true
  goal : ∀ q, p.goal = some (.searchPoint q) → p.area.covers q = true

namespace Cycle
variable {c : Cycle α} {executed next : Phase} {p q : Pilot α} {b : Belief α} {pose : Pose α}

theorem Approaches.keepsGoal {side : Side} (h : Approaches pose b p side next q) : p.KeepsGoal q := by
  cases h with
  | lose | reachAgain | reach => exact .of_none rfl
  | stray | drive => exact .of_goal rfl

theorem Searches.keepsGoal (h : c.Searches executed next q b) : c.pilot.KeepsGoal q := by
  cases h
  case takePoint next =>
    intro x hx
    cases hx
    exact .inr next
  case approach => exact fun x hx => by cases hx
  case driveToPost goal unlocated move =>
    intro x hx
    rcases move.keepsGoal x hx with same | next
    · rw [Pilot.survey_goal] at same; exact .inl same
    · rw [Pilot.survey_agenda] at next; exact .inr next
  case runOut | loseAim | locate | reachPoint => exact .of_none rfl
  all_goals exact .of_goal rfl

theorem Nears.keepsGoal (h : c.Nears executed next q b) : c.pilot.KeepsGoal q := by
  cases h
  case loseFacing | loseDriving => exact .of_none rfl
  case driveUp plan move =>
    have adopted (draft : Option (Passage α)) : ((c.pilot.trust c.belief).adopt c.pose draft).goal = c.pilot.goal := by
      cases draft <;> rfl
    cases plan with
    | anew => cases move <;> exact .of_goal (adopted _)
    | leave => cases move <;> exact .of_goal rfl
  all_goals exact .of_goal rfl

theorem Finishes.keepsGoal {waypoint : Option (Waypoint α)} (h : Finishes pose waypoint b p next q) :
    p.KeepsGoal q := by
  have adopted (draft : Option (Passage α)) : ((p.survey b).adopt pose draft).goal = p.goal := by
    cases draft <;> exact Pilot.survey_goal
  cases h <;> exact .of_goal (adopted _)

theorem Passes.keepsGoal (h : c.Passes executed next q b) : c.pilot.KeepsGoal q := by
  cases h
  case endTurning finish | endDriving finish | reachEnd finish => exact finish.keepsGoal
  all_goals exact .of_goal rfl

theorem Advances.keepsGoal (h : c.Advances executed next q b) : c.pilot.KeepsGoal q := by
  cases h with
  | searches h => exact h.keepsGoal
  | nears h => exact h.keepsGoal
  | passes h => exact h.keepsGoal
  | idle => exact .of_goal rfl

end Cycle

namespace Pilot
variable {p p' : Pilot α} {v : View α}

theorem withinArea_of_start {settings : TraverseSettings α} {area : Waypoint α} (h : start settings area = .ok p) :
    p.WithinArea := by
  obtain ⟨points, layout, rfl⟩ := of_start h
  refine ⟨fun q hq => covers_of_searchPoints layout (List.mem_of_mem_take hq), fun q hq => ?_⟩
  cases hq

theorem WithinArea.shown (within : p.WithinArea) (h : p.shown v = .ok p') : p'.WithinArea := by
  have area : p'.area = p.area := congrArg (·.2.2) (orders_of_shown h)
  constructor
  · intro q hq
    rw [area]
    cases schedules_of_shown h with
    | keep agenda => rw [agenda] at hq; exact within.agenda q hq
    | take next => exact within.agenda q ((Agenda.mem_of_next next).2 q hq)
    | layOut held new ids layout agenda =>
      rw [agenda] at hq
      rcases Agenda.mem_of_mem_putFirst hq with laid | left
      · exact covers_of_searchPoints layout laid
      · exact within.agenda q left
  · intro q hq
    rw [area]
    obtain ⟨next, r, b, move, rfl⟩ := of_shown h
    rw [moved_goal] at hq
    rcases move.keepsGoal q hq with before | next
    · exact within.goal q before
    · exact within.agenda q (Agenda.mem_of_next next).1

end Pilot

namespace Logbook
variable [Numeral α] (L : Logbook α) {i : Nat}

theorem capacity_eq (hi : i ≤ L.length) : (L.pilot i).agenda.capacity = L.settings.maxPoints := by
  have enough := (TraverseSettings.validate_eq_ok.1 L.valid).maxPoints
  refine L.invariant (P := fun p => p.agenda.capacity = L.settings.maxPoints) ?_ ?_ hi
  · obtain ⟨points, -, h⟩ := Pilot.of_start L.starts
    rw [h]
    exact Nat.max_eq_left (by omega)
  · intro p p' v h before
    exact (Pilot.schedules_of_shown h).capacity.trans before

/-- Throughout a search, whatever the views show, all points on the agenda and a search point that is the goal lie
within the search area of the waypoint that the pilot was built for, and the agenda is never longer than the settings
allow. -/
theorem stays_within_area (hi : i ≤ L.length) :
    (∀ q ∈ (L.pilot i).agenda.points, L.area.covers q = true) ∧
      (∀ q, (L.pilot i).goal = some (.searchPoint q) → L.area.covers q = true) ∧
      (L.pilot i).agenda.remaining ≤ L.settings.maxPoints := by
  have within := L.invariant (Pilot.withinArea_of_start L.starts) (fun h within => within.shown h) hi
  have bounded := L.invariant (Pilot.bounded_of_start L.starts) (fun h => (Pilot.schedules_of_shown h).bounded) hi
  rw [← L.area_eq hi, ← L.capacity_eq hi]
  exact ⟨within.agenda, within.goal, bounded.room⟩

end Logbook

/-- The gate, with an area that a post five metres away is not in. -/
def Exact.nearby : Waypoint Rat := gate.within 4

/-- The rover stands before a lone post, five metres east of the gate. -/
def Exact.strayPost : View Rat :=
  ⟨place 4 0 0, some nearby, { Belief.start prompt with trackers := ⟨post .left 3 5, .start .right prompt⟩ }⟩

/-- Points are laid out around a post outside of the area, and the next one to be searched lies inside. -/
theorem Logbook.stays_within_area_stray :
    ∃ L : Logbook Rat, L.area = Exact.nearby ∧ Exact.nearby.covers (Exact.place 5 0 0) = false ∧ 5 ≤ L.length ∧
      (L.pilot 5).searchedAround = [3] ∧
        ∃ q, (L.pilot 5).goal = some (.searchPoint q) ∧ Exact.nearby.covers q = true := by
  have ends : (match Pilot.build Exact.carefree Exact.nearby with
      | .ok (.ok ⟨p, _⟩) =>
        let q := p.after (fun _ => Exact.strayPost) 5
        q.searchedAround == [3] && q.goal == some (.searchPoint (Exact.place 2 0 0))
      | _ => false) = true := by decide +kernel
  split at ends
  · next p events begins =>
    have numbered : Exact.strayPost.Numbered := fun w hw _ => by cases hw; decide
    let L : Logbook Rat :=
      .ofViews Exact.carefree Exact.nearby p ⟨events, begins⟩ (fun _ => Exact.strayPost) (fun _ => numbered) 5
    simp only [Bool.and_eq_true, beq_iff_eq] at ends
    obtain ⟨around, goal⟩ := ends
    have within := (stays_within_area L (i := 5) (Nat.le_refl 5)).2.1 _ goal
    exact ⟨L, rfl, by decide +kernel, Nat.le_refl 5, around, _, goal, within⟩
  · cases ends

end GateNav
