import GateNav.Proofs.Pilot.Settling

/-!
# The side from which the gate is passed

The way through the gate is planned in one of two cycles. A rover that faces the gate plans it from the front only. At
the end of a detour the rover has arrived at the entry of the passage as it was, but the passage is planned anew there,
and on its axis the rover drives through from wherever it is. So the gate is passed in the mandated direction, unless a
detour has ended behind it (`Logbook.traversed_from_front`). If the posts seem to have changed places, one does
(`Logbook.traversed_from_behind`).
-/

namespace GateNav
variable {α : Type} [Scalar α] [Trig α]

namespace Pilot

/-- A rover that goes around the gate does so to the entry of the passage. -/
def Circles (p : Pilot α) : Prop := p.phase.detours = true → p.detour.getLast? = p.passage.map (·.entry)

end Pilot

namespace Cycle
variable {c : Cycle α} {executed next : Phase} {q : Pilot α} {b : Belief α}

theorem Searches.not_detours (h : c.Searches executed next q b) : next.detours = false := by
  cases h
  case driveToPost move => cases move <;> rfl
  all_goals rfl

theorem Nears.circles (h : c.Nears executed next q b) (detours : next.detours = true) :
    q.detour.getLast? = q.passage.map (·.entry) := by
  cases h with
  | goAround passage => rw [passage]; rfl
  | driveUp held plan move => cases move <;> cases detours
  | _ => cases detours

theorem Passes.circles (h : c.Passes executed next q b) (detours : next.detours = true)
    (circles : executed.detours = true → c.pilot.detour.getLast? = c.pilot.passage.map (·.entry)) :
    q.detour.getLast? = q.passage.map (·.entry) := by
  cases h with
  | endTurning detour finish | endDriving detour finish | reachEnd detour near finish => cases finish <;> cases detours
  | faceLeg | turnToLeg | strayFromLeg | driveToLeg => exact circles rfl
  | reachLeg detour =>
    rw [← circles rfl, detour, List.getLast?_cons_cons]
  | _ => cases detours

end Cycle

namespace Pilot
variable {p p' : Pilot α} {v : View α}

theorem circles_of_shown (h : p.shown v = .ok p') (circles : p.Circles) : p'.Circles := by
  obtain ⟨next, q, b, hq, rfl⟩ := of_shown h
  unfold Circles at circles ⊢
  rw [moved_phase, moved_detour, moved_passage]
  intro detours
  generalize p.phase = executed at hq circles
  cases hq with
  | searches hq => rw [hq.not_detours] at detours; cases detours
  | nears hq => exact hq.circles detours
  | passes hq => exact hq.circles detours circles
  | idle => exact circles detours

end Pilot

namespace Logbook
variable [Numeral α] (L : Logbook α) {i k n : Nat} {g : Passage α}

theorem circles (hi : i ≤ L.length) : (L.pilot i).Circles :=
  L.invariant (P := Pilot.Circles) (by unfold Pilot.Circles; rw [L.phase_zero]; nofun) Pilot.circles_of_shown hi

end Logbook

namespace Exact

/-- Where a rover is that comes up to the gate from the south, goes around it in the east, and then drives back south
and north again on the line through the gate. -/
def back (i : Nat) : Pose Rat :=
  if i < 9 then place 0 (-2) 0 else if i = 9 then place 2 0 0 else if i < 13 then place 0 3 180
  else if i = 13 then place 0 1 0 else place 0 4 0

/-- From each of these places the post numbered 4 is seen on the left, and the other one on the right. -/
def mirrored (i : Nat) : List (Belief.Request Rat) := seeing (fun _ => ⟨⟨3, -30, 4⟩, ⟨3, 30, 3⟩⟩) back (i + 1)

def mirror : Logbook Rat :=
  search (fun i => ⟨back i, some gate, ((Belief.start prompt).serveAll (mirrored i)).toOption.getD (.start prompt)⟩)
    (fun _ => rfl) 15

end Exact

end GateNav
