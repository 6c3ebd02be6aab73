import Mathlib.Data.List.Perm.Subperm
import GateNav.Proofs.Belief.Gate
import GateNav.Proofs.Exact
import GateNav.Proofs.Navigator.Ticks
import GateNav.Proofs.Pilot.Retry
import GateNav.Proofs.Settings.Validate

/-!
# How many search points a search for a gate can take

While a gate is searched for, only its two posts are held, so search points are laid out around two ids at most. With
those of the search area that makes no more than three agendas full (`Navigator.Hunts`), and
`Navigator.search_bounded` follows by induction over the frames.
-/

namespace GateNav
variable {α : Type}

namespace Pilot

/-- The pilot keeps to agendas of so many points and to the posts of the gate. -/
structure Confined (p : Pilot α) (w : Waypoint α) (limit : Nat) : Prop where
  bounded : p.Bounded
  capacity : p.agenda.capacity = limit
  ids : ∀ id ∈ p.searchedAround, w.carries id = true

section Confined
variable {p p' : Pilot α} {w : Waypoint α} {limit : Nat} {b : Belief α}

theorem Confined.visited_le (h : p.Confined w limit) : p.agenda.visited ≤ 3 * limit := by
  have sub : p.searchedAround ⊆ [w.id, w.id + 1] := fun id hid => by
    simpa using Waypoint.eq_of_carries (h.ids id hid)
  have few : p.searchedAround.length ≤ 2 := (h.bounded.nodup.subperm sub).length_le
  calc p.agenda.visited
      ≤ p.agenda.visited + p.agenda.remaining := Nat.le_add_right _ _
    _ ≤ (1 + p.searchedAround.length) * p.agenda.capacity := h.bounded.budget
    _ ≤ 3 * limit := by rw [h.capacity]; exact Nat.mul_le_mul_right limit (by omega)

variable [Scalar α] [Trig α]

theorem Schedules.confined (h : Schedules b p p') (confined : p.Confined w limit) (held : b.OnGate w) :
    p'.Confined w limit := by
  refine ⟨h.bounded confined.bounded, h.capacity.trans confined.capacity, ?_⟩
  cases h with
  | keep agenda ids => rw [ids]; exact confined.ids
  | take next ids => rw [ids]; exact confined.ids
  | @layOut side id _ _ post new ids =>
    intro x hx
    rw [ids, List.mem_append, List.mem_singleton] at hx
    rcases hx with hx | rfl
    · exact confined.ids x hx
    · obtain ⟨s, hs, rfl⟩ := Option.map_eq_some_iff.1 post
      exact held side s hs

end Confined

end Pilot

/-- A sighting takes no search point. -/
theorem Tracker.not_takesPoint_of_observe [Scalar α] {s : TrackingSettings α} {t : Tracker α} {seen : Sighting α} :
    (t.observe s seen).events.countP (·.takesPoint) = 0 := by
  unfold observe
  split
  · split
    · rfl
    · split
      · rfl
      · dsimp only; split <;> rfl
  · dsimp only; split <;> rfl

namespace Navigator

theorem not_takesPoint_of_changes {old new : Phase} {cycles visited : Nat} :
    (changes old new cycles visited : List (Event α)).countP (·.takesPoint) = 0 := by
  unfold changes
  split <;> (cases new <;> rfl)

/-- Looking at what was reported takes no search point. -/
theorem not_takesPoint_of_perceive [Scalar α] [Trig α] {n : Navigator α} {frame : Frame α} {belief : Belief α}
    {seen : List (Event α)} (h : n.perceive frame = .ok ⟨belief, seen⟩) : seen.countP (·.takesPoint) = 0 := by
  have quiet {b : Belief α} {side : Side} {noted : Noted α (Tracker α)}
      (h : b.updateSide frame.pose n.waypoint side = .ok noted) : noted.events.countP (·.takesPoint) = 0 := by
    obtain ⟨seen, -, h⟩ := Checked.bind_eq_ok.1 h
    cases h
    exact Tracker.not_takesPoint_of_observe
  obtain ⟨left, hleft, h⟩ := Checked.bind_eq_ok.1 h
  obtain ⟨right, hright, h⟩ := Checked.bind_eq_ok.1 h
  cases h
  rw [List.countP_append, quiet hleft, quiet hright]

/-- Every search point taken in a cycle of a search is among its events. -/
theorem taken_of_cycle [Scalar α] [Trig α] {n : Navigator α} {frame : Frame α} {belief : Belief α}
    {seen : List (Event α)} {pilot : Pilot α} {c : Cycle α} (perceived : n.perceive frame = .ok ⟨belief, seen⟩)
    (run : pilot.run frame.pose n.waypoint belief = .ok c) :
    pilot.agenda.visited + (seen ++ c.events ++
      (changes n.phase c.pilot.phase (n.cycles + 1) c.pilot.agenda.visited : List (Event α))).countP (·.takesPoint) =
      c.pilot.agenda.visited := by
  have balance := Pilot.taken_of_run (v := ⟨frame.pose, n.waypoint, belief⟩) run
  rw [List.countP_append, List.countP_append, not_takesPoint_of_perceive perceived, not_takesPoint_of_changes]
  omega

/-- A search for the gate `w` that has taken so many search points, with agendas of at most `limit` points. -/
structure Hunts (n : Navigator α) (w : Waypoint α) (limit taken : Nat) : Prop where
  waypoint : n.waypoint = some w
  held : n.belief.OnGate w
  few : taken ≤ 3 * limit
  visited : n.visited ≤ 3 * limit
  pilot : ∀ p, n.pilot = some p → p.Confined w limit ∧ p.agenda.visited = taken

section Hunts
variable {n m : Navigator α} {w : Waypoint α} {limit taken : Nat} {frame : Frame α} {command : Command α}
  {events : List (Event α)}

theorem Hunts.notFound_le (h : n.Hunts w limit taken) {v : Nat} (ended : n.outcome? = some (.error (.notFound v))) :
    v ≤ 3 * limit := by
  unfold outcome? at ended
  split at ended
  · cases ended
  · split at ended <;> cases ended
    exact h.visited

variable [Scalar α] [Trig α]

theorem hunts_of_search [Numeral α] {started : Noted α (Navigator α)} (h : n.search w = .ok (.ok started)) :
    started.result.Hunts w n.settings.traverse.maxPoints 0 := by
  obtain ⟨p, events, hb, hs, -⟩ := of_search h
  obtain ⟨valid, starts⟩ := Pilot.of_build hb
  have capacity : p.agenda.capacity = n.settings.traverse.maxPoints ∧ p.searchedAround = [] ∧
      p.agenda.visited = 0 := by
    obtain ⟨points, -, rfl⟩ := Pilot.of_start starts
    exact ⟨Nat.max_eq_left (TraverseSettings.validate_eq_ok.1 valid).maxPoints, rfl, rfl⟩
  rw [hs]
  refine ⟨rfl, Belief.onGate_reset, Nat.zero_le _, Nat.zero_le _, fun q hq => ?_⟩
  cases hq
  refine ⟨⟨Pilot.bounded_of_start starts, capacity.1, ?_⟩, capacity.2.2⟩
  rw [capacity.2.1]; exact nofun

variable [Scalar.Signed α]

theorem Hunts.perceive (h : n.Hunts w limit taken) (gate : w.isGate = true) (numbered : w.Numbered)
    {belief : Belief α} {seen : List (Event α)} (hp : n.perceive frame = .ok ⟨belief, seen⟩) : belief.OnGate w := by
  unfold Navigator.perceive at hp
  rw [h.waypoint] at hp
  have held : ((n.belief.setObstacle frame.obstacle).setSightings frame.sightings).OnGate w := h.held
  exact held.update gate numbered hp

/-- A cycle of the pilot within a search. -/
theorem Hunts.run (h : n.Hunts w limit taken) (gate : w.isGate = true) (numbered : w.Numbered) {belief : Belief α}
    {seen : List (Event α)} {pilot : Pilot α} {c : Cycle α} (busy : n.pilot = some pilot)
    (perceived : n.perceive frame = .ok ⟨belief, seen⟩) (run : pilot.run frame.pose n.waypoint belief = .ok c) :
    c.belief.OnGate w ∧ c.pilot.Confined w limit ∧
      c.pilot.agenda.visited = taken + (seen ++ c.events ++
        (changes n.phase c.pilot.phase (n.cycles + 1) c.pilot.agenda.visited : List (Event α))).countP
          (·.takesPoint) := by
  have held := h.perceive gate numbered perceived
  obtain ⟨confined, visited⟩ := h.pilot pilot busy
  have shown := Pilot.shown_of_run (v := ⟨frame.pose, n.waypoint, belief⟩) run
  obtain ⟨next, q, b, move, same, -⟩ := Cycle.pilot_of_run run
  refine ⟨?_, (Pilot.schedules_of_shown shown).confined confined held, ?_⟩
  · rw [same]
    rcases move.belief with rfl | rfl
    · exact held
    · exact held.forgive
  · rw [← visited]
    exact (taken_of_cycle perceived run).symm

theorem Hunts.ticks (h : n.Hunts w limit taken) (gate : w.isGate = true) (numbered : w.Numbered)
    (tick : n.Ticks frame m command events) : m.Hunts w limit (taken + events.countP (·.takesPoint)) := by
  cases tick with
  | rest idle perceived =>
    have held := h.perceive gate numbered perceived
    rw [not_takesPoint_of_perceive perceived]
    refine ⟨h.waypoint, held, h.few, h.visited, fun p (busy : n.pilot = some p) => ?_⟩
    rw [busy] at idle; cases idle
  | go busy perceived run =>
    obtain ⟨held, confined, visited⟩ := h.run gate numbered busy perceived run
    rw [← visited]
    exact ⟨h.waypoint, held, confined.visited_le, h.visited, fun p hp => by cases hp; exact ⟨confined, rfl⟩⟩
  | finish busy perceived run =>
    obtain ⟨held, confined, visited⟩ := h.run gate numbered busy perceived run
    rw [← visited]
    exact ⟨h.waypoint, held, confined.visited_le, confined.visited_le, fun p hp => by cases hp⟩

theorem Hunts.watch {frames : List (Frame α)} {last : Noted α (Navigator α)} (h : n.Hunts w limit taken)
    (gate : w.isGate = true) (numbered : w.Numbered) (hw : n.watch frames = .ok last) :
    last.result.Hunts w limit (taken + last.events.countP (·.takesPoint)) := by
  induction frames generalizing n taken last with
  | nil => cases hw; exact h
  | cons frame frames ih =>
    obtain ⟨m, command, events, later, first, rest, rfl⟩ := watch_cons hw
    have done := ih (h.ticks gate numbered (ticks_of_tick first)) rest
    rwa [List.countP_append, ← Nat.add_assoc]

end Hunts

/-- In every search the ids around which search points were laid out are distinct, the agenda never runs over, and
the points taken and left are no more than one full agenda and another one for each of these ids. So no search for a
gate ever takes more than three agendas full of search points, by its events and by the count of its pilot, or
reports that it has. -/
theorem search_bounded [Scalar α] [Scalar.Signed α] [Trig α] [Numeral α] :
    (∀ (L : Logbook α), ∀ i ≤ L.length,
      (L.pilot i).searchedAround.Nodup ∧
      (L.pilot i).agenda.remaining ≤ (L.pilot i).agenda.capacity ∧
      (L.pilot i).agenda.visited + (L.pilot i).agenda.remaining ≤
        (1 + (L.pilot i).searchedAround.length) * (L.pilot i).agenda.capacity) ∧
    ∀ (n : Navigator α) (w : Waypoint α) (started : Noted α (Navigator α)),
      n.search w = .ok (.ok started) → w.isGate = true → w.id < Int32.maxValue →
      ∀ (frames : List (Frame α)) (last : Noted α (Navigator α)), started.result.watch frames = .ok last →
        last.events.countP (·.takesPoint) ≤ 3 * n.settings.traverse.maxPoints ∧
        (∀ p, last.result.pilot = some p → p.agenda.visited = last.events.countP (·.takesPoint)) ∧
        ∀ v, last.result.outcome? = some (.error (.notFound v)) → v ≤ 3 * n.settings.traverse.maxPoints := by
  refine ⟨fun L i hi => ?_, fun n w started begins gate small frames last watched => ?_⟩
  · obtain ⟨nodup, room, budget⟩ := L.bounded hi
    exact ⟨nodup, room, budget⟩
  · have hunts := (hunts_of_search begins).watch gate (fun _ => Int32.ne_of_lt small) watched
    rw [Nat.zero_add] at hunts
    exact ⟨hunts.few, fun p busy => (hunts.pilot p busy).2, fun v ended => hunts.notFound_le ended⟩

end Navigator

/-- The frames of a rover that goes from one search point to the next. At the first two it comes upon a post of the
gate, each time the other one, and loses it again. -/
def Exact.postByPost (i : Nat) : Frame Rat where
  pose := place 0 (if i < 7 then 3 else if i < 14 then 7 else 11) 0
  sightings :=
    if 3 ≤ i ∧ i < 7 then ⟨⟨1, 0, 3⟩, .none⟩ else if 10 ≤ i ∧ i < 14 then ⟨⟨1, 0, 4⟩, .none⟩ else Sighting.nothing
  obstacle := .clear

/-- With one search point for the area and one more around each post, three are taken, which is as many as there can
be, and the search reports them. -/
theorem Navigator.search_bounded_post_by_post :
    ∃ started last : Noted Rat (Navigator Rat),
      Exact.navigator.search Exact.gate = .ok (.ok started) ∧
      started.result.watch ((List.range 18).map Exact.postByPost) = .ok last ∧
      last.events.countP (·.takesPoint) = 3 ∧
      3 ≤ 3 * Exact.navigator.settings.traverse.maxPoints ∧ Exact.navigator.settings.traverse.maxPoints = 1 ∧
      last.result.outcome? = some (.error (.notFound 3)) := by
  have ends : (match Exact.navigator.search Exact.gate with
      | .ok (.ok started) => match started.result.watch ((List.range 18).map Exact.postByPost) with
        | .ok last => last.events.countP (·.takesPoint) == 3 &&
            decide (last.result.outcome? = some (.error (.notFound 3)))
        | .error _ => false
      | _ => false) = true := by decide +kernel
  split at ends
  · next started begins =>
    split at ends
    · next last watched =>
      obtain ⟨taken, failed⟩ := Bool.and_eq_true_iff.1 ends
      have bound := (search_bounded.2 _ _ started begins rfl (by decide) _ last watched).1
      rw [eq_of_beq taken] at bound
      exact ⟨started, last, begins, watched, eq_of_beq taken, bound, rfl, of_decide_eq_true failed⟩
    · cases ends
  · cases ends

end GateNav
