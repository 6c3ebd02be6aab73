import GateNav.Proofs.Belief.Chronicle
import GateNav.Proofs.Pilot.Traverse

/-!
# At rest in front of the gate

Before it faces the gate the rover rests in front of it, for as many cycles as a window has places, so that the windows
hold nothing from the time it moved. The cycles are counted in the pilot. `Pilot.Settles` says what one cycle does to
the count, and `Logbook.Counts` what a count stands for: that many cycles of rest, the last of them just now.

The count survives one way out of the phase. When a post is lost the rover looks around again, and the cycles counted
until then are counted in at the next visit (`Logbook.Forfeits`).
-/

namespace GateNav
variable {α : Type} [Scalar α] [Trig α]

namespace Pilot

/-- The rover is in front of the passage that is planned, and stays there. -/
structure AtRest (p : Pilot α) (pose : Pose α) : Prop where
  arrived : ∃ g, p.passage = some g ∧ pose.distanceTo g.center ≤ p.settings.standoff
  hold : p.steering = .hold

/-- What one cycle does to the count of the cycles at rest. -/
inductive Settles (v : View α) (p p' : Pilot α) : Prop
  | rest (executed : p.phase = .driveToCenter) (next : p'.phase = .driveToCenter) (atRest : p'.AtRest v.pose)
      (count : p'.settledCycles = p.settledCycles + 1)
  | settle (executed : p.phase = .driveToCenter) (next : p'.phase = .face) (atRest : p'.AtRest v.pose)
      (enough : v.belief.settings.windowSize ≤ p.settledCycles) (count : p'.settledCycles = 0)
  | move (executed : p.phase = .driveToCenter) (next : p'.phase ≠ .face) (count : p'.settledCycles = 0)
  /-- A post is lost, and the count stays. -/
  | lose {side : Side} (executed : p.phase = .driveToCenter) (next : p'.phase = .spin)
      (lost : (v.belief.tracker side).hasPost = false) (count : p'.settledCycles = p.settledCycles)
  | elsewhere (away : p.phase ≠ .driveToCenter) (count : p'.settledCycles = p.settledCycles)

end Pilot

namespace Cycle
variable {c : Cycle α} {executed next : Phase} {p q : Pilot α} {b : Belief α} {pose : Pose α}

theorem Searches.settledCycles (h : c.Searches executed next q b) :
    executed ≠ .driveToCenter ∧ q.settledCycles = c.pilot.settledCycles := by
  cases h
  case locate => exact ⟨nofun, Pilot.adopt_settledCycles⟩
  case driveToPost move => cases move <;> exact ⟨nofun, Pilot.survey_settledCycles⟩
  all_goals exact ⟨nofun, rfl⟩

theorem Finishes.settledCycles {waypoint : Option (Waypoint α)} (h : Finishes pose waypoint b p next q) :
    q.settledCycles = p.settledCycles := by
  cases h <;> simp

theorem Passes.settledCycles (h : c.Passes executed next q b) :
    executed ≠ .driveToCenter ∧ q.settledCycles = c.pilot.settledCycles := by
  cases h
  case endTurning finish | endDriving finish | reachEnd finish => exact ⟨nofun, finish.settledCycles⟩
  all_goals exact ⟨nofun, rfl⟩

theorem Replans.settledCycles (h : c.Replans p) : p.settledCycles = c.pilot.settledCycles := by
  cases h with
  | anew => exact Pilot.adopt_settledCycles
  | leave => rfl

end Cycle

namespace Pilot
variable {p p' q planned : Pilot α} {v : View α} {b : Belief α} {executed next : Phase}

theorem AtRest.moved {pose : Pose α} (h : q.AtRest pose) : (q.moved b executed next).AtRest pose := by
  obtain ⟨⟨g, passage, near⟩, hold⟩ := h
  exact ⟨⟨g, moved_passage.trans passage, by rwa [moved_settings]⟩, moved_steering.trans hold⟩

theorem settles_of_drivesUp (executed : p.phase = .driveToCenter) (count : planned.settledCycles = p.settledCycles)
    (passage : planned.passage.isSome = true) (move : Cycle.DrivesUp v.pose v.belief planned next q) :
    Settles v p (q.moved b .driveToCenter next) := by
  cases move with
  | blind gone => rw [gone] at passage; cases passage
  | rest there near unsettled =>
    have atRest : Pilot.AtRest { planned with steering := .hold, settledCycles := planned.settledCycles + 1 } v.pose :=
      ⟨⟨_, there, near⟩, rfl⟩
    exact .rest executed rfl atRest.moved (moved_settledCycles.trans (congrArg (· + 1) count))
  | settle there near settled =>
    have atRest : Pilot.AtRest { planned with steering := .hold, settledCycles := 0 } v.pose := ⟨⟨_, there, near⟩, rfl⟩
    exact .settle executed rfl atRest.moved (by rw [← count]; exact Nat.le_of_not_lt settled) moved_settledCycles
  | stray | drive => exact .move executed nofun moved_settledCycles

theorem settles_of_shown (h : p.shown v = .ok p') (ready : p.Ready p.phase) : Settles v p p' := by
  obtain ⟨next, q, b, move, rfl⟩ := of_shown h
  generalize executed : p.phase = phase at move ready ⊢
  have elsewhere (away : phase ≠ .driveToCenter) (count : q.settledCycles = p.settledCycles) :
      Settles v p (q.moved b phase next) :=
    .elsewhere (by rwa [executed]) (moved_settledCycles.trans count)
  cases move with
  | searches move => exact elsewhere move.settledCycles.1 move.settledCycles.2
  | passes move => exact elsewhere move.settledCycles.1 move.settledCycles.2
  | idle idle => exact elsewhere (by rintro rfl; revert idle; decide) rfl
  | nears move =>
    cases move with
    | loseDriving lost => exact .lose executed rfl (Cycle.hasPost_of_lostSide? lost) moved_settledCycles
    | driveUp held plan move =>
      exact settles_of_drivesUp executed plan.settledCycles ((plan.ready ready).passage rfl) move
    | _ => exact elsewhere nofun rfl

end Pilot

namespace Logbook
variable [Numeral α] (L : Logbook α) {i k n s : Nat}

/-- Cycle `i` is spent at rest in front of the gate. -/
def Rests (i : Nat) : Prop := (L.pilot i).phase = .driveToCenter ∧ (L.pilot (i + 1)).AtRest (L.view i).pose

/-- In cycle `i` the rover is on its way to the center and loses a post. -/
def LosesPost (i : Nat) : Prop :=
  (L.pilot i).phase = .driveToCenter ∧ ∃ side, ((L.view i).belief.tracker side).hasPost = false

/-- In cycle `k` a post is lost with cycles of rest to its name, and until cycle `n` nothing makes the pilot forget
them: whenever it is on its way to the center it rests there, or loses a post again. -/
structure Carries (k n : Nat) : Prop where
  before : k < n
  loses : L.LosesPost k
  counted : 0 < (L.pilot k).settledCycles
  kept : ∀ i, k < i → i < n → (L.pilot i).phase = .driveToCenter → L.Rests i ∨ L.LosesPost i

/-- What the count stands for at cycle `n`: cycles of rest that led up to it, or some from before a post was lost. -/
inductive Counts (n : Nat) : Prop
  | fresh (none_counted : (L.pilot n).settledCycles = 0)
  | resting (still : (L.pilot n).phase = .driveToCenter) (few : (L.pilot n).settledCycles ≤ n)
      (rests : ∀ i, n - (L.pilot n).settledCycles ≤ i → i < n → L.Rests i)
  | carried {k : Nat} (carries : L.Carries k n)

variable {L}

theorem Carries.succ (h : L.Carries k n) (kept : (L.pilot n).phase = .driveToCenter → L.Rests n ∨ L.LosesPost n) :
    L.Carries k (n + 1) := by
  refine ⟨Nat.lt_succ_of_lt h.before, h.loses, h.counted, fun i hk hi driving => ?_⟩
  rcases Nat.lt_succ_iff_lt_or_eq.1 hi with earlier | rfl
  · exact h.kept i hk earlier driving
  · exact kept driving

theorem Counts.succ (h : L.Counts n) (hn : n < L.length) : L.Counts (n + 1) := by
  cases Pilot.settles_of_shown (L.step n hn) (L.ready (Nat.le_of_lt hn)) with
  | settle _ _ _ _ count | move _ _ count => exact .fresh count
  | rest executed next atRest count =>
    have now : L.Rests n := ⟨executed, atRest⟩
    cases h with
    | fresh none_counted =>
      refine .resting next (by omega) fun i hi hin => ?_
      have last : i = n := by omega
      rwa [last]
    | resting still few rests =>
      refine .resting next (by omega) fun i hi hin => ?_
      rcases Nat.lt_succ_iff_lt_or_eq.1 hin with earlier | rfl
      · exact rests i (by omega) earlier
      · exact now
    | carried carries => exact .carried (carries.succ fun _ => .inl now)
  | @lose side executed next lost count =>
    have now : L.LosesPost n := ⟨executed, side, lost⟩
    cases h with
    | fresh none_counted => exact .fresh (count.trans none_counted)
    | carried carries => exact .carried (carries.succ fun _ => .inr now)
    | resting still few rests =>
      rcases Nat.eq_zero_or_pos (L.pilot n).settledCycles with zero | counted
      · exact .fresh (count.trans zero)
      · exact .carried ⟨Nat.lt_succ_self n, now, counted, fun i hk hi => by omega⟩
  | elsewhere away count =>
    cases h with
    | fresh none_counted => exact .fresh (count.trans none_counted)
    | resting still => exact absurd still away
    | carried carries => exact .carried (carries.succ fun driving => absurd driving away)

theorem counts (hn : n ≤ L.length) : L.Counts n := by
  induction n with
  | zero =>
    obtain ⟨points, -, start⟩ := Pilot.of_start L.starts
    exact .fresh (by rw [start])
  | succ n ih => exact (ih (Nat.le_of_lt hn)).succ hn

/-- The rover faces the gate from rest. If the windows have `w` places and the pilot turns from the drive to the center
to facing the gate, then it rests in this cycle, and so it did in the `w` cycles before, all of them on the drive to the
center; unless cycles of rest were carried over from before a post was lost. -/
theorem faces_from_rest (L : Logbook α) (n w : Nat) (hn : n < L.length)
    (places : (L.view n).belief.settings.windowSize = w) (driving : (L.pilot n).phase = .driveToCenter)
    (faces : (L.pilot (n + 1)).phase = .face) :
    L.Rests n ∧ ((w ≤ n ∧ ∀ i, n - w ≤ i → i < n → L.Rests i) ∨ ∃ k, L.Carries k n) := by
  cases Pilot.settles_of_shown (L.step n hn) (L.ready (Nat.le_of_lt hn)) with
  | rest executed next => rw [next] at faces; cases faces
  | move executed next => exact absurd faces next
  | lose executed next => rw [next] at faces; cases faces
  | elsewhere away => exact absurd driving away
  | settle executed next atRest enough =>
    refine ⟨⟨driving, atRest⟩, ?_⟩
    rw [places] at enough
    cases L.counts (Nat.le_of_lt hn) with
    | fresh none_counted => exact .inl ⟨by omega, fun i hi hin => by omega⟩
    | resting still few rests => exact .inl ⟨by omega, fun i hi hin => rests i (by omega) hin⟩
    | carried carries => exact .inr ⟨_, carries⟩

end Logbook

theorem Logbook.faces_from_rest_straight :
    ∃ L : Logbook Rat, (L.pilot 6).phase = .driveToCenter ∧ (L.pilot 7).phase = .face ∧ L.Rests 5 ∧ L.Rests 6 := by
  have rests : (match Pilot.build Exact.carefree Exact.gate with
      | .ok (.ok ⟨p, _⟩) =>
        (p.after Exact.drive 6).phase == .driveToCenter && (p.after Exact.drive 7).phase == .face
      | _ => false) = true := by decide +kernel
  split at rests
  · next p events begins =>
    have numbered (i : Nat) : (Exact.drive i).Numbered := by
      intro w hw; cases hw; exact fun _ => by decide
    let L := ofViews Exact.carefree Exact.gate p ⟨events, begins⟩ Exact.drive numbered 11
    rw [Bool.and_eq_true, beq_iff_eq, beq_iff_eq] at rests
    obtain ⟨now, ⟨-, before⟩ | ⟨k, carries⟩⟩ := faces_from_rest L 6 1 (show 6 < 11 by decide) rfl rests.1 rests.2
    · exact ⟨L, rests.1, rests.2, before 5 (Nat.le_refl 5) (by decide), now⟩
    · -- Both posts are in sight throughout.
      obtain ⟨-, side, lost⟩ := carries.loses
      cases side <;> cases lost
  · cases rests

/-- A post is dropped as soon as it is missed, and a window has three places. -/
def Exact.hasty : TrackingSettings Rat := { prompt with missThreshold := 0, windowSize := 3 }

/-- Both posts are seen in each frame but one, in which the one on the left is missed. -/
def Exact.flicker (i : Nat) : List (Belief.Request Rat) :=
  (List.range (i + 1)).flatMap fun j =>
    [.setSightings ⟨if j = 7 then .none else ⟨3, -30, 3⟩, ⟨3, 30, 4⟩⟩, .update (place 0 (-2) 0) (some gate)]

def Exact.flickering (i : Nat) : View Rat :=
  ⟨place 0 (-2) 0, some gate, ((Belief.start hasty).serveAll (flicker i)).toOption.getD (.start hasty)⟩

/-- The requests for the first `n` updates at the gate, each after its own sightings. -/
def Exact.seeing (sightings : Nat → Sided (Sighting Rat)) (pose : Nat → Pose Rat) (n : Nat) :
    List (Belief.Request Rat) :=
  (List.range n).flatMap fun j => [.setSightings (sightings j), .update (pose j) (some gate)]

theorem Exact.exists_served {s : TrackingSettings Rat} (valid : s.Valid) (sightings : Nat → Sided (Sighting Rat))
    (pose : Nat → Pose Rat) (n : Nat) :
    ∃ b, (Belief.start s).serveAll (seeing sightings pose n) = .ok b ∧ b.settings = s := by
  have numbered : ∀ r ∈ seeing sightings pose n, r.Numbered := by
    intro r hr
    simp only [seeing, List.mem_flatMap, List.mem_cons, List.not_mem_nil, or_false] at hr
    obtain ⟨j, -, rfl | rfl⟩ := hr
    · trivial
    · intro w hw; cases hw; exact fun _ => by decide
  obtain ⟨b, served, recorded⟩ := (Belief.recorded_start valid).serveAll valid numbered
  exact ⟨b, served, recorded.settings⟩

/-- A belief read off what is served is the one that is served. -/
theorem Exact.serveAll_seeing (sightings : Nat → Sided (Sighting Rat)) (pose : Nat → Pose Rat) (n : Nat) :
    (Belief.start prompt).serveAll (seeing sightings pose n) =
      .ok (((Belief.start prompt).serveAll (seeing sightings pose n)).toOption.getD (.start prompt)) := by
  have valid : prompt.Valid := TrackingSettings.validate_eq_ok.1 (by decide +kernel)
  obtain ⟨b, served, -⟩ := exists_served valid sightings pose n
  rw [served]
  rfl

theorem Exact.serveAll_flicker (i : Nat) :
    (Belief.start hasty).serveAll (flicker i) = .ok (flickering i).belief ∧
      (flickering i).belief.settings = hasty := by
  have valid : hasty.Valid := TrackingSettings.validate_eq_ok.1 (by decide +kernel)
  obtain ⟨b, served, settings⟩ : ∃ b, (Belief.start hasty).serveAll (flicker i) = .ok b ∧ b.settings = hasty :=
    exists_served valid (fun j => ⟨if j = 7 then .none else ⟨3, -30, 3⟩, ⟨3, 30, 4⟩⟩) (fun _ => place 0 (-2) 0) (i + 1)
  rw [flickering, served]
  exact ⟨rfl, settings⟩

/-- With a belief that is what frames have made it, and windows of three places, the rover faces the gate after a single
cycle of rest in this visit: two were counted before the post on the left was lost. -/
theorem Logbook.faces_restless :
    ∃ L : Logbook Rat, (∀ i, (Belief.start Exact.hasty).serveAll (Exact.flicker i) = .ok (L.view i).belief) ∧
      (∀ i, (L.view i).belief.settings.windowSize = 3) ∧ L.length = 15 ∧ (L.pilot 14).phase = .driveToCenter ∧
      (L.pilot 15).phase = .face ∧ ¬ L.Rests 12 ∧ ¬ L.Rests 11 := by
  have faces : (match Pilot.build Exact.carefree Exact.gate with
      | .ok (.ok ⟨p, _⟩) =>
        (p.after Exact.flickering 14).phase == .driveToCenter && (p.after Exact.flickering 15).phase == .face &&
          (p.after Exact.flickering 12).phase == .turnToCenter && (p.after Exact.flickering 11).phase == .drive
      | _ => false) = true := by decide +kernel
  split at faces
  · next p events begins =>
    have numbered (i : Nat) : (Exact.flickering i).Numbered := by
      intro w hw; cases hw; exact fun _ => by decide
    let L := ofViews Exact.carefree Exact.gate p ⟨events, begins⟩ Exact.flickering numbered 15
    simp only [Bool.and_eq_true, beq_iff_eq] at faces
    obtain ⟨⟨⟨driving, faces⟩, turning⟩, pursuing⟩ := faces
    refine ⟨L, fun i => (Exact.serveAll_flicker i).1, fun i => ?_, rfl, driving, faces, fun rests => ?_,
      fun rests => ?_⟩
    · exact congrArg (·.windowSize) (Exact.serveAll_flicker i).2
    · cases turning.symm.trans rests.1
    · cases pursuing.symm.trans rests.1
  · cases faces

end GateNav
