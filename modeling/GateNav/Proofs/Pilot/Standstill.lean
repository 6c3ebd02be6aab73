import Mathlib.Order.OrderIsoNat
import GateNav.Proofs.Belief.Chronicle
import GateNav.Proofs.Pilot.Answers
import GateNav.Proofs.Pilot.Descent
import GateNav.Proofs.Pilot.Rounds

/-!
# At a standstill

A pilot that is shown the same pose, waypoint and belief over and over (`Pilot.standing`) comes to rest: what is left to
be done does not descend forever, and where it stays the same so does the phase.

The exception is a search that is futile. With both posts of the gate in sight, and no passage between them, the rover
stops to look at the gate, turns to a post, drives to it, and looks around there. Where it faces that post already, and
is within its reach, this has no end (`Cycle.rests_or_rounds`).
-/

namespace GateNav
variable {α : Type}

namespace Cycle
variable [Scalar α] [Trig α] {c d : Cycle α} {executed next : Phase} {q : Pilot α} {b : Belief α}

/-- The search has nothing to find: the whole gate can be trusted, but it has no passage, and the rover faces a post
that is within its reach. -/
structure Futile (c : Cycle α) : Prop where
  searching : c.pilot.phase.Searching
  sight : c.belief.gateSettled = true
  unplannable : c.Unplannable
  facing : ∃ side, ∃ x ∈ (c.belief.tracker side).location, c.Faces x

theorem Cornered.futile (h : c.Cornered) : c.Futile := by
  obtain ⟨side, x, -, ⟨unplannable, y, location, near⟩, -, location', aligned⟩ := h.facing
  cases location'.symm.trans location
  exact ⟨.inr (by rw [h.phase]; rfl), h.sure.2, unplannable, side, x, location', aligned, near⟩

/-- After `c` comes `d` at a standstill. -/
def Then (c d : Cycle α) : Prop :=
  ∃ next q b, c.Advances c.pilot.phase next q b ∧ d = c.again c.pilot.phase next q b

/-! ### What is kept -/

/-- With the whole gate in sight no way leads back to the search. -/
theorem Advances.searching (h : c.Advances executed next q b) (ready : c.pilot.Ready executed)
    (gate : c.belief.hasGate = true) (searching : next.Searching) : executed.Searching := by
  have follows := h.follows ready
  cases h with
  | searches h => exact h.ends.1
  | nears h =>
    cases h with
    | loseFacing lost | loseDriving lost => rw [not_hasGate_of_lostSide? lost] at gate; cases gate
    | turnBlindly held gone | faceNothing gone =>
      have := ready.passage rfl
      rw [gone] at this; cases this
    | noPost => exact absurd follows (by decide)
    | driveUp held plan move =>
      cases move with
      | blind gone =>
        have := (plan.ready ready).passage rfl
        rw [gone] at this; cases this
      | _ => rcases searching with searching | searching <;> cases searching
    | _ => rcases searching with searching | searching <;> cases searching
  | passes h =>
    have away : ∀ phase ∈ executed.followers, ¬ phase.Searching := by
      cases h <;> decide
    exact absurd searching (away _ follows)
  | idle h => exact searching

namespace Then

theorem forgiven (h : c.Then d) : d.belief.forgive = c.belief.forgive := by
  obtain ⟨next, q, b, move, hd⟩ := h
  have belief := (of_again hd).2.2.2
  rcases move.belief with same | same <;> rw [belief, same]; rfl

theorem location (h : c.Then d) (side : Side) :
    (d.belief.tracker side).location = (c.belief.tracker side).location := by
  have := congrArg (fun b => (b.tracker side).location) h.forgiven
  simpa only [Belief.tracker_forgive] using this

theorem hasPost (h : c.Then d) (side : Side) :
    (d.belief.tracker side).hasPost = (c.belief.tracker side).hasPost := by
  have := congrArg (fun b => (b.tracker side).hasPost) h.forgiven
  rw [Belief.tracker_forgive, Belief.tracker_forgive] at this
  exact this

theorem gateSettled (h : c.Then d) : d.belief.gateSettled = c.belief.gateSettled := by
  rw [← Belief.gateSettled_forgive, h.forgiven, Belief.gateSettled_forgive]

theorem settings (h : c.Then d) : d.pilot.settings = c.pilot.settings := by
  obtain ⟨next, q, b, move, hd⟩ := h
  exact settings_again hd (congrArg (·.1) move.orders)

theorem pose (h : c.Then d) : d.pose = c.pose := by
  obtain ⟨next, q, b, move, rfl⟩ := h; rfl

theorem waypoint (h : c.Then d) : d.waypoint = c.waypoint := by
  obtain ⟨next, q, b, move, rfl⟩ := h; rfl

theorem faces (h : c.Then d) (x : Pose α) : d.Faces x ↔ c.Faces x := by
  unfold Faces Cycle.aligned Pilot.aligned
  rw [h.settings, h.pose]

theorem sound (h : c.Then d) (sound : c.Sound) : d.Sound := by
  refine ⟨?_, ?_, fun side => by rw [h.location, h.hasPost]; exact sound.placed side⟩
  · obtain ⟨next, q, b, move, hd⟩ := h
    rw [(of_again hd).1, hd]
    exact (move.ready sound.ready).moved
  · rw [h.settings]
    exact sound.tolerances

theorem futile (h : c.Then d) (sound : c.Sound) (futile : d.Futile) : c.Futile := by
  obtain ⟨searching, sight, unplannable, side, x, location, faces⟩ := futile
  rw [h.gateSettled] at sight
  rw [h.location] at location
  refine ⟨?_, sight, ?_, side, x, location, (h.faces x).1 faces⟩
  · obtain ⟨next, q, b, move, hd⟩ := h
    rw [(of_again hd).1] at searching
    exact move.searching sound.ready (Bool.and_eq_true_iff.1 sight).1 searching
  · -- Both posts can be placed, so that whatever was remembered of them makes no difference.
    have known := Pilot.trust_known_of_gateSettled sight sound.placed d.pilot c.pilot
    rw [Unplannable, h.forgiven, h.waypoint] at unplannable
    rw [Unplannable, ← unplannable]
    exact draft?_congr known.symm h.settings.symm

theorem descends [Scalar.Ordered α] (h : c.Then d) (sound : c.Sound) (free : ¬ c.Cornered) : c.Descends d := by
  obtain ⟨next, q, b, move, hd⟩ := h
  exact move.descends hd rfl sound free

theorem round [Scalar.Ordered α] {side : Side} {x : Pose α} (h : c.Then d) (r : c.Round side x) (sound : c.Sound) :
    d.Round side x ∧ (c.Faces x → d.pilot.phase = c.pilot.phase.onward) := by
  obtain ⟨next, q, b, move, hd⟩ := h
  have search := move.of_searching r.place.searching
  rw [(of_again hd).1]
  exact r.step search hd rfl sound

/-- A cornered rover drives to the post that it has reached already, and looks around there. -/
theorem of_cornered [Scalar.Ordered α] {e : Cycle α} (h : c.Then d) (k : d.Then e) (sound : c.Sound)
    (cornered : c.Cornered) : e.pilot.phase = .spin ∧ e.Blocked := by
  have sound' := h.sound sound
  obtain ⟨side, x, goal, ⟨unplannable, y, location', near⟩, aim, location, aligned⟩ := cornered.facing
  cases location.symm.trans location'
  have blocked : c.Blocked := ⟨cornered.sure, unplannable⟩
  have faces : d.Faces x := (h.faces x).2 ⟨aligned, near⟩
  have location := (h.location side).trans location
  obtain ⟨next, q, b, move, hd⟩ := h
  rw [cornered.phase] at move hd
  have turn := move.of_searching (by decide)
  obtain ⟨aligned', goal, -⟩ := turn.turns blocked goal aim
  rw [if_pos aligned] at aligned'
  have blocked := (turn.blocked hd blocked).1
  obtain ⟨phase, goal', -⟩ := of_again hd
  obtain ⟨next', q', b', move', he⟩ := k
  rw [phase, aligned'] at move' he
  have drive := move'.of_searching (by decide)
  rcases drive.drives blocked sound' (goal'.trans goal) location faces.1 with ⟨-, reached⟩ | ⟨far, -⟩
  · exact ⟨(of_again he).1.trans reached, (drive.blocked he blocked).1⟩
  · exact absurd faces.2 far

end Then

/-! ### Rest or rounds -/

/-- Cycles at a standstill, each of them after the one before. -/
structure Standing (f : Nat → Cycle α) : Prop where
  sound : (f 0).Sound
  moves : ∀ i, (f i).Then (f (i + 1))

namespace Standing
variable {f : Nat → Cycle α}

theorem sound_at (h : Standing f) (i : Nat) : (f i).Sound := by
  induction i with
  | zero => exact h.sound
  | succ i ih => exact (h.moves i).sound ih

theorem futile (h : Standing f) (i : Nat) (futile : (f i).Futile) : (f 0).Futile := by
  induction i with
  | zero => exact futile
  | succ i ih => exact ih ((h.moves i).futile (h.sound_at i) futile)

/-- Never cornered again, the rover comes to rest. -/
theorem rests_of_free [Scalar.Ordered α] (h : Standing f) {m : Nat} (free : ∀ i, ¬ (f (m + i)).Cornered) :
    ∃ n, ∀ i ≥ n, (f i).pilot.phase = (f n).pilot.phase := by
  have descends (i : Nat) := (h.moves (m + i)).descends (h.sound_at _) (free i)
  have antitone : Antitone fun i => (f (m + i)).rank := by
    refine antitone_nat_of_succ_le fun i => ?_
    rcases descends i with less | ⟨-, less⟩
    · exact less.le
    · exact less
  -- From some cycle on the rank stays the same, and with it the phase.
  obtain ⟨n, constant⟩ := WellFoundedLT.antitone_chain_condition antitone
  refine ⟨m + n, fun i hi => ?_⟩
  induction i, hi using Nat.le_induction with
  | base => rfl
  | succ i hi ih =>
    obtain ⟨k, rfl⟩ := Nat.exists_eq_add_of_le (Nat.le_trans (Nat.le_add_right m n) hi)
    have later : n ≤ k := by omega
    refine Eq.trans ?_ ih
    rcases descends k with less | ⟨same, -⟩
    · have same := (constant k later).symm.trans (constant (k + 1) (Nat.le_succ_of_le later))
      exact absurd same (ne_of_gt less)
    · exact same

theorem round [Scalar.Ordered α] (h : Standing f) {m : Nat} {side : Side} {x : Pose α}
    (r : (f m).Round side x) (i : Nat) : (f (m + i)).Round side x := by
  induction i with
  | zero => exact r
  | succ i ih => exact ((h.moves (m + i)).round ih (h.sound_at _)).1

theorem faces (h : Standing f) {m : Nat} {x : Pose α} (i : Nat) : (f (m + i)).Faces x ↔ (f m).Faces x := by
  induction i with
  | zero => rfl
  | succ i ih => exact ((h.moves (m + i)).faces x).trans ih

/-- From some cycle on the phase stays the same, or the search goes around. -/
theorem rests_or_rounds [Scalar.Ordered α] (h : Standing f) :
    (∃ n, ∀ i ≥ n, (f i).pilot.phase = (f n).pilot.phase) ∨
      (f 0).Futile ∧ ∃ n, ∀ i, (f (n + i)).pilot.phase = Phase.onward^[i] .spin := by
  by_cases free : ∀ i, ¬ (f i).Cornered
  · exact .inl (h.rests_of_free (m := 0) fun i => free _)
  obtain ⟨m, cornered⟩ := not_forall_not.1 free
  -- Two cycles later the rover looks around, and from there on it is on a round.
  obtain ⟨phase, blocked⟩ := (h.moves m).of_cornered (h.moves (m + 1)) (h.sound_at m) cornered
  obtain ⟨side, x, round⟩ := blocked.exists_round (h.sound_at _) phase
  by_cases faces : (f (m + 2)).Faces x
  · refine .inr ⟨h.futile m cornered.futile, m + 2, fun i => ?_⟩
    induction i with
    | zero => exact phase
    | succ i ih =>
      rw [Function.iterate_succ_apply', ← ih]
      exact ((h.moves (m + 2 + i)).round (h.round round i) (h.sound_at _)).2 ((h.faces i).2 faces)
  · refine .inl (h.rests_of_free (m := m + 2) fun i cornered => faces ?_)
    exact (h.faces i).1 ((h.round round i).faces_of_cornered cornered)

end Standing

end Cycle

/-! ### Pilots at a standstill -/

namespace Pilot
variable [Scalar α] [Trig α]

/-- The cycles of a pilot that is shown the same pose and waypoint over and over, and the belief as it has left it, as
far as it has an answer. -/
def standing (p : Pilot α) (pose : Pose α) (waypoint : Option (Waypoint α)) (b : Belief α) : Nat → Cycle α
  | 0 => p.atWork pose waypoint b
  | i + 1 =>
    let c := p.standing pose waypoint b i
    (c.pilot.run pose waypoint c.belief).toOption.getD c

variable {p : Pilot α} {pose : Pose α} {waypoint : Option (Waypoint α)} {b : Belief α}

/-- A pilot that has no answer stays as it is. -/
theorem standing_of_error {i : Nat} {halt : Halt α}
    (failed : (p.standing pose waypoint b i).pilot.run pose waypoint (p.standing pose waypoint b i).belief =
      .error halt) (k : Nat) : p.standing pose waypoint b (i + k) = p.standing pose waypoint b i := by
  induction k with
  | zero => rfl
  | succ k ih =>
    rw [← Nat.add_assoc, standing, ih, failed]
    rfl

theorem then_of_run {c d : Cycle α} (answer : c.pilot.run pose waypoint c.belief = .ok d) :
    (c.pilot.atWork pose waypoint c.belief).Then (d.pilot.atWork pose waypoint d.belief) := by
  obtain ⟨next, q, b', move, belief, after⟩ := Cycle.pilot_of_run answer
  exact ⟨next, q, b', move, by rw [belief, after]; rfl⟩

/-- The rover comes to rest, or the search is futile and goes around without end. -/
theorem rests_or_rounds [Scalar.Ordered α] (sound : (p.atWork pose waypoint b).Sound) :
    (∃ n, ∀ i ≥ n, (p.standing pose waypoint b i).pilot.phase = (p.standing pose waypoint b n).pilot.phase) ∨
      (p.atWork pose waypoint b).Futile ∧
        ∃ n, ∀ i, (p.standing pose waypoint b (n + i)).pilot.phase = Phase.onward^[i] .spin := by
  by_cases answers : ∀ i, (p.standing pose waypoint b i).pilot.run pose waypoint (p.standing pose waypoint b i).belief =
      .ok (p.standing pose waypoint b (i + 1))
  · exact Cycle.Standing.rests_or_rounds (f := fun i =>
      (p.standing pose waypoint b i).pilot.atWork pose waypoint (p.standing pose waypoint b i).belief)
      ⟨sound, fun i => then_of_run (answers i)⟩
  · obtain ⟨n, failed⟩ := not_forall.1 answers
    cases answer : (p.standing pose waypoint b n).pilot.run pose waypoint (p.standing pose waypoint b n).belief with
    | error halt =>
      refine .inl ⟨n, fun i hi => ?_⟩
      obtain ⟨k, rfl⟩ := Nat.exists_eq_add_of_le hi
      rw [standing_of_error answer]
    | ok d =>
      rw [standing, answer] at failed
      exact absurd rfl failed

/-- A pilot whose search points fit has an answer in every cycle, with a numbered waypoint. -/
theorem standing_answers (numbered : ∀ w ∈ waypoint, w.Numbered) (layout : p.LaysOut) (i : Nat) :
    (p.standing pose waypoint b i).pilot.run pose waypoint (p.standing pose waypoint b i).belief =
      .ok (p.standing pose waypoint b (i + 1)) := by
  have answer {c : Cycle α} (layout : c.pilot.LaysOut) :
      ∃ d, c.pilot.run pose waypoint c.belief = .ok d ∧ d.pilot.LaysOut := by
    obtain ⟨q, shown⟩ := exists_shown (v := ⟨pose, waypoint, c.belief⟩) numbered layout
    obtain ⟨d, run, rfl⟩ := Checked.map_eq_ok.1 shown
    exact ⟨d, run, laysOut_of_shown shown layout⟩
  have layout : (p.standing pose waypoint b i).pilot.LaysOut := by
    induction i with
    | zero => exact layout
    | succ i ih =>
      obtain ⟨d, run, layout⟩ := answer ih
      rw [standing, run]
      exact layout
  obtain ⟨d, run, -⟩ := answer layout
  rw [standing, run]; rfl

theorem standing_congr {m n : Nat}
    (same : (p.standing pose waypoint b m).pilot = (p.standing pose waypoint b n).pilot ∧
      (p.standing pose waypoint b m).belief = (p.standing pose waypoint b n).belief) (i : Nat) :
    (p.standing pose waypoint b (m + i)).pilot = (p.standing pose waypoint b (n + i)).pilot ∧
      (p.standing pose waypoint b (m + i)).belief = (p.standing pose waypoint b (n + i)).belief := by
  induction i with
  | zero => exact same
  | succ i ih =>
    rw [← Nat.add_assoc, ← Nat.add_assoc, standing, standing]
    rw [ih.1, ih.2]
    cases (p.standing pose waypoint b (n + i)).pilot.run pose waypoint (p.standing pose waypoint b (n + i)).belief with
    | error fault => exact ih
    | ok d => exact ⟨rfl, rfl⟩

theorem standing_periodic {m k : Nat}
    (same : (p.standing pose waypoint b (m + k)).pilot = (p.standing pose waypoint b m).pilot ∧
      (p.standing pose waypoint b (m + k)).belief = (p.standing pose waypoint b m).belief) (i r : Nat) :
    (p.standing pose waypoint b (m + r + k * i)).pilot = (p.standing pose waypoint b (m + r)).pilot := by
  induction i with
  | zero => rfl
  | succ i ih =>
    rw [← ih, show m + r + k * (i + 1) = m + k + (r + k * i) by rw [Nat.mul_succ]; omega,
      show m + r + k * i = m + (r + k * i) by omega]
    exact (standing_congr same _).1

end Pilot

namespace Logbook
variable [Scalar α] [Trig α] [Numeral α]

/-- The record of a search before its first cycle. -/
def blank (settings : TraverseSettings α) (area : Waypoint α) (p : Pilot α)
    (begins : ∃ events, Pilot.build settings area = .ok (.ok ⟨p, events⟩)) (v : View α) : Logbook α where
  settings := settings
  area := area
  view _ := v
  pilot _ := p
  length := 0
  begins := begins
  step := nofun

/-- At a standstill the rover comes to rest. After any search so far and whatever was asked of the belief, if the pilot
is shown the same pose and waypoint over and over, and the belief as it has left it, then from some cycle on it stays
in one phase; unless the search is futile and goes around from some cycle on. There is an answer every time if the
waypoint is numbered. -/
theorem comes_to_rest_unless_futile [Scalar.Ordered α] (L : Logbook α) {s : TrackingSettings α} {b₀ b : Belief α}
    (begins : Belief.build s = .ok (.ok b₀)) (requests : List (Belief.Request α))
    (served : b₀.serveAll requests = .ok b) (pose : Pose α) (waypoint : Option (Waypoint α)) :
    let c := (L.pilot L.length).standing pose waypoint b
    ((∀ w ∈ waypoint, w.Numbered) → ∀ i, (c i).pilot.run pose waypoint (c i).belief = .ok (c (i + 1))) ∧
      ((∃ n, ∀ i ≥ n, (c i).pilot.phase = (c n).pilot.phase) ∨
        (c 0).Futile ∧ ∃ n, ∀ i, (c (n + i)).pilot.phase = Phase.onward^[i] .spin) := by
  intro c
  constructor
  · intro numbered i
    have layout := L.invariant (Pilot.laysOut_of_start L.starts) Pilot.laysOut_of_shown (Nat.le_refl _)
    exact Pilot.standing_answers numbered layout i
  · refine Pilot.rests_or_rounds ⟨L.ready (Nat.le_refl _), ?_, Belief.placed_of_serveAll begins served⟩
    show ¬ (L.pilot L.length).settings.offCourseTolerance < (L.pilot L.length).settings.turnTolerance
    rw [L.settings_eq (Nat.le_refl _)]
    exact (TraverseSettings.validate_eq_ok.1 L.valid).offCourseTolerance

end Logbook

/-- Both posts of the gate are seen in the same place. -/
def Exact.merged : List (Belief.Request Rat) :=
  [.setSightings ⟨⟨3 / 2, 0, 3⟩, ⟨3 / 2, 0, 4⟩⟩, .update (place 0 (-2) 0) (some gate)]

/-- They are seen apart from one another. -/
def Exact.apart : List (Belief.Request Rat) :=
  [.setSightings ⟨⟨3, -30, 3⟩, ⟨3, 30, 4⟩⟩, .update (place 0 (-2) 0) (some gate)]

/-- The rover stands south of the gate, before it has seen anything. -/
def Exact.standpoint : View Rat := ⟨place 0 (-2) 0, some gate, .start prompt⟩

def Exact.after (requests : List (Belief.Request Rat)) : Belief Rat :=
  ((Belief.start prompt).serveAll requests).toOption.getD (.start prompt)

theorem Exact.build_prompt : Belief.build prompt = .ok (.ok (.start prompt)) := by decide +kernel

theorem Exact.serveAll_merged : (Belief.start prompt).serveAll merged = .ok (after merged) := by decide +kernel

theorem Exact.serveAll_apart : (Belief.start prompt).serveAll apart = .ok (after apart) := by decide +kernel

theorem Logbook.comes_to_rest_unless_futile_apart :
    ∃ L : Logbook Rat, L.length = 0 ∧
      ∃ n, ∀ i ≥ n,
        ((L.pilot 0).standing (Exact.place 0 (-2) 0) (some Exact.gate) (Exact.after Exact.apart) i).pilot.phase =
        ((L.pilot 0).standing (Exact.place 0 (-2) 0) (some Exact.gate) (Exact.after Exact.apart) n).pilot.phase := by
  have planned : (match Pilot.build Exact.carefree Exact.gate with
      | .ok (.ok ⟨p, _⟩) =>
        Cycle.draft? (some Exact.gate) (p.trust (Exact.after Exact.apart).forgive) != .ok none
      | _ => false) = true := by decide +kernel
  split at planned
  · next p events begins =>
    let L := blank Exact.carefree Exact.gate p ⟨events, begins⟩ Exact.standpoint
    refine ⟨L, rfl, ?_⟩
    rcases (comes_to_rest_unless_futile L Exact.build_prompt Exact.apart Exact.serveAll_apart
      (Exact.place 0 (-2) 0) (some Exact.gate)).2 with rests | ⟨futile, -⟩
    · exact rests
    · exact absurd futile.unplannable (bne_iff_ne.1 planned)
  · cases planned

/-- With both posts seen in the same place the rover never comes to rest: it turns to one of them, drives to it and
looks around, over and over. -/
theorem Logbook.restless_between_posts :
    ∃ (L : Logbook Rat) (b₀ b : Belief Rat), L.length = 0 ∧ Belief.build Exact.prompt = .ok (.ok b₀) ∧
      b₀.serveAll Exact.merged = .ok b ∧ Exact.gate.Numbered ∧
      ¬ ∃ n, ∀ i ≥ n, ((L.pilot 0).standing (Exact.place 0 (-2) 0) (some Exact.gate) b i).pilot.phase =
        ((L.pilot 0).standing (Exact.place 0 (-2) 0) (some Exact.gate) b n).pilot.phase := by
  have circles : (match Pilot.build Exact.carefree Exact.gate with
      | .ok (.ok ⟨p, _⟩) =>
        let c := p.standing (Exact.place 0 (-2) 0) (some Exact.gate) (Exact.after Exact.merged)
        (c (8 + 4)).pilot == (c 8).pilot && (c (8 + 4)).belief == (c 8).belief &&
          (c (8 + 0)).pilot.phase == .spin && (c (8 + 1)).pilot.phase == .spinWait
      | _ => false) = true := by decide +kernel
  split at circles
  · next p events begins =>
    let L := blank Exact.carefree Exact.gate p ⟨events, begins⟩ Exact.standpoint
    simp only [Bool.and_eq_true, beq_iff_eq] at circles
    obtain ⟨⟨⟨pilot, belief⟩, spin⟩, wait⟩ := circles
    refine ⟨L, _, _, rfl, Exact.build_prompt, Exact.serveAll_merged, fun _ => by decide, ?_⟩
    rintro ⟨n, constant⟩
    have round (r : Nat) := congrArg (·.phase) (Pilot.standing_periodic ⟨pilot, belief⟩ n r)
    have first := ((round 0).trans spin).symm.trans (constant (8 + 0 + 4 * n) (by omega))
    have second := ((round 1).trans wait).symm.trans (constant (8 + 1 + 4 * n) (by omega))
    cases first.trans second.symm
  · cases circles

end GateNav
