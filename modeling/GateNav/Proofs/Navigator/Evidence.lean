import GateNav.Proofs.Belief.Chronicle
import GateNav.Proofs.Belief.Gate
import GateNav.Proofs.Exact
import GateNav.Proofs.Navigator.Journal
import GateNav.Proofs.Pilot.Learning
import GateNav.Proofs.Pilot.PhaseData

/-!
# The evidence for a gate

A pilot only heads for a gate that the belief has settled on, and the belief only settles on what was seen often enough.
So behind every phase at the gate there are frames that showed its posts, enough of them on either side, and they were
shown since the search began. `Navigator.Attests` is what a search keeps of it from frame to frame.
-/

namespace GateNav
variable {α : Type}

/-- A post of the gate `w` is seen on `side`. -/
def Frame.shows [Scalar α] (w : Waypoint α) (side : Side) (frame : Frame α) : Bool :=
  (frame.sightings.get side).detected && w.carries (frame.sightings.get side).id

/-- The pilot knows no posts but those of the gate `w`. -/
def Pilot.KnowsOnly (p : Pilot α) (w : Waypoint α) : Prop := ∀ side, ∀ post ∈ p.known.get side, w.carries post.id = true

/-! ### What a pilot heads for, and what it learns -/

/-- Both trackers have settled where the gate has. -/
theorem Belief.settled_of_gateSettled {b : Belief α} (h : b.gateSettled = true) (side : Side) :
    (b.tracker side).settled = true := by
  simp only [gateSettled, hasGate, settled, holding, Sided.toList, Bool.and_eq_true] at h
  obtain ⟨⟨left, right⟩, -, all⟩ := h
  rw [List.filter_cons_of_pos left, List.filter_cons_of_pos right] at all
  cases side
  all_goals simp_all [tracker, Sided.get]

/-- A pilot that looks at the posts of one gate learns of no others. -/
theorem Pilot.KnowsOnly.run [Scalar α] [Trig α] {p : Pilot α} {b : Belief α} {w : Waypoint α} {pose : Pose α}
    {waypoint : Option (Waypoint α)} {c : Cycle α} (h : p.KnowsOnly w) (held : b.OnGate w)
    (run : p.run pose waypoint b = .ok c) : c.pilot.KnowsOnly w ∧ c.belief.OnGate w := by
  have names : p.Names (w.carries · = true) := h
  obtain ⟨known, after⟩ := Pilot.names_of_run run names (Belief.names_iff_onGate.2 held)
  exact ⟨known, Belief.names_iff_onGate.1 after⟩

namespace Cycle
variable [Scalar α] [Trig α] {c : Cycle α} {executed next : Phase} {q : Pilot α} {b : Belief α} {w : Waypoint α}

theorem Searches.gateSettled (h : c.Searches executed next q b) (gate : next.atGate = true) :
    c.belief.gateSettled = true := by
  cases h
  case locate sight _ => exact sight
  case driveToPost move => cases move <;> cases gate
  all_goals cases gate

/-- The belief has settled on a gate when the pilot begins to head for it. -/
theorem Advances.gateSettled (h : c.Advances executed next q b) (gate : next.atGate = true) :
    executed.atGate = true ∨ c.belief.gateSettled = true := by
  cases h with
  | searches h => exact .inr (h.gateSettled gate)
  | nears h => cases h <;> exact .inl rfl
  | passes h => cases h <;> exact .inl rfl
  | idle => exact .inl gate

end Cycle

/-! ### What is remembered of a search -/

/-- The pilot that a cycle leads to; where a search ends it is given up afterwards. -/
def Navigator.steered? [Scalar α] [Trig α] (n : Navigator α) (frame : Frame α) : Option (Pilot α) := do
  let p ← n.pilot
  let perceived ← (n.perceive frame).toOption
  let c ← (p.run frame.pose n.waypoint perceived.result).toOption
  return c.pilot

theorem Navigator.steered?_of_run [Scalar α] [Trig α] {n : Navigator α} {frame : Frame α} {p : Pilot α}
    {belief : Belief α} {seen : List (Event α)} {c : Cycle α} (busy : n.pilot = some p)
    (perceived : n.perceive frame = .ok ⟨belief, seen⟩) (run : p.run frame.pose n.waypoint belief = .ok c) :
    n.steered? frame = some c.pilot := by
  unfold steered?
  rw [busy, perceived]
  change (do let c ← (p.run frame.pose n.waypoint belief).toOption; return c.pilot) = some c.pilot
  rw [run]; rfl

/-- The pilot of the last search as its last cycle left it. -/
def Journal.pilot? [Scalar α] [Trig α] [Numeral α] (L : Journal α) : Nat → Option (Pilot α)
  | 0 => none
  | t + 1 =>
    match L.order t with
    | .search _ => (L.navigator (t + 1)).pilot
    | .tick frame => ((L.navigator t).steered? frame).or (L.pilot? t)
    | .abort => L.pilot? t

namespace Navigator

/-- What is so in a search for the gate `w` whose last pilot is `p`, after these frames were shown: the belief has taken
nothing that they do not show, and the pilot is only at the gate if they show enough. -/
structure Attests [Scalar α] (n : Navigator α) (s : TrackingSettings α) (w : Waypoint α) (p : Pilot α)
    (frames : List (Frame α)) : Prop where
  waypoint : n.waypoint = some w
  recorded : ∃ h, n.belief.Recorded s h ∧ ∀ side, (h side).taken.length ≤ frames.countP (·.shows w side)
  held : n.belief.OnGate w
  phase : n.phase = p.phase
  same : ∀ q ∈ n.pilot, q = p
  ready : p.Ready p.phase
  known : p.KnowsOnly w
  evidence : p.phase.atGate = true → ∀ side, s.minSamples ≤ frames.countP (·.shows w side)

section Attests
variable [Scalar α] [Trig α] {n m : Navigator α} {s : TrackingSettings α} {w : Waypoint α} {p : Pilot α}
  {frames : List (Frame α)} {frame : Frame α} {command : Command α} {events : List (Event α)}

theorem recorded_of_perceive {h : Side → Chronicle α} (recorded : n.belief.Recorded s h) (valid : s.Valid)
    {belief : Belief α} {seen : List (Event α)} (perceived : n.perceive frame = .ok ⟨belief, seen⟩) :
    belief.Recorded s fun side => { h side with raw := frame.sightings.get side }.observe s
      (Belief.admitted n.waypoint (frame.sightings.get side)) := by
  have before : (n.belief.setObstacle frame.obstacle).Recorded s h := { recorded with }
  exact (before.setSightings frame.sightings).update valid perceived

theorem Attests.perceive [Scalar.Signed α] (h : n.Attests s w p frames) (valid : s.Valid) (gate : w.isGate = true)
    (numbered : w.Numbered) {belief : Belief α} {seen : List (Event α)}
    (perceived : n.perceive frame = .ok ⟨belief, seen⟩) :
    belief.OnGate w ∧ ∃ h, belief.Recorded s h ∧
      ∀ side, (h side).taken.length ≤ (frames ++ [frame]).countP (·.shows w side) := by
  obtain ⟨chronicle, before, few⟩ := h.recorded
  have recorded := recorded_of_perceive before valid perceived
  unfold Navigator.perceive at perceived
  rw [h.waypoint] at perceived recorded
  have held : ((n.belief.setObstacle frame.obstacle).setSightings frame.sightings).OnGate w := h.held
  refine ⟨held.update gate numbered perceived, _, recorded, fun side => ?_⟩
  have taken := Chronicle.length_observe_le s { chronicle side with raw := frame.sightings.get side }
    (Belief.admitted (some w) (frame.sightings.get side))
  rw [Belief.detected_admitted gate] at taken
  have shown : [frame].countP (·.shows w side) = (frame.shows w side).toNat := by
    cases shows : frame.shows w side <;> simp [shows]
  rw [List.countP_append, shown]
  exact Nat.le_trans taken (Nat.add_le_add_right (few side) _)

/-- What is remembered of the frames so far holds of one more. -/
theorem Attests.run [Scalar.Signed α] (h : n.Attests s w p frames) (valid : s.Valid) (gate : w.isGate = true)
    (numbered : w.Numbered) {belief : Belief α} {seen : List (Event α)} {c : Cycle α}
    (perceived : n.perceive frame = .ok ⟨belief, seen⟩) (run : p.run frame.pose n.waypoint belief = .ok c)
    {pilot : Option (Pilot α)} (kept : ∀ q ∈ pilot, q = c.pilot) {cycles visited : Nat} :
    { n with
      belief := c.belief, pilot := pilot, phase := c.pilot.phase, cycles := cycles, visited := visited }.Attests s w
      c.pilot (frames ++ [frame]) := by
  obtain ⟨held, chronicle, recorded, few⟩ := h.perceive valid gate numbered perceived
  have shown : p.shown ⟨frame.pose, n.waypoint, belief⟩ = .ok c.pilot := Pilot.shown_of_run run
  obtain ⟨next, q, b, move, same, after⟩ := Cycle.pilot_of_run run
  have forgiven : ∃ h, b.Recorded s h ∧
      ∀ side, (h side).taken.length ≤ (frames ++ [frame]).countP (·.shows w side) := by
    rcases move.belief with rfl | rfl
    · exact ⟨chronicle, recorded, few⟩
    · exact ⟨_, recorded.forgive valid, few⟩
  obtain ⟨knows, holds⟩ := h.known.run held run
  refine ⟨h.waypoint, ?_, holds, rfl, kept, Pilot.ready_of_shown shown h.ready, knows, fun atGate side => ?_⟩
  · rw [same]; exact forgiven
  · -- A pilot that was at the gate had its evidence before; one that gets there has just found the belief settled.
    rw [after] at atGate
    rcases move.gateSettled atGate with before | settled
    · exact Nat.le_trans (h.evidence before side) (List.Sublist.countP_le (List.sublist_append_left _ _))
    · exact Nat.le_trans ((recorded.trackers side).settled.1 (Belief.settled_of_gateSettled settled side)) (few side)

theorem Attests.ticks [Scalar.Signed α] (h : n.Attests s w p frames) (valid : s.Valid) (gate : w.isGate = true)
    (numbered : w.Numbered) (tick : n.Ticks frame m command events) :
    ∃ q, (n.steered? frame).or (some p) = some q ∧ m.Attests s w q (frames ++ [frame]) := by
  cases tick with
  | rest idle perceived =>
    obtain ⟨held, chronicle, recorded, few⟩ := h.perceive valid gate numbered perceived
    refine ⟨p, by unfold steered?; rw [idle]; rfl, h.waypoint, ⟨chronicle, recorded, few⟩, held, h.phase, h.same,
      h.ready, h.known, fun atGate side => ?_⟩
    exact Nat.le_trans (h.evidence atGate side) (List.Sublist.countP_le (List.sublist_append_left _ _))
  | @go belief seen pilot c busy perceived run on =>
    have same : pilot = p := h.same pilot busy
    subst same
    refine ⟨c.pilot, by rw [steered?_of_run busy perceived run]; rfl, ?_⟩
    exact h.run valid gate numbered perceived run fun q hq => (Option.some.inj hq).symm
  | @finish belief seen pilot c busy perceived run terminal =>
    have same : pilot = p := h.same pilot busy
    subst same
    refine ⟨c.pilot, by rw [steered?_of_run busy perceived run]; rfl, ?_⟩
    exact h.run valid gate numbered perceived run fun q hq => by cases hq

/-- Whatever is ordered, the belief is what some chronicles make it. -/
theorem Obeys.recorded [Numeral α] {order : Order α} {reply : Reply α} (obeys : n.Obeys order reply) (valid : s.Valid)
    (h : ∃ h, n.belief.Recorded s h) : ∃ h, reply.navigator.belief.Recorded s h := by
  obtain ⟨chronicle, recorded⟩ := h
  cases obeys with
  | search => exact ⟨_, recorded.reset valid⟩
  | interrupt | rest => exact ⟨_, recorded⟩
  | tick cycle =>
    obtain ⟨belief, seen, perceived, same⟩ := cycle.belief
    have after := recorded_of_perceive recorded valid perceived
    dsimp only
    rcases same with same | same
    · rw [same]; exact ⟨_, after⟩
    · rw [same]; exact ⟨_, after.forgive valid⟩

end Attests

end Navigator

namespace Journal
variable [Scalar α] [Trig α] [Numeral α] {L : Journal α} {s t : Nat} {w : Waypoint α} {frames : List (Frame α)}

theorem recorded (ht : t ≤ L.length) : ∃ h, (L.navigator t).belief.Recorded L.settings.tracking h := by
  have valid := L.of_begins.1
  refine invariant (P := fun n => ∃ h, n.belief.Recorded L.settings.tracking h) ?_ ?_ ht
  · exact ⟨_, Belief.recorded_start valid⟩
  · exact fun obeys h => obeys.recorded valid h

theorem Search.attests [Scalar.Signed α] (h : L.Search s w t frames) (gate : w.isGate = true) (numbered : w.Numbered) :
    ∃ p, L.pilot? t = some p ∧ (L.navigator t).Attests L.settings.tracking w p frames := by
  have valid := L.of_begins.1
  induction h with
  | begin given order =>
    obtain ⟨p, events, built, after, -⟩ := begun given order
    obtain ⟨chronicle, before⟩ := recorded (Nat.le_of_lt given)
    have recorded := before.reset valid
    refine ⟨p, by unfold pilot?; rw [order, after]; rfl, ?_⟩
    obtain ⟨points, -, start⟩ := Pilot.of_start (Pilot.of_build built).2
    have ready := Pilot.ready_of_start (Pilot.of_build built).2
    rw [after]
    refine ⟨rfl, ⟨_, recorded, fun _ => Nat.le_refl _⟩, Belief.onGate_reset, rfl, ?_, ready, ?_, ?_⟩
    · exact fun q hq => (Option.some.inj hq).symm
    · rw [start]; intro side; cases side <;> exact nofun
    · rw [start]; exact nofun
  | tick before given order ih =>
    obtain ⟨p, last, attests⟩ := ih
    obtain ⟨c, -, tick⟩ := ticks given order
    obtain ⟨q, steered, attests⟩ := attests.ticks valid gate numbered tick
    refine ⟨q, ?_, attests⟩
    unfold pilot?
    rw [order, last]
    exact steered

/-- No gate is approached without evidence. While a gate is searched for, the pilot is only at the gate after as many
frames have shown a post of it on either side, since the search began, as make the belief settle, and then it knows
two posts of this gate. So if there is a side on which none was ever shown, it goes on looking around, or the search
fails. -/
theorem at_gate_on_evidence [Scalar.Signed α] (L : Journal α) (s : Nat) (w : Waypoint α) (t : Nat)
    (frames : List (Frame α)) (search : L.Search s w t frames) (gate : w.isGate = true)
    (small : w.id < Int32.maxValue) :
    ((L.navigator t).phase.atGate = true →
      (∀ side, L.settings.tracking.minSamples ≤ frames.countP (·.shows w side)) ∧
      ∃ p, L.pilot? t = some p ∧ (∀ q ∈ (L.navigator t).pilot, q = p) ∧
        ∀ side, ∃ post, p.known.get side = some post ∧ (post.id = w.id ∨ post.id = w.id + 1)) ∧
    ((∃ side, ∀ frame ∈ frames, frame.shows w side = false) →
      (L.navigator t).phase ∈ [Phase.spin, .spinWait, .turn, .drive, .notFound]) := by
  obtain ⟨p, last, attests⟩ := search.attests gate fun _ => Int32.ne_of_lt small
  refine ⟨fun atGate => ?_, fun ⟨side, blind⟩ => ?_⟩
  · rw [attests.phase] at atGate
    refine ⟨attests.evidence atGate, p, last, attests.same, fun side => ?_⟩
    obtain ⟨-, left, right⟩ := attests.ready.located atGate
    have known : (p.known.get side).isSome = true := by cases side <;> assumption
    obtain ⟨post, hpost⟩ := Option.isSome_iff_exists.1 known
    exact ⟨post, hpost, Waypoint.eq_of_carries (attests.known side post hpost)⟩
  · have none_shown : frames.countP (·.shows w side) = 0 := List.countP_eq_zero.2 fun f hf => by simp [blind f hf]
    have away : p.phase.atGate = false := by
      by_contra atGate
      have enough := attests.evidence (by simpa using atGate) side
      have some_asked := L.of_begins.1.minSamples.1
      omega
    have searching := attests.ready.searching
    rw [attests.phase]
    cases phase : p.phase
    case off | done => rw [phase] at searching; cases searching
    case spin | spinWait | turn | drive | notFound => decide
    all_goals rw [phase] at away; cases away

end Journal

/-- The search for a gate that is in sight from the first frame on. -/
def Exact.approach : Nat → Order Rat
  | 0 => .search gate
  | t + 1 => .tick (passing t)

def Exact.passage : Journal Rat :=
  .ofOrders ⟨prompt, carefree⟩ navigator build_eq approach 12 (by decide +kernel)

/-- A rover that has passed the gate has seen posts of it on both sides, and knows two of them. -/
theorem Journal.at_gate_on_evidence_passage :
    Exact.passage.Search 0 Exact.gate 12 ((List.range 11).map Exact.passing) ∧
      (Exact.passage.navigator 12).phase = .traversed ∧
      (∀ side, 1 ≤ ((List.range 11).map Exact.passing).countP (·.shows Exact.gate side)) ∧
      ∃ p, Exact.passage.pilot? 12 = some p ∧
        ∀ side, ∃ post, p.known.get side = some post ∧ (post.id = 3 ∨ post.id = 4) := by
  have search : Exact.passage.Search 0 Exact.gate 12 ((List.range 11).map Exact.passing) := by
    refine Search.of_ticks (k := 11) rfl (fun i _ => ?_) (by decide)
    rw [Nat.zero_add, Nat.add_comm]
    rfl
  have traversed : (Exact.passage.navigator 12).phase = .traversed := by decide +kernel
  obtain ⟨enough, p, last, -, known⟩ :=
    (at_gate_on_evidence Exact.passage 0 Exact.gate 12 _ search rfl (by decide)).1 (by rw [traversed]; rfl)
  exact ⟨search, traversed, enough, p, last, known⟩

end GateNav
