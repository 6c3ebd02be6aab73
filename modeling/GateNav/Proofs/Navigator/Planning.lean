import GateNav.Proofs.Navigator.Known
import GateNav.Proofs.Pilot.Drafts

/-!
# The gate that is planned is the one searched for

While a gate is searched for, the pilot knows no posts but those of this gate, so every passage it plans leads between
two of them. If they carry different ids, the passage has the one with the waypoint's id on its left and the one with
the next id on its right. But each part of the image is tracked on its own, and nothing keeps the two from learning the
same id: then the post in the left part is taken for the left-hand one (`Journal.planned_between_posts`,
`Journal.planned_from_one_id`).
-/

namespace GateNav
variable {α : Type} [Scalar α] [Trig α]

namespace Navigator
variable {n : Navigator α} {frame : Frame α}

/-- The passage that a frame makes the pilot plan, if it does. -/
def drafted? (n : Navigator α) (frame : Frame α) : Option (Passage α) := do
  let p ← n.pilot
  let perceived ← (n.perceive frame).toOption
  (p.atWork frame.pose n.waypoint perceived.result).drafted?

theorem drafted?_of_idle (idle : n.pilot = none) : n.drafted? frame = none := by
  rw [drafted?, idle]; rfl

theorem drafted?_of_perceive {p : Pilot α} {belief : Belief α} {seen : List (Event α)} (busy : n.pilot = some p)
    (perceived : n.perceive frame = .ok ⟨belief, seen⟩) :
    n.drafted? frame = (p.atWork frame.pose n.waypoint belief).drafted? := by
  rw [drafted?, busy, perceived]; rfl

end Navigator

namespace Journal
variable [Numeral α] {L : Journal α} {s t : Nat} {w : Waypoint α} {frames : List (Frame α)} {frame : Frame α}

theorem Search.redraws [Scalar.Signed α] (search : L.Search s w t frames) (given : t < L.length)
    (order : L.order t = .tick frame) (gate : w.isGate = true) (numbered : w.Numbered) {p q : Pilot α}
    (before : L.pilot? t = some p) (after : L.pilot? (t + 1) = some q) :
    q.passage = ((L.navigator t).drafted? frame).or p.passage ∧
      ∀ g, (L.navigator t).drafted? frame = some g → Cycle.draft? (some w) q = .ok (some g) := by
  obtain ⟨last, same, attests⟩ := search.attests gate numbered
  cases same.symm.trans before
  simp only [pilot?, order, before] at after
  cases busy : (L.navigator t).pilot with
  | none =>
    have unsteered : (L.navigator t).steered? frame = none := by unfold Navigator.steered?; rw [busy]; rfl
    rw [unsteered] at after
    cases after
    rw [Navigator.drafted?_of_idle busy]
    refine ⟨rfl, ?_⟩
    rintro g ⟨⟩
  | some pilot =>
    cases attests.same pilot busy
    obtain ⟨belief, seen, c, perceived, run, -⟩ := run_of_busy given order busy
    rw [Navigator.steered?_of_run busy perceived run] at after
    cases after
    rw [Navigator.drafted?_of_perceive busy perceived]
    have redraws := Pilot.redraws_of_shown (v := ⟨frame.pose, (L.navigator t).waypoint, belief⟩)
      (Pilot.shown_of_run run) attests.ready
    refine ⟨redraws.passage, ?_⟩
    intro g drafted
    rw [← attests.waypoint]
    exact redraws.plan g drafted

/-- A frame of a search for a gate leaves the pilot with the passage it had, or with one planned in this cycle, between
the two posts it now knows, both of this gate. If their ids differ, then the left-hand post carries the waypoint's id
and the right-hand post the next one; if not, the left-hand post is the one known from the left part of the image. -/
theorem planned_between_posts [Scalar.Signed α] (L : Journal α) (s : Nat) (w : Waypoint α) (t : Nat)
    (frames : List (Frame α)) (frame : Frame α) (search : L.Search s w t frames) (given : t < L.length)
    (order : L.order t = .tick frame) (gate : w.isGate = true) (small : w.id < Int32.maxValue) :
    ∃ p q, L.pilot? t = some p ∧ L.pilot? (t + 1) = some q ∧
      q.passage = ((L.navigator t).drafted? frame).or p.passage ∧
      ∀ g, (L.navigator t).drafted? frame = some g →
        ∃ leftHand rightHand, Cycle.Drafts (some w) q g leftHand rightHand ∧
          w.carries leftHand.id = true ∧ w.carries rightHand.id = true ∧
          (leftHand.id ≠ rightHand.id → leftHand.id = w.id ∧ rightHand.id = w.id + 1) ∧
          (leftHand.id = rightHand.id → q.known.left = some leftHand) := by
  have numbered : w.Numbered := fun _ => Int32.ne_of_lt small
  obtain ⟨p, before, -⟩ := search.attests gate numbered
  obtain ⟨q, after, attests⟩ := (search.tick given order).attests gate numbered
  obtain ⟨passage, plan⟩ := search.redraws given order gate numbered before after
  refine ⟨p, q, before, after, passage, ?_⟩
  intro g drafted
  obtain ⟨leftHand, rightHand, drafts⟩ := Cycle.drafts_of_draft? (plan g drafted)
  obtain ⟨first, second⟩ : w.carries leftHand.id = true ∧ w.carries rightHand.id = true := by
    cases drafts with
    | asSeen known => exact ⟨attests.known .left _ (by rw [known]; rfl), attests.known .right _ (by rw [known]; rfl)⟩
    | crossed known => exact ⟨attests.known .right _ (by rw [known]; rfl), attests.known .left _ (by rw [known]; rfl)⟩
  exact ⟨leftHand, rightHand, drafts, first, second, drafts.ids numbered first second⟩

end Journal

theorem Journal.planned_between_posts_passage :
    ∃ g q leftHand rightHand, (Exact.passage.navigator 4).drafted? (Exact.passing 3) = some g ∧
      Exact.passage.pilot? 5 = some q ∧ Cycle.Drafts (some Exact.gate) q g leftHand rightHand ∧
      leftHand.id = 3 ∧ rightHand.id = 4 := by
  have search : Exact.passage.Search 0 Exact.gate 4 ((List.range 3).map Exact.passing) := by
    refine Search.of_ticks (k := 3) rfl (fun i _ => ?_) (by decide)
    rw [Nat.zero_add, Nat.add_comm]
    rfl
  have planned : ((Exact.passage.navigator 4).drafted? (Exact.passing 3)).isSome = true := by decide +kernel
  have known : ∀ q ∈ Exact.passage.pilot? 5, q.known.toList.map (·.map (·.id)) = [some 3, some 4] := by decide +kernel
  obtain ⟨g, drafted⟩ := Option.isSome_iff_exists.1 planned
  obtain ⟨p, q, -, after, -, plan⟩ :=
    planned_between_posts Exact.passage 0 Exact.gate 4 _ (Exact.passing 3) search (by decide) rfl rfl (by decide)
  obtain ⟨leftHand, rightHand, drafts, -, -, ids, -⟩ := plan g drafted
  have differ : leftHand.id ≠ rightHand.id := by
    rcases drafts.known_ids with two | two <;> (rw [known q after] at two; simp at two; simp [← two])
  exact ⟨g, q, leftHand, rightHand, drafted, after, drafts, ids differ⟩

/-- A rover that sees the same id in both parts of the image. -/
def Exact.doubled : Frame Rat := ⟨place 0 (-2) 0, ⟨⟨3, -30, 3⟩, ⟨3, 30, 3⟩⟩, .clear⟩

def Exact.doubling : Nat → Order Rat
  | 0 => .search gate
  | _ => .tick doubled

def Exact.double : Journal Rat := .ofOrders ⟨prompt, carefree⟩ navigator build_eq doubling 5 (by decide +kernel)

/-- The two posts of this passage carry the same id. -/
theorem Journal.planned_from_one_id :
    ∃ (L : Journal Rat) (frames : List (Frame Rat)) (g : Passage Rat) (q : Pilot Rat) (a b : KnownPost Rat),
      L.Search 0 Exact.gate 4 frames ∧ L.order 4 = .tick Exact.doubled ∧
      (L.navigator 4).drafted? Exact.doubled = some g ∧ L.pilot? 5 = some q ∧
      Cycle.Drafts (some Exact.gate) q g a b ∧ a.id = 3 ∧ b.id = 3 := by
  have search : Exact.double.Search 0 Exact.gate 4 ((List.range 3).map fun _ => Exact.doubled) := by
    refine Search.of_ticks (k := 3) rfl (fun i _ => ?_) (by decide)
    rw [Nat.zero_add, Nat.add_comm]
    rfl
  have planned : ((Exact.double.navigator 4).drafted? Exact.doubled).isSome = true := by decide +kernel
  have known : ∀ q ∈ Exact.double.pilot? 5, q.known.toList.map (·.map (·.id)) = [some 3, some 3] := by decide +kernel
  obtain ⟨g, drafted⟩ := Option.isSome_iff_exists.1 planned
  obtain ⟨p, before, -⟩ := search.attests rfl fun _ => by decide
  obtain ⟨q, after, -⟩ := (search.tick (by decide) rfl).attests rfl fun _ => by decide
  obtain ⟨-, plan⟩ := search.redraws (by decide) rfl rfl (fun _ => by decide) before after
  obtain ⟨a, b, drafts⟩ := Cycle.drafts_of_draft? (plan g drafted)
  have same : a.id = 3 ∧ b.id = 3 := by
    rcases drafts.known_ids with two | two <;> (rw [known q after] at two; simp at two; simp [← two])
  exact ⟨Exact.double, _, g, q, a, b, search, rfl, drafted, after, drafts, same⟩

end GateNav
