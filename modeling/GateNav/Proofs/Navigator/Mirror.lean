import GateNav.Proofs.Navigator.Alike
import GateNav.Proofs.Pilot.Mirror

/-!
# Searches in a mirror

In which part of the image a post is seen makes no difference to a search. If two navigators are shown the same frames,
but with the two parts of the image exchanged, then whatever the one has learned from the left part the other has
learned from the right part, and they command the same (`Journal.search_mirrored`). The part of the image decides only
where two posts tie, and where a passage is planned between posts with one id.
-/

namespace GateNav
variable {α : Type}

def Frame.mirror (f : Frame α) : Frame α := { f with sightings := f.sightings.swap }

namespace Navigator

/-- The second navigator has learned from each part of the image what the first one has learned from the other part, and
is otherwise in the same state. What was reported last and the count of the cycles stand beside. -/
structure Mirrors (n m : Navigator α) : Prop where
  settings : m.settings = n.settings
  belief : n.belief.Mirrors m.belief
  pilot : m.pilot = n.pilot.map Pilot.mirror
  waypoint : m.waypoint = n.waypoint
  phase : m.phase = n.phase
  visited : m.visited = n.visited
  abortedIn : m.abortedIn = n.abortedIn

variable {n m : Navigator α} {frame : Frame α} {w : Waypoint α} {p : Pilot α}

theorem Mirrors.outcome (h : n.Mirrors m) : m.outcome? = n.outcome? := by
  unfold outcome?
  rw [h.abortedIn, h.phase, h.visited]

variable [Scalar α]

theorem mirrors_begun {s : TrackingSettings α} (settings : m.settings = n.settings) (blank : n.belief.blank = .start s)
    (blank' : m.belief.blank = .start s) (same : p.mirror = p) :
    (n.begun w p).Mirrors (m.begun w p) where
  settings := settings
  belief := by
    -- Nothing is held in either part of the image, so there is nothing to exchange but the names of the parts.
    have fresh (side : Side) : n.belief.reset.tracker side = (Belief.start s).tracker side :=
      congrArg (·.tracker side) blank
    have fresh' (side : Side) : m.belief.reset.tracker side = (Belief.start s).tracker side :=
      congrArg (·.tracker side) blank'
    refine ⟨(congrArg (·.settings) blank').trans (congrArg (·.settings) blank).symm, fun side => ?_⟩
    change m.belief.reset.tracker side = (n.belief.reset.tracker side.other).on side
    rw [fresh, fresh']
    cases side <;> rfl
  pilot := congrArg some same.symm
  waypoint := rfl
  phase := rfl
  visited := rfl
  abortedIn := rfl

variable [Trig α]

def atWork? (n : Navigator α) (frame : Frame α) : Option (Cycle α) := do
  let p ← n.pilot
  let perceived ← (n.perceive frame).toOption
  return p.atWork frame.pose n.waypoint perceived.result

/-- In the cycle of this frame two posts tie. -/
def ties (n : Navigator α) (frame : Frame α) : Bool := (n.atWork? frame).any (·.tied)

/-- In the cycle of this frame a passage is planned between posts with one id. -/
def doubles (n : Navigator α) (frame : Frame α) : Bool := (n.atWork? frame).any (·.doubled)

/-- The answers of two navigators: their states are mirrored, and what the drive layer is told is the same. -/
def Answers (r r' : Noted α (Navigator α × Command α)) : Prop :=
  r.result.1.Mirrors r'.result.1 ∧ r'.result.2.told = r.result.2.told

theorem Mirrors.perceive (h : n.Mirrors m) :
    Checked.Related (fun b b' => b.result.Mirrors b'.result) (n.perceive frame) (m.perceive frame.mirror) := by
  have shown : Belief.Mirrors ((n.belief.setObstacle frame.obstacle).setSightings frame.sightings)
      ((m.belief.setObstacle frame.obstacle).setSightings frame.sightings.swap) :=
    ⟨h.belief.settings, h.belief.tracker⟩
  unfold Navigator.perceive
  rw [h.waypoint]
  exact shown.update rfl

variable [Scalar.Asymmetric α]

theorem Mirrors.tick (h : n.Mirrors m) (untied : n.ties frame = false) (distinct : n.doubles frame = false)
    (few : n.cycles < maxCount) (few' : m.cycles < maxCount) :
    Checked.Related Answers (n.tick frame) (m.tick frame.mirror) := by
  have related : Checked.Related _ (n.perceive frame) (m.perceive frame.mirror) := h.perceive
  unfold ties atWork? at untied
  unfold doubles atWork? at distinct
  unfold Navigator.tick
  rw [if_neg (Nat.not_le_of_lt few), if_neg (Nat.not_le_of_lt few'), h.pilot]
  generalize n.perceive frame = perceived at related untied distinct ⊢
  generalize m.perceive frame.mirror = perceived' at related ⊢
  cases related with
  | halt halt => exact .halt halt
  | @answer noted noted' belief =>
    cases busy : n.pilot with
    | none =>
      refine .answer ⟨⟨h.settings, belief, rfl, h.waypoint, h.phase, h.visited, h.abortedIn⟩, ?_⟩
      exact congrArg (·, Steering.hold) h.phase
    | some p =>
      rw [busy] at untied distinct
      have work : Cycle.Mirrors (p.atWork frame.pose n.waypoint noted.result)
          (p.mirror.atWork frame.pose m.waypoint noted'.result) := ⟨rfl, h.waypoint, rfl, belief⟩
      refine (work.run untied distinct).bind ?_
      intro c d move
      dsimp only
      rw [move.pilot, show c.pilot.mirror.phase = c.pilot.phase from rfl]
      refine .answer ⟨⟨h.settings, move.belief, ?_, h.waypoint, rfl, ?_, h.abortedIn⟩, rfl⟩
      · dsimp only
        cases c.pilot.phase.isTerminal <;> rfl
      · dsimp only
        rw [h.visited]
        rfl

end Navigator

namespace Journal
variable [Scalar α] [Trig α] [Numeral α] {L L' : Journal α} {s t s' t' : Nat} {w : Waypoint α}
  {frames frames' : List (Frame α)}

theorem Search.lt (h : L.Search s w t frames) : s < t := by
  induction h with
  | begin => exact Nat.lt_succ_self s
  | tick before given order ih => exact Nat.lt_succ_of_lt ih

/-- In none of the cycles between order `s` and order `t` do two posts tie, and in none is a passage planned between
posts with one id. -/
def Decided (L : Journal α) (s t : Nat) : Prop :=
  ∀ i frame, s < i → i < t → L.order i = .tick frame →
    (L.navigator i).ties frame = false ∧ (L.navigator i).doubles frame = false

theorem Search.mirrors [Scalar.Asymmetric α] (same : L'.settings = L.settings) (h : L.Search s w t frames)
    (h' : L'.Search s' w t' frames') (mirrored : frames' = frames.map Frame.mirror) (decided : L.Decided s t) :
    (L.navigator t).Mirrors (L'.navigator t') ∧
      (L'.command t').map Command.told = (L.command t).map Command.told := by
  -- The other search is as long, so it is taken apart step by step along with this one.
  induction h generalizing t' frames' with
  | begin given order =>
    cases h' with
    | tick => simp at mirrored
    | begin given' order' =>
      obtain ⟨p, events, built, after, silent, -⟩ := begun given order
      obtain ⟨p', events', built', after', silent', -⟩ := begun given' order'
      rw [same, built] at built'
      cases built'
      rw [after, after', silent, silent']
      have blank' := blank (Nat.le_of_lt given')
      rw [same] at blank'
      refine ⟨Navigator.mirrors_begun ?_ (blank (Nat.le_of_lt given)) blank' ?_, rfl⟩
      · rw [settings_eq (Nat.le_of_lt given), settings_eq (Nat.le_of_lt given'), same]
      · exact Pilot.mirror_of_start (Pilot.of_build built).2
  | @tick t frames frame before given order ih =>
    cases h' with
    | begin => simp at mirrored
    | @tick t' frames' frame' before' given' order' =>
      rw [List.map_append] at mirrored
      obtain ⟨first, last⟩ := List.append_inj' mirrored rfl
      obtain rfl : frame' = frame.mirror := List.head_eq_of_cons_eq last
      have earlier : L.Decided s t := fun i f later sooner => decided i f later (Nat.lt_succ_of_lt sooner)
      obtain ⟨mirrors, -⟩ := ih before' first earlier
      obtain ⟨untied, distinct⟩ := decided t frame before.lt (Nat.lt_succ_self t) order
      obtain ⟨c, told, tick⟩ := Journal.tick given order
      obtain ⟨c', told', tick'⟩ := Journal.tick given' order'
      have related := mirrors.tick untied distinct (Navigator.few_of_tick tick) (Navigator.few_of_tick tick')
      rw [tick, tick'] at related
      cases related with
      | answer answers =>
        rw [told, told']
        exact ⟨answers.1, congrArg some answers.2⟩

/-- In which part of the image posts are seen does not matter. Whatever two navigators with the same settings were told
before, once both are told to search for the same waypoint, and one is shown the frames of the other with the two parts
exchanged, then they stay in mirrored states and command the same, as long as in no cycle of the first one do two posts
tie and in none is a passage planned between posts with one id. If the next cycle is such a one too, then both halt in
it in the same way or both answer it, in mirrored states and with the same command, as long as their cycles can be
counted. -/
theorem search_mirrored [Scalar.Asymmetric α] (L L' : Journal α) (same : L'.settings = L.settings) (w : Waypoint α)
    (s t s' t' : Nat) (frames : List (Frame α)) (search : L.Search s w t frames)
    (search' : L'.Search s' w t' (frames.map Frame.mirror)) (decided : L.Decided s t) :
    (L.navigator t).Mirrors (L'.navigator t') ∧
      (L'.command t').map Command.told = (L.command t).map Command.told ∧
      (L'.navigator t').outcome? = (L.navigator t).outcome? ∧
      ∀ frame, (L.navigator t).ties frame = false → (L.navigator t).doubles frame = false →
        (L.navigator t).cycles < maxCount → (L'.navigator t').cycles < maxCount →
        Checked.Related Navigator.Answers ((L.navigator t).tick frame) ((L'.navigator t').tick frame.mirror) := by
  obtain ⟨mirrors, told⟩ := search.mirrors same search' rfl decided
  refine ⟨mirrors, told, mirrors.outcome, ?_⟩
  intro frame untied distinct few few'
  exact mirrors.tick untied distinct few few'

end Journal

/-- A rover south of the gate that sees its posts not equally far away. -/
def Exact.uneven : Frame Rat := ⟨place 0 (-2) 0, ⟨⟨3, -30, 3⟩, ⟨16 / 5, 30, 4⟩⟩, .clear⟩

def Exact.staring (frame : Frame Rat) : Nat → Order Rat
  | 0 => .search gate
  | _ + 1 => .tick frame

theorem Exact.search_staring {L : Journal Rat} {frame : Frame Rat} {k : Nat} (orders : L.order = staring frame)
    (given : k < L.length) : L.Search 0 gate (k + 1) (List.replicate k frame) := by
  induction k with
  | zero => exact .begin given (by rw [orders]; rfl)
  | succ k ih =>
    rw [List.replicate_succ']
    exact (ih (by omega)).tick given (by rw [orders]; rfl)

/-- The gate is located from the two posts, whichever of them is seen on the left. -/
theorem Journal.search_mirrored_uneven :
    ∃ L L' : Journal Rat, L.Search 0 Exact.gate 5 (List.replicate 4 Exact.uneven) ∧
      L'.Search 0 Exact.gate 5 (List.replicate 4 Exact.uneven.mirror) ∧ L.Decided 0 5 ∧
      ∃ p, (L.navigator 5).pilot = some p ∧ (L'.navigator 5).pilot = some p.mirror ∧ p.passage.isSome = true ∧
        p.known.toList.map (·.map (·.id)) = [some 3, some 4] := by
  let L : Journal Rat :=
    .ofOrders ⟨Exact.prompt, Exact.carefree⟩ Exact.navigator Exact.build_eq (Exact.staring Exact.uneven) 5
      (by decide +kernel)
  let L' : Journal Rat :=
    .ofOrders ⟨Exact.prompt, Exact.carefree⟩ Exact.navigator Exact.build_eq (Exact.staring Exact.uneven.mirror) 5
      (by decide +kernel)
  have search : L.Search 0 Exact.gate 5 (List.replicate 4 Exact.uneven) := Exact.search_staring rfl (by decide)
  have search' : L'.Search 0 Exact.gate 5 (List.replicate 4 Exact.uneven.mirror) := Exact.search_staring rfl (by decide)
  have each : ∀ i < 5, (L.navigator i).ties Exact.uneven = false ∧ (L.navigator i).doubles Exact.uneven = false := by
    decide +kernel
  have decided : L.Decided 0 5 := by
    intro i frame later sooner order
    obtain ⟨i, rfl⟩ := Nat.exists_eq_succ_of_ne_zero (Nat.ne_of_gt later)
    cases order
    exact each _ sooner
  have planned : (L.navigator 5).pilot.any (fun p => p.passage.isSome &&
      p.known.toList.map (·.map (·.id)) = [some 3, some 4]) = true := by decide +kernel
  obtain ⟨mirrors, -⟩ := search_mirrored L L' rfl Exact.gate 0 5 0 5 _ search search' decided
  obtain ⟨p, busy, located⟩ := (Option.any_eq_true _ _).1 planned
  rw [Bool.and_eq_true, decide_eq_true_eq] at located
  exact ⟨L, L', search, search', decided, p, busy, by rw [mirrors.pilot, busy]; rfl, located⟩

end GateNav
