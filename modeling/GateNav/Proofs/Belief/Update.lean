import GateNav.Belief
import GateNav.Double
import GateNav.Proofs.Waypoint

/-!
# One update of the belief

With a numbered waypoint an update never halts: each tracker observes the sighting that is admitted on its side and
places its post (`Belief.update_of_numbered`). With any waypoint it only halts if a post is seen of which it cannot be
said whether it is on the gate (`Belief.update_eq_error`). Of the sightings in the image those that are of the gate
searched for are admitted, and where no gate is searched for, all.
-/

namespace GateNav
variable {α : Type}

/-- Kinds of number in which minus one is below zero. -/
class Scalar.Signed (α : Type) [Scalar α] : Prop where
  not_zero_le_neg_one : ¬ (Scalar.zero : α) ≤ -Scalar.one

instance : Scalar.Signed Rat := ⟨by decide⟩

instance : Scalar.Signed Float := ⟨by decide⟩

instance : Scalar.Signed Double := ⟨by decide⟩

theorem Sighting.not_detected_none [Scalar α] [Scalar.Signed α] : (Sighting.none : Sighting α).detected = false :=
  decide_eq_false Scalar.Signed.not_zero_le_neg_one

namespace Tracker
variable [Scalar α] [Trig α] {t : Tracker α} {pose : Pose α}

@[simp] theorem locate_held : (t.locate pose).held = t.held := by
  unfold locate; split <;> rfl

@[simp] theorem locate_hits : (t.locate pose).hits = t.hits := by
  unfold locate; split <;> rfl

@[simp] theorem locate_misses : (t.locate pose).misses = t.misses := by
  unfold locate; split <;> rfl

@[simp] theorem locate_bearings : (t.locate pose).bearings = t.bearings := by
  unfold locate; split <;> rfl

@[simp] theorem locate_distances : (t.locate pose).distances = t.distances := by
  unfold locate; split <;> rfl

end Tracker

namespace Belief
variable [Scalar α] {waypoint : Option (Waypoint α)} {w : Waypoint α} {seen : Sighting α} {b : Belief α}

/-- The sighting, or none if it is of a post that is not on the gate searched for. -/
def admitted (waypoint : Option (Waypoint α)) (seen : Sighting α) : Sighting α :=
  match waypoint with
  | none => seen
  | some w => if w.isGate && seen.detected && !w.carries seen.id then .none else seen

theorem screen_of_numbered (numbered : ∀ w ∈ waypoint, w.Numbered) :
    screen waypoint seen = .ok (admitted waypoint seen) := by
  unfold screen admitted
  cases waypoint with
  | none => rfl
  | some w =>
    dsimp only
    by_cases gate : (w.isGate && seen.detected) = true
    · rw [if_pos gate, Waypoint.isGatePost_of_numbered (numbered w rfl), gate]
      cases w.carries seen.id <;> rfl
    · rw [if_neg gate, Bool.eq_false_iff.2 gate]; rfl

theorem screen_eq_ok {x : Sighting α} (h : screen waypoint seen = .ok x) : x = admitted waypoint seen := by
  unfold screen at h
  unfold admitted
  cases waypoint with
  | none => cases h; rfl
  | some w =>
    dsimp only at h ⊢
    cases gate : (w.isGate && seen.detected) with
    | false => rw [gate] at h; cases h; rfl
    | true =>
      rw [gate, if_pos rfl] at h
      obtain ⟨onGate, answer, h⟩ := Checked.bind_eq_ok.1 h
      rw [Waypoint.isGatePost_eq_ok answer] at h
      cases h
      cases w.carries seen.id <;> rfl

/-- A post that is seen and passes the screen is answered for. -/
theorem answerable_of_screen {x : Sighting α} (h : screen waypoint seen = .ok x) (detected : x.detected = true) :
    Answerable waypoint x.id := by
  rintro w ⟨⟩
  unfold screen at h
  dsimp only at h
  split at h
  · next gate =>
    rw [Bool.and_eq_true] at gate
    obtain ⟨onGate, answer, h⟩ := Checked.bind_eq_ok.1 h
    cases onGate with
    | true => cases h; exact ⟨true, answer⟩
    | false =>
      -- The second id was looked at, so there is one.
      refine Waypoint.answers_iff.2 (.inl ((Waypoint.answers_iff.1 ⟨false, answer⟩).resolve_right ?_))
      rintro same
      have own := Waypoint.isGatePost_eq_ok answer
      rw [Waypoint.carries, gate.1, same] at own
      simp at own
  · next other =>
    cases h
    refine Waypoint.answers_iff.2 (.inl fun gate => absurd ?_ other)
    rw [gate, detected]
    rfl

theorem screen_eq_error {halt : Halt α} :
    screen waypoint seen = .error halt ↔
      halt = .sumTooLarge ∧ seen.detected = true ∧ ¬ Answerable waypoint seen.id := by
  unfold screen
  cases waypoint with
  | none => simp [Answerable, pure, Except.pure]
  | some w =>
    simp only [Answerable, Option.mem_some_iff, forall_eq']
    cases detected : seen.detected with
    | false => simp [pure, Except.pure]
    | true =>
      cases gate : w.isGate with
      | false => simp [Waypoint.not_answers_iff, gate, pure, Except.pure]
      | true =>
        rw [if_pos (by rfl), Checked.bind_eq_error, Waypoint.isGatePost_eq_error]
        simp [pure, Except.pure]

/-- What is admitted while a gate is searched for is of one of its posts. -/
theorem carries_of_admitted [Scalar.Signed α] (gate : w.isGate = true)
    (h : (admitted (some w) seen).detected = true) : w.carries (admitted (some w) seen).id = true := by
  unfold admitted at h ⊢
  dsimp only at h ⊢
  split at h
  · rw [Sighting.not_detected_none] at h; cases h
  · next other =>
    rw [if_neg other]
    simpa [gate, h] using other

/-- What is admitted while a gate is searched for shows a post if it is one of the gate. -/
theorem detected_admitted [Scalar.Signed α] (gate : w.isGate = true) :
    (admitted (some w) seen).detected = (seen.detected && w.carries seen.id) := by
  unfold admitted
  dsimp only
  rw [gate, Bool.true_and]
  cases detected : seen.detected with
  | false => rw [if_neg (by simp), detected]; rfl
  | true =>
    cases carries : w.carries seen.id with
    | false => rw [if_pos (by simp)]; exact Sighting.not_detected_none
    | true => rw [if_neg (by simp), detected]; rfl

/-- What a tracker makes of the sighting admitted on its side. -/
def observed (b : Belief α) (waypoint : Option (Waypoint α)) (side : Side) : Noted α (Tracker α) :=
  (b.tracker side).observe b.settings (admitted waypoint (b.raw.get side))

variable [Trig α]

/-- A tracker after an update. -/
def updated (b : Belief α) (pose : Pose α) (waypoint : Option (Waypoint α)) (side : Side) : Tracker α :=
  (b.observed waypoint side).result.locate pose

/-- An update with a numbered waypoint, side by side. -/
theorem update_of_numbered (numbered : ∀ w ∈ waypoint, w.Numbered) (pose : Pose α) :
    b.update pose waypoint =
      .ok ⟨{ b with trackers := ⟨b.updated pose waypoint .left, b.updated pose waypoint .right⟩ },
        (b.observed waypoint .left).events ++ (b.observed waypoint .right).events⟩ := by
  unfold update updateSide
  rw [screen_of_numbered numbered, screen_of_numbered numbered]
  rfl

/-- Whatever the waypoint, an update that is answered leaves these trackers. -/
theorem update_eq_ok {pose : Pose α} {n : Noted α (Belief α)} (h : b.update pose waypoint = .ok n) :
    n.result = { b with trackers := ⟨b.updated pose waypoint .left, b.updated pose waypoint .right⟩ } := by
  have each {side : Side} {noted : Noted α (Tracker α)} (h : b.updateSide pose waypoint side = .ok noted) :
      noted.result = b.updated pose waypoint side := by
    obtain ⟨x, screened, h⟩ := Checked.bind_eq_ok.1 h
    rw [screen_eq_ok screened] at h
    cases h; rfl
  obtain ⟨left, hleft, h⟩ := Checked.bind_eq_ok.1 h
  obtain ⟨right, hright, h⟩ := Checked.bind_eq_ok.1 h
  cases h
  rw [each hleft, each hright]

theorem updateSide_eq_error {pose : Pose α} {side : Side} {halt : Halt α} :
    b.updateSide pose waypoint side = .error halt ↔ screen waypoint (b.raw.get side) = .error halt := by
  unfold updateSide
  rw [Checked.bind_eq_error]
  simp [pure, Except.pure]

theorem update_eq_error {pose : Pose α} {halt : Halt α} :
    b.update pose waypoint = .error halt ↔
      halt = .sumTooLarge ∧ ∃ side, (b.raw.get side).detected = true ∧ ¬ Answerable waypoint (b.raw.get side).id := by
  unfold update
  rw [Checked.bind_eq_error, updateSide_eq_error, screen_eq_error]
  constructor
  · rintro (⟨rfl, seen⟩ | ⟨left, -, h⟩)
    · exact ⟨rfl, .left, seen⟩
    · rw [Checked.bind_eq_error, updateSide_eq_error, screen_eq_error] at h
      rcases h with ⟨rfl, seen⟩ | ⟨right, -, h⟩
      · exact ⟨rfl, .right, seen⟩
      · cases h
  · rintro ⟨rfl, side, seen⟩
    cases first : b.updateSide pose waypoint .left with
    | error e =>
      rw [updateSide_eq_error, screen_eq_error] at first
      exact .inl ⟨rfl, first.2⟩
    | ok left =>
      cases side with
      | left => exact .inl ⟨rfl, seen⟩
      | right =>
        refine .inr ⟨left, rfl, ?_⟩
        rw [Checked.bind_eq_error, updateSide_eq_error, screen_eq_error]
        exact .inl ⟨rfl, seen⟩

end Belief

end GateNav
