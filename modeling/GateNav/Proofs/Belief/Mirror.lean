import GateNav.Proofs.Belief.Update

/-!
# Belief in a mirror

What one rover sees in the left part of the image another one may see in the right part, and the other way round. The
two parts are tracked alike and each on its own, so what the one believes about a post the other one believes too, in
the other part (`Belief.Mirrors.update`). Of an update that halts nothing is left but the halt, and it is the same.
-/

namespace GateNav
variable {α : Type}

/-! ### Computations that go together -/

namespace Checked
variable {β β' γ γ' : Type}

/-- Both computations halt, and in the same way, or both have results, and these are related. -/
inductive Related (R : β → γ → Prop) : Checked α β → Checked α γ → Prop
  | halt (h : Halt α) : Related R (.error h) (.error h)
  | answer {b : β} {c : γ} (h : R b c) : Related R (.ok b) (.ok c)

variable {R : β → γ → Prop} {S : β' → γ' → Prop} {x : Checked α β} {y : Checked α γ}

theorem Related.bind {f : β → Checked α β'} {g : γ → Checked α γ'} (h : Related R x y)
    (next : ∀ {b c}, R b c → Related S (f b) (g c)) : Related S (x >>= f) (y >>= g) := by
  cases h with
  | halt h => exact .halt h
  | answer related => exact next related

theorem Related.map {f : β → β'} {g : γ → γ'} (h : Related R x y) (next : ∀ {b c}, R b c → S (f b) (g c)) :
    Related S (f <$> x) (g <$> y) := by
  cases h with
  | halt h => exact .halt h
  | answer related => exact .answer (next related)

end Checked

/-! ### The other part of the image -/

def Side.other : Side → Side
  | .left => .right
  | .right => .left

@[simp] theorem Side.other_other {side : Side} : side.other.other = side := by cases side <;> rfl

theorem Side.eq_other_of_ne {a b : Side} (h : a ≠ b) : a = b.other := by
  cases a <;> cases b <;> first | rfl | exact absurd rfl h

@[simp] theorem Sided.get_swap {β : Type} {p : Sided β} {side : Side} : p.swap.get side = p.get side.other := by
  cases side <;> rfl

namespace Tracker

/-- The same belief about a post, but in this part of the image. -/
def on (t : Tracker α) (side : Side) : Tracker α := { t with side := side }

variable {t : Tracker α} {side : Side} {seen : Sighting α}

@[simp] theorem on_hasPost : (t.on side).hasPost = t.hasPost := rfl

@[simp] theorem on_id? : (t.on side).id? = t.id? := rfl

@[simp] theorem on_location : (t.on side).location = t.location := rfl

@[simp] theorem on_settled : (t.on side).settled = t.settled := rfl

@[simp] theorem on_confident : (t.on side).confident = t.confident := rfl

variable [Scalar α] {s : TrackingSettings α}

/-- Only the event tells in which part of the image a post was seen. -/
theorem on_observe : ((t.on side).observe s seen).result = (t.observe s seen).result.on side := by
  unfold observe
  split
  · rw [show (t.on side).held = t.held from rfl]
    split
    · rfl
    · split
      · rfl
      · dsimp only
        rw [show (t.on side).miss.misses = t.miss.misses from rfl]
        split <;> rfl
  · dsimp only
    rw [show (t.on side).miss.misses = t.miss.misses from rfl, show (t.on side).miss.hasPost = t.miss.hasPost from rfl]
    split <;> rfl

theorem on_locate [Trig α] {pose : Pose α} : (t.on side).locate pose = (t.locate pose).on side := by
  unfold locate
  rw [on_hasPost, show (t.on side).bearings = t.bearings from rfl, show (t.on side).distances = t.distances from rfl]
  split <;> rfl

end Tracker

namespace Belief

/-- The second rover believes the same as the first one, but in the other part of the image. What was reported last
stands beside. -/
structure Mirrors (b b' : Belief α) : Prop where
  settings : b'.settings = b.settings
  tracker : ∀ side, b'.tracker side = (b.tracker side.other).on side

variable {b b' : Belief α} {side : Side}

theorem Mirrors.left (h : b.Mirrors b') : b'.trackers.left = b.trackers.right.on .left := h.tracker .left

theorem Mirrors.right (h : b.Mirrors b') : b'.trackers.right = b.trackers.left.on .right := h.tracker .right

theorem Mirrors.hasGate (h : b.Mirrors b') : b'.hasGate = b.hasGate := by
  unfold Belief.hasGate
  rw [h.left, h.right, Tracker.on_hasPost, Tracker.on_hasPost, Bool.and_comm]

theorem Mirrors.forgive (h : b.Mirrors b') : b.forgive.Mirrors b'.forgive where
  settings := h.settings
  tracker side := by
    unfold Belief.forgive
    rw [h.left, h.right]
    cases side <;> rfl

theorem Mirrors.settled (h : b.Mirrors b') : b'.settled = b.settled := by
  unfold Belief.settled holding Sided.toList
  rw [h.left, h.right]
  cases hl : b.trackers.left.hasPost <;> cases hr : b.trackers.right.hasPost <;> simp [hl, hr, Bool.and_comm]

theorem Mirrors.gateSettled (h : b.Mirrors b') : b'.gateSettled = b.gateSettled := by
  unfold Belief.gateSettled
  rw [h.hasGate, h.settled]

variable [Scalar α] [Trig α] {pose : Pose α} {waypoint : Option (Waypoint α)}

theorem Mirrors.updated (h : b.Mirrors b') (raw : b'.raw = b.raw.swap) :
    b'.updated pose waypoint side = (b.updated pose waypoint side.other).on side := by
  unfold Belief.updated observed
  rw [h.tracker, h.settings, raw, Sided.get_swap, Tracker.on_observe, Tracker.on_locate]

/-- The two parts are updated one after the other; but whichever halts, it is because an id has no successor. -/
theorem Mirrors.update (h : b.Mirrors b') (raw : b'.raw = b.raw.swap) :
    Checked.Related (fun n n' => n.result.Mirrors n'.result) (b.update pose waypoint) (b'.update pose waypoint) := by
  have unanswered (side : Side) : ((b'.raw.get side).detected = true ∧ ¬ Answerable waypoint (b'.raw.get side).id) ↔
      (b.raw.get side.other).detected = true ∧ ¬ Answerable waypoint (b.raw.get side.other).id := by
    rw [raw, Sided.get_swap]
  cases first : b.update pose waypoint with
  | error halt =>
    obtain ⟨rfl, side, seen⟩ := update_eq_error.1 first
    have second : b'.update pose waypoint = .error .sumTooLarge :=
      update_eq_error.2 ⟨rfl, side.other, (unanswered _).2 (by rwa [Side.other_other])⟩
    rw [second]
    exact .halt _
  | ok n =>
    cases second : b'.update pose waypoint with
    | error halt =>
      obtain ⟨rfl, side, seen⟩ := update_eq_error.1 second
      rw [update_eq_error.2 ⟨rfl, side.other, (unanswered side).1 seen⟩] at first
      cases first
    | ok n' =>
      refine .answer ?_
      rw [update_eq_ok first, update_eq_ok second]
      refine ⟨h.settings, fun side => ?_⟩
      cases side with
      | left => exact h.updated raw
      | right => exact h.updated raw

end Belief

end GateNav
