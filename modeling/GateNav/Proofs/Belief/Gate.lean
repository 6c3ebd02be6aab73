import GateNav.Proofs.Belief.Update

/-!
# Whose posts are held

While a gate is searched for, only sightings of its posts are admitted. So once the belief holds no other post, as
after a reset, it never does (`Belief.OnGate`). Nor does it come to hold a post of which it cannot be said whether it is
on the gate (`Belief.Names.update`).
-/

namespace GateNav
variable {α : Type}

/-- Every post that is held is on the gate. -/
def Belief.OnGate (w : Waypoint α) (b : Belief α) : Prop :=
  ∀ side, ∀ s ∈ (b.tracker side).held, w.carries s.id = true

/-- The id of every post that is held has the property. -/
def Belief.Names (P : Int32 → Prop) (b : Belief α) : Prop := ∀ side, ∀ id ∈ (b.tracker side).id?, P id

namespace Tracker
variable [Scalar α] (s : TrackingSettings α) (t : Tracker α) (seen : Sighting α)

/-- After a sighting a tracker holds what it held, what it has seen, or nothing. -/
theorem held_of_observe :
    (t.observe s seen).result.held = t.held ∨ (t.observe s seen).result.held = none ∨
      seen.detected = true ∧ (t.observe s seen).result.held = some seen := by
  unfold observe
  split
  · next detected =>
    split
    · exact .inr (.inr ⟨detected, rfl⟩)
    · next held =>
      split
      · exact .inr (.inr ⟨detected, rfl⟩)
      · dsimp only
        split
        · exact .inr (.inr ⟨detected, rfl⟩)
        · exact .inl rfl
  · dsimp only
    split
    · exact .inr (.inl rfl)
    · exact .inl rfl

end Tracker

namespace Belief
variable {b : Belief α} {w : Waypoint α} {P : Int32 → Prop}

theorem names_iff_onGate : b.Names (w.carries · = true) ↔ b.OnGate w := by
  constructor
  · intro h side s held
    exact h side s.id (Option.mem_map_of_mem _ held)
  · intro h side id named
    obtain ⟨s, held, rfl⟩ := Option.map_eq_some_iff.1 named
    exact h side s held

theorem Names.forgive (h : b.Names P) : b.forgive.Names P := by
  intro side; cases side
  · exact h .left
  · exact h .right

theorem OnGate.forgive (h : b.OnGate w) : b.forgive.OnGate w := names_iff_onGate.1 (names_iff_onGate.2 h).forgive

variable [Scalar α]

theorem onGate_reset : b.reset.OnGate w := by
  intro side; cases side <;> exact nofun

theorem names_reset : b.reset.Names P := by
  intro side; cases side <;> exact nofun

theorem names_start {s : TrackingSettings α} : (start s).Names P := by
  intro side; cases side <;> exact nofun

variable [Trig α] {pose : Pose α}

/-- What has the property of all that the screen lets through has it of all that is held. -/
theorem Names.update_of_screen {waypoint : Option (Waypoint α)} {n : Noted α (Belief α)} (h : b.Names P)
    (admits : ∀ {seen x}, screen waypoint seen = .ok x → x.detected = true → P x.id)
    (hn : b.update pose waypoint = .ok n) : n.result.Names P := by
  have each {side : Side} {noted : Noted α (Tracker α)} (hs : b.updateSide pose waypoint side = .ok noted) :
      ∀ id ∈ noted.result.id?, P id := by
    obtain ⟨seen, screened, hs⟩ := Checked.bind_eq_ok.1 hs
    cases hs
    intro id hid
    dsimp only [Tracker.id?] at hid
    rw [Tracker.locate_held] at hid
    rcases Tracker.held_of_observe b.settings (b.tracker side) seen with same | gone | ⟨detected, taken⟩
    · rw [same] at hid; exact h side id hid
    · rw [gone] at hid; cases hid
    · rw [taken] at hid
      cases hid
      exact admits screened detected
  obtain ⟨left, hleft, hn⟩ := Checked.bind_eq_ok.1 hn
  obtain ⟨right, hright, hn⟩ := Checked.bind_eq_ok.1 hn
  cases hn
  intro side; cases side
  · exact each hleft
  · exact each hright

/-- An update that is answered takes only posts in that are answered for. -/
theorem Names.update {waypoint : Option (Waypoint α)} {n : Noted α (Belief α)} (h : b.Names (Answerable waypoint))
    (hn : b.update pose waypoint = .ok n) : n.result.Names (Answerable waypoint) :=
  h.update_of_screen answerable_of_screen hn

theorem OnGate.update [Scalar.Signed α] (h : b.OnGate w) (gate : w.isGate = true) (numbered : w.Numbered)
    {n : Noted α (Belief α)} (hn : b.update pose (some w) = .ok n) : n.result.OnGate w := by
  refine names_iff_onGate.1 ((names_iff_onGate.2 h).update_of_screen ?_ hn)
  intro seen x screened detected
  rw [screen_of_numbered (by simpa using numbered)] at screened
  cases screened
  exact carries_of_admitted gate detected

end Belief

end GateNav
