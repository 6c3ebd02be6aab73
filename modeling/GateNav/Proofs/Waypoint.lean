import Mathlib.Logic.Basic
import GateNav.Waypoint

/-!
# The ids of a gate

A waypoint is `Waypoint.Numbered` if there is an id for the second post of its gate. Then every id is either on the
gate or not: `Waypoint.isGatePost` does not halt. A gate with the largest id is answered for its own id alone
(`Waypoint.answers_iff`).
-/

namespace GateNav

namespace Waypoint
variable {α : Type} {w : Waypoint α}

/-- The id is on one of the two posts of this gate. -/
def carries (w : Waypoint α) (id : Int32) : Bool := w.isGate && (id = w.id || id = w.id + 1)

theorem eq_of_carries {id : Int32} (h : w.carries id = true) : id = w.id ∨ id = w.id + 1 := by
  simp only [carries, Bool.and_eq_true, Bool.or_eq_true, decide_eq_true_eq] at h
  exact h.2

/-- If this is a gate, there is an id for its second post. -/
def Numbered (w : Waypoint α) : Prop := w.isGate = true → w.id ≠ Int32.maxValue

theorem nextId_of_ne {id : Int32} (h : id ≠ Int32.maxValue) : nextId id = (.ok (id + 1) : Checked α Int32) :=
  if_neg h

/-- The posts of a gate carry its id and the id after it. -/
theorem isGatePost_of_numbered (h : w.Numbered) (id : Int32) :
    w.isGatePost id = .ok (w.carries id) := by
  unfold isGatePost carries
  cases gate : w.isGate with
  | false => rfl
  | true =>
    rw [if_neg (by decide)]
    by_cases first : id = w.id
    · rw [if_pos first, first]; simp [pure, Except.pure]
    · rw [if_neg first, nextId_of_ne (h gate)]; simp [first, bind, Except.bind, pure, Except.pure]

/-- Whether an id is on the gate is answered right, if it is answered. -/
theorem isGatePost_eq_ok {id : Int32} {onGate : Bool} (h : w.isGatePost id = .ok onGate) :
    onGate = w.carries id := by
  unfold isGatePost at h
  unfold carries
  cases gate : w.isGate with
  | false => rw [gate] at h; cases h; rfl
  | true =>
    rw [gate, if_neg (by decide)] at h
    by_cases first : id = w.id
    · rw [if_pos first] at h
      cases h
      simp [first]
    · rw [if_neg first] at h
      by_cases last : w.id = Int32.maxValue
      · unfold nextId at h
        rw [if_pos last] at h
        cases h
      · rw [nextId_of_ne last] at h
        cases h
        simp [first]

/-- It can be said whether the id is on the gate. -/
def Answers (w : Waypoint α) (id : Int32) : Prop := ∃ onGate, w.isGatePost id = .ok onGate

theorem answers_iff {id : Int32} : w.Answers id ↔ w.Numbered ∨ id = w.id := by
  constructor
  · rintro ⟨onGate, h⟩
    refine or_iff_not_imp_right.2 fun other gate last => ?_
    unfold isGatePost nextId at h
    rw [gate, if_neg (by decide), if_neg other, if_pos last] at h
    cases h
  · rintro (numbered | rfl)
    · exact ⟨_, isGatePost_of_numbered numbered id⟩
    · unfold Answers isGatePost
      cases w.isGate <;> simp [pure, Except.pure]

theorem not_answers_iff {id : Int32} :
    ¬ w.Answers id ↔ w.isGate = true ∧ w.id = Int32.maxValue ∧ id ≠ Int32.maxValue := by
  rw [answers_iff, Numbered]
  constructor
  · intro h
    rw [not_or, Classical.not_imp, ne_eq, not_not] at h
    obtain ⟨⟨gate, last⟩, other⟩ := h
    exact ⟨gate, last, last ▸ other⟩
  · rintro ⟨gate, last, other⟩ (numbered | same)
    · exact numbered gate last
    · exact other (same.trans last)

theorem isGatePost_eq_error {id : Int32} {halt : Halt α} :
    w.isGatePost id = .error halt ↔ halt = .sumTooLarge ∧ ¬ w.Answers id := by
  constructor
  · intro h
    refine ⟨?_, fun ⟨onGate, answer⟩ => by rw [h] at answer; cases answer⟩
    unfold isGatePost nextId at h
    split at h
    · cases h
    · split at h
      · cases h
      · split at h <;> cases h
        rfl
  · rintro ⟨rfl, unanswered⟩
    obtain ⟨gate, last, other⟩ := not_answers_iff.1 unanswered
    unfold isGatePost nextId
    rw [gate, if_neg (by decide), if_neg (last ▸ other), if_pos last]
    rfl

end Waypoint

/-- Of every waypoint that is given, it can be said whether the id is on its gate. -/
def Answerable {α : Type} (waypoint : Option (Waypoint α)) (id : Int32) : Prop := ∀ w ∈ waypoint, w.Answers id

section Answerable
variable {α : Type} {waypoint : Option (Waypoint α)} {id : Int32}

theorem answerable_of_numbered (numbered : ∀ w ∈ waypoint, w.Numbered) (id : Int32) : Answerable waypoint id :=
  fun w hw => Waypoint.answers_iff.2 (.inl (numbered w hw))

theorem not_answerable_iff :
    ¬ Answerable waypoint id ↔
      ∃ w ∈ waypoint, w.isGate = true ∧ w.id = Int32.maxValue ∧ id ≠ Int32.maxValue := by
  simp only [Answerable, not_forall, exists_prop, Waypoint.not_answers_iff]

end Answerable

end GateNav
