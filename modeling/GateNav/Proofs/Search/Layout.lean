import GateNav.Search.Pattern

/-!
# Which layouts fit

Before a pattern is laid out its legs are counted and space is set aside. Neither depends on what the pattern is laid
around, so a pattern fits around every center or around none (`Pattern.exists_points`), and if it does not, the halt is
the same everywhere (`Pattern.points_eq_error`).
-/

namespace GateNav

namespace Pattern
variable {α : Type} {p : Pattern}

/-- The number of legs of a spiral is a count, and there is space for all points. -/
structure Fits (p : Pattern) : Prop where
  legs : p.kind = .spiral → p.rings * 4 ≤ maxCount
  space : p.rings * 4 * pointSize ≤ maxBytes

/-- The halt of a pattern that does not fit. -/
inductive Exceeds (p : Pattern) : Halt α → Prop
  | legs (spiral : p.kind = .spiral) (many : maxCount < p.rings * 4) : Exceeds p .productTooLarge
  | space (counted : p.kind = .spiral → p.rings * 4 ≤ maxCount) (large : maxBytes < p.rings * 4 * pointSize) :
      Exceeds p .spaceTooLarge

theorem Fits.not_exceeds (h : p.Fits) (halt : Halt α) : ¬ p.Exceeds halt := by
  rintro (⟨spiral, many⟩ | ⟨-, large⟩)
  · exact Nat.not_lt_of_le (h.legs spiral) many
  · exact Nat.not_lt_of_le h.space large

variable [Scalar α] [Trig α] (center : Pose α) (spacing : α)

theorem points_eq_error {halt : Halt α} : p.points center spacing = .error halt ↔ p.Exceeds halt := by
  unfold points layOut
  dsimp only
  by_cases many : p.kind = .spiral ∧ maxCount < p.rings * 4
  · rw [if_pos many]
    constructor
    · rintro ⟨⟩
      exact .legs many.1 many.2
    · rintro (- | ⟨counted, -⟩)
      · rfl
      · exact absurd many.2 (Nat.not_lt_of_le (counted many.1))
  · rw [if_neg many, Checked.bind_eq_error, reserve_eq_error]
    constructor
    · rintro (⟨rfl, large⟩ | ⟨_, -, laid⟩)
      · exact .space (fun spiral => Nat.le_of_not_lt fun h => many ⟨spiral, h⟩) large
      · cases hk : p.kind <;> rw [hk] at laid <;> cases laid
    · rintro (⟨spiral, h⟩ | ⟨-, large⟩)
      · exact absurd ⟨spiral, h⟩ many
      · exact .inl ⟨rfl, large⟩

theorem fits_iff : p.Fits ↔ ∃ points, p.points center spacing = .ok points := by
  constructor
  · intro h
    cases laid : p.points center spacing with
    | ok points => exact ⟨points, rfl⟩
    | error halt => exact absurd ((points_eq_error center spacing).1 laid) (h.not_exceeds halt)
  · rintro ⟨points, laid⟩
    have none_exceeds (halt : Halt α) : ¬ p.Exceeds halt := by
      rw [← points_eq_error center spacing, laid]
      nofun
    have legs (spiral : p.kind = .spiral) : p.rings * 4 ≤ maxCount :=
      Nat.le_of_not_lt fun many => none_exceeds _ (.legs spiral many)
    exact ⟨legs, Nat.le_of_not_lt fun large => none_exceeds _ (.space legs large)⟩

/-- Where a layout fits does not depend on what it is laid around. -/
theorem exists_points {center : Pose α} {spacing : α} {points : List (Pose α)}
    (h : p.points center spacing = .ok points) (center' : Pose α) (spacing' : α) :
    ∃ points', p.points center' spacing' = .ok points' :=
  (fits_iff center' spacing').1 ((fits_iff center spacing).2 ⟨points, h⟩)

end Pattern

end GateNav
