import GateNav.Decimal.Layout

/-!
# What can go wrong

A `SettingsError` is reported once, when something is built. A `Halt` is the end of the run itself: a count
or an id has left its word, a number was to be held between bounds that enclose nothing, no memory could hold
what was to be set aside, or numbers that cannot be compared stood among those to be sorted.
-/

namespace GateNav

/-- A problem with the settings, reported once when something is built from them. -/
inductive SettingsError where
  /-- A value is out of range. -/
  | invalid (field reason : String)
  /-- The settings cannot be read or written as text. -/
  | malformed (reason : String)
  /-- The settings file cannot be reached. -/
  | storage (reason : String)
deriving DecidableEq, Repr

/-- The text of the error. -/
def SettingsError.message : SettingsError → String
  | .invalid field reason => "Invalid configuration value `" ++ field ++ "`: " ++ reason
  | .malformed reason => "Configuration parse error: " ++ reason
  | .storage reason => "Configuration I/O error: " ++ reason

/-- The end of a run without an answer. -/
inductive Halt (α : Type) where
  /-- A sum does not fit its word. -/
  | sumTooLarge
  /-- A product does not fit its word. -/
  | productTooLarge
  /-- No number lies between the bounds. -/
  | emptyRange (low high : α)
  /-- No memory is large enough. -/
  | spaceTooLarge
  /-- What is to be sorted has no order. -/
  | noOrder
deriving DecidableEq, Repr

/-- The text of the last words. -/
def Halt.message {α : Type} [Numeral α] : Halt α → String
  | .sumTooLarge => "attempt to add with overflow"
  | .productTooLarge => "attempt to multiply with overflow"
  | .emptyRange low high =>
    "min > max, or either was NaN. min = " ++ Numeral.detail low ++ ", max = " ++ Numeral.detail high
  | .spaceTooLarge => "capacity overflow"
  | .noOrder => "user-provided comparison function does not correctly implement a total order"

/-- A computation that may end the run. -/
abbrev Checked (α β : Type) := Except (Halt α) β

namespace Checked
variable {α β γ : Type}

/-- A computation in two parts has a result if both parts do. -/
theorem bind_eq_ok {x : Checked α β} {f : β → Checked α γ} {c : γ} :
    (x >>= f) = .ok c ↔ ∃ b, x = .ok b ∧ f b = .ok c := by
  cases x <;> simp [bind, Except.bind]

/-- It halts if its first part does, or else its second one. -/
theorem bind_eq_error {x : Checked α β} {f : β → Checked α γ} {halt : Halt α} :
    (x >>= f) = .error halt ↔ x = .error halt ∨ ∃ b, x = .ok b ∧ f b = .error halt := by
  cases x <;> simp [bind, Except.bind]

theorem map_eq_ok {x : Checked α β} {f : β → γ} {c : γ} : f <$> x = .ok c ↔ ∃ b, x = .ok b ∧ f b = c := by
  cases x <;> simp [Functor.map, Except.map]

theorem bind_exists {x : Checked α β} {f : β → Checked α γ} (hx : ∃ b, x = .ok b) (hf : ∀ b, ∃ c, f b = .ok c) :
    ∃ c, (x >>= f) = .ok c := by
  obtain ⟨b, rfl⟩ := hx
  exact hf b

theorem map_exists {x : Checked α β} (f : β → γ) (hx : ∃ b, x = .ok b) : ∃ c, f <$> x = .ok c := by
  obtain ⟨b, rfl⟩ := hx
  exact ⟨f b, rfl⟩

@[simp] theorem pure_eq_ok {b c : β} : (pure b : Checked α β) = .ok c ↔ b = c := by
  simp [pure, Except.pure]

end Checked

/-- The most bytes that can be set aside at once. -/
def maxBytes : Nat := 9223372036854775807

/-- Sets memory aside for `count` things of `size` bytes each. -/
def reserve {α : Type} (count size : Nat) : Checked α Unit :=
  if maxBytes < count * size then throw .spaceTooLarge else pure ()

theorem reserve_eq_ok {α : Type} {count size : Nat} {u : Unit} :
    (reserve count size : Checked α Unit) = .ok u ↔ count * size ≤ maxBytes := by
  unfold reserve
  split
  · next large => simp [large, throw, throwThe, MonadExceptOf.throw]
  · next fits => simpa [pure, Except.pure] using fits

theorem reserve_eq_error {α : Type} {count size : Nat} {halt : Halt α} :
    reserve count size = .error halt ↔ halt = .spaceTooLarge ∧ maxBytes < count * size := by
  unfold reserve
  split
  · next large => simp [large, throw, throwThe, MonadExceptOf.throw, eq_comm]
  · next fits => simp [fits, pure, Except.pure]

end GateNav
