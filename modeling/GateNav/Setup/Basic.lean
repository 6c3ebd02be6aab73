import GateNav.Settings.Validate

/-!
# Settings of a whole run

A `Setup` is what the settings file holds: the settings of the navigation and those of the run itself.
-/

namespace GateNav
variable {α : Type} [Scalar α]

/-- The frame of a run. -/
structure RunSettings where
  /-- Cycles after which a search that goes on is broken off. -/
  maxCycles : Nat
deriving DecidableEq, Repr

def RunSettings.default : RunSettings := ⟨5000⟩

/-- All that can be set. -/
structure Setup (α : Type) where
  run : RunSettings
  tracking : TrackingSettings α
  traverse : TraverseSettings α
deriving DecidableEq, BEq, Repr

namespace Setup

def default : Setup α := ⟨.default, .default, .default⟩

/-- The settings of the navigation. -/
def settings (s : Setup α) : Settings α := ⟨s.tracking, s.traverse⟩

/-- The run is checked before the navigation. -/
def validate [Numeral α] (s : Setup α) : Except SettingsError Unit := do
  demand (s.run.maxCycles != 0) "run.max_cycles" "must be at least 1"
  s.settings.validate

end Setup

end GateNav
