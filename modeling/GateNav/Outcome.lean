import GateNav.Fault
import GateNav.Phase

/-!
# How a search ends
-/

namespace GateNav

/-- Why a search did not bring the rover through the gate. -/
inductive SearchError where
  /-- The search could not be started. -/
  | settings (error : SettingsError)
  /-- All search points were visited, so many of them. -/
  | notFound (visited : Nat)
  /-- The search was broken off in this phase. -/
  | aborted (phase : Phase)
deriving DecidableEq, Repr

/-- The text of the error. -/
def SearchError.message : SearchError → String
  | .settings error => error.message
  | .notFound visited => s!"Gate not found after visiting {visited} search point(s)"
  | .aborted phase => s!"Gate search aborted in state {phase.name}"

/-- The end of a search: the gate was passed, or not. -/
abbrev Outcome := Except SearchError Unit

end GateNav
