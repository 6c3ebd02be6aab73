import GateNav.Log.Filter
import GateNav.Log.Style
import GateNav.Setup.Overrides

/-!
# What is logged, and how

The user's environment says which events are logged and how they are written.
-/

namespace GateNav.Log

/-- What is logged, and how. -/
structure Settings where
  filter : Filter
  style : Style
deriving DecidableEq, Repr

/-- The variable with the directives. -/
def filterVariable : String := "RUST_LOG"

/-- The style that the user's environment asks for. -/
def Style.ofVariables (vars : Variables) : Style := parse (vars "ROVER_LOG_FORMAT")

namespace Settings

/-- The settings that the user's environment asks for. -/
def ofVariables (vars : Variables) : Settings :=
  ⟨((vars filterVariable).map Filter.parse).getD .default, .ofVariables vars⟩

/-- The directives that are left out, because they cannot be read. -/
def complaints (vars : Variables) : List String :=
  ((vars filterVariable).map Filter.faults).getD [] |>.map fun (directive, fault) =>
    "ignoring `" ++ directive ++ "`: " ++ fault.message ++ "\n"

/-- The text that is logged about an event, which is empty for one that is not logged. -/
def text (s : Settings) (time place : String) (cycle : Option Nat) (e : Event Float) : String :=
  let r := Record.ofEvent e
  if s.filter.allows r.level r.source r.fieldNames cycle then
    r.render s.style time place (if s.filter.showsCycles then cycle else none)
  else ""

end Settings

end GateNav.Log
