import GateNav.Event
import GateNav.Setup.Fields

/-!
# The user's environment

Some settings can be overridden by variables of the user's environment, which also says where the settings file is.
-/

namespace GateNav

/-- The variables of the user's environment. -/
abbrev Variables := String → Option String

namespace Setup
variable {α : Type}

/-- The settings with the two counts that variables give. A text that is no count changes nothing. -/
def overrideCounts (vars : Variables) (s : Setup α) : Setup α :=
  let misses := (vars "ROVER_MISS_THRESHOLD").bind (Decimal.readCount? maxShortCount)
  let window := (vars "ROVER_FILTER_WINDOW").bind (Decimal.readCount? maxCount)
  { s with tracking := { s.tracking with
      missThreshold := misses.getD s.tracking.missThreshold
      windowSize := window.getD s.tracking.windowSize } }

/-- The settings with the search pattern that a variable names. A pattern that is not known is ignored, and that is
noted. -/
def overridePattern (vars : Variables) (s : Setup α) : Noted α (Setup α) :=
  match (vars "ROVER_GATE_VARIANT").map PatternKind.parse with
  | none => ⟨s, []⟩
  | some (.ok kind) => ⟨{ s with traverse := { s.traverse with pattern := kind } }, []⟩
  | some (.error e) => ⟨s, [.patternIgnored e]⟩

/-- The settings with all overrides. -/
def override (vars : Variables) (s : Setup α) : Noted α (Setup α) := (s.overrideCounts vars).overridePattern vars

/-- A path below a folder; nothing is put before it where the folder has no name. -/
def below (folder path : String) : String :=
  if folder.isEmpty then path
  else if folder.endsWith "/" then folder ++ path
  else folder ++ "/" ++ path

/-- Where the settings file is: below the user's home, or else here. -/
def defaultPath (vars : Variables) : String :=
  below (((vars "HOME").orElse fun _ => vars "USERPROFILE").getD ".") ".rover/config.toml"

end Setup

end GateNav
