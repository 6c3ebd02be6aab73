import GateNav.Setup.Fields
import GateNav.Toml.Format

/-!
# The text of the settings file

Settings are kept as a TOML document with one section for each record, in whatever format is in use. What a text does
not mention has its default.
-/

namespace GateNav.Setup
variable [Toml.Format]

/-- The settings that a text holds. -/
def parse? (text : String) : Option (Setup Float) := (Toml.Format.parse? text).bind Setup.ofDocument?

/-- The text of settings. Counts of more than 63 bits cannot be written. -/
def render? (s : Setup Float) : Option String := Toml.Format.render? s.toDocument

end GateNav.Setup
