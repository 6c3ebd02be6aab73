import GateNav.Toml.Value

/-!
# Formats

How documents are kept as texts. All that reads or writes the settings file does so in any format.
-/

namespace GateNav

/-- A format for documents. -/
class Toml.Format where
  /-- The document that a text holds. -/
  parse? : String → Option Toml
  /-- The text of a document. -/
  render? : Toml → Option String

end GateNav
