import GateNav.Fault
import GateNav.Text.Blank

/-!
# Kinds of search pattern
-/

namespace GateNav

/-- How fallback search points are laid out around a center. -/
inductive PatternKind where
  /-- Rings of four points to the north, east, south and west. -/
  | diamond
  /-- The corners of a square spiral. -/
  | spiral
deriving DecidableEq, Repr

namespace PatternKind

/-- The name of the kind in settings, logs and reports. -/
def name : PatternKind → String
  | diamond => "diamond"
  | spiral => "spiral"

/-- The kind of exactly that name. -/
def ofName? (name : String) : Option PatternKind := [diamond, spiral].find? (·.name = name)

/-- The kind a text names, in letters of either case and between blanks. -/
def parse (text : String) : Except SettingsError PatternKind :=
  let word := Text.lower (Text.trim text)
  match ofName? word with
  | some kind => pure kind
  | none => throw (.invalid "gate.variant" ("unknown variant `" ++ word ++ "`"))

end PatternKind

end GateNav
