import GateNav.Json.Writer
import GateNav.Log.Record
import GateNav.Text.Blank

/-!
# How log records are written

On one line, over several lines, or as one JSON object a line. A record from within a cycle names the cycle, if cycles
themselves are logged.
-/

namespace GateNav.Log

/-- One way to write records. -/
inductive Style where
  | compact
  | pretty
  | json
deriving DecidableEq, Repr

namespace Style

def name : Style → String
  | compact => "Compact"
  | pretty => "Pretty"
  | json => "Json"

/-- The style a text asks for, in letters of either case and between blanks; any other text, and none, asks for the
compact one. -/
def parse (text : Option String) : Style :=
  match text.map fun t => Text.lower (Text.trim t) with
  | some "json" => json
  | some "pretty" => pretty
  | _ => compact

end Style

namespace Value

/-- The text of a value within a line. -/
def text : Value → String
  | .whole n => toString n
  | .number x => Decimal.text .detailed x
  | .truth b => if b then "true" else "false"
  | .word s => Display.quoted s
  | .shown s => s

/-- The JSON form of a value. -/
def toJson : Value → Json
  | .whole n => .int n
  | .number x => .float x
  | .truth b => .bool b
  | .word s | .shown s => .str s

end Value

namespace Record

/-- The level in five columns. -/
def levelText (r : Record) : String := Text.padLeft 5 r.level.name

/-- The record on one line. -/
def compact (time : String) (cycle : Option Nat) (r : Record) : String :=
  let fields := r.fields.map fun (name, v) => " " ++ name ++ "=" ++ v.text
  let within := (cycle.map fun _ => cycleName ++ ": ").getD ""
  let number := (cycle.map fun n => " " ++ cycleField ++ "=" ++ toString n).getD ""
  time ++ " " ++ r.levelText ++ " " ++ within ++ r.source ++ ": " ++ r.message ++ String.join fields ++ number ++ "\n"

/-- The record over several lines, the last one empty; `place` is where in the program it comes from. -/
def pretty (time place : String) (cycle : Option Nat) (r : Record) : String :=
  let fields := r.fields.map fun (name, v) => ", " ++ name ++ ": " ++ v.text
  let within := (cycle.map fun n =>
    "    in " ++ cycleSource ++ "::" ++ cycleName ++ " with " ++ cycleField ++ ": " ++ toString n ++ "\n").getD ""
  "  " ++ time ++ " " ++ r.levelText ++ " " ++ r.source ++ ": " ++ r.message ++ String.join fields ++ "\n    at " ++
    place ++ "\n" ++ within ++ "\n"

/-- The record as an object. -/
def toJson (time : String) (cycle : Option Nat) (r : Record) : Json :=
  let span (n : Nat) : Json := .obj [(cycleField, .int n), ("name", .str cycleName)]
  .obj ([("timestamp", .str time), ("level", .str r.level.name),
    ("fields", .obj (("message", .str r.message) :: r.fields.map fun (name, v) => (name, v.toJson))),
    ("target", .str r.source)] ++ (cycle.map fun n => [("span", span n), ("spans", .arr [span n])]).getD [])

/-- The record in a style. -/
def render (style : Style) (time place : String) (cycle : Option Nat) (r : Record) : String :=
  match style with
  | .compact => r.compact time cycle
  | .pretty => r.pretty time place cycle
  | .json => (r.toJson time cycle).compact ++ "\n"

end Record

end GateNav.Log
