import GateNav.Pilot.Basic

/-!
# Values inside texts

How values are shown in log lines: records with the names of their fields, one after the other on one line.
-/

namespace GateNav

namespace Display

/-- A record with its fields. -/
def record (name : String) (fields : List (String × String)) : String :=
  name ++ " \x7b " ++ ", ".intercalate (fields.map fun (field, value) => field ++ ": " ++ value) ++ " \x7d"

/-- A value that may be missing. -/
def option {β : Type} (display : β → String) : Option β → String
  | none => "None"
  | some b => "Some(" ++ display b ++ ")"

/-- A name in quotes; names hold nothing that would have to be escaped. -/
def quoted (name : String) : String := "\"" ++ name ++ "\""

end Display

def Side.display : Side → String
  | .left => "Left"
  | .right => "Right"

/-- An id by its decimal digits. -/
def displayId (id : Int32) : String := toString id.toInt

variable {α : Type} [Numeral α]

def Vec.display (v : Vec α) : String := Display.record "Vec2" [("x", Numeral.detail v.x), ("y", Numeral.detail v.y)]

def Pose.display (p : Pose α) : String :=
  Display.record "Odometry" [("latitude_deg", Numeral.detail p.latitude),
    ("longitude_deg", Numeral.detail p.longitude), ("bearing_deg", Numeral.detail p.heading)]

def Sighting.display (s : Sighting α) : String :=
  Display.record "Target" [("distance", Numeral.detail s.distance), ("bearing", Numeral.detail s.bearing),
    ("id", displayId s.id)]

/-- The two sightings of a frame. -/
def Sighting.displayPair (p : Sided (Sighting α)) : String :=
  Display.record "TargetList" [("left", p.left.display), ("right", p.right.display)]

def Passage.display (g : Passage α) : String :=
  Display.record "GateGeometry" [("center", g.center.display), ("exit", g.exit.display), ("entry", g.entry.display),
    ("through_bearing_deg", Numeral.detail g.bearing), ("direction", g.direction.display)]

/-- The outline of a pilot; two points stand for what is left out. -/
def Pilot.display (p : Pilot α) : String :=
  "GateStateMachine \x7b strategy: " ++ Display.quoted p.pattern.kind.name ++ ", state: " ++ p.phase.name ++
    ", search_points: " ++ toString p.agenda.remaining ++ ", geometry: " ++ Display.option Passage.display p.passage ++
    ", .. \x7d"

end GateNav
