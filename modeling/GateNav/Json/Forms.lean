import GateNav.Document
import GateNav.Outcome
import GateNav.Trial

/-!
# JSON forms

How the values of the navigation are exchanged as JSON. A variant without content is its name; any other is an
object whose only member is named for it. Poses that are read are taken as they are: their headings are not
brought into one turn.
-/

namespace GateNav

namespace Json

/-- A required field that is read by `read`. -/
def field? {β : Type} (find : String → Option Json) (name : String) (read : Json → Option β) : Option β :=
  (find name).bind read

/-- A number. -/
def number? (v : Json) : Option Float := Document.number? v

/-- An id of 32 bits. -/
def id? (v : Json) : Option Int32 := do
  let n ← Document.whole? v
  if -2147483648 ≤ n ∧ n ≤ 2147483647 then some (Int32.ofInt n) else none

/-- A text. -/
def text? : Json → Option String
  | .str s => some s
  | _ => none

/-- The only member of an object. -/
def variant? : Json → Option (String × Json)
  | .obj [member] => some member
  | _ => none

/-- The fields of a variant, which are written by name. -/
def fields? : Json → Option (String → Option Json)
  | .obj members => some (member? members)
  | _ => none

end Json

open Json

/-! ### Poses and sightings -/

def Pose.toJson (p : Pose Float) : Json :=
  .obj [("latitude_deg", .float p.latitude), ("longitude_deg", .float p.longitude), ("bearing_deg", .float p.heading)]

def Pose.ofJson? (v : Json) : Option (Pose Float) := do
  let find ← Document.record? ["latitude_deg", "longitude_deg", "bearing_deg"] v
  return {
    latitude := ← field? find "latitude_deg" number?
    longitude := ← field? find "longitude_deg" number?
    heading := ← field? find "bearing_deg" number? }

def Sighting.toJson (s : Sighting Float) : Json :=
  .obj [("distance", .float s.distance), ("bearing", .float s.bearing), ("id", .int s.id.toInt)]

def Sighting.ofJson? (v : Json) : Option (Sighting Float) := do
  let find ← Document.record? ["distance", "bearing", "id"] v
  return {
    distance := ← field? find "distance" number?
    bearing := ← field? find "bearing" number?
    id := ← field? find "id" id? }

def Sighting.pairToJson (p : Sided (Sighting Float)) : Json :=
  .obj [("left", p.left.toJson), ("right", p.right.toJson)]

def Sighting.pairOfJson? (v : Json) : Option (Sided (Sighting Float)) := do
  let find ← Document.record? ["left", "right"] v
  return ⟨← field? find "left" Sighting.ofJson?, ← field? find "right" Sighting.ofJson?⟩

def Obstacle.toJson (o : Obstacle Float) : Json :=
  .obj [("bearing", .float o.bearing), ("distance", .float o.distance)]

def Obstacle.ofJson? (v : Json) : Option (Obstacle Float) := do
  let find ← Document.record? ["bearing", "distance"] v
  return ⟨← field? find "bearing" number?, ← field? find "distance" number?⟩

def Frame.toJson (f : Frame Float) : Json :=
  .obj [("odometry", f.pose.toJson), ("targets", Sighting.pairToJson f.sightings), ("obstacle", f.obstacle.toJson)]

def Frame.ofJson? (v : Json) : Option (Frame Float) := do
  let find ← Document.record? ["odometry", "targets", "obstacle"] v
  return {
    pose := ← field? find "odometry" Pose.ofJson?
    sightings := ← field? find "targets" Sighting.pairOfJson?
    obstacle := ← field? find "obstacle" Obstacle.ofJson? }

def Waypoint.toJson (w : Waypoint Float) : Json :=
  .obj [("odometry", w.pose.toJson), ("id", .int w.id.toInt), ("gate", .bool w.isGate),
    ("gate_width_m", .float w.width), ("search_radius_m", .float w.searchRadius)]

/-! ### Phases, steering and errors -/

def Phase.toJson (p : Phase) : Json := .str p.name

def Phase.ofJson? (v : Json) : Option Phase := (Document.word? v).bind Phase.ofName?

def Steering.toJson : Steering Float → Json
  | .hold => .str "Hold"
  | .heading bearing => tagged "Heading" (.obj [("bearing_deg", .float bearing)])
  | .point goal => tagged "Point" goal.toJson

def Steering.ofJson? (v : Json) : Option (Steering Float) :=
  if Document.word? v = some "Hold" then some .hold
  else
    match variant? v with
    | some ("Heading", content) => do return .heading (← field? (← fields? content) "bearing_deg" number?)
    | some ("Point", content) => (Pose.ofJson? content).map .point
    | _ => none

def SettingsError.toJson : SettingsError → Json
  | .invalid field reason => tagged "Invalid" (.obj [("field", .str field), ("reason", .str reason)])
  | .malformed reason => tagged "Parse" (.str reason)
  | .storage reason => tagged "Io" (.str reason)

def SettingsError.ofJson? (v : Json) : Option SettingsError :=
  match variant? v with
  | some ("Invalid", content) => do
    let find ← fields? content
    return .invalid (← field? find "field" text?) (← field? find "reason" text?)
  | some ("Parse", content) => (text? content).map .malformed
  | some ("Io", content) => (text? content).map .storage
  | _ => none

def SearchError.toJson : SearchError → Json
  | .settings e => tagged "Config" e.toJson
  | .notFound visited => tagged "GateNotFound" (.obj [("visited", .int visited)])
  | .aborted phase => tagged "Aborted" (.obj [("state", phase.toJson)])

def SearchError.ofJson? (v : Json) : Option SearchError :=
  match variant? v with
  | some ("Config", content) => (SettingsError.ofJson? content).map .settings
  | some ("GateNotFound", content) => do
    return .notFound (← field? (← fields? content) "visited" (Document.count? maxCount))
  | some ("Aborted", content) => do return .aborted (← field? (← fields? content) "state" Phase.ofJson?)
  | _ => none

def Outcome.toJson : Outcome → Json
  | .ok () => tagged "Ok" .null
  | .error e => tagged "Err" e.toJson

/-! ### Reports -/

def Transition.toJson (t : Transition) : Json := .obj [("cycle", .int t.cycle), ("state", t.phase.toJson)]

def Report.toJson (r : Report Float) : Json :=
  .obj [("scenario", .str r.scenario.name), ("variant", .str r.pattern.name), ("cycles", .int r.cycles),
    ("final_state", r.finalPhase.toJson), ("final_position", .arr [.float r.position.x, .float r.position.y]),
    ("transitions", .arr (r.transitions.map Transition.toJson)), ("outcome", r.outcome.toJson)]

end GateNav
