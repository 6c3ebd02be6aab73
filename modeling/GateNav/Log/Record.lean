import GateNav.Display
import GateNav.Log.Level

/-!
# Log records

A `Record` is what is logged about an event: its level, the part of the program it comes from, a message and named
values.
-/

namespace GateNav.Log

/-- A value of a record. -/
inductive Value where
  | whole (n : Int)
  | number (x : Float)
  | truth (b : Bool)
  /-- A name, which is written in quotes. -/
  | word (s : String)
  /-- A text that stands for a value. -/
  | shown (s : String)

/-- What is logged about an event. -/
structure Record where
  level : Level
  source : String
  message : String
  fields : List (String × Value)

namespace Record

/-- The names of what a record holds; the message is a field too. -/
def fieldNames (r : Record) : List String := "message" :: r.fields.map (·.1)

/-- Records about what is seen and where posts are. -/
def tracking (level : Level) (message : String) (fields : List (String × Value)) : Record :=
  ⟨level, "rover_perception::environment", message, fields⟩

/-- Records of a pilot. -/
def pilot (level : Level) (message : String) (fields : List (String × Value)) : Record :=
  ⟨level, "rover_gate::machine", message, fields⟩

/-- Records of the navigator. -/
def navigator (level : Level) (message : String) (fields : List (String × Value)) : Record :=
  ⟨level, "rover_runtime::nav_loop", message, fields⟩

/-- A count. -/
def count (n : Nat) : Value := .whole n

/-- An id. -/
def id (i : Int32) : Value := .whole i.toInt

def phase (p : Phase) : Value := .shown p.name

def side (s : Side) : Value := .shown s.display

/-- An id that may be missing. -/
def id? (i : Option Int32) : Value := .shown (Display.option displayId i)

/-- A pose that may be missing. -/
def pose? (p : Option (Pose Float)) : Value := .shown (Display.option Pose.display p)

/-- The record of an event. -/
def ofEvent : Event Float → Record
  | .postReplaced s old new =>
    tracking .debug "persistent disagreement; adopting new post" [("side", side s), ("old_id", id old), ("new_id", id new)]
  | .postDropped s misses => tracking .warn "post lost" [("side", side s), ("misses", count misses)]
  | .pilotBuilt pattern waypoint =>
    ⟨.debug, "rover_gate::strategy", "building gate state machine",
      [("variant", .word pattern.name), ("waypoint_id", id waypoint)]⟩
  | .phaseChanged old new => pilot .debug "gate transition" [("from", phase old), ("to", phase new)]
  | .postLost s p => pilot .warn "post lost; returning to spin" [("side", side s), ("state", phase p)]
  | .searchPointTaken remaining => pilot .debug "moving to next search point" [("remaining", count remaining)]
  | .searchPointsExhausted visited =>
    pilot .warn "search points exhausted; gate not found" [("visited", count visited)]
  | .searchAroundPost i n => pilot .debug "searching around lone post" [("id", id? i), ("count", count n)]
  | .sweepStarted origin => pilot .debug "starting spin sweep" [("origin_deg", .number origin)]
  | .sweepExhausted => pilot .debug "spin sweep exhausted" []
  | .tentativePostLost => pilot .debug "tentative post lost before filters settled" []
  | .postApproached s i => pilot .debug "approaching post" [("side", side s), ("id", id? i)]
  | .gateLocated center rightSide =>
    pilot .info "gate located" [("center", pose? center), ("correct_side", .truth rightSide)]
  | .searchPointReached visited => pilot .debug "reached search point" [("visited", count visited)]
  | .detourPlanned farPost => pilot .info "approaching from the exit side; detouring" [("far_post", id farPost)]
  | .detourEndedBehind => pilot .warn "detour finished on the exit side; driving through anyway" []
  | .gateTraversed center => pilot .info "gate traversed" [("center", pose? center)]
  | .searchStarted waypoint pattern points =>
    navigator .info "gate search started"
      [("waypoint_id", id waypoint), ("variant", .word pattern.name), ("search_points", count points)]
  | .searchAborted p cycles => navigator .warn "gate search aborted" [("state", phase p), ("cycles", count cycles)]
  | .stateChanged old new => navigator .debug "nav state changed" [("from", phase old), ("to", phase new)]
  | .searchSucceeded cycles => navigator .info "gate search succeeded" [("cycles", count cycles)]
  | .searchFailed cycles visited =>
    navigator .warn "gate search failed" [("cycles", count cycles), ("visited", count visited)]
  | .frameObserved frame sightings =>
    ⟨.trace, "rover_sim::world", "sim frame", [("frame", count frame), ("targets", .shown (Sighting.displayPair sightings))]⟩
  | .patternIgnored e => ⟨.warn, "gatenav::config", "ignoring ROVER_GATE_VARIANT", [("error", .shown e.message)]⟩
  | .cycleLimitReached limit => ⟨.info, "gatenav", "cycle limit reached", [("max_cycles", count limit)]⟩

end Record

end GateNav.Log
