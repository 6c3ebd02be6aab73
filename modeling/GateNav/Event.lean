import GateNav.Outcome
import GateNav.Search.Kind
import GateNav.Sighting

/-!
# Events worth logging

Every step of the navigation returns the events it met, in order, beside its result. How they are written is
`GateNav.Log.Record`'s business.
-/

namespace GateNav

/-- Something that happened in the navigation or around it. -/
inductive Event (α : Type) where
  /-- A post that kept disagreeing with the sightings was given up for the one seen. -/
  | postReplaced (side : Side) (old new : Int32)
  /-- A post was not seen for too long. -/
  | postDropped (side : Side) (misses : Nat)
  /-- The pilot of a new search is built. -/
  | pilotBuilt (pattern : PatternKind) (waypoint : Int32)
  /-- The pilot moves to another phase. -/
  | phaseChanged (old new : Phase)
  /-- The post a phase depends on is gone. -/
  | postLost (side : Side) (phase : Phase)
  /-- A search point was taken from the agenda. -/
  | searchPointTaken (remaining : Nat)
  /-- The agenda was found empty. -/
  | searchPointsExhausted (visited : Nat)
  /-- Search points around a lone post go to the front of the agenda. -/
  | searchAroundPost (id : Option Int32) (count : Nat)
  | sweepStarted (origin : α)
  | sweepExhausted
  /-- What was seen vanished before the filters had settled. -/
  | tentativePostLost
  | postApproached (side : Side) (id : Option Int32)
  | gateLocated (center : Option (Pose α)) (rightSide : Bool)
  | searchPointReached (visited : Nat)
  /-- The rover faces the gate from behind and goes around it. -/
  | detourPlanned (farPost : Int32)
  /-- The detour did not lead to the front of the gate. -/
  | detourEndedBehind
  | gateTraversed (center : Option (Pose α))
  | searchStarted (waypoint : Int32) (pattern : PatternKind) (searchPoints : Nat)
  | searchAborted (phase : Phase) (cycles : Nat)
  /-- The navigation moves to another phase. -/
  | stateChanged (old new : Phase)
  | searchSucceeded (cycles : Nat)
  | searchFailed (cycles visited : Nat)
  | frameObserved (frame : Nat) (sightings : Sided (Sighting α))
  /-- The pattern asked for by the user's environment is not known. -/
  | patternIgnored (error : SettingsError)
  | cycleLimitReached (limit : Nat)
deriving DecidableEq, Repr

/-- A result with the events met on the way to it. -/
structure Noted (α β : Type) where
  result : β
  events : List (Event α)
deriving DecidableEq, Repr

end GateNav
