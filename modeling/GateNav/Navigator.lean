import GateNav.Pilot.Phases

/-!
# The navigation loop

A `Navigator` outlives the searches. It owns the belief about the posts and, while a search is on, its pilot.
Each cycle takes one frame in and says what the drive layer is to do. `Navigator.outcome?` is how the last search
ended, from its end to the start of the next one.
-/

namespace GateNav

structure Navigator (α : Type) where
  settings : Settings α
  belief : Belief α
  /-- The pilot of the search that is on. -/
  pilot : Option (Pilot α)
  /-- The waypoint of the last search. -/
  waypoint : Option (Waypoint α)
  phase : Phase
  cycles : Nat
  /-- Search points visited, as of the end of the last search. -/
  visited : Nat
  /-- The phase in which the last search was broken off. -/
  abortedIn : Option Phase
deriving DecidableEq, Repr

/-- What the drive layer gets in one cycle. -/
structure Command (α : Type) where
  cycle : Nat
  phase : Phase
  steering : Steering α
deriving DecidableEq, Repr

namespace Navigator
variable {α : Type} [Scalar α]

/-- A navigator at rest that believes what it is given. -/
def start (s : Settings α) (belief : Belief α) : Navigator α where
  settings := s
  belief := belief
  pilot := none
  waypoint := none
  phase := .off
  cycles := 0
  visited := 0
  abortedIn := none

/-- A navigator at rest, under settings that are checked first. -/
def build [Numeral α] (s : Settings α) : Checked α (Except SettingsError (Navigator α)) := do
  match s.validate with
  | .error e => return .error e
  | .ok () => return .ok (start s (← Belief.prepare s.tracking))

/-- The search that is on is broken off; without one the navigator comes to rest. -/
def abort (n : Navigator α) : Noted α (Navigator α) :=
  match n.pilot with
  | none => ⟨{ n with phase := .off }, []⟩
  | some _ =>
    ⟨{ n with pilot := none, abortedIn := some n.phase, phase := .off }, [.searchAborted n.phase n.cycles]⟩

/-- How the last search ended; nothing before the first search and while one is on. -/
def outcome? (n : Navigator α) : Option Outcome :=
  match n.abortedIn with
  | some phase => some (.error (.aborted phase))
  | none =>
    match n.phase with
    | .traversed => some (.ok ())
    | .notFound => some (.error (.notFound n.visited))
    | _ => none

variable [Trig α]

/-- A new search. What was learned about posts before it is forgotten. -/
def search [Numeral α] (n : Navigator α) (waypoint : Waypoint α) :
    Checked α (Except SettingsError (Noted α (Navigator α))) := do
  match ← Pilot.build n.settings.traverse waypoint with
  | .error e => return .error e
  | .ok ⟨pilot, events⟩ =>
    let started := .searchStarted waypoint.id pilot.pattern.kind pilot.agenda.remaining
    return .ok ⟨{ n with
      belief := n.belief.reset
      pilot := some pilot
      waypoint := some waypoint
      phase := pilot.phase
      visited := 0
      abortedIn := none }, events ++ [started]⟩

/-- The events of a cycle that leads from one phase to another. -/
def changes (old new : Phase) (cycles visited : Nat) : List (Event α) :=
  (if new = old then [] else [.stateChanged old new]) ++
    match new with
    | .traversed => [.searchSucceeded cycles]
    | .notFound => [.searchFailed cycles visited]
    | _ => []

def perceive (n : Navigator α) (frame : Frame α) : Checked α (Noted α (Belief α)) :=
  ((n.belief.setObstacle frame.obstacle).setSightings frame.sightings).update frame.pose n.waypoint

/-- One cycle. A search that ends in it gives its pilot up. -/
def tick (n : Navigator α) (frame : Frame α) : Checked α (Noted α (Navigator α × Command α)) := do
  if maxCount ≤ n.cycles then throw .sumTooLarge
  let cycles := n.cycles + 1
  let ⟨belief, seen⟩ ← n.perceive frame
  match n.pilot with
  | none => return ⟨({ n with cycles := cycles, belief := belief }, ⟨cycles, n.phase, .hold⟩), seen⟩
  | some pilot =>
    let c ← pilot.run frame.pose n.waypoint belief
    let phase := c.pilot.phase
    let after := { n with
      belief := c.belief
      pilot := if phase.isTerminal then none else some c.pilot
      phase := phase
      cycles := cycles
      visited := if phase.isTerminal then c.pilot.agenda.visited else n.visited }
    return ⟨(after, ⟨cycles, phase, c.pilot.steering⟩),
      seen ++ c.events ++ changes n.phase phase cycles c.pilot.agenda.visited⟩

end Navigator

end GateNav
