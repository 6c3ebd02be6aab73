import GateNav.Event
import GateNav.Phase

/-!
# A simulated field

At most two posts, a camera that looks ahead, and a rover that follows steering targets. Places are given in
metres east and north of the field's origin. `Rover.turnToward` needs no trigonometry: the rover turns the short
way by its turn rate at most, so it never turns past the bearing.
-/

namespace GateNav

/-- A camera that looks ahead. -/
structure Camera (α : Type) where
  /-- The whole angle of view in degrees. -/
  view : α
  /-- Posts farther away than this many metres are not seen. -/
  range : α
  /-- Each frame whose number is a multiple of this one is lost; none are for zero. -/
  dropout : Option Nat
deriving DecidableEq, Repr

/-- What a rover can do in one cycle. -/
structure Drive (α : Type) where
  /-- Degrees. -/
  turnRate : α
  /-- Metres. -/
  speed : α
deriving DecidableEq, Repr

/-- A post of the field. -/
structure Post (α : Type) where
  position : Vec α
  id : Int32
deriving DecidableEq, Repr

/-- Where the rover is and where it heads. -/
structure Rover (α : Type) where
  position : Vec α
  heading : α
deriving DecidableEq, Repr

/-- A field with its rover, after some frames. -/
structure Field (α : Type) where
  origin : Pose α
  posts : List (Post α)
  rover : Rover α
  camera : Camera α
  drive : Drive α
  frames : Nat
deriving DecidableEq, Repr

variable {α : Type} [Scalar α]

/-- The camera of a field that names none. -/
def Camera.default : Camera α := ⟨((80 : Nat) : α), ((15 : Nat) : α), none⟩

/-- The drive of a field that names none. -/
def Drive.default : Drive α := ⟨((8 : Nat) : α), Scalar.ratio 1 2⟩

/-- The frame of that number is lost. -/
def Camera.drops (c : Camera α) (frame : Nat) : Bool := c.dropout.any fun n => n ≠ 0 && frame % n = 0

namespace Rover

/-- A rover at a place, its heading brought into one turn. -/
def of (position : Vec α) (heading : α) : Rover α := ⟨position, Bearing.normalize heading⟩

/-- The rover turned toward a bearing, by the turn rate at most. -/
def turnToward (r : Rover α) (turnRate bearing : α) : Checked α (Rover α) :=
  if -turnRate ≤ turnRate then
    let step := Scalar.clamp (-turnRate) turnRate (Bearing.rotation bearing r.heading)
    pure { r with heading := Bearing.normalize (r.heading + step) }
  else throw (.emptyRange (-turnRate) turnRate)

end Rover

namespace Field

/-- A post put among posts in the order of their ids, behind those with the same id. -/
def insertPost (p : Post α) : List (Post α) → List (Post α)
  | [] => [p]
  | q :: qs => if p.id < q.id then p :: q :: qs else q :: insertPost p qs

/-- The two posts with the least ids, the one that is seen on the left first. -/
def arrange (posts : List (Post α)) : List (Post α) :=
  (posts.foldl (fun sorted p => insertPost p sorted) []).take 2

/-- A field before the first frame. -/
def of (origin : Pose α) (posts : List (Post α)) (rover : Rover α) (camera : Camera α) (drive : Drive α) : Field α :=
  ⟨origin, arrange posts, rover, camera, drive, 0⟩

/-- Closer to a point than a nanometre the rover stays where it is. -/
def closeEnough : α := Scalar.ratio 1 1000000000

/-- The rover drives on while its heading error is below this many degrees. -/
def steerable : α := ((20 : Nat) : α)

variable [Trig α]

/-- The pose of the rover. -/
def pose (f : Field α) : Pose α := (Pose.ofLocal f.origin f.rover.position).withHeading f.rover.heading

/-- Where the post with that id stands. -/
def post? (f : Field α) (id : Int32) : Option (Pose α) :=
  (f.posts.find? (·.id = id)).map fun p => Pose.ofLocal f.origin p.position

/-- What the camera makes of a post. -/
def sight (f : Field α) (p : Post α) : Sighting α :=
  let away := p.position - f.rover.position
  let distance := away.norm
  let bearing := Bearing.rotation away.bearing f.rover.heading
  if distance ≤ f.camera.range ∧ Scalar.abs bearing ≤ f.camera.view / ((2 : Nat) : α) then ⟨distance, bearing, p.id⟩
  else .none

/-- The sightings of the next frame. -/
def sightings (f : Field α) : Sided (Sighting α) :=
  if f.camera.drops (f.frames + 1) then Sighting.nothing
  else
    match f.posts with
    | [] => Sighting.nothing
    | [p] => ⟨f.sight p, .none⟩
    | p :: q :: _ => ⟨f.sight p, f.sight q⟩

/-- The next frame. -/
def observe (f : Field α) : Noted α (Frame α × Field α) :=
  let frames := f.frames + 1
  ⟨(⟨f.pose, f.sightings, .clear⟩, { f with frames := frames }), [.frameObserved frames f.sightings]⟩

/-- The rover follows a steering target for one cycle. -/
def apply (f : Field α) : Steering α → Checked α (Field α)
  | .hold => pure f
  | .heading bearing => do
    let rover ← f.rover.turnToward f.drive.turnRate bearing
    return { f with rover := rover }
  | .point goal => do
    let away := goal.toLocal f.origin - f.rover.position
    let distance := away.norm
    if distance < closeEnough then return f
    else
      let rover ← f.rover.turnToward f.drive.turnRate away.bearing
      if Bearing.gap away.bearing rover.heading < steerable then
        let step := (Vec.ofBearing rover.heading).scale (Scalar.least f.drive.speed distance)
        return { f with rover := { rover with position := rover.position + step } }
      else return { f with rover := rover }

end Field

end GateNav
