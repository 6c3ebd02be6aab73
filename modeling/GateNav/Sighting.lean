import GateNav.Pose

/-!
# What the sensors report

Each cycle the camera reports at most one post in the left and one in the right part of the image. The
part of the image says nothing about which post of the gate it is.
-/

namespace GateNav

/-- The part of the image a post is seen in. -/
inductive Side where
  | left
  | right
deriving DecidableEq, Repr

namespace Side

/-- Both parts, in the order in which they are handled. -/
def both : List Side := [left, right]

end Side

/-- A pair of things, one for each part of the image. -/
structure Sided (β : Type) where
  left : β
  right : β
deriving DecidableEq, BEq, Repr

namespace Sided
variable {β : Type}

def get (p : Sided β) : Side → β
  | .left => p.left
  | .right => p.right

/-- The members in the order left, right. -/
def toList (p : Sided β) : List β := [p.left, p.right]

/-- The two members exchanged. -/
def swap (p : Sided β) : Sided β := ⟨p.right, p.left⟩

end Sided

/-- One post seen in one frame. -/
structure Sighting (α : Type) where
  /-- Range in metres; negative when no post is seen. -/
  distance : α
  /-- Degrees from the rover's heading, positive to the right. -/
  bearing : α
  /-- The id on the post's marker. -/
  id : Int32
deriving DecidableEq, BEq, Repr

/-- The obstacle ahead, from a sensor of its own. -/
structure Obstacle (α : Type) where
  bearing : α
  /-- Range in metres; negative when the way is clear. -/
  distance : α
deriving DecidableEq, BEq, Repr

/-- Everything the rover hands over in one cycle. -/
structure Frame (α : Type) where
  pose : Pose α
  sightings : Sided (Sighting α)
  obstacle : Obstacle α
deriving DecidableEq, BEq, Repr

variable {α : Type} [Scalar α]

/-- No post seen. -/
def Sighting.none : Sighting α := ⟨-Scalar.one, Scalar.zero, -1⟩

/-- A post is seen. -/
def Sighting.detected (s : Sighting α) : Bool := Scalar.zero ≤ s.distance

/-- Nothing in the way. -/
def Obstacle.clear : Obstacle α := ⟨Scalar.zero, -Scalar.one⟩

/-- Something is in the way. -/
def Obstacle.detected (o : Obstacle α) : Bool := Scalar.zero ≤ o.distance

/-- No post seen on either side. -/
def Sighting.nothing : Sided (Sighting α) := ⟨.none, .none⟩

/-- The frame of a rover at the origin that sees nothing. -/
def Frame.empty : Frame α := ⟨.origin, Sighting.nothing, .clear⟩

end GateNav
