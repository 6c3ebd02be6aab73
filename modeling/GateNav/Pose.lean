import GateNav.Plane

/-!
# Poses on the field

A pose is a geographic position with a heading. Distances on the field are tens of metres, so positions
are compared in the plane that touches the Earth at one of them: a degree of latitude has the same
length everywhere, a degree of longitude shrinks with the cosine of the latitude of the origin.
-/

namespace GateNav

/-- A position in decimal degrees and a heading; the heading is unused where only the point matters. -/
structure Pose (α : Type) where
  latitude : α
  longitude : α
  heading : α
deriving DecidableEq, BEq, Repr

namespace Pose
variable {α : Type} [Scalar α]

/-- The pose with its heading brought into one turn. -/
def of (latitude longitude heading : α) : Pose α := ⟨latitude, longitude, Bearing.normalize heading⟩

/-- The point where the equator meets the prime meridian, facing north. -/
def origin : Pose α := ⟨Scalar.zero, Scalar.zero, Scalar.zero⟩

/-- The same position with another heading. -/
def withHeading (p : Pose α) (heading : α) : Pose α := of p.latitude p.longitude heading

/-- The point halfway between two positions, with the heading of the first. -/
def midpoint (p q : Pose α) : Pose α :=
  of ((p.latitude + q.latitude) / ((2 : Nat) : α)) ((p.longitude + q.longitude) / ((2 : Nat) : α)) p.heading

variable [Trig α]

/-- Metres in one degree of latitude, for the mean radius of the Earth. -/
def metresPerDegree : α := ((6371000 : Nat) : α) * Trig.degree

/-- Metres in one degree of longitude at the latitude of `p`. -/
def metresPerLongitude (p : Pose α) : α := metresPerDegree * Trig.cos (p.latitude * Trig.degree)

/-- The position of `p` in the east/north plane around `center`. -/
def toLocal (p center : Pose α) : Vec α :=
  let north := (p.latitude - center.latitude) * metresPerDegree
  let east := (p.longitude - center.longitude) * center.metresPerLongitude
  ⟨east, north⟩

/-- The pose at a place of the east/north plane around `center`, with the heading of `center`. -/
def ofLocal (center : Pose α) (v : Vec α) : Pose α :=
  of (center.latitude + v.y / metresPerDegree) (center.longitude + v.x / center.metresPerLongitude)
    center.heading

/-- The pose reached by moving `distance` metres along `bearing` without turning. -/
def offset (p : Pose α) (bearing distance : α) : Pose α := ofLocal p ((Vec.ofBearing bearing).scale distance)

/-- Distance from `p` to `q` in metres. -/
def distanceTo (p q : Pose α) : α := (q.toLocal p).norm

/-- Compass bearing from `p` to `q`. -/
def bearingTo (p q : Pose α) : α := (q.toLocal p).bearing

end Pose

end GateNav
