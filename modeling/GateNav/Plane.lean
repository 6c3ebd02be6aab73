import GateNav.Bearing

/-!
# Vectors of the local plane

In the world frame `x` points east and `y` north, in metres. In the rover's own frame `x` points forward
and `y` left.
-/

namespace GateNav

/-- A vector of the plane. -/
structure Vec (α : Type) where
  x : α
  y : α
deriving DecidableEq, BEq, Repr

namespace Vec
variable {α : Type} [Scalar α]

instance : Add (Vec α) := ⟨fun u v => ⟨u.x + v.x, u.y + v.y⟩⟩

instance : Sub (Vec α) := ⟨fun u v => ⟨u.x - v.x, u.y - v.y⟩⟩

def zero : Vec α := ⟨Scalar.zero, Scalar.zero⟩

def scale (v : Vec α) (k : α) : Vec α := ⟨v.x * k, v.y * k⟩

def dot (u v : Vec α) : α := u.x * v.x + u.y * v.y

/-- A quarter turn clockwise: north becomes east. -/
def clockwise (v : Vec α) : Vec α := ⟨v.y, -v.x⟩

/-- Vectors no longer than this, which is `2^-52`, have no direction. -/
def negligible : α := Scalar.ratio 1 4503599627370496

variable [Trig α]

def norm (v : Vec α) : α := Trig.hypot v.x v.y

/-- The vector of length one in the same direction, if `v` has one. -/
def direction? (v : Vec α) : Option (Vec α) :=
  let n := v.norm
  if negligible < n then some (v.scale (Scalar.one / n)) else none

/-- The compass bearing of an east/north vector. -/
def bearing (v : Vec α) : α := Bearing.normalize (Trig.atan2 v.x v.y * Trig.radian)

/-- The east/north vector of length one along a compass bearing. -/
def ofBearing (bearing : α) : Vec α :=
  let angle := bearing * Trig.degree
  ⟨Trig.sin angle, Trig.cos angle⟩

end Vec

end GateNav
