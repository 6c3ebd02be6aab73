import GateNav.Scalar

/-!
# Compass bearings

Bearings are degrees clockwise from north. `Bearing.normalize` brings one into a single turn and
`Bearing.rotation target source` is the signed turn that leads from `source` to `target` the short way:
clockwise turns are positive, and half a turn counts as clockwise.
-/

namespace GateNav.Bearing
variable {α : Type} [Scalar α]

/-- A whole turn in degrees. -/
def turn : α := ((360 : Nat) : α)

/-- Half a turn in degrees. -/
def halfTurn : α := ((180 : Nat) : α)

/-- The bearing within one turn. The remainder of a tiny negative bearing can round up to a whole turn,
which is north again. -/
def normalize (bearing : α) : α :=
  let wrapped := Scalar.floorRem bearing turn
  if turn ≤ wrapped then Scalar.zero else wrapped

/-- The signed rotation from `source` to `target` the short way, above minus half a turn and at most half
a turn. -/
def rotation (target source : α) : α :=
  let clockwise := normalize (target - source)
  if halfTurn < clockwise then clockwise - turn else clockwise

/-- How far apart two bearings are, whichever way one turns. -/
def gap (target source : α) : α := Scalar.abs (rotation target source)

end GateNav.Bearing
