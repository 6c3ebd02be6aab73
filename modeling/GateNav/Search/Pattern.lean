import GateNav.Search.Kind
import GateNav.Settings.Basic
import GateNav.Pose

/-!
# Layouts of search points

A `Pattern` lays out points around a center, nearest first: `rings` rings of four points, or `rings` turns of a
square spiral whose legs are 1, 1, 2, 2, 3, 3, … spacings long and start north, each of the turns with four
corners. The layout is written over any way to move from a point along a bearing; `Pattern.points` moves
over the field.
-/

namespace GateNav

/-- A kind of layout and its size. -/
structure Pattern where
  kind : PatternKind
  rings : Nat
deriving DecidableEq, Repr

namespace Pattern
variable {α β : Type} [Scalar α]

/-- The pattern the settings ask for. -/
def ofSettings (s : TraverseSettings α) : Pattern := ⟨s.pattern, s.rings⟩

/-- A quarter of a turn in degrees, `n` times. -/
def quarters (n : Nat) : α := (((90 : Nat) : α)) * (n : α)

/-- The four points of a ring. -/
def ring (move : β → α → α → β) (center : β) (spacing : α) (n : Nat) : List β :=
  [0, 1, 2, 3].map fun k => move center (quarters k) ((n : α) * spacing)

/-- The rings from the inmost outward. -/
def diamond (move : β → α → α → β) (center : β) (spacing : α) (rings : Nat) : List β :=
  (List.range rings).flatMap fun k => ring move center spacing (k + 1)

/-- The corners from leg number `leg` on, `count` of them, starting from `corner`. -/
def spiralFrom (move : β → α → α → β) (spacing : α) (corner : β) (leg : Nat) : Nat → List β
  | 0 => []
  | count + 1 =>
    let next := move corner (quarters (leg % 4)) (((leg / 2 + 1 : Nat) : α) * spacing)
    next :: spiralFrom move spacing next (leg + 1) count

/-- The corners of the spiral. -/
def spiral (move : β → α → α → β) (center : β) (spacing : α) (turns : Nat) : List β :=
  spiralFrom move spacing center 0 (turns * 4)

/-- Bytes of a point. -/
def pointSize : Nat := 24

/-- The points of the pattern, for which space is set aside first. The number of legs of a spiral must be a count. -/
def layOut (move : β → α → α → β) (p : Pattern) (center : β) (spacing : α) : Checked α (List β) := do
  if p.kind = .spiral ∧ maxCount < p.rings * 4 then throw .productTooLarge
  reserve (p.rings * 4) pointSize
  match p.kind with
  | .diamond => return diamond move center spacing p.rings
  | .spiral => return spiral move center spacing p.rings

/-- The points of the pattern on the field. -/
def points [Trig α] (p : Pattern) (center : Pose α) (spacing : α) : Checked α (List (Pose α)) :=
  p.layOut Pose.offset center spacing

end Pattern

end GateNav
