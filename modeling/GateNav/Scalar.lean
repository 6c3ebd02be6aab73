/-!
# Kinds of number

Everything the rover computes is written once over a kind of number `α`. `Scalar α` gives arithmetic,
comparison and the few operations that turn a number into a whole one; `Trig α` gives the functions of
angles. The program runs at `Float` (`GateNav.Binary64`); `Rat` is the exact reading of everything that
needs no trigonometry, and `Double` the reading for measurements that may be undefined (`GateNav.Double`).

Comparison is not assumed to be total: `Float` has a value that is neither below, equal to nor above
any other, and the definitions below say what happens to it.
-/

namespace GateNav

/-- The largest count a 64-bit word holds; whole numbers taken from `α` stop there. -/
def maxCount : Nat := 18446744073709551615

/-- A kind of number with arithmetic, comparison and conversion to counts. -/
class Scalar (α : Type) extends Add α, Sub α, Mul α, Div α, Neg α, LT α, LE α, NatCast α where
  decLt : DecidableLT α
  decLe : DecidableLE α
  /-- What is left of the first number after taking away whole multiples of the second toward zero. -/
  rem : α → α → α
  /-- Neither infinite nor undefined. -/
  isFinite : α → Bool
  /-- The least count not below the number, at most `maxCount`. -/
  ceil : α → Nat
  /-- The count nearest to the number, halves upward, at most `maxCount`. -/
  round : α → Nat
  /-- A total order that extends `<`; undefined values lie at its ends. -/
  before : α → α → Bool

attribute [reducible] Scalar.decLt Scalar.decLe
attribute [instance] Scalar.decLt Scalar.decLe

/-- Functions of angles in radians, and the two conversion factors. -/
class Trig (α : Type) where
  sin : α → α
  cos : α → α
  /-- The angle of the point `(x, y)`, given as `atan2 y x`. -/
  atan2 : α → α → α
  /-- The length of the hypotenuse. -/
  hypot : α → α → α
  /-- Radians in one degree. -/
  degree : α
  /-- Degrees in one radian. -/
  radian : α

namespace Scalar
variable {α : Type} [Scalar α]

/-- The number zero. -/
def zero : α := ((0 : Nat) : α)

/-- The number one. -/
def one : α := ((1 : Nat) : α)

/-- The fraction `n / d`. -/
def ratio (n d : Nat) : α := (n : α) / (d : α)

/-- The distance from zero. -/
def abs (x : α) : α := if x < zero then -x else x

/-- The lesser of two numbers; an undefined one loses. -/
def least (x y : α) : α := if y < x then y else if x ≤ x then x else y

/-- `x` held between `low` and `high`; an undefined number stays undefined. -/
def clamp (low high x : α) : α :=
  let y := if x < low then low else x
  if high < y then high else y

/-- The remainder that is not negative: `rem`, plus the modulus where `rem` is below zero. -/
def floorRem (x m : α) : α :=
  let r := rem x m
  if r < zero then r + m else r

end Scalar

/-- The exact reading: fractions without rounding, all of them finite. -/
instance : Scalar Rat where
  decLt := inferInstance
  decLe := inferInstance
  rem x m := x - m * (if x / m < 0 then -(-(x / m)).floor else (x / m).floor : Int)
  isFinite _ := true
  ceil x := min x.ceil.toNat maxCount
  round x := min (x + 1 / 2).floor.toNat maxCount
  before x y := x < y

end GateNav
