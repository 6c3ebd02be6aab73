import GateNav.Decimal.Layout

/-!
# Doubles with signed undefined values

The undefined values of `Float` are all alike. A `Double` keeps the sign of such a value, and all doubles have an order
in which it lies below or above all others. What an operation makes of an undefined number has the sign of the first
such number; where only the result is undefined, its sign is negative.
-/

namespace GateNav

/-- A double. -/
structure Double where
  value : Float
  /-- The sign of the value, if it is undefined. -/
  negative : Bool
deriving Repr

namespace Double

/-- The undefined values of `Float` are taken for positive ones. -/
def ofFloat (x : Float) : Double := ⟨x, false⟩

/-- The double with these bits. -/
def ofBits (bits : UInt64) : Double := ⟨Float.ofBits bits, bits.toNat ≥ Binary.signBit⟩

/-- The result of an operation on numbers. -/
def result (operands : List Double) (value : Float) : Double :=
  ⟨value, value.isNaN && ((operands.find? (·.value.isNaN)).map (·.negative)).getD true⟩

def apply (f : Float → Float) (x : Double) : Double := result [x] (f x.value)

def apply₂ (f : Float → Float → Float) (x y : Double) : Double := result [x, y] (f x.value y.value)

/-- The place of a double in the order of all doubles. -/
def rank (x : Double) : Int :=
  if x.value.isNaN && x.negative then -Float64.rank Float64.undefined - 1 else Float64.rank x.value

end Double

instance : BEq Double := ⟨fun x y => x.value == y.value⟩

instance : Scalar Double where
  add := Double.apply₂ (· + ·)
  sub := Double.apply₂ (· - ·)
  mul := Double.apply₂ (· * ·)
  div := Double.apply₂ (· / ·)
  neg x := ⟨-x.value, x.value.isNaN && !x.negative⟩
  lt x y := x.value < y.value
  le x y := x.value ≤ y.value
  natCast n := .ofFloat (Float.ofNat n)
  decLt x y := inferInstanceAs (Decidable (x.value < y.value))
  decLe x y := inferInstanceAs (Decidable (x.value ≤ y.value))
  rem := Double.apply₂ Scalar.rem
  isFinite x := x.value.isFinite
  ceil x := Scalar.ceil x.value
  round x := Scalar.round x.value
  before x y := x.rank < y.rank

instance : Trig Double where
  sin := Double.apply Float.sin
  cos := Double.apply Float.cos
  atan2 := Double.apply₂ Float.atan2
  hypot := Double.apply₂ Trig.hypot
  degree := .ofFloat Trig.degree
  radian := .ofFloat Trig.radian

instance : Numeral Double := ⟨fun x => Numeral.text x.value, fun x => Numeral.detail x.value⟩

end GateNav
