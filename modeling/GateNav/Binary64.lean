import GateNav.Scalar

/-!
# Doubles, exactly

A finite double is `±m · 2^q` with a natural `m < 2^53`. `Binary.ofFloat?` reads these parts off the bits and
`Binary.toFloat` rounds such a number back to the nearest double (ties to even), so that whatever is
computed exactly on the parts is rounded once. The remainder and the hypotenuse are defined this way,
and the two instances make `Float` the kind of number the program runs at.
-/

namespace GateNav

/-- The number `±mantissa · 2^exponent`. -/
structure Binary where
  negative : Bool
  mantissa : Nat
  exponent : Int
deriving DecidableEq, Repr

namespace Binary

/-- The exponent of the smallest positive double. -/
def minExponent : Int := -1074

/-- The number of fractions between two powers of two, which take 52 bits. -/
def fractions : Nat := 4503599627370496

/-- The number of exponent fields, which take 11 bits. -/
def fields : Nat := 2048

/-- The bit of the sign, before the other two parts. -/
def signBit : Nat := fields * fractions

/-- The parts of a finite double; infinities and the undefined value have none. -/
def ofFloat? (x : Float) : Option Binary :=
  let bits := x.toBits.toNat
  let negative := bits ≥ signBit
  let field := bits / fractions % fields
  let fraction := bits % fractions
  if field = fields - 1 then none
  else if field = 0 then some ⟨negative, fraction, minExponent⟩
  else some ⟨negative, fractions + fraction, minExponent + (field - 1 : Nat)⟩

/-- `n / 2^k` to the nearest natural number, ties to even. -/
def shiftRound (n k : Nat) : Nat :=
  let quotient := n >>> k
  let rest := n - quotient <<< k
  if 2 * rest > 1 <<< k then quotient + 1
  else if 2 * rest = 1 <<< k then quotient + quotient % 2
  else quotient

/-- The bits of the double nearest to `m · 2^q`: the two fields laid side by side, so that a mantissa
rounded up to the next power of two carries into the exponent, and overflow ends at infinity. -/
def magnitudeBits (m : Nat) (q : Int) : Nat :=
  if m = 0 then 0
  else
    let target := max minExponent (q + m.log2 - 52)
    let scaled := if target ≤ q then m <<< (q - target).toNat else shiftRound m (target - q).toNat
    min ((target - minExponent).toNat * fractions + scaled) ((fields - 1) * fractions)

/-- The double nearest to the number, ties to even. -/
def toFloat (b : Binary) : Float :=
  let bits := magnitudeBits b.mantissa b.exponent
  Float.ofBits (UInt64.ofNat (if b.negative then signBit + bits else bits))

/-- `x` over the common exponent `q`, which must not exceed its own. -/
def alignedMantissa (x : Binary) (q : Int) : Nat := x.mantissa <<< (x.exponent - q).toNat

/-- The exact remainder of the division toward zero; it has the sign of the dividend. -/
def rem (x y : Binary) : Binary :=
  let q := min x.exponent y.exponent
  ⟨x.negative, x.alignedMantissa q % y.alignedMantissa q, q⟩

end Binary

/-- The largest `r` with `r * r ≤ n`, found by halving the step from above. -/
def floorSqrt (n : Nat) : Nat :=
  go (n.log2 / 2 + 1) 0
where
  /-- Adds the powers `2^(k-1), …, 1` to `r` as long as the square stays within `n`. -/
  go : Nat → Nat → Nat
    | 0, r => r
    | k + 1, r =>
      let r' := r + 1 <<< k
      go k (if r' * r' ≤ n then r' else r)

namespace Float64

/-- The undefined value. -/
def undefined : Float := Float.ofBits 0x7FF8000000000000

/-- Positive infinity. -/
def infinity : Float := Float.ofBits 0x7FF0000000000000

/-- The remainder of `x / y` toward zero, which is always a double. -/
def rem (x y : Float) : Float :=
  match Binary.ofFloat? x, Binary.ofFloat? y with
  | some a, some b => if b.mantissa = 0 then undefined else (a.rem b).toFloat
  | some _, none => if y.isNaN then undefined else x
  | none, _ => undefined

/-- `√(x² + y²)`, rounded once. -/
def hypot (x y : Float) : Float :=
  if x.isInf || y.isInf then infinity
  else match Binary.ofFloat? x, Binary.ofFloat? y with
    | some a, some b =>
      let q := min a.exponent b.exponent
      let square := a.alignedMantissa q * a.alignedMantissa q + b.alignedMantissa q * b.alignedMantissa q
      let shift := 56 - square.log2 / 2
      let wide := square <<< (2 * shift)
      let root := floorSqrt wide
      let sticky := if root * root = wide then 0 else 1
      (Binary.mk false (2 * root + sticky) (q - shift - 1)).toFloat
    | _, _ => undefined

/-- The whole part of a number toward zero as a count; the undefined value and negative numbers give 0. -/
def floorCount (x : Float) : Nat := x.toUInt64.toNat

/-- The least count not below `x`, at most `maxCount`. -/
def ceil (x : Float) : Nat :=
  let n := floorCount x
  if Float.ofNat n < x then min (n + 1) maxCount else n

/-- The count nearest to `x`, halves upward, at most `maxCount`. -/
def round (x : Float) : Nat :=
  let n := floorCount x
  if Float.ofNat 1 ≤ Float.ofNat 2 * (x - Float.ofNat n) then min (n + 1) maxCount else n

/-- The place of a double in the order from `-∞` over `-0`, `0` and `∞` to the undefined value. -/
def rank (x : Float) : Int :=
  let bits := x.toBits.toNat
  if bits ≥ Binary.signBit then -((bits - Binary.signBit : Nat) : Int) - 1 else bits

end Float64

instance : Scalar Float where
  natCast := Float.ofNat
  decLt := inferInstance
  decLe := inferInstance
  rem := Float64.rem
  isFinite := Float.isFinite
  ceil := Float64.ceil
  round := Float64.round
  before x y := Float64.rank x < Float64.rank y

instance : Trig Float where
  sin := Float.sin
  cos := Float.cos
  atan2 := Float.atan2
  hypot := Float64.hypot
  degree := 3.141592653589793 / 180.0
  radian := 180.0 / 3.141592653589793

end GateNav
