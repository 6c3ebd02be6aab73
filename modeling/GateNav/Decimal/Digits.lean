import GateNav.Binary64

/-!
# Decimal digits of a double

`Digits.nearestBits` is the double that digits are read as. `Binary.shortest` is the number with the fewest digits that
reads back as the same double, and of those the one nearest to it. `Binary.significant` rounds the exact binary value to
a number of digits and `Binary.roundPlaces` to a number of decimal places, both with ties to even.
-/

namespace GateNav

/-- Which of two neighbours is taken for a number in the middle between them. -/
inductive Tie where
  /-- The one farther from zero. -/
  | away
  /-- The even one. -/
  | toEven
deriving DecidableEq, Repr

/-- The neighbour nearest to `below` and `rest` parts of `whole`. -/
def Tie.nearest (t : Tie) (below rest whole : Nat) : Nat :=
  if 2 * rest < whole then below
  else if whole < 2 * rest then below + 1
  else
    match t with
    | .away => below + 1
    | .toEven => below + below % 2

/-- The positive number `significand · 10^scale`. -/
structure Digits where
  significand : Nat
  scale : Int
deriving DecidableEq, Repr

namespace Digits

/-- The decimal digits of a count. -/
def ofNat (n : Nat) : List Char := Nat.toDigits 10 n

/-- How many digits stand before the decimal point; not positive where the number starts with zeros. -/
def magnitude (d : Digits) : Int := (ofNat d.significand).length + d.scale

/-- The same number without the zeros at the end of its significand. -/
def trimZeros (d : Digits) : Digits :=
  go (ofNat d.significand).length d
where
  go : Nat → Digits → Digits
    | 0, d => d
    | k + 1, d => if d.significand % 10 = 0 ∧ d.significand ≠ 0 then go k ⟨d.significand / 10, d.scale + 1⟩ else d

end Digits

namespace Binary

/-- A quotient to the nearest natural number, ties to even. -/
def divRound (num den : Nat) : Nat := Tie.toEven.nearest (num / den) (num % den) den

/-- The greatest `e` with `2^e ≤ num / den`, for positive numbers. -/
def floorLog (num den : Nat) : Int :=
  let e : Int := num.log2 - den.log2
  if den <<< e.toNat ≤ num <<< (-e).toNat then e else e - 1

/-- The bits of the double nearest to `num / den`, ties to even; as for `magnitudeBits` the fields are laid side by
side. -/
def quotientBits (num den : Nat) : Nat :=
  if num = 0 then 0
  else
    let target := max minExponent (floorLog num den - 52)
    let scaled := divRound (num <<< (-target).toNat) (den <<< target.toNat)
    min ((target - minExponent).toNat * fractions + scaled) ((fields - 1) * fractions)

end Binary

/-- The bits of the double nearest to the number, ties to even. Doubles have at most 309 digits before the point, and
what starts with 324 zeros after it is nearest to zero. -/
def Digits.nearestBits (d : Digits) : Nat :=
  if d.significand = 0 || d.magnitude < -400 then 0
  else if 400 < d.magnitude then (Binary.fields - 1) * Binary.fractions
  else Binary.quotientBits (d.significand * Nat.pow 10 d.scale.toNat) (Nat.pow 10 (-d.scale).toNat)

namespace Binary

/-- The least `p` with `mantissa · 2^exponent < 10^p`, for a positive mantissa. -/
def magnitude (b : Binary) : Int :=
  let num := b.mantissa <<< b.exponent.toNat
  let den := 1 <<< (-b.exponent).toNat
  if den ≤ num then (Digits.ofNat (num / den)).length
  else -(zeros 400 (num * 10) den : Nat)
where
  /-- How many zeros follow the point of `num / (10 · den)`. -/
  zeros : Nat → Nat → Nat → Nat
    | 0, _, _ => 0
    | fuel + 1, num, den => if den ≤ num then 0 else zeros fuel (num * 10) den + 1

/-- `n · 2^q` and the step `10^k`, both as multiples of one unit: the factor of `n` and the size of the
step. -/
def common (q k : Int) : Nat × Nat :=
  (Nat.pow 10 (-k).toNat <<< q.toNat, Nat.pow 10 k.toNat <<< (-q).toNat)

/-- All digits of the number. -/
def allDigits (b : Binary) : Digits :=
  if 0 ≤ b.exponent then ⟨b.mantissa <<< b.exponent.toNat, 0⟩
  else ⟨b.mantissa * Nat.pow 5 (-b.exponent).toNat, b.exponent⟩

/-- The shortest digits of a positive number that read back as it: on the grids of ever more digits, the nearer of its
two neighbours that does. -/
def shortest (tie : Tie) (b : Binary) : Digits :=
  search 17 1
where
  /-- The digits are read as the number. -/
  reads (d : Digits) : Bool := d.significand != 0 && d.nearestBits == magnitudeBits b.mantissa b.exponent
  search : Nat → Nat → Digits
    | 0, _ => b.allDigits
    | fuel + 1, count =>
      let k := b.magnitude - count
      let (factor, step) := common b.exponent k
      let below := b.mantissa * factor / step
      let nearer := tie.nearest below (b.mantissa * factor - below * step) step
      let other := if nearer = below then below + 1 else below
      let first := Digits.trimZeros ⟨nearer, k⟩
      let second := Digits.trimZeros ⟨other, k⟩
      if reads first then first else if reads second then second else search fuel (count + 1)

/-- The first `count` digits of a positive number, rounded. -/
def significant (b : Binary) (count : Nat) : Digits :=
  let k := b.magnitude - count
  let (factor, step) := common b.exponent k
  ⟨divRound (b.mantissa * factor) step, k⟩

/-- The number in units of `10^-places`, rounded. -/
def roundPlaces (b : Binary) (places : Nat) : Nat :=
  let (factor, step) := common b.exponent (-(places : Int))
  divRound (b.mantissa * factor) step

end Binary

end GateNav
