import GateNav.Decimal.Digits

/-!
# Texts of numbers

A `Layout` is one way to write the shortest digits of a double. The fixed and the scientific texts round
the exact binary value instead. `Decimal.ofParts?` reads a number written in digits.
-/

namespace GateNav

/-- One way to write a number by its shortest digits. -/
structure Layout where
  /-- The least count of digits before the point that is written without an exponent, if there is one. -/
  least : Option Int
  /-- The greatest such count, if there is one. -/
  greatest : Option Int
  /-- Whole numbers are written with a point and one zero. -/
  point : Bool
  /-- The last digit of a number in the middle between two texts. -/
  tie : Tie
  undefined : String
  infinity : String
  negativeInfinity : String

namespace Decimal

/-- Digits with the point after the first `point` of them, zeros filled in on either side. -/
def positional (digits : List Char) (point : Int) : List Char × List Char :=
  if point ≤ 0 then (['0'], List.replicate (-point).toNat '0' ++ digits)
  else
    let n := point.toNat
    if digits.length ≤ n then (digits ++ List.replicate (n - digits.length) '0', [])
    else (digits.take n, digits.drop n)

/-- A whole part and a fraction, with the point between them where there is a fraction. -/
def joinParts (whole fraction : List Char) : String :=
  if fraction.isEmpty then String.ofList whole else String.ofList (whole ++ '.' :: fraction)

/-- One digit, the others after the point, and the power of ten. -/
def scientificText (digits : List Char) (exponent : Int) : String :=
  joinParts (digits.take 1) (digits.drop 1) ++ "e" ++ toString exponent

/-- The digits of a positive number in the layout. -/
def layOut (layout : Layout) (d : Digits) : String :=
  let digits := Digits.ofNat d.significand
  let count := d.magnitude
  if layout.least.all (· ≤ count) && layout.greatest.all (count ≤ ·) then
    let (whole, fraction) := positional digits count
    joinParts whole (if fraction.isEmpty && layout.point then ['0'] else fraction)
  else scientificText digits (count - 1)

/-- The text of a double in the layout. Zero keeps its sign. -/
def text (layout : Layout) (x : Float) : String :=
  match Binary.ofFloat? x with
  | none => if x.isNaN then layout.undefined else if x < 0 then layout.negativeInfinity else layout.infinity
  | some b =>
    let sign := if b.negative then "-" else ""
    if b.mantissa = 0 then sign ++ joinParts ['0'] (if layout.point then ['0'] else [])
    else sign ++ layOut layout (b.shortest layout.tie)

/-- The sign of a double, if it is negative and `keep` says so. -/
def signText (b : Binary) (keep : Bool) : String := if b.negative && keep then "-" else ""

/-- A double with a fixed number of decimal places. A result of zeros keeps its sign if `keepSign`. -/
def fixed (places : Nat) (keepSign : Bool) (x : Float) : String :=
  match Binary.ofFloat? x with
  | none => if x.isNaN then "NaN" else if x < 0 then "-inf" else "inf"
  | some b =>
    let n := b.roundPlaces places
    let (whole, fraction) := positional (Digits.ofNat n) ((Digits.ofNat n).length - places)
    signText b (keepSign || n ≠ 0) ++ joinParts whole fraction

/-- A double as one digit, `places` digits after the point and a power of ten. -/
def scientific (places : Nat) (x : Float) : String :=
  match Binary.ofFloat? x with
  | none => if x.isNaN then "NaN" else if x < 0 then "-inf" else "inf"
  | some b =>
    let d := if b.mantissa = 0 then ⟨0, 0⟩ else b.significant (places + 1)
    let digits := Digits.ofNat d.significand ++ List.replicate (if b.mantissa = 0 then places else 0) '0'
    signText b true ++ scientificText (digits.take (places + 1)) (d.magnitude - 1)

/-- The double nearest to the number with these digits, with its sign. -/
def nearest (negative : Bool) (d : Digits) : Float :=
  Float.ofBits (UInt64.ofNat (if negative then Binary.signBit + d.nearestBits else d.nearestBits))

/-- The value of a text of decimal digits. -/
def count? (digits : List Char) : Option Nat :=
  if digits.isEmpty || !digits.all Char.isDigit then none
  else some (digits.foldl (fun n c => 10 * n + (c.toNat - '0'.toNat)) 0)

/-- A count up to `limit` in decimal digits, with or without a plus sign. -/
def readCount? (limit : Nat) (text : String) : Option Nat := do
  let digits := match text.toList with
    | '+' :: cs => cs
    | cs => cs
  let n ← count? digits
  if n ≤ limit then some n else none

/-- The double nearest to `±whole.fraction · 10^exponent`, its parts given as digits. -/
def ofParts? (negative : Bool) (whole fraction : List Char) (exponent : Int) : Option Float := do
  let n ← count? (whole ++ fraction)
  return nearest negative ⟨n, exponent - fraction.length⟩

/-- The text is an exponent or nothing. -/
def isExponent : List Char → Bool
  | [] => true
  | c :: cs =>
    let digits := match cs with
      | '+' :: cs | '-' :: cs => cs
      | cs => cs
    (c == 'e' || c == 'E') && (count? digits).isSome

/-- The text is a number: digits with a point before, between or after them and maybe an exponent, or the name of a
number that has no digits. -/
def isNumber (text : String) : Bool :=
  let unsigned := match text.toList with
    | '+' :: cs | '-' :: cs => cs
    | cs => cs
  let (whole, rest) := unsigned.span Char.isDigit
  let (fraction, rest) := match rest with
    | '.' :: cs => cs.span Char.isDigit
    | cs => ([], cs)
  ["inf", "infinity", "nan"].contains (String.ofList (unsigned.map Char.toLower)) ||
    (!(whole ++ fraction).isEmpty && isExponent rest)

end Decimal

/-- The text of a number in messages: all digits, no exponent, no point after a whole number. -/
def Layout.plain : Layout := ⟨none, none, false, .away, "NaN", "inf", "-inf"⟩

/-- The text of a number inside a displayed value: from `10^-4` up to `10^16` without an exponent, and with a
fraction always. -/
def Layout.detailed : Layout := ⟨some (-3), some 16, true, .away, "NaN", "inf", "-inf"⟩

/-- Kinds of number that have a text. -/
class Numeral (α : Type) where
  /-- The text in messages. -/
  text : α → String
  /-- The text inside a displayed value. -/
  detail : α → String

instance : Numeral Float := ⟨Decimal.text .plain, Decimal.text .detailed⟩

end GateNav
