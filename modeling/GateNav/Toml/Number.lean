import GateNav.Decimal.Layout
import GateNav.Toml.Value
import GateNav.Toml.Words

/-!
# Numbers and moments of TOML

Integers have 64 bits; underscores may stand between two digits. A moment is a date, a time of day or both.
-/

namespace GateNav.Toml

/-- An integer that fits in 64 bits. -/
def wordOf? (n : Int) : Option Int := if -(maxWhole : Int) - 1 ≤ n ∧ n ≤ maxWhole then some n else none

/-- Digits, with an underscore between any two of them, without the underscores. -/
def digits? (isDigit : Char → Bool) : List Char → Option (List Char × List Char)
  | [] => none
  | c :: cs =>
    if isDigit c then some (more [c] cs) else none
where
  more (out : List Char) : List Char → List Char × List Char
    | [] => (out.reverse, [])
    | ['_'] => (out.reverse, ['_'])
    | '_' :: c :: cs => if isDigit c then more (c :: out) cs else (out.reverse, '_' :: c :: cs)
    | c :: cs => if isDigit c then more (c :: out) cs else (out.reverse, c :: cs)

/-- A sign, and whether it is a minus. -/
def sign : List Char → Bool × List Char
  | '-' :: cs => (true, cs)
  | '+' :: cs => (false, cs)
  | cs => (false, cs)

/-- The digits of an integer without needless zeros, and its sign. -/
def decimal? (cs : List Char) : Option (Bool × List Char × List Char) := do
  let (negative, cs) := sign cs
  match cs with
  | '0' :: cs => return (negative, ['0'], cs)
  | cs =>
    let (digits, cs) ← digits? Char.isDigit cs
    return (negative, digits, cs)

/-- A power of ten after its letter. -/
def exponent? : List Char → Option (Int × List Char)
  | [] => none
  | c :: cs => do
    if c != 'e' && c != 'E' then none
    let (negative, cs) := sign cs
    let (digits, cs) ← digits? Char.isDigit cs
    let n ← Decimal.count? digits
    return (if negative then -(n : Int) else n, cs)

/-- Infinity or the undefined value. -/
def special? (cs : List Char) : Option (Toml × List Char) :=
  let (negative, cs) := sign cs
  match cs with
  | 'i' :: 'n' :: 'f' :: cs => some (.number (if negative then -Float64.infinity else Float64.infinity), cs)
  | 'n' :: 'a' :: 'n' :: cs => some (.number Float64.undefined, cs)
  | _ => none

/-- A number with a fraction, a power of ten or both. It must not be rounded to infinity. -/
def fractional? (cs : List Char) : Option (Toml × List Char) := do
  let (negative, digits, cs) ← decimal? cs
  let (fraction, power, cs) ← match cs with
    | '.' :: cs => do
      let (fraction, cs) ← digits? Char.isDigit cs
      match exponent? cs with
      | some (power, cs) => some (fraction, power, cs)
      | none => some (fraction, 0, cs)
    | cs => (exponent? cs).map fun (power, cs) => ([], power, cs)
  let x ← Decimal.ofParts? negative digits fraction power
  if x == Float64.infinity then none else return (.number x, cs)

/-- The value of digits in a base. -/
def inBase (base : Nat) (digits : List Char) : Nat :=
  digits.foldl (fun n c => base * n + (Text.hexDigit? c).getD 0) 0

/-- An integer; with a letter for its base it has no sign. -/
def integer? (cs : List Char) : Option (Toml × List Char) :=
  let based (base : Nat) (isDigit : Char → Bool) (cs : List Char) : Option (Toml × List Char) := do
    let (digits, cs) ← digits? isDigit cs
    let n ← wordOf? (inBase base digits)
    return (.whole n, cs)
  match cs with
  | '0' :: 'x' :: cs => based 16 (fun c => (Text.hexDigit? c).isSome) cs
  | '0' :: 'o' :: cs => based 8 (fun c => '0' ≤ c && c ≤ '7') cs
  | '0' :: 'b' :: cs => based 2 (fun c => c == '0' || c == '1') cs
  | cs => do
    let (negative, digits, cs) ← decimal? cs
    let n ← Decimal.count? digits
    let n ← wordOf? (if negative then -(n : Int) else n)
    return (.whole n, cs)

/-! ### Moments -/

/-- A number of so many digits within a range. -/
def part? (count low high : Nat) (cs : List Char) : Option (Nat × List Char) := do
  let n ← Decimal.count? (cs.take count)
  if (cs.take count).length = count ∧ low ≤ n ∧ n ≤ high then return (n, cs.drop count) else none

/-- What is left after a character. -/
def mark? (c : Char) : List Char → Option (List Char)
  | d :: cs => if d == c then some cs else none
  | [] => none

/-- The days of a month. -/
def daysIn (year month : Nat) : Nat :=
  if month = 2 then if year % 4 = 0 ∧ (year % 100 ≠ 0 ∨ year % 400 = 0) then 29 else 28
  else if month = 4 ∨ month = 6 ∨ month = 9 ∨ month = 11 then 30
  else 31

/-- What is left after a date. -/
def date? (cs : List Char) : Option (List Char) := do
  let (year, cs) ← part? 4 0 9999 cs
  let cs ← mark? '-' cs
  let (month, cs) ← part? 2 1 12 cs
  let cs ← mark? '-' cs
  let (_, cs) ← part? 2 1 (daysIn year month) cs
  return cs

/-- What is left after a time of day. -/
def time? (cs : List Char) : Option (List Char) := do
  let (_, cs) ← part? 2 0 23 cs
  let cs ← mark? ':' cs
  let (_, cs) ← part? 2 0 59 cs
  let cs ← mark? ':' cs
  let (_, cs) ← part? 2 0 60 cs
  match cs with
  | '.' :: c :: rest => return if c.isDigit then rest.dropWhile Char.isDigit else cs
  | _ => return cs

/-- What is left after the distance to universal time, if it is given. -/
def zone? : List Char → Option (List Char)
  | [] => some []
  | c :: cs =>
    if c == 'Z' || c == 'z' then some cs
    else if c == '+' || c == '-' then do
      let (_, cs) ← part? 2 0 23 cs
      let cs ← mark? ':' cs
      let (_, cs) ← part? 2 0 59 cs
      return cs
    else some (c :: cs)

/-- What is left after a moment. -/
def afterMoment? (cs : List Char) : Option (List Char) :=
  match date? cs with
  | none => time? cs
  | some rest =>
    match rest with
    | c :: cs =>
      if c == 'T' || c == 't' || c == ' ' then
        match time? cs with
        | some cs => zone? cs
        | none => some rest
      else some rest
    | [] => some rest

/-- A moment, as it is written. -/
def moment? (cs : List Char) : Option (Toml × List Char) := do
  let rest ← afterMoment? cs
  return (.moment (String.ofList (cs.take (cs.length - rest.length))), rest)

/-- A number or a moment. -/
def number? (cs : List Char) : Option (Toml × List Char) :=
  (moment? cs).orElse fun _ => (special? cs).orElse fun _ => (fractional? cs).orElse fun _ => integer? cs

end GateNav.Toml
