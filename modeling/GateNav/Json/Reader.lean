import GateNav.Decimal.Layout
import GateNav.Json.Value
import GateNav.Text.Hex

/-!
# Reading JSON

A reader takes characters from the front of a list and returns what is left. The nesting of values is bounded by
the number of characters, which is the fuel of `value`.
-/

namespace GateNav.Json.Reader

/-- Blanks between tokens. -/
def isSpace (c : Char) : Bool := c == ' ' || c == '\n' || c == '\r' || c == '\t'

def skip (cs : List Char) : List Char := cs.dropWhile isSpace

/-- What is left after a fixed text. -/
def keyword? (word : List Char) (cs : List Char) : Option (List Char) :=
  if cs.take word.length = word then some (cs.drop word.length) else none

/-- Four hexadecimal digits. -/
def unit? (cs : List Char) : Option (Nat × List Char) :=
  if cs.length < 4 then none else (Text.hexNumber? (cs.take 4)).map (·, cs.drop 4)

/-- The character of an escape with four digits, or of two that form a surrogate pair. -/
def unicode? (cs : List Char) : Option (Char × List Char) := do
  let (high, rest) ← unit? cs
  if 0xD800 ≤ high ∧ high < 0xDC00 then
    let rest ← keyword? ['\\', 'u'] rest
    let (low, rest) ← unit? rest
    if 0xDC00 ≤ low ∧ low < 0xE000 then
      return (Char.ofNat (0x10000 + (high - 0xD800) * 0x400 + (low - 0xDC00)), rest)
    else none
  else if 0xDC00 ≤ high ∧ high < 0xE000 then none
  else return (Char.ofNat high, rest)

/-- The characters up to the closing quote, which the fuel bounds; `out` holds those read, last first. -/
def string? : Nat → List Char → List Char → Option (String × List Char)
  | 0, _, _ => none
  | _ + 1, _, [] => none
  | _ + 1, out, '"' :: cs => some (String.ofList out.reverse, cs)
  | fuel + 1, out, '\\' :: c :: cs =>
    match c with
    | '"' => string? fuel ('"' :: out) cs
    | '\\' => string? fuel ('\\' :: out) cs
    | '/' => string? fuel ('/' :: out) cs
    | 'b' => string? fuel (Char.ofNat 8 :: out) cs
    | 'f' => string? fuel (Char.ofNat 12 :: out) cs
    | 'n' => string? fuel ('\n' :: out) cs
    | 'r' => string? fuel ('\r' :: out) cs
    | 't' => string? fuel ('\t' :: out) cs
    | 'u' =>
      match unicode? cs with
      | some (c, cs) => string? fuel (c :: out) cs
      | none => none
    | _ => none
  | fuel + 1, out, c :: cs => if c.toNat < 32 then none else string? fuel (c :: out) cs

/-- The digits at the front, and the rest. -/
def digits (cs : List Char) : List Char × List Char := cs.span Char.isDigit

/-- A fraction after a point. -/
def fraction? : List Char → Option (List Char × List Char)
  | '.' :: cs => let (ds, cs) := digits cs; if ds.isEmpty then none else some (ds, cs)
  | cs => some ([], cs)

/-- A power of ten after the letter `e`. -/
def exponent? : List Char → Option (Option Int × List Char)
  | c :: cs =>
    if c == 'e' || c == 'E' then
      let (negative, cs) := match cs with
        | '-' :: cs => (true, cs)
        | '+' :: cs => (false, cs)
        | _ => (false, cs)
      let (ds, cs) := digits cs
      (Decimal.count? ds).map fun (n : Nat) => (some (if negative then -(n : Int) else n), cs)
    else some (none, c :: cs)
  | [] => some (none, [])

/-- A number. A minus sign before an integer zero needs a double. -/
def number? (cs : List Char) : Option (Json × List Char) := do
  let (negative, cs) := match cs with
    | '-' :: cs => (true, cs)
    | _ => (false, cs)
  let (whole, cs) := digits cs
  let n ← Decimal.count? whole
  if whole.length > 1 ∧ whole.head? = some '0' then none
  else
    let (fraction, cs) ← fraction? cs
    let (power, cs) ← exponent? cs
    if fraction.isEmpty ∧ power.isNone ∧ !(negative && n == 0) then
      return (.int (if negative then -(n : Int) else n), cs)
    else
      let x ← Decimal.ofParts? negative whole fraction (power.getD 0)
      return (.float x, cs)

mutual

/-- A value. -/
def value? : Nat → List Char → Option (Json × List Char)
  | 0, _ => none
  | fuel + 1, cs =>
    match skip cs with
    | '"' :: cs => (string? (cs.length + 1) [] cs).map fun (s, cs) => (.str s, cs)
    | '[' :: cs =>
      match skip cs with
      | ']' :: cs => some (.arr [], cs)
      | _ => items? fuel [] cs
    | '\x7b' :: cs =>
      match skip cs with
      | '\x7d' :: cs => some (.obj [], cs)
      | _ => members? fuel [] cs
    | 't' :: cs => (keyword? ['r', 'u', 'e'] cs).map (.bool true, ·)
    | 'f' :: cs => (keyword? ['a', 'l', 's', 'e'] cs).map (.bool false, ·)
    | 'n' :: cs => (keyword? ['u', 'l', 'l'] cs).map (.null, ·)
    | cs => number? cs

/-- The items of an array up to its bracket; `out` holds those read, last first. -/
def items? : Nat → List Json → List Char → Option (Json × List Char)
  | 0, _, _ => none
  | fuel + 1, out, cs =>
    match value? fuel cs with
    | none => none
    | some (item, cs) =>
      match skip cs with
      | ',' :: cs => items? fuel (item :: out) cs
      | ']' :: cs => some (.arr (item :: out).reverse, cs)
      | _ => none

/-- The members of an object up to its brace; `out` holds those read, last first. -/
def members? : Nat → List (String × Json) → List Char → Option (Json × List Char)
  | 0, _, _ => none
  | fuel + 1, out, cs =>
    match skip cs with
    | '"' :: cs =>
      match string? (cs.length + 1) [] cs with
      | none => none
      | some (name, cs) =>
        match skip cs with
        | ':' :: cs =>
          match value? fuel cs with
          | none => none
          | some (value, cs) =>
            match skip cs with
            | ',' :: cs => members? fuel ((name, value) :: out) cs
            | '\x7d' :: cs => some (.obj ((name, value) :: out).reverse, cs)
            | _ => none
        | _ => none
    | _ => none

end

end Reader

/-- The value of a whole text. -/
def parse? (text : String) : Option Json :=
  let cs := text.toList
  match Reader.value? (cs.length + 1) cs with
  | some (value, rest) => if (Reader.skip rest).isEmpty then some value else none
  | none => none

end GateNav.Json
