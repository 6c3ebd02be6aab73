import GateNav.Decimal.Layout
import GateNav.Toml.Number

/-!
# Writing TOML

A document is written as its sections, one after the other with an empty line between them; a section is its header
and one line for each of its values. Only such documents have a text: tables of plain values.
-/

namespace GateNav

/-- Numbers in TOML: all digits, with a fraction always. -/
def Layout.toml : Layout := ⟨none, none, true, .away, "nan", "inf", "-inf"⟩

namespace Toml

/-- The digits of a character's number, four of them or eight. -/
def escapeDigits (c : Char) : List Char :=
  let digits := Nat.toDigits 16 c.toNat
  List.replicate (4 - digits.length) '0' ++ digits

/-- A character inside a string: the quote, the backslash and control characters are escaped. -/
def escape (c : Char) : List Char :=
  match c with
  | '"' => ['\\', '"']
  | '\\' => ['\\', '\\']
  | _ => if isPlain c then [c] else '\\' :: 'u' :: escapeDigits c

/-- The text of a plain value. Integers of more than 64 bits have none. -/
def plainText? : Toml → Option String
  | .text s => some (String.ofList ('"' :: s.toList.flatMap escape ++ ['"']))
  | .whole n => (wordOf? n).map toString
  | .number x => some (Decimal.text .toml x)
  | .truth b => some (if b then "true" else "false")
  | .moment s => some s
  | .list _ | .table _ => none

/-- The line of a value. -/
def line? (key : String) (v : Toml) : Option String := (plainText? v).map fun text => key ++ " = " ++ text ++ "\n"

/-- A section: its header and the lines of its values. -/
def section? (name : String) (members : List (String × Toml)) : Option String := do
  let lines ← members.mapM fun (key, v) => line? key v
  return "[" ++ name ++ "]\n" ++ String.join lines

/-- The text of a document that consists of sections. -/
def render? : Toml → Option String
  | .table members => do
    let sections ← members.mapM fun (name, v) =>
      match v with
      | .table members => section? name members
      | _ => none
    return "\n".intercalate sections
  | _ => none

end Toml

end GateNav
