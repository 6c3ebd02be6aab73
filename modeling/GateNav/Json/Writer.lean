import GateNav.Decimal.Layout
import GateNav.Json.Value

/-!
# JSON text

`Json.compact` writes a value without blanks, `Json.pretty` with one item a line and two blanks for each level.
-/

namespace GateNav

/-- Numbers in JSON: from `10^-5` up to `10^16` without an exponent, always with a fraction or an exponent; what JSON
cannot write is null. -/
def Layout.json : Layout := ⟨some (-4), some 16, true, .toEven, "null", "null", "null"⟩

namespace Json

/-- A hexadecimal digit. -/
def hexDigit (n : Nat) : Char := Nat.digitChar n

/-- A character inside a string: the quote, the backslash and control characters are escaped. -/
def escape (c : Char) : List Char :=
  match c with
  | '"' => ['\\', '"']
  | '\\' => ['\\', '\\']
  | '\n' => ['\\', 'n']
  | '\r' => ['\\', 'r']
  | '\t' => ['\\', 't']
  | _ =>
    if c.toNat = 8 then ['\\', 'b']
    else if c.toNat = 12 then ['\\', 'f']
    else if c.toNat < 32 then ['\\', 'u', '0', '0', hexDigit (c.toNat / 16), hexDigit (c.toNat % 16)]
    else [c]

/-- A string in quotes. -/
def quote (s : String) : String := String.ofList ('"' :: s.toList.flatMap escape ++ ['"'])

/-- The text of a value that holds no other values. -/
def atom : Json → String
  | .null => "null"
  | .bool b => if b then "true" else "false"
  | .int n => toString n
  | .float x => Decimal.text .json x
  | .str s => quote s
  | .arr _ => "[]"
  | .obj _ => "\x7b\x7d"

mutual

/-- The value on one line without blanks, written after `out`. -/
def writeCompact (out : String) : Json → String
  | .arr items => writeItems (out ++ "[") true items ++ "]"
  | .obj members => writeMembers (out ++ "\x7b") true members ++ "\x7d"
  | value => out ++ atom value

/-- The items of an array with commas between them. -/
def writeItems (out : String) (first : Bool) : List Json → String
  | [] => out
  | item :: items => writeItems (writeCompact (if first then out else out ++ ",") item) false items

/-- The members of an object with commas between them. -/
def writeMembers (out : String) (first : Bool) : List (String × Json) → String
  | [] => out
  | (name, value) :: members =>
    writeMembers (writeCompact ((if first then out else out ++ ",") ++ quote name ++ ":") value) false members

end

/-- The value on one line without blanks. -/
def compact (value : Json) : String := writeCompact "" value

/-- A line break and the blanks of a level. -/
def newline (level : Nat) : String := String.ofList ('\n' :: List.replicate (2 * level) ' ')

mutual

/-- The value with one item a line, written after `out` at a level. -/
def writePretty (level : Nat) (out : String) : Json → String
  | .arr (item :: items) =>
    prettyItems (level + 1) (writePretty (level + 1) (out ++ "[" ++ newline (level + 1)) item) items ++ newline level ++ "]"
  | .obj ((name, value) :: members) =>
    prettyMembers (level + 1)
      (writePretty (level + 1) (out ++ "\x7b" ++ newline (level + 1) ++ quote name ++ ": ") value) members ++
      newline level ++ "\x7d"
  | value => out ++ atom value

/-- The items after the first. -/
def prettyItems (level : Nat) (out : String) : List Json → String
  | [] => out
  | item :: items => prettyItems level (writePretty level (out ++ "," ++ newline level) item) items

/-- The members after the first. -/
def prettyMembers (level : Nat) (out : String) : List (String × Json) → String
  | [] => out
  | (name, value) :: members =>
    prettyMembers level (writePretty level (out ++ "," ++ newline level ++ quote name ++ ": ") value) members

end

/-- The value with one item a line. -/
def pretty (value : Json) : String := writePretty 0 "" value

end Json

end GateNav
