import GateNav.Json.Value

/-!
# Documents

Settings are kept in documents of several formats. A `Document` is a value of such a format, seen as a number, a
whole number, a word or a record. A record may be written by name or as the list of its fields' values.
-/

namespace GateNav

/-- The values of a document format. -/
class Document (V : Type) where
  /-- The number; whole ones count. -/
  number? : V → Option Float
  /-- The number, if it is written as a whole one. -/
  whole? : V → Option Int
  /-- The word. -/
  word? : V → Option String
  /-- The fields of a record with these names, in this order. -/
  record? : List String → V → Option (String → Option V)
  ofNumber : Float → V
  ofWhole : Int → V
  ofWord : String → V
  ofRecord : List (String × V) → V

namespace Document
variable {V : Type} [Document V]

/-- The whole number, if it is a count up to `limit`. -/
def count? (limit : Nat) (v : V) : Option Nat := do
  let n ← whole? v
  if 0 ≤ n ∧ n ≤ limit then some n.toNat else none

/-- The place of each item of a list, looked up by the name with the same place. -/
def byPlace (names : List String) (items : List V) (name : String) : Option V := items[names.idxOf name]?

end Document

instance : Document Json where
  number?
    | .int n => some (Float.ofInt n)
    | .float x => some x
    | _ => none
  whole?
    | .int n => some n
    | _ => none
  word?
    | .str s => some s
    | .obj [(name, .null)] => some name
    | _ => none
  record? names
    | .obj members => some (Json.member? members)
    | .arr items => if items.length ≤ names.length then some (Document.byPlace names items) else none
    | _ => none
  ofNumber := .float
  ofWhole := .int
  ofWord := .str
  ofRecord := .obj

end GateNav
