import GateNav.Document

/-!
# TOML values

The values of the format of the settings file. Points in time are kept as they are written: nothing that is set is
one.
-/

namespace GateNav

/-- A TOML value; the members of a table keep their order. -/
inductive Toml where
  | text (s : String)
  | whole (n : Int)
  | number (x : Float)
  | truth (b : Bool)
  | moment (s : String)
  | list (items : List Toml)
  | table (members : List (String × Toml))

namespace Toml

/-- Whole numbers end here. -/
def maxWhole : Nat := 9223372036854775807

/-- The value of that name. -/
def member? (members : List (String × Toml)) (name : String) : Option Toml :=
  (members.find? (·.1 == name)).map (·.2)

/-- Nothing is in the value. -/
def isEmpty : Toml → Bool
  | .list [] | .table [] => true
  | _ => false

end Toml

/-- A moment counts as a record without any of the fields asked for. -/
instance : Document Toml where
  number?
    | .whole n => some (Float.ofInt n)
    | .number x => some x
    | _ => none
  whole?
    | .whole n => some n
    | _ => none
  word?
    | .text s => some s
    | .table [(name, content)] => if content.isEmpty then some name else none
    | _ => none
  record? names
    | .table members => some (Toml.member? members)
    | .list items => some (Document.byPlace names items)
    | .moment _ => some fun _ => none
    | _ => none
  ofNumber := .number
  ofWhole := .whole
  ofWord := .text
  ofRecord := .table

end GateNav
