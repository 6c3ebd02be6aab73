/-!
# JSON values

Numbers written without a fraction and an exponent are kept as integers, all others as doubles; the members
of an object keep their order.
-/

namespace GateNav

/-- A JSON value. -/
inductive Json where
  | null
  | bool (b : Bool)
  | int (n : Int)
  | float (x : Float)
  | str (s : String)
  | arr (items : List Json)
  | obj (members : List (String × Json))

namespace Json

/-- The member of that name; of several, the first. -/
def member? (members : List (String × Json)) (name : String) : Option Json :=
  (members.find? (·.1 == name)).map (·.2)

/-- The member of that name, if the value is an object that has it. -/
def get? : Json → String → Option Json
  | .obj members, name => member? members name
  | _, _ => none

/-- A value, or null in its absence. -/
def ofOption {β : Type} (encode : β → Json) : Option β → Json
  | none => .null
  | some b => encode b

/-- An object with a single member. -/
def tagged (tag : String) (content : Json) : Json := .obj [(tag, content)]

end Json

end GateNav
