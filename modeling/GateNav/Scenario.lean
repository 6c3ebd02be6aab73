import GateNav.Field
import GateNav.Text.Blank
import GateNav.Waypoint

/-!
# Canned fields

All scenarios are anchored at one place and search for the same gate, whose posts stand a gate's width apart on an
east–west line.
-/

namespace GateNav

/-- A field and a starting pose. -/
inductive Scenario where
  /-- The rover stands eight metres before the gate and faces it. -/
  | approach
  /-- The same place, but the ids of the posts are exchanged, so that the rover stands behind the gate. -/
  | wrongSide
  /-- The rover stands far out of sight and faces away. -/
  | search
  /-- There are no posts. -/
  | empty
deriving DecidableEq, Repr

namespace Scenario

/-- All scenarios. -/
def all : List Scenario := [approach, wrongSide, search, empty]

/-- The name on the command line and in reports. -/
def name : Scenario → String
  | approach => "approach"
  | wrongSide => "wrong-side"
  | search => "search"
  | empty => "empty"

/-- The scenario of that name. -/
def ofName? (name : String) : Option Scenario := all.find? (·.name = name)

/-- The scenario a text names between blanks, or the text of the complaint. -/
def parse (text : String) : Except String Scenario :=
  match ofName? (Text.trim text) with
  | some s => pure s
  | none =>
    throw ("unknown scenario `" ++ text ++ "` (expected one of: " ++ ", ".intercalate (all.map name) ++ ")")

/-- The id of the post that must pass on the left. -/
def postId : Int32 := 4

variable {α : Type} [Scalar α]

/-- The place all scenarios are anchored at. -/
def site : Pose α := ⟨Scalar.ratio 384063 10000, -Scalar.ratio 1107918 10000, Scalar.zero⟩

/-- The distance between the posts in metres. -/
def gateWidth : α := ((2 : Nat) : α)

/-- The waypoint of every scenario. -/
def waypoint : Waypoint α := .gate site postId gateWidth

/-- The place of the western post. -/
def west : Vec α := ⟨-(gateWidth / ((2 : Nat) : α)), Scalar.zero⟩

/-- The place of the eastern post. -/
def east : Vec α := ⟨gateWidth / ((2 : Nat) : α), Scalar.zero⟩

/-- The posts of the scenario. -/
def posts : Scenario → List (Post α)
  | approach | search => [⟨west, postId⟩, ⟨east, postId + 1⟩]
  | wrongSide => [⟨east, postId⟩, ⟨west, postId + 1⟩]
  | empty => []

/-- Where the rover starts. -/
def rover : Scenario → Rover α
  | search => .of ⟨Scalar.zero, -((20 : Nat) : α)⟩ Bearing.halfTurn
  | _ => .of ⟨Scalar.zero, -((8 : Nat) : α)⟩ Scalar.zero

/-- The field of the scenario. -/
def field (s : Scenario) : Field α := .of site s.posts s.rover .default .default

end Scenario

end GateNav
