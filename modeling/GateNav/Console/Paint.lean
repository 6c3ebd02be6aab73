import GateNav.Phase
import GateNav.Setup.Overrides

/-!
# Colors of the terminal

A text is painted by control sequences around it: the codes of its styles, then that of its color, and at the end
the code that resets all of them. A text that holds such a reset itself goes on in its look after it.
-/

namespace GateNav.Console

inductive Color where
  | red
  | green
  | yellow
  | cyan
deriving DecidableEq, Repr

/-- How a text looks. -/
structure Look where
  bold : Bool
  dimmed : Bool
  color : Option Color
deriving DecidableEq, Repr

namespace Look

def ofColor (c : Color) : Look := ⟨false, false, some c⟩

/-- Bold letters in a color. -/
def strong (c : Color) : Look := ⟨true, false, some c⟩

def onlyBold : Look := ⟨true, false, none⟩

def onlyDimmed : Look := ⟨false, true, none⟩

/-- The codes of the styles, then that of the color. -/
def codes (l : Look) : List String :=
  (if l.bold then ["1"] else []) ++ (if l.dimmed then ["2"] else []) ++
    (l.color.map fun
      | .red => "31"
      | .green => "32"
      | .yellow => "33"
      | .cyan => "36").toList

end Look

/-- The sequence after which all looks are over. -/
def reset : String := "\x1b[0m"

/-- The sequence after which texts have the look. -/
def Look.opening (l : Look) : String := "\x1b[" ++ ";".intercalate l.codes ++ "m"

/-- The text in a look, if texts are painted at all. -/
def paint (on : Bool) (look : Look) (text : String) : String :=
  if on then look.opening ++ (reset ++ look.opening).intercalate (text.splitOn reset) ++ reset else text

/-- The name of a phase in its look. -/
def paintPhase (on : Bool) (p : Phase) : String :=
  let look := match p with
    | .traversed => .strong .green
    | .notFound => .strong .red
    | .turnToFarPost | .driveToFarPost => .ofColor .yellow
    | .spin | .spinWait => .onlyDimmed
    | _ => .ofColor .cyan
  paint on look p.name

/-- Texts are painted if a variable demands it; else if no variable forbids it and they go to a terminal. -/
def isPainted (vars : Variables) (terminal : Bool) : Bool :=
  if (vars "CLICOLOR_FORCE").any (· ≠ "0") then true
  else if (vars "NO_COLOR").isSome then false
  else (vars "CLICOLOR").all (· ≠ "0") && terminal

end GateNav.Console
