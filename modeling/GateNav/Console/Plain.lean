/-!
# Texts without control sequences

What a terminal would take for a command is left out of a text: control sequences, strings for the terminal and control
characters other than those that move on. A sequence that is not complete takes what follows it along. A character that
moves on interrupts a sequence: it is kept with what follows it, and the next control character takes up the sequence.
-/

namespace GateNav.Console.Plain

/-- Where in a sequence a text is. -/
inductive Mode where
  /-- Outside of sequences. -/
  | text
  /-- After the escape character. -/
  | escape
  /-- In a short sequence. -/
  | short
  /-- In a sequence with parameters. -/
  | control
  /-- In a command for the system, which a bell may end. -/
  | command
  /-- At the start of a string for the device. -/
  | deviceStart
  /-- In the parameters of such a string. -/
  | deviceNumbers
  /-- In the marks after them. -/
  | deviceMarks
  /-- In a string that is not for the text. -/
  | string
deriving DecidableEq, Repr

def between (low high : Nat) (c : Char) : Bool := low ≤ c.toNat && c.toNat ≤ high

/-- A control character that moves on in the text. -/
def isMove (c : Char) : Bool := c == '\t' || c == '\n' || c == '\x0c' || c == '\r'

/-- The character ends a string, because one of its bytes does. -/
def endsString (c : Char) : Bool := (String.utf8EncodeChar c).contains 0x9c

/-- The mode after a character in a sequence, unless it is a control character. -/
def Mode.next (m : Mode) (c : Char) : Mode :=
  match m with
  | .text => .text
  | .escape =>
    if between 0x20 0x2F c then .short
    else if c == '[' then .control
    else if c == ']' then .command
    else if c == 'P' then .deviceStart
    else if c == 'X' || c == '^' || c == '_' then .string
    else if between 0x30 0x7E c then .text
    else .escape
  | .short => if between 0x30 0x7E c then .text else .short
  | .control => if between 0x40 0x7E c then .text else .control
  | .command => if c == '\x07' then .text else .command
  | .deviceStart =>
    if between 0x20 0x2F c then .deviceMarks
    else if c == ':' || between 0x40 0x7E c then .string
    else if between 0x30 0x3F c then .deviceNumbers
    else .deviceStart
  | .deviceNumbers =>
    if between 0x20 0x2F c then .deviceMarks
    else if c == ':' || between 0x3C 0x7E c then .string
    else .deviceNumbers
  | .deviceMarks => if between 0x30 0x7E c then .string else .deviceMarks
  | .string => if endsString c then .text else .string

/-- The control characters that move on count in this mode. -/
def Mode.moves : Mode → Bool
  | .text | .escape | .short | .control => true
  | _ => false

/-- The mode after a character and whether the character is kept, where nothing is being kept. -/
def Mode.step (m : Mode) (c : Char) : Mode × Bool :=
  if c == '\x1b' then (.escape, false)
  else if c == '\x18' || c == '\x1a' then (.text, false)
  else if m.moves && isMove c then (m, true)
  else (m.next c, m = .text && 0x20 ≤ c.toNat && c != '\x7f')

/-- Where a reader of a text is: the mode outlasts what is kept in between. -/
structure Place where
  mode : Mode
  /-- What comes next is kept, up to a control character. -/
  keeps : Bool
deriving DecidableEq, Repr

/-- The character is kept where characters are being kept. -/
def isShown (c : Char) : Bool := isMove c || (0x20 ≤ c.toNat && c != '\x7f')

/-- The place after a character; where it keeps, the character is kept. Beyond ASCII a character ends a sequence that it
interrupts. -/
def Place.step (p : Place) (c : Char) : Place :=
  if p.keeps && isShown c then { p with mode := if c.toNat < 0x80 then p.mode else .text }
  else
    let (mode, keeps) := p.mode.step c
    ⟨mode, keeps⟩

/-- What is kept of characters from a place on. -/
def keep (p : Place) : List Char → List Char
  | [] => []
  | c :: cs =>
    let p := p.step c
    if p.keeps then c :: keep p cs else keep p cs

/-- The text without control sequences. -/
def text (s : String) : String := String.ofList (keep ⟨.text, true⟩ s.toList)

end GateNav.Console.Plain
