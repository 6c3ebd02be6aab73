import GateNav.Regex.Flags
import GateNav.Text.Hex

/-!
# Atoms of a regular expression

What stands for one character or one place. There are no tables of the characters of all scripts: what depends on them
may not be asked for, unless only bytes are meant.
-/

namespace GateNav.Regex

inductive Atom where
  /-- A character, maybe written as a byte: with two hexadecimal digits. -/
  | letter (c : Char) (isByte : Bool)
  /-- Any digit, blank or character of a word; or anything else. -/
  | kind (negated : Bool)
  /-- Any character. -/
  | point
  /-- An end of the text or of a line. -/
  | edge
  /-- A place between what belongs to a word and what does not, or any other place. -/
  | wordEdge
deriving DecidableEq, Repr

namespace Atom

/-- Some hexadecimal digits. -/
def hexDigits? (flags : Flags) : Nat → List Char → Option (List Char × List Char)
  | 0, cs => some ([], cs)
  | count + 1, cs =>
    match flags.skip cs with
    | [] => none
    | c :: cs => (hexDigits? flags count cs).map fun (digits, cs) => (c :: digits, cs)

/-- The character with a number of so many hexadecimal digits. -/
def hex? (flags : Flags) (count : Nat) (cs : List Char) : Option (Atom × List Char) := do
  let (digits, cs) ← hexDigits? flags count cs
  let c ← Text.hexChar? digits
  return (.letter c (count == 2), cs)

/-- The atom of an escape, after its backslash. Signs of ASCII stand for themselves. -/
def escape? (flags : Flags) : List Char → Option (Atom × List Char)
  | [] => none
  | 'x' :: cs => hex? flags 2 cs
  | 'u' :: cs => hex? flags 4 cs
  | 'U' :: cs => hex? flags 8 cs
  | 'a' :: cs => some (.letter '\x07' false, cs)
  | 'f' :: cs => some (.letter '\x0c' false, cs)
  | 't' :: cs => some (.letter '\t' false, cs)
  | 'n' :: cs => some (.letter '\n' false, cs)
  | 'r' :: cs => some (.letter '\r' false, cs)
  | 'v' :: cs => some (.letter '\x0b' false, cs)
  | c :: cs =>
    if ['d', 's', 'w'].contains c then some (.kind false, cs)
    else if ['D', 'S', 'W'].contains c then some (.kind true, cs)
    else if ['A', 'z'].contains c then some (.edge, cs)
    else if ['b', 'B', '<', '>'].contains c then some (.wordEdge, cs)
    else if c.isAlphanum || 0x80 ≤ c.toNat then none
    else some (.letter c false, cs)

/-- The next atom. In brackets only a backslash has a meaning of its own. -/
def read? (flags : Flags) (inBrackets : Bool) : List Char → Option (Atom × List Char)
  | [] => none
  | '\\' :: cs => escape? flags cs
  | c :: cs =>
    if !inBrackets && c == '.' then some (.point, cs)
    else if !inBrackets && (c == '^' || c == '$') then some (.edge, cs)
    else some (.letter c false, cs)

/-- The atom may be asked for. Cases are not known, nor kinds of characters, unless bytes are meant; bytes beyond ASCII
are no characters. -/
def allowed (flags : Flags) : Atom → Bool
  | .letter c isByte =>
    if flags.contains .unicode then !flags.contains .ignoreCase else !isByte || c.toNat < 0x80
  | .kind negated => !flags.contains .unicode && !negated
  | .point => flags.contains .unicode
  | .edge | .wordEdge => true

/-- The atom may be asked for in brackets, where places are not and bytes stand for characters. -/
def allowedInBrackets (flags : Flags) : Atom → Bool
  | .letter c isByte => (Atom.letter c isByte).allowed flags && (flags.contains .unicode || c.toNat < 0x80)
  | .kind negated => (Atom.kind negated).allowed flags
  | .point | .edge | .wordEdge => false

end Atom

end GateNav.Regex
