import GateNav.Text.Blank

/-!
# Flags of a regular expression

Flags are set inside of an expression, from there on or for one group. They decide what blanks mean and what may be
asked for.
-/

namespace GateNav.Regex

inductive Flag where
  /-- Capital and small letters are the same. -/
  | ignoreCase
  /-- Lines have ends of their own. -/
  | lines
  /-- A point stands for line breaks, too. -/
  | pointIsAny
  /-- Repetitions are short unless marked. -/
  | short
  /-- Characters of all scripts are meant, not bytes. -/
  | unicode
  /-- A carriage return belongs to a line break. -/
  | carriageReturns
  /-- Blanks and comments are left out. -/
  | spaced
deriving DecidableEq, Repr

def Flag.ofChar? : Char → Option Flag
  | 'i' => some .ignoreCase
  | 'm' => some .lines
  | 's' => some .pointIsAny
  | 'U' => some .short
  | 'u' => some .unicode
  | 'R' => some .carriageReturns
  | 'x' => some .spaced
  | _ => none

/-- The flags that are on. -/
abbrev Flags := List Flag

namespace Flags

/-- At the start of an expression. -/
def initial : Flags := [.unicode]

def put (flags : Flags) (flag : Flag) (on : Bool) : Flags :=
  if on then flag :: flags else flags.filter (· ≠ flag)

/-- What follows blanks and comments; a comment goes up to the end of its line. -/
def skipSpace (inComment : Bool) : List Char → List Char
  | [] => []
  | c :: cs =>
    if inComment then skipSpace (c != '\n') cs
    else if Text.isBlank c then skipSpace false cs
    else if c == '#' then skipSpace true cs
    else c :: cs

/-- What follows characters that are left out. -/
def skip (flags : Flags) (cs : List Char) : List Char := if flags.contains .spaced then skipSpace false cs else cs

/-- The next character. Where blanks are left out, one sign that starts a comment is, but not the comment. -/
def peek? (flags : Flags) (cs : List Char) : Option Char :=
  if flags.contains .spaced then
    match cs.dropWhile Text.isBlank with
    | '#' :: cs => (cs.dropWhile Text.isBlank).head?
    | cs => cs.head?
  else cs.head?

/-- The flags written before a colon or the end of a group, that sign and what is left; `seen` are those read. After a
minus sign they are turned off. No flag is written twice, and one follows the minus sign. -/
def read? (flags seen : Flags) (on : Bool) : List Char → Option (Flags × Char × List Char)
  | [] => none
  | c :: cs =>
    if c == ':' then some (flags, c, cs)
    else if c == ')' then if seen.isEmpty then none else some (flags, c, cs)
    else if c == '-' then
      if on && (cs.head?.bind Flag.ofChar?).isSome then read? flags seen false cs else none
    else
      match Flag.ofChar? c with
      | none => none
      | some flag => if seen.contains flag then none else read? (flags.put flag on) (flag :: seen) on cs

end Flags

end GateNav.Regex
