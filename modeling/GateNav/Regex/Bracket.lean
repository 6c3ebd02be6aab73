import GateNav.Regex.Atom

/-!
# Brackets in a regular expression

Brackets hold characters, ranges and further brackets, of which one stands in the text. They may be joined by the
operators `&&`, `--` and `~~`. Of brackets only the depth to which they nest is kept.
-/

namespace GateNav.Regex

/-- The depth of parts side by side; several parts together are one level deeper. -/
def joined : List Nat → Nat
  | [] => 0
  | [depth] => depth
  | depths => 1 + depths.foldl max 0

/-- Brackets that are being read. -/
structure Bracket where
  /-- The depth of what stands before the last operator. -/
  before : Option Nat
  /-- The depths of the items since. -/
  items : List Nat
  /-- Only hyphens have been read. -/
  fresh : Bool
deriving DecidableEq, Repr

namespace Bracket

def empty : Bracket := ⟨none, [], true⟩

def depth (b : Bracket) : Nat :=
  match b.before with
  | none => joined b.items
  | some depth => 1 + max depth (joined b.items)

def add (b : Bracket) (depth : Nat) : Bracket := { b with items := depth :: b.items, fresh := false }

/-- After an operator. -/
def operator (b : Bracket) : Bracket := ⟨some b.depth, [], false⟩

/-- What follows the opening of brackets. Where bytes are meant there is no other than those of ASCII, so that brackets
cannot stand for all else. -/
def open? (flags : Flags) (cs : List Char) : Option (List Char) :=
  match flags.skip cs with
  | '^' :: cs => if flags.contains .unicode then some cs else none
  | cs => some cs

/-- The kinds of ASCII that have a name. -/
def kinds : List String :=
  ["alnum", "alpha", "ascii", "blank", "cntrl", "digit", "graph", "lower", "print", "punct", "space", "upper", "word",
    "xdigit"]

/-- A kind by its name, after an opening bracket: `:name:]`. With a caret before the name all else is meant. -/
def kind? : List Char → Option (Bool × List Char)
  | ':' :: cs =>
    let (negated, cs) := match cs with
      | '^' :: cs => (true, cs)
      | cs => (false, cs)
    match cs.dropWhile (· != ':') with
    | ':' :: ']' :: rest =>
      if kinds.contains (String.ofList (cs.takeWhile (· != ':'))) then some (negated, rest) else none
    | _ => none
  | _ => none

/-- A kind may be asked for by its name. -/
def allowsKind (flags : Flags) (negated : Bool) : Bool :=
  if flags.contains .unicode then !flags.contains .ignoreCase else !negated

/-- What follows an item: an atom, or a range of characters upward. A hyphen before a further one or before the end
makes no range. -/
def item? (flags : Flags) (cs : List Char) : Option (List Char) := do
  let (low, cs) ← Atom.read? flags true cs
  let alone := if low.allowedInBrackets flags then some (flags.skip cs) else none
  match flags.skip cs with
  | '-' :: cs =>
    let next := flags.peek? cs
    if next == some ']' || next == some '-' then alone
    else
      let (high, cs) ← Atom.read? flags true (flags.skip cs)
      match low, high with
      | .letter a _, .letter b _ =>
        if a ≤ b && low.allowedInBrackets flags && high.allowedInBrackets flags then some cs else none
      | _, _ => none
  | _ => alone

/-- The depth of brackets, after their opening, and what is left. `outer` are the brackets around; the fuel bounds the
characters. -/
def read? (flags : Flags) : Nat → List Bracket → Bracket → List Char → Option (Nat × List Char)
  | 0, _, _, _ => none
  | fuel + 1, outer, b, cs =>
    match flags.skip cs with
    | [] => none
    | c :: cs =>
      if b.fresh && (c == '-' || (c == ']' && b.items.isEmpty)) then
        if (Atom.letter c false).allowedInBrackets flags then
          read? flags fuel outer { b.add 0 with fresh := c == '-' } cs
        else none
      else if c == '[' then
        match kind? cs with
        | some (negated, cs) =>
          if allowsKind flags negated then read? flags fuel outer (b.add 0) cs else none
        | none => (open? flags cs).bind (read? flags fuel ({ b with fresh := false } :: outer) empty)
      else if c == ']' then
        match outer with
        | [] => some (1 + b.depth, cs)
        | around :: outer => read? flags fuel outer (around.add (1 + b.depth)) cs
      else if ['&', '-', '~'].contains c && cs.head? == some c then read? flags fuel outer b.operator cs.tail
      else (item? flags (c :: cs)).bind (read? flags fuel outer (b.add 0))

end Bracket

end GateNav.Regex
