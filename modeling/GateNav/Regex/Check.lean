import GateNav.Regex.Bracket
import GateNav.Text.Alphanumeric

/-!
# Regular expressions that can be used

An expression is read from its text, and of it only what decides whether it can be used is kept: how deep it nests and
whether it asks for the ends of words of any script. Braces are never closed in such a text, so that nothing can be
repeated a given number of times.
-/

namespace GateNav.Regex

/-- Why an expression cannot be used. -/
inductive Fault where
  /-- It has not the form of an expression, or asks for what is not known. -/
  | malformed
  /-- It asks for the ends of words of any script. -/
  | wordEdge
deriving DecidableEq, Repr

/-- An expression nests no deeper. -/
def maxDepth : Nat := 250

/-- What an opening parenthesis starts. -/
inductive Opening where
  /-- A group with these flags, maybe with a name. -/
  | group (flags : Flags) (name : Option String)
  /-- The flags are set from there on. -/
  | setting (flags : Flags)
deriving DecidableEq, Repr

namespace Opening

/-- The characters may name a group. -/
def isName : List Char → Bool
  | [] => false
  | c :: cs =>
    (c == '_' || Text.isLetter c) && cs.all fun c => ['_', '.', '[', ']'].contains c || Text.isAlphanumeric c

/-- A group with a name, which ends at an angle bracket. -/
def named? (flags : Flags) (cs : List Char) : Option (Opening × List Char) :=
  let name := cs.takeWhile (· != '>')
  match cs.dropWhile (· != '>') with
  | _ :: cs => if isName name then some (.group flags (some (String.ofList name)), cs) else none
  | [] => none

/-- What an opening parenthesis before the characters starts. -/
def read? (flags : Flags) (cs : List Char) : Option (Opening × List Char) :=
  match flags.skip cs with
  | '?' :: 'P' :: '<' :: cs | '?' :: '<' :: cs => named? flags cs
  | '?' :: cs =>
    (flags.read? [] true cs).map fun (flags, stop, cs) =>
      (if stop == ':' then .group flags none else .setting flags, cs)
  | cs => some (.group flags none, cs)

end Opening

/-- A part of an expression: how deep it nests, and whether it can be repeated. -/
structure Part where
  depth : Nat
  repeatable : Bool
deriving DecidableEq, Repr

/-- A group, or the whole expression, that is being read. -/
structure Level where
  /-- The flags around it. -/
  outerFlags : Flags
  /-- The depths of the alternatives before the present one. -/
  branches : List Nat
  /-- The parts of the present one, the last one first. -/
  parts : List Part
deriving DecidableEq, Repr

namespace Level

/-- A level at its start. -/
def start (outerFlags : Flags) : Level := ⟨outerFlags, [], []⟩

def branchDepth (l : Level) : Nat := joined (l.parts.map (·.depth))

def depth (l : Level) : Nat := joined (l.branchDepth :: l.branches)

def add (l : Level) (depth : Nat) (repeatable : Bool) : Level := { l with parts := ⟨depth, repeatable⟩ :: l.parts }

/-- A further alternative. -/
def branch (l : Level) : Level := { l with branches := l.branchDepth :: l.branches, parts := [] }

/-- The last part is repeated. -/
def repeat? (l : Level) : Option Level :=
  match l.parts with
  | part :: parts => if part.repeatable then some { l with parts := ⟨1 + part.depth, true⟩ :: parts } else none
  | [] => none

end Level

/-- What is known of an expression up to a place in it. -/
structure Progress where
  flags : Flags
  level : Level
  /-- The levels around, the next one first. -/
  outer : List Level
  /-- The names of groups. -/
  names : List String
  /-- The ends of words of any script have been asked for. -/
  wordEdges : Bool
deriving DecidableEq, Repr

namespace Progress

/-- At the start of an expression. -/
def start : Progress := ⟨.initial, .start .initial, [], [], false⟩

/-- After an opening parenthesis. Groups have names of their own. -/
def enter? (p : Progress) : Opening → Option Progress
  | .setting flags => some { p with flags, level := p.level.add 0 false }
  | .group flags name =>
    if name.any p.names.contains then none
    else some { p with
      flags, level := .start p.flags, outer := p.level :: p.outer, names := name.toList ++ p.names }

/-- After a closing parenthesis. -/
def leave? (p : Progress) : Option Progress :=
  match p.outer with
  | around :: outer =>
    some { p with flags := p.level.outerFlags, level := around.add (1 + p.level.depth) true, outer }
  | [] => none

/-- After an atom. -/
def addAtom? (p : Progress) (a : Atom) : Option Progress :=
  if a.allowed p.flags then
    some { p with
      level := p.level.add 0 true, wordEdges := p.wordEdges || (a == .wordEdge && p.flags.contains .unicode) }
  else none

/-- At the end of an expression. -/
def read? : Nat → Progress → List Char → Option Progress
  | 0, _, _ => none
  | fuel + 1, p, cs =>
    match p.flags.skip cs with
    | [] => if p.outer.isEmpty && p.level.depth ≤ maxDepth then some p else none
    | c :: cs =>
      if c == '(' then do
        let (opening, cs) ← Opening.read? p.flags cs
        read? fuel (← p.enter? opening) cs
      else if c == ')' then p.leave?.bind (read? fuel · cs)
      else if c == '|' then read? fuel { p with level := p.level.branch } cs
      else if c == '[' then do
        let (depth, cs) ← Bracket.read? p.flags (cs.length + 1) [] .empty (← Bracket.open? p.flags cs)
        read? fuel { p with level := p.level.add depth true } cs
      else if c == '?' || c == '*' || c == '+' then
        p.level.repeat?.bind fun level => read? fuel { p with level } (if cs.head? == some '?' then cs.tail else cs)
      else if c == '\x7b' then none
      else do
        let (atom, cs) ← Atom.read? p.flags false (c :: cs)
        read? fuel (← p.addAtom? atom) cs

end Progress

/-- The expression can be used. -/
def check (text : String) : Except Fault Unit :=
  match Progress.start.read? (text.length + 1) text.toList with
  | none => throw .malformed
  | some p => if p.wordEdges then throw .wordEdge else pure ()

end GateNav.Regex
