import GateNav.Toml.Assembly
import GateNav.Toml.Number

/-!
# Reading TOML

A text is read into statements, and the statements are put together into a document (`GateNav.Toml.Assembly`).
-/

namespace GateNav.Toml

/-- What is left after a fixed word. -/
def word? (word cs : List Char) : Option (List Char) :=
  if cs.take word.length = word then some (cs.drop word.length) else none

mutual

/-- A value, which is nested at most `depth` times. -/
def value? : Nat → Nat → List Char → Option (Toml × List Char)
  | 0, _, _ => none
  | fuel + 1, depth, cs =>
    match cs with
    | '"' :: _ | '\'' :: _ => (string? cs).map fun (s, cs) => (.text s, cs)
    | '[' :: cs => if depth = 0 then none else items? fuel (depth - 1) [] cs
    | '\x7b' :: cs =>
      if depth = 0 then none
      else
        match skip cs with
        | '\x7d' :: cs => some (.table [], cs)
        | _ => pairs? fuel (depth - 1) [] cs
    | 't' :: cs => (word? ['r', 'u', 'e'] cs).map (.truth true, ·)
    | 'f' :: cs => (word? ['a', 'l', 's', 'e'] cs).map (.truth false, ·)
    | cs => number? cs

/-- The items of a list up to its bracket, with line breaks and comments anywhere between them; `out` holds those
read, last first. -/
def items? : Nat → Nat → List Toml → List Char → Option (Toml × List Char)
  | 0, _, _, _ => none
  | fuel + 1, depth, out, cs =>
    match skipLines cs.length cs with
    | ']' :: cs => some (.list out.reverse, cs)
    | cs =>
      match value? fuel depth cs with
      | none => none
      | some (v, cs) =>
        match skipLines cs.length cs with
        | ',' :: cs => items? fuel depth (v :: out) cs
        | ']' :: cs => some (.list (v :: out).reverse, cs)
        | _ => none

/-- The assignments of a table up to its brace, all on one line; `out` holds those read, last first. -/
def pairs? : Nat → Nat → List (List String × Toml) → List Char → Option (Toml × List Char)
  | 0, _, _, _ => none
  | fuel + 1, depth, out, cs =>
    match key? (maxDepth - 1) cs with
    | some (key, '=' :: cs) =>
      match value? fuel depth (skip cs) with
      | none => none
      | some (v, cs) =>
        match skip cs with
        | ',' :: cs => pairs? fuel depth ((key, v) :: out) cs
        | '\x7d' :: cs => (ofAssignments? ((key, v) :: out).reverse).map (·, cs)
        | _ => none
    | _ => none

end

/-- A statement up to the end of its line. -/
def statement? (cs : List Char) : Option (Statement × List Char) :=
  match cs with
  | '[' :: '[' :: cs =>
    match key? (maxDepth - 1) cs with
    | some (path, ']' :: ']' :: cs) => (lineEnd? cs).map (.next path, ·)
    | _ => none
  | '[' :: cs =>
    match key? (maxDepth - 1) cs with
    | some (path, ']' :: cs) => (lineEnd? cs).map (.table path, ·)
    | _ => none
  | cs =>
    match key? (maxDepth - 1) cs with
    | some (key, '=' :: cs) =>
      match value? (cs.length + 1) (maxDepth - 1) (skip cs) with
      | some (v, cs) => (lineEnd? cs).map (.assign key v, ·)
      | none => none
    | _ => none

/-- The statements of a text; `out` holds those read, last first. -/
def statements? : Nat → List Statement → List Char → Option (List Statement)
  | 0, _, _ => none
  | fuel + 1, out, cs =>
    match skipLines cs.length cs with
    | [] => some out.reverse
    | cs =>
      match statement? cs with
      | some (s, cs) => statements? fuel (s :: out) cs
      | none => none

/-- The text without the mark of its encoding. -/
def skipMark : List Char → List Char
  | c :: cs => if c.toNat = 0xFEFF then cs else c :: cs
  | [] => []

/-- The document of a text. -/
def parse? (text : String) : Option Toml :=
  let cs := skipMark text.toList
  (statements? (cs.length + 1) [] cs).bind ofStatements?

end GateNav.Toml
