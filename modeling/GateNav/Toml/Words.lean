import GateNav.Text.Hex

/-!
# Words of TOML

Blanks, comments, keys and strings. A reader takes characters from the front of a list and returns what is left.
-/

namespace GateNav.Toml

def isSpace (c : Char) : Bool := c == ' ' || c == '\t'

def skip (cs : List Char) : List Char := cs.dropWhile isSpace

/-- A character that may stand in a comment; line breaks and other control characters may not. -/
def isPlain (c : Char) : Bool := c == '\t' || (0x20 ≤ c.toNat && c.toNat != 0x7F)

/-- What is left after a line break. -/
def newline? : List Char → Option (List Char)
  | '\n' :: cs => some cs
  | '\r' :: '\n' :: cs => some cs
  | _ => none

/-- What is left after a comment, if there is one. -/
def skipComment : List Char → List Char
  | '#' :: cs => cs.dropWhile isPlain
  | cs => cs

/-- What is left after the line: nothing but blanks and a comment may come before its end. -/
def lineEnd? (cs : List Char) : Option (List Char) :=
  match skipComment (skip cs) with
  | [] => some []
  | cs => newline? cs

/-- Blanks, line breaks and comments. -/
def skipLines : Nat → List Char → List Char
  | 0, cs => cs
  | fuel + 1, cs =>
    let cs := skipComment (skip cs)
    match newline? cs with
    | some cs => skipLines fuel cs
    | none => cs

/-- Blanks and line breaks. -/
def skipBreaks : List Char → List Char
  | '\r' :: '\n' :: cs => skipBreaks cs
  | c :: cs => if isSpace c || c == '\n' then skipBreaks cs else c :: cs
  | [] => []

/-! ### Strings -/

/-- The character whose number is given by so many hexadecimal digits. -/
def codePoint? (count : Nat) (cs : List Char) : Option (Char × List Char) := do
  let digits := cs.take count
  if digits.length < count then none else (Text.hexChar? digits).map (·, cs.drop count)

/-- The character of an escape, after its backslash. -/
def escape? : List Char → Option (Char × List Char)
  | 'b' :: cs => some (Char.ofNat 8, cs)
  | 'f' :: cs => some (Char.ofNat 12, cs)
  | 'n' :: cs => some ('\n', cs)
  | 'r' :: cs => some ('\r', cs)
  | 't' :: cs => some ('\t', cs)
  | '\\' :: cs => some ('\\', cs)
  | '"' :: cs => some ('"', cs)
  | 'u' :: cs => codePoint? 4 cs
  | 'U' :: cs => codePoint? 8 cs
  | _ => none

/-- The text up to the quote that ends it; `out` holds the characters read, last first. -/
def quoted? : Nat → List Char → List Char → Option (String × List Char)
  | 0, _, _ => none
  | _ + 1, _, [] => none
  | _ + 1, out, '"' :: cs => some (String.ofList out.reverse, cs)
  | fuel + 1, out, '\\' :: cs =>
    match escape? cs with
    | some (c, cs) => quoted? fuel (c :: out) cs
    | none => none
  | fuel + 1, out, c :: cs => if isPlain c then quoted? fuel (c :: out) cs else none

/-- The text up to the apostrophe that ends it. Nothing is escaped. -/
def literal? (cs : List Char) : Option (String × List Char) :=
  let text := cs.takeWhile fun c => isPlain c && c != '\''
  match cs.drop text.length with
  | '\'' :: cs => some (String.ofList text, cs)
  | _ => none

/-- The text up to the three quotes that end it, or apostrophes where `quote` is one: those may be preceded by one or
two more, which belong to the text. Only between quotes is anything escaped. -/
def block? (quote : Char) : Nat → List Char → List Char → Option (String × List Char)
  | 0, _, _ => none
  | _ + 1, _, [] => none
  | fuel + 1, out, c :: cs =>
    if c == quote then
      let count := min 5 ((c :: cs).takeWhile (· == quote)).length
      let rest := (c :: cs).drop count
      if count < 3 then block? quote fuel (List.replicate count quote ++ out) rest
      else some (String.ofList (List.replicate (count - 3) quote ++ out).reverse, rest)
    else if c == '\\' && quote == '"' then
      match newline? (skip cs) with
      | some cs => block? quote fuel out (skipBreaks cs)
      | none =>
        match escape? cs with
        | some (c, cs) => block? quote fuel (c :: out) cs
        | none => none
    else
      match newline? (c :: cs) with
      | some cs => block? quote fuel ('\n' :: out) cs
      | none => if isPlain c then block? quote fuel (c :: out) cs else none

/-- A line break right after the opening quotes is not part of the text. -/
def trimBreak (cs : List Char) : List Char := (newline? cs).getD cs

/-- A string in any of the four forms. -/
def string? : List Char → Option (String × List Char)
  | '"' :: '"' :: '"' :: cs => block? '"' (cs.length + 1) [] (trimBreak cs)
  | '"' :: cs => quoted? (cs.length + 1) [] cs
  | '\'' :: '\'' :: '\'' :: cs => block? '\'' (cs.length + 1) [] (trimBreak cs)
  | '\'' :: cs => literal? cs
  | _ => none

/-! ### Keys -/

def isBare (c : Char) : Bool := c.isAlphanum || c == '_' || c == '-'

/-- One part of a key. -/
def name? : List Char → Option (String × List Char)
  | '"' :: cs => quoted? (cs.length + 1) [] cs
  | '\'' :: cs => literal? cs
  | cs =>
    let name := cs.takeWhile isBare
    if name.isEmpty then none else some (String.ofList name, cs.drop name.length)

/-- Values are nested, and keys are long, less deeply than this. -/
def maxDepth : Nat := 80

/-- The parts of a key, which points divide; at most so many. -/
def key? : Nat → List Char → Option (List String × List Char)
  | 0, _ => none
  | fuel + 1, cs => do
    let (name, cs) ← name? (skip cs)
    match skip cs with
    | '.' :: cs =>
      let (path, cs) ← key? fuel cs
      return (name :: path, cs)
    | cs => return ([name], cs)

end GateNav.Toml
