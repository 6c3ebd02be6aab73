import GateNav.Log.Level
import GateNav.Regex.Check
import GateNav.Scalar
import GateNav.Text.Alphanumeric
import GateNav.Text.Blank

/-!
# Directives of a log filter

A directive is a bound, the name of a source, or both with an equals sign between them. A source without a bound is let
through whole. Brackets after the source narrow the directive to what lies in spans: those of a name, those with a
field, which stands in braces, or those whose field has a value: `source[name{field=value}]=bound`.

A directive is read without the blanks at its ends, but its parts are cut from the text with them: blanks in front shift
all parts.
-/

namespace GateNav.Log

/-- Why a directive cannot be read. -/
inductive DirectiveFault where
  /-- It has not the form of a directive. -/
  | malformed
  /-- What stands in the place of the bound is none. -/
  | noBound
  /-- A field is asked for an expression that cannot be used. -/
  | field (fault : Regex.Fault)
deriving DecidableEq, Repr

def DirectiveFault.message : DirectiveFault → String
  | malformed => "invalid filter directive"
  | noBound =>
    "error parsing level filter: expected one of \"off\", \"error\", \"warn\", \"info\", \"debug\", \"trace\", or a " ++
      "number 0-5"
  | field .malformed => "invalid field filter: error building NFA"
  | field .wordEdge =>
    "invalid field filter: unsupported regex feature for DFAs: cannot build DFAs for regexes with Unicode word " ++
      "boundaries; switch to ASCII word boundaries, or heuristically enable Unicode word boundaries or use a " ++
      "different regex engine"

/-- A value that a field may be asked for. -/
inductive FieldValue where
  | number (n : Nat)
  /-- Anything else. Fields that hold counts never have it. -/
  | other (text : String)
deriving DecidableEq, Repr

/-- The value that a text asks for: a truth value, a number or, if it is none of them, what matches an expression. -/
def FieldValue.parse (text : String) : Except DirectiveFault FieldValue :=
  match Decimal.readCount? maxCount text with
  | some n => pure (.number n)
  | none =>
    if text == "true" || text == "false" || Decimal.isNumber text then pure (.other text)
    else
      match Regex.check text with
      | .ok _ => pure (.other text)
      | .error fault => throw (.field fault)

/-- What a directive asks of a field: that it is there or, given a value, that it has it. -/
structure FieldTest where
  name : String
  value : Option FieldValue
deriving DecidableEq, Repr

/-- A name, or a name and a value with an equals sign between them; what a further one sets off is not looked at. -/
def FieldTest.parse (text : String) : Except DirectiveFault FieldTest := do
  match text.splitOn "=" with
  | name :: value :: _ => return ⟨name, some (← FieldValue.parse value)⟩
  | _ => return ⟨text, none⟩

/-- What a directive is about: events from sources that start with a text, and what lies in spans of a name or with a
field. -/
structure Subject where
  source : String
  span : Option String
  field : Option FieldTest
deriving DecidableEq, Repr

/-- What the directive is about is let through if its rank is no greater than the bound. -/
structure Directive where
  subject : Subject
  bound : Nat
deriving DecidableEq, Repr

/-- The part of a text from one offset in bytes up to another. -/
def cut (text : String) (start stop : Nat) : String :=
  String.ofList (go 0 text.toList)
where
  go (offset : Nat) : List Char → List Char
    | [] => []
    | c :: cs =>
      let rest := go (offset + c.utf8Size) cs
      if start ≤ offset && offset < stop then c :: rest else rest

/-- Where in a directive a reader is; parts that are being read started at the offset. -/
inductive Stage where
  | start
  /-- In a bound or the name of a source. -/
  | name (start : Nat)
  | span (start : Nat)
  | field (start : Nat)
  | afterField
  | afterSpan
  | bound (start : Nat)
deriving DecidableEq, Repr

namespace Directive

/-- A directive may start with the character, if it does not start with a bracket. -/
def startsName (c : Char) : Bool := c == '-' || c == ':' || c == '_' || Text.isAlphanumeric c

/-- Without a bound all is let through. -/
def bare (source : String) : Directive := ⟨⟨source, none, none⟩, Level.trace.rank⟩

/-- The character `c` at the offset `i`. -/
def step (text : String) (i : Nat) (c : Char) (d : Directive) : Stage → Except DirectiveFault (Stage × Directive)
  | .start =>
    if c == '[' then pure (.span (i + 1), d)
    else if startsName c then pure (.name i, d)
    else throw .malformed
  | .name start =>
    if c == '=' then pure (.bound (i + 1), bare (cut text start i))
    else if c == '[' then pure (.span (i + 1), bare (cut text start i))
    else pure (.name start, d)
  | .span start =>
    let name := cut text start i
    if c == ']' then pure (.afterSpan, { d with subject.span := some name })
    else if c == '\x7b' then pure (.field (i + 1), { d with subject.span := if name.isEmpty then none else some name })
    else pure (.span start, d)
  | .field start =>
    if c == '\x7d' then
      let test := cut text start i
      if test.isEmpty then throw .malformed
      else do
        let field ← FieldTest.parse test
        pure (.afterField, { d with subject.field := some field })
    else pure (.field start, d)
  | .afterField => if c == ']' then pure (.afterSpan, d) else throw .malformed
  | .afterSpan => if c == '=' then pure (.bound (i + 1), d) else throw .malformed
  | .bound start => pure (.bound start, d)

/-- The characters from the offset `i` on. -/
def scan (text : String) (i : Nat) (d : Directive) (stage : Stage) :
    List Char → Except DirectiveFault (Stage × Directive)
  | [] => pure (stage, d)
  | c :: cs => do
    let (stage, d) ← step text i c d stage
    scan text (i + c.utf8Size) d stage cs

/-- The directive that a text gives. -/
def parse (text : String) : Except DirectiveFault Directive := do
  let (stage, d) ← scan text 0 (bare "") .start (Text.trim text).toList
  match stage with
  | .name start =>
    let word := cut text start text.utf8ByteSize
    return ((bound? word).map fun bound => { bare "" with bound }).getD (bare word)
  | .bound start =>
    let word := cut text start text.utf8ByteSize
    if word.isEmpty then return d
    else
      match bound? word with
      | some bound => return { d with bound }
      | none => throw .noBound
  | .afterSpan => return d
  | _ => throw .malformed

end Directive

end GateNav.Log
