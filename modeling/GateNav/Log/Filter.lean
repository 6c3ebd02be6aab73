import GateNav.Log.Directive

/-!
# Which events are logged

A filter is a list of directives. Of those about events alone that concern an event the one with the longest source
decides, and of those the one that asks for a field. Directives about spans let through what lies in a cycle that they
match, too.
-/

namespace GateNav.Log

namespace Subject

/-- It is about events wherever they lie. -/
def isOfEvents (s : Subject) : Bool := s.span.isNone && s.field.all (·.value.isNone)

/-- It is about what lies in spans. -/
def isOfSpans (s : Subject) : Bool := s.span.isSome || s.field.isSome

/-- It narrows to no less than `other`; both concern the same event. -/
def isAsNarrow (s other : Subject) : Bool :=
  other.source.length < s.source.length ||
    (s.source.length = other.source.length &&
      match other.field, s.field with
      | none, _ => true
      | some _, none => false
      | some a, some b => !(b.name < a.name))

/-- It concerns events from a source with these fields. -/
def concerns (s : Subject) (source : String) (fields : List String) : Bool :=
  s.isOfEvents && source.startsWith s.source && s.field.all (fields.contains ·.name)

/-- It concerns cycles, with any number. -/
def concernsCycles (s : Subject) : Bool :=
  s.isOfSpans && cycleSource.startsWith s.source && s.span.all (· = cycleName) && s.field.all (·.name = cycleField)

/-- It concerns the cycle with the number. -/
def concernsCycle (s : Subject) (n : Nat) : Bool :=
  s.concernsCycles && s.field.all (·.value.all (· = .number n))

end Subject

/-- The directives that decide which events are logged. -/
structure Filter where
  directives : List Directive
  /-- Nothing of a greater rank is looked at. -/
  reach : Nat
deriving DecidableEq, Repr

namespace Filter

/-- No directives. -/
def empty : Filter := ⟨[], 0⟩

/-- The directive is added; it takes the place of one about the same. A value can only be looked at in spans of all
ranks. -/
def add (f : Filter) (d : Directive) : Filter where
  directives := f.directives.filter (·.subject ≠ d.subject) ++ [d]
  reach := max f.reach (if d.subject.field.any (·.value.isSome) then Level.trace.rank else d.bound)

/-- The filter with one bound for all events. -/
def upTo (level : Level) : Filter := empty.add { Directive.bare "" with bound := level.rank }

/-- The texts between commas, without the empty ones. -/
def texts (text : String) : List String := (text.splitOn ",").filter (!·.isEmpty)

/-- The filter of a text; directives that cannot be read are left out. With none left, only errors are logged. -/
def parse (text : String) : Filter :=
  match (texts text).filterMap fun t => (Directive.parse t).toOption with
  | [] => upTo .error
  | directives => directives.foldl add empty

/-- The directives of a text that cannot be read, and why. -/
def faults (text : String) : List (String × DirectiveFault) :=
  (texts text).filterMap fun t =>
    match Directive.parse t with
    | .ok _ => none
    | .error fault => some (t, fault)

/-- The narrowest of the directives about a subject that passes `p`, the last one of several. -/
def narrowest? (f : Filter) (p : Subject → Bool) : Option Directive :=
  f.directives.foldl (fun best d =>
    if p d.subject && best.all (fun b => d.subject.isAsNarrow b.subject) then some d else best) none

/-- Events of that level from that source with these fields are logged wherever they lie. -/
def allowsAnywhere (f : Filter) (level : Level) (source : String) (fields : List String) : Bool :=
  (f.narrowest? (·.concerns source fields)).any (level.rank ≤ ·.bound)

/-- Cycles are logged as spans. -/
def showsCycles (f : Filter) : Bool :=
  cycleLevel.rank ≤ f.reach &&
    (f.directives.any (·.subject.concernsCycles) ||
      (f.narrowest? fun s => s.isOfEvents && cycleSource.startsWith s.source).any (cycleLevel.rank ≤ ·.bound))

/-- The bound for what lies in the cycle with the number. -/
def cycleBound (f : Filter) (n : Nat) : Nat :=
  (f.directives.filter (·.subject.concernsCycle n)).foldl (fun bound d => max bound d.bound) 0

/-- Events of that level from that source with these fields are logged, met in the given cycle or outside of cycles. -/
def allows (f : Filter) (level : Level) (source : String) (fields : List String) (cycle : Option Nat) : Bool :=
  f.allowsAnywhere level source fields || cycle.any fun n => f.showsCycles && level.rank ≤ f.cycleBound n

/-- The filter where none is asked for. -/
def default : Filter := upTo .info

end Filter

end GateNav.Log
