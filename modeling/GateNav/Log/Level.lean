import GateNav.Decimal.Layout

/-!
# How much events matter

The levels of events, the bounds that a filter sets to them, and the level of a cycle, which is logged as the span that
its events lie in.
-/

namespace GateNav.Log

/-- How much an event matters, the most important first. -/
inductive Level where
  | error
  | warn
  | info
  | debug
  | trace
deriving DecidableEq, Repr

namespace Level

/-- All levels, the most important first. -/
def all : List Level := [error, warn, info, debug, trace]

def name : Level → String
  | error => "ERROR"
  | warn => "WARN"
  | info => "INFO"
  | debug => "DEBUG"
  | trace => "TRACE"

/-- The number of levels that are as important or more. -/
def rank : Level → Nat
  | error => 1
  | warn => 2
  | info => 3
  | debug => 4
  | trace => 5

end Level

/-- A bound by its number, or by the name of a level in letters of either case. -/
def bound? (text : String) : Option Nat :=
  let word := String.map Char.toUpper text
  if word = "OFF" then some 0
  else ((Level.all.find? (·.name = word)).map Level.rank).orElse fun _ => Decimal.readCount? Level.trace.rank text

/-- The level of cycles. -/
def cycleLevel : Level := .debug

/-- The source of cycles. -/
def cycleSource : String := "rover_runtime::nav_loop"

/-- The name of a cycle. -/
def cycleName : String := "nav_cycle"

/-- The field with the number of a cycle. -/
def cycleField : String := "cycle"

end GateNav.Log
