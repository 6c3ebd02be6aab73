import GateNav.Navigator
import GateNav.Scenario
import GateNav.Setup.Basic

/-!
# A search on a simulated field

A `Trial` couples the navigator with a field until the search ends or the cycles run out. Beside the two it keeps
the transitions between phases and everything that is to be written meanwhile, in order. `Trial.conclude` makes the
report, and `simulate` is the whole trial of a scenario.
-/

namespace GateNav

/-- The phase that a cycle led to. -/
structure Transition where
  cycle : Nat
  phase : Phase
deriving DecidableEq, Repr

/-- Something to be written: an event, met in the given cycle or outside of cycles, or a transition. -/
inductive Entry (α : Type) where
  | event (cycle : Option Nat) (e : Event α)
  | transition (t : Transition)
deriving DecidableEq, Repr

/-- A navigator on a field. -/
structure Trial (α : Type) where
  navigator : Navigator α
  field : Field α
  /-- The transitions so far, the last one first. -/
  transitions : List Transition
  /-- The entries so far, the last one first. -/
  journal : List (Entry α)
deriving DecidableEq, Repr

/-- The summary of a trial. -/
structure Report (α : Type) where
  scenario : Scenario
  pattern : PatternKind
  cycles : Nat
  finalPhase : Phase
  /-- Where the rover ended up, in metres east and north of the field's origin. -/
  position : Vec α
  transitions : List Transition
  outcome : Outcome
deriving Repr

/-- A report with the entries of its trial in order. -/
structure Trial.Result (α : Type) where
  report : Report α
  journal : List (Entry α)
deriving Repr

namespace Report

/-- The exit status a report stands for. -/
def exitCode {α : Type} (r : Report α) : Nat :=
  match r.outcome with
  | .ok () => 0
  | .error (.notFound _) => 1
  | .error (.aborted _) => 130
  | .error (.settings _) => 2

end Report

namespace Trial
variable {α : Type} [Scalar α]

/-- Events are added to the journal. -/
def log (t : Trial α) (cycle : Option Nat) (events : List (Event α)) : Trial α :=
  { t with journal := (events.map (Entry.event cycle)).reverse ++ t.journal }

/-- A transition is added, unless the phase is that of the last one. -/
def reach (t : Trial α) (cycle : Nat) (phase : Phase) : Trial α :=
  if t.transitions.head?.map (·.phase) = some phase then t
  else
    { t with
      transitions := ⟨cycle, phase⟩ :: t.transitions
      journal := .transition ⟨cycle, phase⟩ :: t.journal }

/-- The report, and the search broken off if it is still on. -/
def conclude (t : Trial α) (scenario : Scenario) (setup : Setup α) (abort : Bool) : Result α :=
  let (t, outcome) := match t.navigator.outcome? with
    | some outcome => (t, outcome)
    | none =>
      let t := if abort then t else t.log none [.cycleLimitReached setup.run.maxCycles]
      let ⟨navigator, events⟩ := t.navigator.abort
      let t := { t with navigator := navigator }.log none events
      (t, navigator.outcome?.getD (.error (.aborted navigator.phase)))
  ⟨{ scenario := scenario
     pattern := setup.traverse.pattern
     cycles := t.navigator.cycles
     finalPhase := t.navigator.phase
     position := t.field.rover.position
     transitions := t.transitions.reverse
     outcome := outcome }, t.journal.reverse⟩

variable [Trig α]

/-- A trial whose search has just been started, or the reason why it cannot be. -/
def start [Numeral α] (scenario : Scenario) (setup : Setup α) : Checked α (Except SettingsError (Trial α)) := do
  match ← Navigator.build setup.settings with
  | .error e => return .error e
  | .ok navigator =>
    match ← navigator.search Scenario.waypoint with
    | .error e => return .error e
    | .ok ⟨navigator, events⟩ =>
      let t : Trial α := ⟨navigator, scenario.field, [], []⟩
      return .ok ((t.log none events).reach 0 navigator.phase)

/-- One cycle: the frame, the navigator, the rover. -/
def step (t : Trial α) : Checked α (Trial α × Command α) := do
  let ⟨(frame, field), observed⟩ := t.field.observe
  let ⟨(navigator, command), met⟩ ← t.navigator.tick frame
  let field ← field.apply command.steering
  let t := { t with navigator := navigator, field := field }
  return (((t.log none observed).log (some command.cycle) met).reach command.cycle command.phase, command)

/-- At most so many cycles, until the search ends. -/
def advance : Nat → Trial α → Checked α (Trial α)
  | 0, t => pure t
  | n + 1, t => do
    let (t, command) ← t.step
    if command.phase.isTerminal then return t else advance n t

end Trial

/-- The trial of a scenario. With `abort` set the search is broken off before its first cycle. -/
def simulate {α : Type} [Scalar α] [Trig α] [Numeral α] (scenario : Scenario) (setup : Setup α) (abort : Bool) :
    Checked α (Except SettingsError (Trial.Result α)) := do
  match ← Trial.start scenario setup with
  | .error e => return .error e
  | .ok t =>
    let t ← if abort then pure t else t.advance setup.run.maxCycles
    return .ok (t.conclude scenario setup abort)

end GateNav
