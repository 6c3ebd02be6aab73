import GateNav.Console.Endpoint
import GateNav.Console.Help
import GateNav.Console.Paint
import GateNav.Json.Forms
import GateNav.Json.Writer
import GateNav.Log.Settings
import GateNav.Setup.File
import GateNav.Toml.Standard

/-!
# A session of the program

A session reads the command line, carries the command out and says what is to be written where. It runs over any
file system and any format of the settings file, of which the standard one is in use unless another is given; what it
writes and logs is its result.
-/

namespace GateNav.Console

/-- Something that a session writes. -/
inductive Output where
  | out (text : String)
  | err (text : String)
  /-- An event, met in the given cycle or outside of cycles, which may be logged. -/
  | event (cycle : Option Nat) (e : Event Float)

/-- What a session comes to: what it writes, and its exit status unless it halts. -/
structure Outcome where
  output : List Output
  exit : Except (Halt Float) Nat

/-- The exit status of a session that cannot do what it is asked to. -/
def failure : Nat := 2

/-- A line on the standard output. -/
def line (text : String) : Output := .out (text ++ "\n")

/-- A line on the standard error. -/
def complaint (text : String) : Output := .err (text ++ "\n")

/-- An error under a heading in red. -/
def problem (painted : Bool) (heading text : String) : Output :=
  complaint (paint painted (.ofColor .red) heading ++ ": " ++ text)

/-! ### Trials -/

/-- The line of a transition. -/
def transitionText (painted : Bool) (t : Transition) : String :=
  "  " ++ paint painted .onlyDimmed (Text.padLeft 6 (toString t.cycle)) ++ "  " ++ paintPhase painted t.phase ++ "\n"

/-- The text of an outcome. -/
def verdict (painted : Bool) : GateNav.Outcome → String
  | .ok () => paint painted (.strong .green) "gate traversed"
  | .error e => paint painted (.strong .red) e.message

/-- The lines of a report. -/
def reportText (painted : Bool) (r : Report Float) : String :=
  lines ["",
    "  Result:   " ++ verdict painted r.outcome,
    "  Variant:  " ++ r.pattern.name,
    "  Cycles:   " ++ toString r.cycles,
    "  Position: " ++ Decimal.fixed 2 true r.position.x ++ " m E, " ++ Decimal.fixed 2 true r.position.y ++ " m N"]

/-- What is written of an entry of a trial. -/
def entryOutput (painted : Bool) : Entry Float → Output
  | .event cycle e => .event cycle e
  | .transition t => .out (transitionText painted t)

/-- The report as the user's environment asks for it. -/
def report (vars : Variables) (painted : Bool) (r : Report Float) : String :=
  if vars "ROVER_REPORT_FORMAT" = some "json" then r.toJson.pretty ++ "\n" else reportText painted r

/-- A scenario is run, after the lines in `before`. -/
def runTrial (vars : Variables) (painted : Bool) (scenario : Scenario) (setup : Setup Float) (before : List Output) :
    Outcome :=
  let heading := [line "",
    line ("  " ++ paint painted .onlyBold "gatenav" ++ " scenario " ++ paint painted (.strong .cyan) scenario.name),
    line ""]
  match simulate scenario setup false with
  | .error halt => ⟨before ++ heading, .error halt⟩
  | .ok (.error e) => ⟨before ++ heading ++ [problem painted "Error" e.message], .ok failure⟩
  | .ok (.ok result) =>
    ⟨before ++ heading ++ result.journal.map (entryOutput painted) ++ [.out (report vars painted result.report)],
      .ok result.report.exitCode⟩

/-! ### Commands -/

/-- What a command line comes to that asks for no command. -/
def Stop.outcome : Stop → Outcome
  | .help topic => ⟨[.out topic.text], .ok 0⟩
  | .version => ⟨[.out versionText], .ok 0⟩
  | .misused message => ⟨[.err (misuseText message)], .ok failure⟩

/-- What is said about the user's environment before a command is carried out. -/
def preliminaries (vars : Variables) : List Output :=
  let endpoint := (vars "OTEL_EXPORTER_OTLP_ENDPOINT").filter fun e => !e.isEmpty && !Endpoint.isAddress e
  (Log.Settings.complaints vars).map .err ++
    (endpoint.map fun e => complaint ("[rover] OTLP exporter init failed: invalid URI " ++ e)).toList

variable {m : Type → Type} [Monad m] [Storage m] [Toml.Format]

/-- A scenario is run with the settings of a file, or with the defaults where there is none. -/
def runScenario (vars : Variables) (painted : Bool) (scenario : Scenario) (path : String) : m Outcome := do
  let ⟨result, events⟩ ← Setup.load vars path
  let noted := events.map (Output.event none)
  match result with
  | .error e => return ⟨noted ++ [problem painted "Config error" e.message], .ok failure⟩
  | .ok (some setup) =>
    let loaded := line ("  Config loaded from " ++ paint painted .onlyBold path)
    return runTrial vars painted scenario setup (noted ++ [loaded])
  | .ok none =>
    let absent := line ("  " ++ paint painted .onlyDimmed "No config file found; using defaults.")
    return runTrial vars painted scenario .default (noted ++ [absent])

/-- A settings file with all defaults is written, if nothing is in its place. -/
def writeDefaults (painted : Bool) (path : String) : m Outcome := do
  if ← Storage.holds path then
    return ⟨[complaint (paint painted (.strong .red) "error:" ++ " " ++ path ++ " already exists")], .ok failure⟩
  match ← Setup.save path .default with
  | .ok () =>
    let text := "  " ++ paint painted (.strong .green) "✓" ++ " Config written to " ++ paint painted .onlyBold path
    return ⟨[line text], .ok 0⟩
  | .error e => return ⟨[problem painted "Error saving config" e.message], .ok failure⟩

/-- A command is carried out. -/
def Command.execute (vars : Variables) (painted : Bool) : Command → m Outcome
  | .simulate scenario config => runScenario vars painted scenario (config.getD (Setup.defaultPath vars))
  | .initConfig config => writeDefaults painted (config.getD (Setup.defaultPath vars))

/-- A whole session. -/
def session (vars : Variables) (painted : Bool) (words : List String) : m Outcome := do
  match Command.parse words with
  | .error stop => return stop.outcome
  | .ok command =>
    let outcome ← command.execute vars painted
    return { outcome with output := preliminaries vars ++ outcome.output }

end GateNav.Console
