import GateNav.Console.Session
import GateNav.Log.Moment
import Std.Time.DateTime.Timestamp

/-!
# The program

The file system, the user's environment and the clock of the machine, and what a session does with them.
-/

namespace GateNav

/-- A failure of the file system: what the system says of it, and its number. -/
def StorageFault.ofError : IO.Error → StorageFault
  | .noFileOrDirectory .. => .missing
  | .alreadyExists _ code text | .invalidArgument _ code text | .permissionDenied _ code text
  | .resourceExhausted _ code text | .inappropriateType _ code text | .noSuchThing _ code text
  | .interrupted _ code text | .otherError code text | .resourceBusy code text | .resourceVanished code text
  | .unsupportedOperation code text | .hardwareFault code text | .unsatisfiedConstraints code text
  | .illegalOperation code text | .protocolError code text | .timeExpired code text =>
    .other (text ++ " (os error " ++ toString code ++ ")")
  | .unexpectedEof => .other "failed to fill whole buffer"
  | .userError _ => .other "stream did not contain valid UTF-8"

/-- The outcome of an action on what is at a path. -/
def attempt {β : Type} (path : String) (act : IO β) : IO (Except StorageFault β) := do
  if path.contains '\x00' then return .error .zeroInName
  try return .ok (← act)
  catch e => return .error (.ofError e)

/-- The file system of the machine. -/
instance : Storage IO where
  holds path := return (← attempt path (IO.FS.realPath path)).isOk
  holdsFolder path := return (← attempt path (IO.FS.realPath (path ++ "/."))).isOk
  read path := attempt path (IO.FS.readFile path)
  makeFolder path := attempt path (IO.FS.createDir path)
  write path text := attempt path (IO.FS.writeFile path text)

/-- The variables that the program looks at. -/
def variableNames : List String :=
  ["ROVER_MISS_THRESHOLD", "ROVER_FILTER_WINDOW", "ROVER_GATE_VARIANT", "ROVER_REPORT_FORMAT", "HOME", "USERPROFILE",
    Log.filterVariable, "ROVER_LOG_FORMAT", "OTEL_EXPORTER_OTLP_ENDPOINT", "CLICOLOR_FORCE", "NO_COLOR", "CLICOLOR"]

/-- The user's environment. -/
def environment : IO Variables := do
  let found ← variableNames.mapM fun name => return (name, ← IO.getEnv name)
  return fun name => (found.lookup name).join

/-- This moment. -/
def now : IO Log.Moment :=
  return ⟨(← Std.Time.Timestamp.now).toNanosecondsSinceUnixEpoch.toInt.toNat / 1000⟩

/-- What a session writes is written, and its events are logged. -/
def Console.Output.write (settings : Log.Settings) : Console.Output → IO Unit
  | .out text => IO.print text
  | .err text => IO.eprint text
  | .event cycle e => do IO.print (settings.text (← now).text "gatenav" cycle e)

/-- A session with the words of the command line. A session that halts exits with status 101. -/
def run (words : List String) : IO UInt32 := do
  let vars ← environment
  let painted := Console.isPainted vars (← (← IO.getStdout).isTty)
  let outcome : Console.Outcome ← Console.session vars painted words
  let settings := Log.Settings.ofVariables vars
  outcome.output.forM (·.write settings)
  match outcome.exit with
  | .ok code => return code.toUInt32
  | .error halt =>
    IO.eprintln halt.message
    return 101

end GateNav

/-- The program. -/
def main (words : List String) : IO UInt32 := GateNav.run words
