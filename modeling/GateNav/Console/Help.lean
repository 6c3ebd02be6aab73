import GateNav.Console.Arguments
import GateNav.Console.Plain

/-!
# Help texts
-/

namespace GateNav.Console
open Arguments

/-- The name and version of the program. -/
def versionText : String := "gatenav 0.1.0\n"

def lines (texts : List String) : String := String.join (texts.map (· ++ "\n"))

/-- The help on a topic. -/
def Topic.text : Topic → String
  | .program => lines [
      "Run the gate navigation core against a simulated field",
      "",
      "Usage: gatenav [OPTIONS] [SCENARIO]",
      "       gatenav <COMMAND>",
      "",
      "Commands:",
      "  init-config  Write a config file holding every default value",
      "  help         Print this message or the help of the given subcommand(s)",
      "",
      "Arguments:",
      "  [SCENARIO]  Scenario to run: approach, wrong-side, search or empty [default: approach]",
      "",
      "Options:",
      "  -c, --config <CONFIG>  Config file (default: ~/.rover/config.toml)",
      "  -h, --help             Print help",
      "  -V, --version          Print version"]
  | .initConfig => lines [
      "Write a config file holding every default value",
      "",
      "Usage: gatenav init-config [OPTIONS]",
      "",
      "Options:",
      "  -c, --config <CONFIG>  Config file (default: ~/.rover/config.toml)",
      "  -h, --help             Print help"]
  | .help => lines [
      "Print this message or the help of the given subcommand(s)",
      "",
      "Usage: gatenav help [COMMAND]...",
      "",
      "Arguments:",
      "  [COMMAND]...  Print help for the subcommand(s)"]

/-- What is said about a command line that cannot be understood. It is written plain, so sequences in the words of the
command line are left out too. -/
def misuseText (message : String) : String :=
  Plain.text (paint true (.strong .red) "error:" ++ " " ++ message ++ "\n\nFor more information, try " ++
    named "--help" ++ ".\n")

end GateNav.Console
