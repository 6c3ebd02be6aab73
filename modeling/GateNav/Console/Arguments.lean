import GateNav.Console.Paint
import GateNav.Scenario

/-!
# The command line

The words of the command line are read one after the other. A word that may need more words, or whose value is still to
be checked, is pending; it is settled by the next option or scenario, or at the end. So an error in a value gives way
to an unknown option that follows it at once, but not to one that is understood.

A command is only looked for before anything else has been understood.
-/

namespace GateNav.Console

/-- What the program is asked to do. -/
inductive Command where
  /-- Run a scenario with the settings of a file. -/
  | simulate (scenario : Scenario) (config : Option String)
  /-- Write a settings file. -/
  | initConfig (config : Option String)
deriving DecidableEq, Repr

/-- What help is asked for. -/
inductive Topic where
  | program
  | initConfig
  | help
deriving DecidableEq, Repr

/-- Why the command line asks for no command. -/
inductive Stop where
  | help (topic : Topic)
  | version
  /-- It cannot be understood, for a reason that is given by a painted text. -/
  | misused (message : String)
deriving DecidableEq, Repr

/-- The words that are understood depend on the command. -/
inductive Grammar where
  | program
  | initConfig
deriving DecidableEq, Repr

/-- A word that is not settled yet. -/
inductive Pending where
  /-- The option for the settings file, with its value if that has been seen. -/
  | config (path : Option String)
  | scenario (text : String)
deriving DecidableEq, Repr

/-- What has been read of a command line. -/
structure Reading where
  pending : Option Pending
  config : Option String
  scenario : Option Scenario
  /-- A scenario has been given, good or bad. -/
  placed : Bool
  /-- Something has been understood. -/
  understood : Bool
  /-- Two dashes have been seen: all that follows are scenarios. -/
  trailing : Bool
deriving DecidableEq, Repr

namespace Arguments

def configName : String := "--config <CONFIG>"

def scenarioName : String := "[SCENARIO]"

/-- A text that is wrong or in the way, painted between quotes. -/
def quoted (text : String) : String := "'" ++ paint true (.ofColor .yellow) text ++ "'"

/-- A name of the program's own, painted between quotes. -/
def named (name : String) : String := "'" ++ paint true .onlyBold name ++ "'"

def misuse {β : Type} (message : String) : Except Stop β := throw (.misused message)

def valueMissing {β : Type} : Except Stop β :=
  misuse ("a value is required for " ++ quoted configName ++ " but none was supplied")

def unexpected {β : Type} (word : String) : Except Stop β :=
  misuse ("unexpected argument " ++ quoted word ++ " found")

end Arguments

open Arguments

namespace Reading

/-- Nothing has been read. -/
def start : Reading := ⟨none, none, none, false, false, false⟩

/-- The option for the settings file still needs its value. -/
def awaits (r : Reading) : Bool := r.pending = some (.config none)

/-- The path of the settings file is taken over. -/
def takeConfig (r : Reading) (path : String) : Except Stop Reading :=
  if r.config.isSome then misuse ("the argument " ++ quoted configName ++ " cannot be used multiple times")
  else if path.isEmpty then valueMissing
  else pure { r with config := some path }

/-- What is pending is settled. -/
def settle (r : Reading) : Except Stop Reading :=
  let done := { r with pending := none }
  match r.pending with
  | none => pure r
  | some (.config none) => valueMissing
  | some (.config (some path)) => done.takeConfig path
  | some (.scenario text) =>
    match Scenario.parse text with
    | .ok s => pure { done with scenario := some s }
    | .error complaint => misuse ("invalid value " ++ quoted text ++ " for " ++ named scenarioName ++ ": " ++ complaint)

/-- The option for the settings file, with a value in the same word or none. -/
def config? (r : Reading) (value : Option String) : Except Stop Reading := do
  let r ← r.settle
  let r := { r with understood := true }
  match value with
  | some path => r.takeConfig path
  | none => pure { r with pending := some (.config none) }

/-- A request that ends the reading, once what came before it is settled. -/
def ask (r : Reading) (stop : Stop) : Except Stop Reading := do
  let _ ← r.settle
  throw stop

/-- The option is among those given, as far as they can be told once one word is too many. -/
def showsConfig (r : Reading) : Bool :=
  match r.pending with
  | some (.config (some _)) => r.config.isNone
  | _ => r.config.isSome

/-- A word that is neither an option nor the value of one: a scenario, if that is still to be given. -/
def place (g : Grammar) (r : Reading) (word : String) : Except Stop Reading :=
  match g with
  | .initConfig => unexpected word
  | .program =>
    if r.placed then
      misuse ("the subcommand " ++ quoted word ++ " cannot be used with" ++
        if r.showsConfig then ":\n  " ++ scenarioName ++ "\n  " ++ configName else " '" ++ scenarioName ++ "'")
    else do
      let r ← r.settle
      return { r with pending := some (.scenario word), placed := true, understood := true }

/-- The help of a grammar. -/
def topic : Grammar → Topic
  | .program => .program
  | .initConfig => .initConfig

/-- A request in a long word must have no value. -/
def askLong (r : Reading) (name : String) (value : Option String) (stop : Stop) : Except Stop Reading :=
  match value with
  | some text =>
    misuse ("unexpected value " ++ quoted text ++ " for " ++ named ("--" ++ name) ++ " found; no more were expected")
  | none => r.ask stop

/-- A word after two dashes: a name, or a name and a value with an equals sign between them. -/
def long (g : Grammar) (r : Reading) (word : String) : Except Stop Reading :=
  let cs := word.toList
  let name := String.ofList (cs.takeWhile (· != '='))
  let value := match cs.dropWhile (· != '=') with
    | _ :: text => some (String.ofList text)
    | [] => none
  if name = "config" then r.config? value
  else if name = "help" then r.askLong name value (.help (topic g))
  else if name = "version" ∧ g = .program then r.askLong name value .version
  else unexpected ("--" ++ name)

/-- A word after one dash: a letter and, for the option, its value. -/
def short (g : Grammar) (r : Reading) (letter : Char) (rest : List Char) : Except Stop Reading :=
  if letter = 'c' then
    match rest with
    | [] => r.config? none
    | '=' :: text => r.config? (some (String.ofList text))
    | text => r.config? (some (String.ofList text))
  else if letter = 'h' then r.ask (.help (topic g))
  else if letter = 'V' ∧ g = .program then r.ask .version
  else unexpected ("-" ++ letter.toString)

/-- One word, which is no command. -/
def step (g : Grammar) (r : Reading) (word : String) : Except Stop Reading :=
  if r.trailing then r.place g word
  else
    match word.toList with
    | ['-', '-'] => pure { r with trailing := true }
    | '-' :: '-' :: name => r.long g (String.ofList name)
    | '-' :: letter :: rest => r.short g letter rest
    | _ => if r.awaits then pure { r with pending := some (.config (some word)) } else r.place g word

/-- A command may be looked for. -/
def isOpen (r : Reading) : Bool := !r.trailing && !r.understood

/-- The command that has been read. -/
def finish (g : Grammar) (r : Reading) : Except Stop Command := do
  let r ← r.settle
  match g with
  | .program => return .simulate (r.scenario.getD .approach) r.config
  | .initConfig => return .initConfig r.config

end Reading

/-- The topic that the words after the command for help name. -/
def Topic.ofWords : List String → Except Stop Topic
  | [] => pure .program
  | ["init-config"] => pure .initConfig
  | ["help"] => pure .help
  | "init-config" :: word :: _ | "help" :: word :: _ | word :: _ => misuse ("unrecognized subcommand " ++ quoted word)

/-- The command that a list of words asks for, after what has been read already. -/
def Command.readFrom (g : Grammar) (r : Reading) : List String → Except Stop Command
  | [] => r.finish g
  | word :: words =>
    if g = .program ∧ r.isOpen ∧ word = "init-config" then readFrom .initConfig .start words
    else if g = .program ∧ r.isOpen ∧ word = "help" then (Topic.ofWords words).bind fun t => throw (.help t)
    else do readFrom g (← r.step g word) words

/-- The command that a command line asks for. -/
def Command.parse (words : List String) : Except Stop Command := readFrom .program .start words

end GateNav.Console
