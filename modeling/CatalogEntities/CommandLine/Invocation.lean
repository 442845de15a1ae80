import CatalogEntities.CommandLine.Grammar
import CatalogEntities.Log
import CatalogEntities.Settings

/-!
# `CommandLine/Invocation.lean` — what the program is told to do

The program knows two commands: to generate entities, and to find out whether the database answers.
Options that concern both stand in front of the command, and the options of a command behind it.
Where the settings are read from may also be said by a variable, which counts only if the option is
not given.

Words become an `Invocation` here and are not looked at again. Everything that a program does later
is a function of that and of its surroundings, which is how a statement can speak of every command
line without speaking of words.
-/

set_option autoImplicit false

namespace CatalogEntities.CommandLine

/-- **A command**, with what the words behind it say. -/
inductive Command
  /-- To generate the entities of some tables, or of all if none is named. -/
  | generate (tables : List String) (outputDir schema : Option String) (dryRun : Bool)
  | healthCheck
  deriving Repr, DecidableEq

/-- **What the program is told to do**, and how it is to speak. -/
structure Invocation where
  /-- The settings file; without one, variables are read. -/
  settingsPath : Option String
  /-- Whether the result is printed as structured data. -/
  outputJson : Bool
  logFormat : String
  verbosity : String
  command : Command
  deriving Repr, DecidableEq

/-! ## The options -/

def helpRule : OptionRule := ⟨"help", some 'h', .help⟩

/-- The options in front of a command, and the commands. -/
def programGrammar : Grammar where
  options :=
    [ ⟨"config", some 'c', .value false false⟩, ⟨"output-json", none, .flag⟩,
      ⟨"log-format", none, .value true false⟩, ⟨"verbosity", none, .value true false⟩,
      helpRule, ⟨"version", some 'V', .version⟩ ]
  commands := ["generate", "health-check", "help"]
  takesOperands := false

/-- The options of the command that generates. Tables may be named by an option as well, and the
operands come first in the request, wherever they stand. -/
def generateGrammar : Grammar where
  options :=
    [ ⟨"table", some 't', .value true true⟩, ⟨"output-dir", none, .value false false⟩,
      ⟨"schema", none, .value true false⟩, ⟨"dry-run", none, .flag⟩, helpRule ]
  commands := []
  takesOperands := true

/-- The options of the command that asks whether the database answers. -/
def healthCheckGrammar : Grammar := ⟨[helpRule], [], false⟩

def settingsPathVariable : String := "PG_ENTITYGEN_CONFIG"

/-! ## Reading the words -/

/-- The words of the command that generates. -/
def Command.generateOfWords (words : List String) : Except Stop Command := do
  let given ← (← generateGrammar.read words).reading.settled
  return .generate (given.operands ++ given.values "table") (given.value? "output-dir")
    (given.value? "schema") (given.has "dry-run")

/-- The words of the command that asks whether the database answers. -/
def Command.healthCheckOfWords (words : List String) : Except Stop Command := do
  let _ ← (← healthCheckGrammar.read words).reading.settled
  return .healthCheck

/-- What a request for help with a command, or with none, comes to. -/
def helpOn : List String → Stop
  | [] => .help
  | [word] => if programGrammar.commands.contains word then .help else .misuse
  | _ => .misuse

def Command.ofWords (name : String) (words : List String) : Except Stop Command :=
  if name = "generate" then generateOfWords words
  else if name = "health-check" then healthCheckOfWords words
  else .error (helpOn words)

namespace Invocation

def defaultLogFormat : String := "text"
def defaultVerbosity : String := "info"

/-- The settings file that the option names, or else the variable; an empty name is refused. -/
def settingsPathOf (given fallback : Option String) : Except Stop (Option String) :=
  match given <|> fallback with
  | some "" => .error .misuse
  | path => .ok path

/-- **Reads a command line**, given what the variable for the settings file says. The words behind
the command are read before the last option in front of it is looked at. -/
def ofWords (fallback : Option String) (words : List String) : Except Stop Invocation := do
  let line ← programGrammar.read words
  match line.command with
  | none => throw .misuse
  | some (name, rest) =>
      let command ← Command.ofWords name rest
      let given ← line.reading.settled
      return {
        settingsPath := ← settingsPathOf (given.value? "config") fallback
        outputJson := given.has "output-json"
        logFormat := (given.value? "log-format").getD defaultLogFormat
        verbosity := (given.value? "verbosity").getD defaultVerbosity
        command }

def logLevel (i : Invocation) : LogLevel := .ofName i.verbosity

/-- Whether the log is printed as structured data. -/
def logsJson (i : Invocation) : Bool := i.logFormat = "json"

end Invocation

end CatalogEntities.CommandLine
