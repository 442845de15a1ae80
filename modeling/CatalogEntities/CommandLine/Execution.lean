import CatalogEntities.CommandLine.Invocation
import CatalogEntities.Run
import CatalogEntities.Settings.Environment
import CatalogEntities.Settings.Yaml
import CatalogEntities.Text.Shown

/-!
# `CommandLine/Execution.lean` — carrying out what the program is told

Settings are valid when they have been read. The command that generates may change some of them, so
they are checked once more before the database is asked for anything. The exit
code is that of the failure that ended the command, and zero if none did.

This is the `run` of the command line as a function: of what the program is told, and of the files,
variables and servers that it finds around it. Nothing in it reads a clock or draws a random number;
what is printed with such things is made of its result afterwards.
-/

set_option autoImplicit false

namespace CatalogEntities.CommandLine

/-- **What the program finds around it.** Files are here to be read and written, variables only to
be read: no command changes the variables of the program that started it. -/
structure Surroundings where
  files : FileSystem
  environment : DotEnv.Variables
  network : Network

/-- **What a command comes to.** -/
inductive Product
  | generated (outcome : Outcome)
  | healthy (database : DatabaseSettings)
  deriving Repr, DecidableEq

/-- **What carrying out a command leads to.** The events are those up to the failure, if there is
one. -/
structure Execution where
  files : FileSystem
  events : List RunEvent
  result : Except Failure Product

def Execution.exitCode (e : Execution) : UInt8 :=
  match e.result with
  | .ok _ => 0
  | .error f => f.exitCode

/-! ## Settings -/

def settingsNotice (path : String) : LogLine :=
  .info ("Loaded configuration from " ++ Text.shownPath path)

/-- **Settings with what a command says about them** in place of some; a run can be made a dry one,
but not the other way round. What is put in their place is not looked at here, and may well make
settings invalid that were valid before. -/
def Command.adjust (command : Command) (s : Settings) : Settings :=
  match command with
  | .healthCheck => s
  | .generate _ outputDir schema dryRun =>
      { database := { s.database with schema := schema.getD s.database.schema }
        generator :=
          { s.generator with
            outputDir := outputDir.getD s.generator.outputDir
            dryRun := s.generator.dryRun || dryRun } }

namespace Invocation

/-- The settings as they are written: in a file if one is named, and otherwise in variables. The two
are never mixed. -/
def writtenSettings (i : Invocation) (s : Surroundings) : Except Failure Settings :=
  match i.settingsPath with
  | some path => Settings.ofFile s.files path
  | none => Settings.ofSurroundings s.files s.environment

/-- **The settings of a command**: read, changed by what the command says, and checked again. The
first check has passed by then, so a fault that is found here is one that the command made. -/
def settings (i : Invocation) (s : Surroundings) : Except Failure Settings := do
  (i.command.adjust (← i.writtenSettings s)).checked

def settingsEvents (i : Invocation) (s : Surroundings) : List RunEvent :=
  match i.settingsPath, i.writtenSettings s with
  | some path, .ok _ => [.noted (settingsNotice path)]
  | _, _ => []

end Invocation

/-! ## Commands -/

/-- Asks whether the database answers. To be connected the database has answered once already; it is
asked again, and the second answer is the one that counts. -/
def Surroundings.checkHealth (s : Surroundings) (d : DatabaseSettings) : Execution :=
  let before := (Session.connectLog s.network d).map RunEvent.noted
  match Session.connect s.network d with
  | .error f => ⟨s.files, before, .error f⟩
  | .ok session =>
      ⟨s.files, before ++ [.noted Session.farewell], session.probe.map fun _ => .healthy d⟩

/-- Generates entities. The program takes the steps of its run in the standard order. -/
def Surroundings.generate (s : Surroundings) (settings : Settings) (tables : List String) :
    Execution :=
  let r := Run.overDatabase s.network settings tables [] s.files
  ⟨r.files, r.events, r.outcome.map .generated⟩

def Command.execute (command : Command) (s : Surroundings) (settings : Settings) : Execution :=
  match command with
  | .generate tables .. => s.generate settings tables
  | .healthCheck => s.checkHealth settings.database

/-- **Carries out what the program is told.** Where there are no valid settings nothing is connected
and no file is touched; this is where a statement about such command lines ends. -/
def Invocation.execute (i : Invocation) (s : Surroundings) : Execution :=
  let before := i.settingsEvents s
  match i.settings s with
  | .error f => ⟨s.files, before, .error f⟩
  | .ok settings =>
      let e := i.command.execute s settings
      { e with events := before ++ e.events }

end CatalogEntities.CommandLine
