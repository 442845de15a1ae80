import CatalogEntities.FileSystem
import CatalogEntities.Settings.Validity
import CatalogEntities.Yaml.Decode
import CatalogEntities.Yaml.Node.Reader
import CatalogEntities.Yaml.Token.Lexer

/-!
# `Settings/Yaml.lean` — settings from a settings file

A settings file is a document of two mappings. Fields with defaults may be left out, unknown fields
are ignored, and a field must not be given twice. What was read is checked before it is used.

Two kinds of fault come from here, and the command ends differently with them: a text that does not
describe settings is a fault of the file, while settings that were read and fail their check are
invalid settings. A document is read once and in its own order, so fields are collected into
*partial* records, and defaults are put in after the last of them.
-/

set_option autoImplicit false

namespace CatalogEntities

open CatalogEntities.Yaml

/-- Database settings, as far as they have been read. A field that is still empty may yet be given;
one that is not would be given twice. -/
structure PartialDatabase where
  host : Option String
  port : Option UInt16
  database : Option String
  user : Option String
  password : Option String
  schema : Option String
  sslMode : Option String

namespace PartialDatabase

def empty : PartialDatabase := ⟨none, none, none, none, none, none, none⟩

def record : Record PartialDatabase where
  name := "struct DatabaseConfig"
  fields :=
    [ ("host", fieldOf host (fun s x => { s with host := some x }) decodeString),
      ("port", fieldOf port (fun s x => { s with port := some x }) decodeUnsigned16),
      ("database", fieldOf database (fun s x => { s with database := some x }) decodeString),
      ("user", fieldOf user (fun s x => { s with user := some x }) decodeString),
      ("password", fieldOf password (fun s x => { s with password := some x }) decodeString),
      ("schema", fieldOf schema (fun s x => { s with schema := some x }) decodeString),
      ("ssl_mode", fieldOf sslMode (fun s x => { s with sslMode := some x }) decodeString) ]

/-- The settings, with the defaults for what was not read. Of several missing fields the first in
this order is reported, at the path of the mapping that should have had it. -/
def complete (s : PartialDatabase) (path : List PathStep) :
    Except Yaml.Fault DatabaseSettings := do
  let host ← required path "host" s.host
  let database ← required path "database" s.database
  let user ← required path "user" s.user
  return {
    host, database, user
    port := s.port.getD DatabaseSettings.defaultPort
    password := s.password.getD DatabaseSettings.defaultPassword
    schema := s.schema.getD DatabaseSettings.defaultSchema
    sslMode := s.sslMode.getD DatabaseSettings.defaultSslMode }

end PartialDatabase

/-- **Database settings** from a mapping. -/
def DatabaseSettings.ofYaml : Yaml.Decoder DatabaseSettings := fun d path n => do
  let s ← decodeRecord PartialDatabase.record .empty d path n
  s.complete path

/-- Generator settings, as far as they have been read. -/
structure PartialGenerator where
  outputDir : Option String
  fileSuffix : Option String
  referenceSuffix : Option String
  excludedTables : Option (List String)
  dryRun : Option Bool

namespace PartialGenerator

def empty : PartialGenerator := ⟨none, none, none, none, none⟩

def record : Record PartialGenerator where
  name := "struct GeneratorConfig"
  fields :=
    [ ("output_dir", fieldOf outputDir (fun s x => { s with outputDir := some x }) decodePath),
      ("file_suffix", fieldOf fileSuffix (fun s x => { s with fileSuffix := some x }) decodeString),
      ("reference_suffix",
        fieldOf referenceSuffix (fun s x => { s with referenceSuffix := some x }) decodeString),
      ("excluded_tables",
        fieldOf excludedTables (fun s x => { s with excludedTables := some x })
          (decodeList decodeString)),
      ("dry_run", fieldOf dryRun (fun s x => { s with dryRun := some x }) decodeBool) ]

/-- The settings, with the defaults for what was not read. -/
def complete (s : PartialGenerator) : GeneratorSettings where
  outputDir := s.outputDir.getD GeneratorSettings.defaultOutputDir
  fileSuffix := s.fileSuffix.getD GeneratorSettings.defaultFileSuffix
  referenceSuffix := s.referenceSuffix.getD GeneratorSettings.defaultReferenceSuffix
  excludedTables := s.excludedTables.getD GeneratorSettings.defaultExcludedTables
  dryRun := s.dryRun.getD false

end PartialGenerator

/-- **Generator settings** from a mapping. -/
def GeneratorSettings.ofYaml : Yaml.Decoder GeneratorSettings := fun d path n =>
  (decodeRecord PartialGenerator.record .empty d path n).map PartialGenerator.complete

/-- Settings, as far as they have been read. -/
structure PartialSettings where
  database : Option DatabaseSettings
  generator : Option GeneratorSettings

namespace PartialSettings

def empty : PartialSettings := ⟨none, none⟩

def record : Record PartialSettings where
  name := "struct Config"
  fields :=
    [ ("database", fieldOf database (fun s x => { s with database := some x })
        DatabaseSettings.ofYaml),
      ("generator", fieldOf generator (fun s x => { s with generator := some x })
        GeneratorSettings.ofYaml) ]

end PartialSettings

namespace Settings

/-- **Settings** from a mapping. -/
def ofYaml : Yaml.Decoder Settings := fun d path n => do
  let s ← decodeRecord PartialSettings.record .empty d path n
  let database ← required path "database" s.database
  return ⟨database, s.generator.getD .defaults⟩

/-- The settings that a text describes, not yet checked. The three stages are those of the format:
characters to tokens, tokens to a tree, the tree to settings. -/
def decodeYaml (text : String) : Except Yaml.Fault Settings :=
  (Document.ofTokens (Token.scan text.toList)).decode ofYaml

/-- **The settings of a settings file**, checked: `from_yaml` looks at the values only of a text
that it has read to its end. -/
def ofYamlText (text : String) : Except Failure Settings :=
  match decodeYaml text with
  | .ok s => s.checked
  | .error fault => .error (.yaml fault)

/-- **Settings from a file.** A file that cannot be read is a fault of the file system and says
nothing about settings. -/
def ofFile (fs : FileSystem) (path : String) : Except Failure Settings :=
  match fs.readText path with
  | .ok text => ofYamlText text
  | .error fault => .error (.io fault)

end Settings

end CatalogEntities
