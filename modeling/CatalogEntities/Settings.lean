/-!
# `Settings.lean` — what a run is told

Two groups of settings: how to reach the database, and how to generate. All of the second group
and part of the first have defaults, which every way of reading settings shares.

Settings are data without conditions. Which of them a run can start with is said apart from them
(`Settings.Valid`), because they are read, changed by a command, and only then used: in between they
may well be wrong, and a program has to be able to hold them to say so.
-/

set_option autoImplicit false

namespace CatalogEntities

/-- **How to reach the database.** The mode of protection is kept as it is written; what it means is
asked where a connection is made. -/
structure DatabaseSettings where
  host : String
  port : UInt16
  database : String
  user : String
  password : String
  schema : String
  sslMode : String
  deriving Repr, DecidableEq

namespace DatabaseSettings

def defaultPort : UInt16 := 5432
def defaultPassword : String := ""
def defaultSchema : String := "public"
def defaultSslMode : String := "require"

/-- The name under which the program presents itself to a server. -/
def applicationName : String := "pg-entitygen"

end DatabaseSettings

/-- **How to generate.** The output directory is a path as text, relative or not, and both suffixes
may be any text. -/
structure GeneratorSettings where
  outputDir : String
  fileSuffix : String
  referenceSuffix : String
  /-- Tables left out when none is asked for by name. -/
  excludedTables : List String
  /-- Whether files are only rendered and not written. -/
  dryRun : Bool
  deriving Repr, DecidableEq

namespace GeneratorSettings

def defaultOutputDir : String := "reverse-engineered"
def defaultFileSuffix : String := ".entity.ts"
def defaultReferenceSuffix : String := "_id"
def defaultExcludedTables : List String := ["migrations", "typeorm_metadata"]

/-- The settings of a run that is told nothing. -/
def defaults : GeneratorSettings :=
  ⟨defaultOutputDir, defaultFileSuffix, defaultReferenceSuffix, defaultExcludedTables, false⟩

end GeneratorSettings

/-- **All settings of a run.** -/
structure Settings where
  database : DatabaseSettings
  generator : GeneratorSettings
  deriving Repr, DecidableEq

end CatalogEntities
