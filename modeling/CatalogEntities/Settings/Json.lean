import CatalogEntities.Json.Decode
import CatalogEntities.Settings

/-!
# `Settings/Json.lean` — settings as structured data

Settings are an object of two objects. Of the database only the host, the database and the user must
be given, of the generator nothing; a field that is given must not be null.

The fields are read in the order of their names and not in that of the text, because an object is a
sorted map by the time its fields are asked for. So the order of the lines below decides which of
two faults is reported, while required fields are looked at last. An array is read by position, in
the order of declaration, and may end before a field that has a default.
-/

set_option autoImplicit false

namespace CatalogEntities

open CatalogEntities.Json

namespace DatabaseSettings

def shape : String := "struct DatabaseConfig with 7 elements"

def toJson (s : DatabaseSettings) : Json :=
  .object
    [ ("host", .string s.host),
      ("port", .integer s.port.toNat),
      ("database", .string s.database),
      ("user", .string s.user),
      ("password", .string s.password),
      ("schema", .string s.schema),
      ("ssl_mode", .string s.sslMode) ]

/-- **Database settings** from an object or an array. In an array only what follows the last given
item can be left to its default. -/
def ofJson : Json.Decoder DatabaseSettings
  | .object fields => do
      let m := members fields
      let database ← field m "database" decodeString
      let host ← field m "host" decodeString
      let password ← field m "password" decodeString
      let port ← field m "port" decodeUnsigned16
      let schema ← field m "schema" decodeString
      let sslMode ← field m "ssl_mode" decodeString
      let user ← field m "user" decodeString
      let host ← required "host" host
      let database ← required "database" database
      let user ← required "user" user
      return ⟨host, port.getD defaultPort, database, user, password.getD defaultPassword,
        schema.getD defaultSchema, sslMode.getD defaultSslMode⟩
  | .array items => do
      let host ← element items 0 shape decodeString
      let port ← elementD items 1 defaultPort decodeUnsigned16
      let database ← element items 2 shape decodeString
      let user ← element items 3 shape decodeString
      let password ← elementD items 4 defaultPassword decodeString
      let schema ← elementD items 5 defaultSchema decodeString
      let sslMode ← elementD items 6 defaultSslMode decodeString
      noneBeyond items 7
      return ⟨host, port, database, user, password, schema, sslMode⟩
  | value => value.refuse "struct DatabaseConfig"

end DatabaseSettings

namespace GeneratorSettings

def toJson (s : GeneratorSettings) : Json :=
  .object
    [ ("output_dir", .string s.outputDir),
      ("file_suffix", .string s.fileSuffix),
      ("reference_suffix", .string s.referenceSuffix),
      ("excluded_tables", .strings s.excludedTables),
      ("dry_run", .bool s.dryRun) ]

/-- **Generator settings** from an object or an array. Every field has a default, so the empty
object describes a generator. -/
def ofJson : Json.Decoder GeneratorSettings
  | .object fields => do
      let m := members fields
      let dryRun ← field m "dry_run" decodeBool
      let excludedTables ← field m "excluded_tables" (decodeList decodeString)
      let fileSuffix ← field m "file_suffix" decodeString
      let outputDir ← field m "output_dir" decodePath
      let referenceSuffix ← field m "reference_suffix" decodeString
      return ⟨outputDir.getD defaultOutputDir, fileSuffix.getD defaultFileSuffix,
        referenceSuffix.getD defaultReferenceSuffix, excludedTables.getD defaultExcludedTables,
        dryRun.getD false⟩
  | .array items => do
      let outputDir ← elementD items 0 defaultOutputDir decodePath
      let fileSuffix ← elementD items 1 defaultFileSuffix decodeString
      let referenceSuffix ← elementD items 2 defaultReferenceSuffix decodeString
      let excludedTables ← elementD items 3 defaultExcludedTables (decodeList decodeString)
      let dryRun ← elementD items 4 false decodeBool
      noneBeyond items 5
      return ⟨outputDir, fileSuffix, referenceSuffix, excludedTables, dryRun⟩
  | value => value.refuse "struct GeneratorConfig"

end GeneratorSettings

namespace Settings

def shape : String := "struct Config with 2 elements"

def toJson (s : Settings) : Json :=
  .object [("database", s.database.toJson), ("generator", s.generator.toJson)]

/-- **All settings** from an object or an array. A generator that is not mentioned at all is the one
that an empty object describes; for a database there is no such thing. -/
def ofJson : Json.Decoder Settings
  | .object fields => do
      let m := members fields
      let database ← field m "database" DatabaseSettings.ofJson
      let generator ← field m "generator" GeneratorSettings.ofJson
      let database ← required "database" database
      return ⟨database, generator.getD .defaults⟩
  | .array items => do
      let database ← element items 0 shape DatabaseSettings.ofJson
      let generator ← elementD items 1 .defaults GeneratorSettings.ofJson
      noneBeyond items 2
      return ⟨database, generator⟩
  | value => value.refuse "struct Config"

end Settings

end CatalogEntities
