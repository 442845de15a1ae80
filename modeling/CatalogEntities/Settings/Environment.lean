import CatalogEntities.DotEnv
import CatalogEntities.Settings.Validity

/-!
# `Settings/Environment.lean` — settings from variables

Without a settings file the database settings come from variables, and the generator settings are
the defaults. The port is read first, then the three variables that must be set, and only then is
the whole checked; each time the first fault is reported.

Variables are asked for through a function from names to values. A run asks the surroundings of the
program, and a statement may put any function in their place; that the seven names below are all
that is ever asked for is then a statement like the others.
-/

set_option autoImplicit false

namespace CatalogEntities

open CatalogEntities.Text

/-! ## The variables -/

namespace SettingsVariable

def host : String := "POSTGRES_HOST"
def port : String := "POSTGRES_PORT"
def database : String := "POSTGRES_DATABASE"
def user : String := "POSTGRES_USER"
def password : String := "POSTGRES_PASSWORD"
def schema : String := "POSTGRES_SCHEMA"
def sslMode : String := "POSTGRES_SSL_MODE"

def all : List String := [host, port, database, user, password, schema, sslMode]

end SettingsVariable

namespace Settings

/-- The digits of a port: one plus sign may stand in front of them and is dropped. A minus sign
stays and is no digit, so no port is negative, not even `-0`. -/
def portDigits : List Char → List Char
  | '+' :: rest => rest
  | cs => cs

/-- A port: one or more digits, with an optional plus sign, of value at most 65535. Zeros in front
do not count, however many there are, and no white space is allowed anywhere. -/
def readPort? (raw : String) : Option UInt16 :=
  let ds := portDigits raw.toList
  if ds.isEmpty || !ds.all Char.isDigit then none
  else
    let n := Decimal.ofDigits ds
    if n ≤ 65535 then some (UInt16.ofNat n) else none

/-- The port that a variable holds; the default if it is not set. -/
def portOf (name : String) : Option String → Except SettingsFault UInt16
  | none => .ok DatabaseSettings.defaultPort
  | some raw =>
      match readPort? raw with
      | some port => .ok port
      | none => .error (.badPort name raw)

/-- A variable that must be set and not empty. The two are told in the same words, as there is
nothing to do about them but the same. -/
def needed (name : String) : Option String → Except SettingsFault String
  | none => .error (.unset name)
  | some value => if value = "" then .error (.unset name) else .ok value

/-- **The settings that variables describe** (`from_lookup`), not yet checked. The order of the
lines is the order of the faults; what can be left out has its default and cannot be wrong here. -/
def gather (lookup : String → Option String) : Except SettingsFault Settings := do
  -- the port comes first, so a malformed one is told even where the host is missing
  let port ← portOf SettingsVariable.port (lookup SettingsVariable.port)
  let host ← needed SettingsVariable.host (lookup SettingsVariable.host)
  let database ← needed SettingsVariable.database (lookup SettingsVariable.database)
  let user ← needed SettingsVariable.user (lookup SettingsVariable.user)
  return {
    database := {
      host, port, database, user
      password := (lookup SettingsVariable.password).getD DatabaseSettings.defaultPassword
      schema := (lookup SettingsVariable.schema).getD DatabaseSettings.defaultSchema
      sslMode := (lookup SettingsVariable.sslMode).getD DatabaseSettings.defaultSslMode }
    generator := .defaults }

/-- **Settings from variables.** A schema or a mode that is set and empty is not the default, and it
is only the check that has something to say about it. -/
def ofVariables (lookup : String → Option String) : Except Failure Settings :=
  match gather lookup with
  | .ok s => s.checked
  | .error fault => .error (.settings fault)

/-- **Settings from the surroundings** (`from_env`): the variables, and those that a file of
variables adds. A file that is malformed ends the reading even if every variable is set. -/
def ofSurroundings (fs : FileSystem) (vars : DotEnv.Variables) : Except Failure Settings :=
  match DotEnv.loadFrom fs vars with
  | .ok vars => ofVariables vars.find?
  | .error fault => .error (.settings (.badFile fault))

end Settings

end CatalogEntities
