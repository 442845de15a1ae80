import CatalogEntities.DotEnv.Line

/-!
# `Settings/Fault.lean` — settings that cannot be used

The ways in which settings are wrong although they could be read. A fault names the variable or the
field that it is about, in the words of whoever wrote the settings: variables by their names, fields
by their place in a settings file.
-/

set_option autoImplicit false

namespace CatalogEntities

/-- **What is wrong with the settings.** The first two are found while variables are read, the next
three when the settings are checked as a whole. -/
inductive SettingsFault
  /-- A variable that must be set is not, or is empty. -/
  | unset (name : String)
  /-- The port is not a number of 16 bits. -/
  | badPort (name raw : String)
  | required (field : String)
  /-- Another field that must not be empty is. -/
  | empty (field : String)
  /-- A protection mode of another name, in lower case. -/
  | badTlsMode (word : String)
  | badFile (fault : DotEnv.Fault)
  | other (text : String)
  deriving Repr, DecidableEq

/-- **The message of a fault.** -/
def SettingsFault.message : SettingsFault → String
  | unset name => name ++ " is not set"
  | badPort name raw => name ++ " '" ++ raw ++ "' is not a valid port"
  | required field => field ++ " is required"
  | empty field => field ++ " must not be empty"
  | badTlsMode word =>
      "Invalid ssl_mode '" ++ word
        ++ "'. Valid values: disable, require, verify-ca, verify-full"
  | badFile fault => "Invalid .env file: " ++ fault.message
  | other text => text

end CatalogEntities
