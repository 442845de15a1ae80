import CatalogEntities.Log
import CatalogEntities.Text.Casing

/-!
# `TlsMode.lean` — how a connection is protected

A mode is written as one of four words in any case; no word at all stands for `require`. The words
are compared after full lower casing of the whole text.

A mode decides two things, whether the connection is encrypted and whether the certificate of the
server is verified. Between the two modes that verify nothing here makes a difference, since a run
only sees whether there is a connection.
-/

set_option autoImplicit false

namespace CatalogEntities

/-- **The protection of a connection**, from the least to the most. -/
inductive TlsMode
  | disable
  | require
  /-- Encrypted, with a certificate of a known authority. -/
  | verifyCa
  /-- As `verifyCa`, and the certificate names the host. -/
  | verifyFull
  deriving Repr, DecidableEq

namespace TlsMode

/-- The name under which the log knows a mode. -/
def name : TlsMode → String
  | disable => "Disable"
  | require => "Require"
  | verifyCa => "VerifyCa"
  | verifyFull => "VerifyFull"

/-- The mode of a word in lower case. The empty word is accepted, so that a setting that is there
and empty is as good as one that is not there. -/
def ofWord? : String → Option TlsMode
  | "disable" => some disable
  | "require" => some require
  | "" => some require
  | "verify-ca" => some verifyCa
  | "verify-full" => some verifyFull
  | _ => none

/-- **Reads a mode** (`parse`). The whole text is lowered and not each character, which makes a
difference for one Greek letter only, and for no text that is accepted. -/
def read? (text : String) : Option TlsMode := ofWord? (Text.lowerText text)

/-- Whether the mode asks for encryption (`requires_tls`). -/
def isEncrypted : TlsMode → Bool
  | disable => false
  | _ => true

/-- Whether the mode asks for a certificate that can be verified. -/
def isVerified : TlsMode → Bool
  | verifyCa | verifyFull => true
  | _ => false

/-- What the log says about a mode when a connection is made. Modes that do not protect against an
impostor are warned of. -/
def notice : TlsMode → LogLine
  | disable =>
      .warn "PostgreSQL TLS is disabled. Credentials will be transmitted in plaintext."
  | require =>
      .warn ("ssl_mode=require: TLS enabled but the server certificate is not verified. "
        ++ "Use ssl_mode=verify-full to verify it.")
  | mode => .info ("ssl_mode=" ++ mode.name ++ ": certificate verification enabled")

end TlsMode

end CatalogEntities
