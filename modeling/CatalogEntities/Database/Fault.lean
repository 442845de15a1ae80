import CatalogEntities.SystemFault

/-!
# `Database/Fault.lean` — what goes wrong with a database

A database cannot be reached, does not agree on how to protect the connection, answers with an
error, or closes the connection. A fault is told in two texts, what happened and why; a closed
connection has no reason.

The same fault can befall a listing, a description or the first contact. Which of them it was is not
part of the fault: it is said by the failure that carries it.
-/

set_option autoImplicit false

namespace CatalogEntities

/-- **An error that a database answers with.** It is kept as the server sends it, with the two notes
that a server may add for the reader. -/
structure ServerError where
  /-- The code of the kind of error, which messages do not show. -/
  code : String
  message : String
  detail : Option String
  hint : Option String
  deriving Repr, DecidableEq

/-- The text of a server's error: its message, and a line each for detail and hint. -/
def ServerError.text (e : ServerError) : String :=
  "ERROR: " ++ e.message ++ ((e.detail.map ("\nDETAIL: " ++ ·)).getD "")
    ++ ((e.hint.map ("\nHINT: " ++ ·)).getD "")

/-- **What goes wrong with a database.** -/
inductive DatabaseFault
  | unreachable (cause : SystemFault)
  /-- The two sides do not agree on encryption. -/
  | handshake (cause : String)
  | refused (answer : ServerError)
  | closed
  deriving Repr, DecidableEq

namespace DatabaseFault

def message : DatabaseFault → String
  | unreachable _ => "error connecting to server"
  | handshake _ => "error performing TLS handshake"
  | refused _ => "db error"
  | closed => "connection closed"

/-- What happened and why, from the outside in. Each entry is one cause of those in front of it. -/
def chain (fault : DatabaseFault) : List String :=
  fault.message ::
    match fault with
    | unreachable cause => [cause.message]
    | handshake cause => [cause]
    | refused answer => [answer.text]
    | closed => []

end DatabaseFault

end CatalogEntities
