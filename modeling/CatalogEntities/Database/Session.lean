import CatalogEntities.Catalog
import CatalogEntities.Database.Server
import CatalogEntities.Settings.Validity

/-!
# `Database/Session.lean` — a connection to a database

A session asks the server about one schema. Listing is one request, describing a table four, and
the first of them that fails is reported. When the connection is closed in a request, all later
requests of the session fail in the same way.

Failures to connect and to list are failures of the connection; a failure to describe names the
request and the table.

A session is what the program's `PgCatalog` is once it is connected. It is a catalog like any other
(`Session.catalog`), so that a run over a database is a run and needs no statements of its own.
-/

set_option autoImplicit false

namespace CatalogEntities

/-- **A session with a server**, about one schema. Whether it is open is part of it: the answers of
a closed session are known without the server. -/
structure Session where
  server : DatabaseServer
  schema : String
  isOpen : Bool

namespace Session

variable {α : Type}

/-- Asks for something that the server would answer with `rows`. All requests go through this, so
that there is one place where a request can fail and one lemma that says how. -/
def ask (s : Session) (query : Query) (rows : α) : Except DatabaseFault α :=
  if s.isOpen then
    match s.server.fails query with
    | some fault => .error fault
    | none => .ok rows
  else .error .closed

/-- Asks whether the database answers (`ping`). -/
def probe (s : Session) : Except Failure Unit := (s.ask .probe ()).mapError .connection

/-- Asks for table names, by one request or the other (`query_table_names`). A refusal counts as one
of the connection, although the connection may be as good as before. -/
def names (s : Session) (query : Query) (accepts : String → Bool) :
    Except Failure (List String) :=
  (s.ask query (s.server.tableNames s.schema accepts)).mapError .connection

/-- **The tables of a request** (`list_tables`). An empty request is answered by one query and any
other by a second; the names go to the server as parameters, and what does not exist is found out by
comparing its answer with the request. -/
def list (s : Session) (requested excluded : List String) : Except Failure TableSet :=
  if requested.isEmpty then
    (s.names (.listAll s.schema excluded) fun name => !excluded.contains name).map (⟨·, []⟩)
  else
    (s.names (.listRequested s.schema requested) requested.contains).map (.partition requested)

/-- Asks one of the four queries about a table, and names both if it is refused. -/
def askAbout (s : Session) (table : String) (query : TableQuery) (rows : α) : Except Failure α :=
  (s.ask (.describe query s.schema table) rows).mapError (.catalogQuery query table)

/-- **A table by its name** (`describe_table`). The four queries are independent of one another. The
program sends them at once, and of several refusals any may be reported; here it is the first in the
order in which they stand. What is proved of runs over a database does not use that order. -/
def describe (s : Session) (name : String) : Except Failure Table := do
  let known := s.server.table s.schema name
  let columns ← s.askAbout name .columns known.columns
  let primaryKey ← s.askAbout name .primaryKey known.primaryKey
  let foreignKeys ← s.askAbout name .foreignKeys known.foreignKeys
  let enumLabels ← s.askAbout name .enumLabels known.enumLabels
  return ⟨name, columns, primaryKey, foreignKeys, enumLabels⟩

def notice (s : Session) (t : Table) : LogLine :=
  .debug ("Described " ++ s.schema ++ "." ++ t.name ++ ": " ++ toString t.columns.length
    ++ " columns, " ++ toString t.primaryKey.length ++ " primary key columns, "
    ++ toString t.foreignKeys.length ++ " foreign keys, " ++ toString t.enumLabels.size
    ++ " enum columns")

/-- **The catalog of a session.** -/
def catalog (s : Session) : Catalog := ⟨"postgres", s.list, s.describe, fun t => [s.notice t]⟩

/-- The session after a request: a connection that was closed in it stays closed. Other refusals
leave it as it is. -/
def after (s : Session) : Except Failure α → Session
  | .error (.connection .closed) | .error (.catalogQuery _ _ .closed) => { s with isOpen := false }
  | _ => s

/-! ## Connecting -/

def greeting (d : DatabaseSettings) : LogLine :=
  .info ("Connected to PostgreSQL: " ++ d.host ++ ":" ++ toString d.port.toNat ++ "/" ++ d.database
    ++ " (schema '" ++ d.schema ++ "')")

def farewell : LogLine := .info "Database connection closed."

/-- The session of some settings with a server that is reached, once the server answers. A server
that lets a client in and refuses its first request has no session either. -/
def enter (d : DatabaseSettings) (mode : TlsMode) (server : DatabaseServer) :
    Except Failure Session := do
  (server.receive mode).mapError .connection
  let s : Session := ⟨server, d.schema, true⟩
  s.probe
  return s

/-- **The session that some settings describe** (`connect`). The settings are looked at first: a
mode of protection that does not exist is a fault of the settings and not of the connection, and the
network is not touched for it. -/
def connect (network : Network) (d : DatabaseSettings) : Except Failure Session := do
  let mode ← d.tlsMode.mapError .settings
  let server ← (network.reach d.endpoint).mapError fun fault => .connection (.unreachable fault)
  enter d mode server

/-- What is logged on the way to a session, or until that fails. -/
def connectLog (network : Network) (d : DatabaseSettings) : List LogLine :=
  match d.tlsMode with
  | .error _ => []
  | .ok mode =>
      mode.notice ::
        match connect network d with
        | .ok _ => [greeting d]
        | .error _ => []

end Session

end CatalogEntities
