import CatalogEntities.Database.Endpoint
import CatalogEntities.Database.Fault
import CatalogEntities.Database.Query
import CatalogEntities.FileSystem
import CatalogEntities.Table
import CatalogEntities.TlsMode

/-!
# `Database/Server.lean` — what a server holds and how it answers

A server holds relations in schemas, of which only base tables are listed. It answers a question
about a table with the rows that belong to the schema and the name, in the order in which it holds
them, and with no rows where there is no such table.

A server may turn a client away, and may fail in any request.

It is a server from the outside: what it answers, and not how it finds that out. That the answers
are those of the joins over its system tables is a statement about servers, proved elsewhere, and
not part of their definition; so a server that answers by other means is a server as well.
-/

set_option autoImplicit false

namespace CatalogEntities

/-- **A relation of a database**, as the rows that describe it. Views and foreign tables are
relations too; they can be described if someone asks for them by name, and are never listed. -/
structure StoredTable where
  schema : String
  name : String
  kind : String
  columns : List Column
  primaryKey : List String
  /-- The foreign keys in the order of the constraints. -/
  foreignKeys : List ForeignKey
  /-- Columns with labels, in the order of the labels. -/
  enumLabels : List (String × String)

def StoredTable.baseTable : String := "BASE TABLE"

/-- **A database server.** It does not change while it is asked. Failing depends on the request and
not on how often it was made, so a request that is refused once is refused every time. -/
structure DatabaseServer where
  tables : List StoredTable
  /-- Whether connections can be encrypted. The certificate is one that no authority knows. -/
  encrypts : Bool
  /-- Why a client is turned away, if it is. -/
  turnsAway : Option DatabaseFault
  fails : Query → Option DatabaseFault

namespace DatabaseServer

/-- The base tables of a schema that a test accepts, by name and in order. Both requests for a list
of tables are answered so, with different tests. -/
def tableNames (server : DatabaseServer) (schema : String) (accepts : String → Bool) :
    List String :=
  ((server.tables.filter fun t =>
      t.schema = schema && t.kind = StoredTable.baseTable && accepts t.name).map
    StoredTable.name).mergeSort

def stored? (server : DatabaseServer) (schema table : String) : Option StoredTable :=
  server.tables.find? fun t => t.schema = schema && t.name = table

/-- What is known about a table, if nothing fails. A table that does not exist is described by
queries without rows: it has the name that was asked for, and no columns. -/
def table (server : DatabaseServer) (schema name : String) : Table :=
  match server.stored? schema name with
  | some t => ⟨name, t.columns, t.primaryKey, t.foreignKeys, .ofList t.enumLabels⟩
  | none => ⟨name, [], [], [], .empty⟩

/-- Whether a client that asks for some protection gets a connection. A certificate that must be
verified is refused by the client before the server can turn it away. -/
def receive (server : DatabaseServer) (mode : TlsMode) : Except DatabaseFault Unit :=
  if server.encrypts && mode.isVerified then
    .error (.handshake "invalid peer certificate: UnknownIssuer")
  else
    match server.turnsAway with
    | some fault => .error fault
    | none => .ok ()

end DatabaseServer

/-! ## Reaching a server -/

/-- **What a machine can reach**: for each place a server, or why there is none. Statements about a
program quantify over all networks; the one that a machine without a connection has is an
example. -/
structure Network where
  reach : Endpoint → Except SystemFault DatabaseServer

def SystemFault.lookupFailed : SystemFault :=
  .text "failed to lookup address information: Temporary failure in name resolution"

/-- The length in bytes from which on the path of a socket is refused. -/
def Network.socketPathLimit : Nat := 108

/-- Why nothing answers at the path of a socket, on a machine whose files are no sockets. -/
def SystemFault.noSocket (files : FileSystem) (path : String) : SystemFault :=
  if path.toList.contains '\x00' then .nulInSocketPath
  else if Network.socketPathLimit ≤ path.utf8ByteSize then .socketPathTooLong
  else
    match files.resolve path with
    | .error fault => fault
    | .ok ending => if (files.node? ending.location).isNone then .notFound else .connectionRefused

/-- Why a host is not reached by a machine that is connected to nothing: only its own name can be
looked up, and no route leads anywhere. -/
def SystemFault.noRoute (name : String) : SystemFault :=
  if name.toList.contains '\x00' then .nulInPath
  else if Endpoint.isNumeric name || name = "localhost" then .networkUnreachable
  else .lookupFailed

/-- **The network of a machine that is connected to nothing**: no host can be reached, and no server
listens at any of its files. -/
def Network.isolated (files : FileSystem) : Network where
  reach
    | .directory path port => .error (.noSocket files (Endpoint.socketPath path port))
    | .host name _ => .error (.noRoute name)

end CatalogEntities
