/-!
# `Database/Query.lean` — what is asked of a database

A run asks a database few things: whether it answers, which tables there are, and four things about
each table. All of them read only, and all values that vary are parameters of a request, never part
of its text. So a request is known by its kind and its parameters, and no name of a table can change
what is asked.

The text of a request is the business of the client that sends it. What a request is answered with
is said where servers are, and in the statements about system tables, join by join.
-/

set_option autoImplicit false

namespace CatalogEntities

/-- **The queries that describe a table.** The program sends them together on one connection. A
session asks them in this order and reports the first that fails; what is proved of catalogs over a
database allows a failure of any of them to be the one that is reported. -/
inductive TableQuery
  /-- The columns with their types and defaults, in the order of the table. -/
  | columns
  /-- The names of the key columns, in key order. -/
  | primaryKey
  /-- The columns of foreign keys with the column that each refers to, by constraint and then by
  the place in the constraint. -/
  | foreignKeys
  /-- The labels of enumeration columns, in their order. -/
  | enumLabels
  deriving Repr, DecidableEq

/-- The words by which a failure names a query. The text of a query is never shown. -/
def TableQuery.name : TableQuery → String
  | columns => "columns"
  | primaryKey => "primary key"
  | foreignKeys => "foreign keys"
  | enumLabels => "enum labels"

/-- **A request to a database**, with the values of its parameters. -/
inductive Query
  /-- Whether the database answers at all: the request that is made before any other. -/
  | probe
  /-- All base tables of a schema but the named ones. -/
  | listAll (schema : String) (names : List String)
  /-- Those of the named base tables that a schema has. -/
  | listRequested (schema : String) (names : List String)
  | describe (query : TableQuery) (schema table : String)
  deriving Repr, DecidableEq

end CatalogEntities
