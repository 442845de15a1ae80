import CatalogEntities.Failure
import CatalogEntities.Log
import CatalogEntities.Table

/-!
# `Catalog.lean` — where tables are looked up

A catalog lists the tables of a request and describes them one by one. A run asks nothing else of
it, so that a run over a database and a run over tables held in memory are the same run, and a
statement about runs is made once, for every catalog.

What a catalog has to answer is said here too: `TableSet.select` is the listing of a catalog whose
existing tables are known. A catalog that follows it is what the statements about listings ask for;
one that does not is still a catalog, and a run over it is still defined.
-/

set_option autoImplicit false

namespace CatalogEntities

/-! ## Listings -/

/-- **The tables found for a request**, and those asked for in vain. The two are told apart by the
listing and not by the run, so that a table that vanishes between listing and description is a
failure and never a missing table. -/
structure TableSet where
  /-- Existing tables, in the order of the listing. -/
  found : List String
  /-- Names asked for that do not exist, each once, in the order of the request. -/
  missing : List String
  deriving Repr, DecidableEq

/-- The listing of a request for the given names, of which `existing` were found (`partition`). -/
def TableSet.partition (requested existing : List String) : TableSet :=
  ⟨existing, (requested.filter fun name => !existing.contains name).eraseDups⟩

/-- **The tables of a request** among the names that exist, which are in order. An empty request
asks for all tables but the excluded ones, and nothing can be missing from it; for any other
request the excluded names do not matter. -/
def TableSet.select (names requested excluded : List String) : TableSet :=
  if requested.isEmpty then ⟨names.filter fun name => !excluded.contains name, []⟩
  else .partition requested (names.filter requested.contains)

/-! ## Catalogs -/

/-- **A catalog.** Both questions may fail, each with a failure of the catalog's own choice. What
was answered before does not matter to an answer: a catalog is a value, and a database that changes
during a run is outside of what is said here. -/
structure Catalog where
  /-- What kind of catalog it is, in one word. -/
  kind : String
  /-- The tables of a request. An empty request asks for all tables but the excluded ones; for any
  other request the excluded names do not matter. -/
  list : (requested excluded : List String) → Except Failure TableSet
  /-- Everything that is known about one table, by its name. -/
  describe : String → Except Failure Table
  /-- What the catalog tells its reader when it has described a table. -/
  notice : Table → List LogLine

end CatalogEntities
