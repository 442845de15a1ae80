import CatalogEntities.Catalog

/-!
# `Catalog/Memory.lean` — tables held in memory

A catalog of given tables. Parts of it can be broken: a table that is broken is listed but cannot
be described, and a broken listing fails as a whole, both with a message of their own.

It stands in for a database wherever a run is to be seen at work: it is a catalog by the same
definition, answers the same questions, and everything that is proved of catalogs holds of it. The
examples in this library are runs over such catalogs.
-/

set_option autoImplicit false

namespace CatalogEntities

/-- **Tables held in memory**, under their names. A table may be kept under another name than its
own; it is then listed under the one and describes itself by the other. -/
structure MemoryCatalog where
  tables : Dictionary Table
  /-- The tables that cannot be described, with the messages. -/
  broken : Dictionary String
  /-- The message with which listing fails, if it does. -/
  brokenList : Option String

namespace MemoryCatalog

/-- The catalog of some tables, each under its own name; of two with one name the later counts. -/
def ofTables (tables : List Table) : MemoryCatalog :=
  ⟨.ofList (tables.map fun t => (t.name, t)), .empty, none⟩

def failure (message : String) : Failure := .settings (.other message)

def list (c : MemoryCatalog) (requested excluded : List String) : Except Failure TableSet :=
  match c.brokenList with
  | some message => .error (failure message)
  | none => .ok (.select c.tables.names requested excluded)

def describe (c : MemoryCatalog) (name : String) : Except Failure Table :=
  match c.broken.find? name, c.tables.find? name with
  | some message, _ => .error (failure message)
  | none, some t => .ok t
  | none, none => .error (failure ("unknown table " ++ name))

/-- **The catalog of tables held in memory.** -/
def catalog (c : MemoryCatalog) : Catalog := ⟨"memory", c.list, c.describe, fun _ => []⟩

end MemoryCatalog

end CatalogEntities
