import CatalogEntities.Naming
import CatalogEntities.Table

/-!
# `Relation.lean` — columns that become relations

A column that is the local side of a foreign key is not a value of its own: it is lifted out of
the columns and becomes one many-to-one relation, whose name is the column's without the reference
suffix. A column under several foreign keys still yields one relation, that of the first.

`Resolution.ofTable` splits a table accordingly. Nothing is done about relations whose property
names clash, with each other or with a column.

Columns and foreign keys come from two queries, so neither need know of the other. A foreign key
whose column is not among the columns still becomes a relation, and of columns with one name either
all are lifted out or none is.
-/

set_option autoImplicit false

namespace CatalogEntities

/-- **A many-to-one relation**: the property, the class that it leads to, and the column that is
joined on. The column that is referred to is not part of it; an entity joins on the key. -/
structure Relation where
  property : String
  target : String
  column : String
  deriving Repr, DecidableEq

namespace Relation

/-- **The property name for a foreign key column** (`relation_property`): the suffix is taken off
its end, unless there is no suffix or nothing would be left. It is taken off once, so `a_id_id`
becomes `a_id`, and two columns may end up with one property. -/
def propertyName (suffix column : String) : String :=
  match Text.withoutEnding? suffix column with
  | some stem => if suffix = "" ∨ stem = "" then column else stem
  | none => column

def ofForeignKey (suffix : String) (fk : ForeignKey) : Relation :=
  ⟨propertyName suffix fk.column, Naming.className fk.refTable, fk.column⟩

end Relation

/-- Of the foreign keys of each column the first, in their order. A key over several columns has an
entry for each of them and so becomes several relations. -/
def firstOfEachColumn : List ForeignKey → List ForeignKey
  | [] => []
  | fk :: rest => fk :: (firstOfEachColumn rest).filter (·.column ≠ fk.column)

/-- **A table's columns, split** into plain ones and relations. -/
structure Resolution where
  /-- The columns under no foreign key, in catalog order. -/
  plain : List Column
  /-- The relations, in the order in which their foreign keys were found. -/
  relations : List Relation

/-- **Splits a table** (`resolve`). What a column is called is all that decides on which side it
comes to stand. -/
def Resolution.ofTable (suffix : String) (t : Table) : Resolution :=
  ⟨t.columns.filter fun c => (t.foreignKeyFor c.name).isNone,
    (firstOfEachColumn t.foreignKeys).map (Relation.ofForeignKey suffix)⟩

/-- **The strategies of the key columns among the plain ones** (`primary_key_strategies`). A key
column under a foreign key has none: it is a relation and nothing else. Of columns with one name the
last decides, for all of them. -/
def Resolution.keyStrategies (r : Resolution) (t : Table) : Dictionary KeyStrategy :=
  Dictionary.ofList
    ((r.plain.filter fun c => t.isPrimary c.name).map fun c => (c.name, KeyStrategy.select c))

end CatalogEntities
