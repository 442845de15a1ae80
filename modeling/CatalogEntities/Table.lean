import CatalogEntities.ColumnType
import CatalogEntities.DefaultValue
import CatalogEntities.Dictionary

/-!
# `Table.lean` — what the catalog knows about a table

A table is a snapshot: its columns in the order of the catalog, the names of its key columns, its
single-column foreign keys in the order in which they were found, and the labels of its
enumeration columns. Nothing here is normalised. Column names may repeat, keys may name columns
that do not exist, and one column may be the local side of several foreign keys; what that means
for an entity is decided where entities are built.

No database has such tables. But a table is also what is read from a file of data, and a catalog may
be anything that describes tables, so the program has an answer for all of them and the statements
about entities hold of all of them.
-/

set_option autoImplicit false

namespace CatalogEntities

/-- **A column**, as the catalog describes it. The default is the text of an expression and not a
value. The name of the underlying type is carried along and read by nothing. -/
structure Column where
  name : String
  dataType : String
  maxLength : Option Int32
  isNullable : Bool
  default : Option String
  udtName : String
  deriving Repr, DecidableEq

/-- Whether the default of a column takes its value from a sequence (`has_sequence_default`): a
marker occurs in its text, in whatever place. -/
def Column.hasSequenceDefault (c : Column) : Bool :=
  c.default.any fun text => Text.mentions text DefaultValue.sequenceMarker

/-- **A foreign key** of one column. A key over several columns is several of these, one for each
pair of columns, and nothing tells any more that they belong together. -/
structure ForeignKey where
  column : String
  refTable : String
  refColumn : String
  deriving Repr, DecidableEq

/-! ## Enumeration labels -/

/-- **The labels of enumeration columns**: for each column its labels, in the order in which they
came. A column that is in it has labels, or has been given an empty list of them, which is something
else than not being in it. -/
structure EnumLabels where
  byColumn : Dictionary (List String)

namespace EnumLabels

def empty : EnumLabels := ⟨Dictionary.empty⟩

instance : Inhabited EnumLabels := ⟨empty⟩

/-- One more label of a column (`push`), after those it has. Labels are not compared; one that comes
twice is there twice. -/
def push (labels : EnumLabels) (column label : String) : EnumLabels :=
  ⟨labels.byColumn.alter column fun old => old.getD [] ++ [label]⟩

/-- The labels that a list of pairs of column and label describes. -/
def ofList (pairs : List (String × String)) : EnumLabels :=
  pairs.foldl (fun labels (column, label) => labels.push column label) empty

/-- The labels of a column (`get`); none if no label was ever given for it. -/
def get? (labels : EnumLabels) (column : String) : Option (List String) :=
  labels.byColumn.find? column

def size (labels : EnumLabels) : Nat := labels.byColumn.entries.length

/-- Whether no column has labels. -/
def isEmpty (labels : EnumLabels) : Bool := labels.byColumn.entries.isEmpty

/-- A label is added behind the others of its column, and no other column notices. -/
theorem get?_push (labels : EnumLabels) (column label other : String) :
    (labels.push column label).get? other =
      if other = column then some ((labels.get? column).getD [] ++ [label])
      else labels.get? other :=
  Dictionary.find?_alter labels.byColumn column other _

end EnumLabels

/-! ## Tables -/

/-- **A table**, with all that the four queries of a catalog tell of it (`TableDescriptor`). -/
structure Table where
  name : String
  columns : List Column
  primaryKey : List String
  /-- The foreign keys in the order of discovery. -/
  foreignKeys : List ForeignKey
  enumLabels : EnumLabels
  deriving Inhabited

namespace Table

def isPrimary (t : Table) (column : String) : Bool := t.primaryKey.contains column

/-- The first foreign key with the given local column (`foreign_key_for`). The others of the column
are never asked for. -/
def foreignKeyFor (t : Table) (column : String) : Option ForeignKey :=
  t.foreignKeys.find? (·.column = column)

/-- **The enumeration labels of a column** (`enum_labels_for`); a foreign key column has none,
whatever is recorded. -/
def enumLabelsFor (t : Table) (column : String) : Option (List String) :=
  if (t.foreignKeyFor column).isSome then none else t.enumLabels.get? column

end Table

/-! ## How key columns get their values -/

/-- **Where the value of a key column comes from**: it is generated in one of two ways, or whoever
makes an entity has to say it. -/
inductive KeyStrategy
  | generatedUuid
  | generatedSequence
  | plain
  deriving Repr, DecidableEq

/-- **The strategy of a column** (`select`): an identifier type wins over any default, then a
sequence default counts, and everything else is left to the caller. The type is compared as it
stands, so only the one spelling of the catalog is an identifier type. -/
def KeyStrategy.select (c : Column) : KeyStrategy :=
  if c.dataType = ColumnType.uuid then .generatedUuid
  else if c.hasSequenceDefault then .generatedSequence
  else .plain

end CatalogEntities
