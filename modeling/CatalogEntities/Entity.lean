import CatalogEntities.Relation
import CatalogEntities.Settings

/-!
# `Entity.lean` — the entity that a table becomes

Between a table and the text of its entity file stands the **entity**: the class, what it imports
and its fields, with every decision taken. The fields stand in a fixed order, first the key
columns, then the other plain columns, then the relations, each group in the order of the table.

A column is a key field if the strategies know its name, a choice field if it has enumeration
labels, and a value field otherwise; the labels win over the native type and the key wins over
both.

The entity is not a stage of the program, which goes from the table to the text in one pass. It is
set apart here so that what is decided and how it is written down can be spoken of separately: two
tables with the same entity have the same file, and what a file says is what its entity says.
-/

set_option autoImplicit false

namespace CatalogEntities

/-- **A field of an entity class.** The four kinds are those of decorators; each carries what its
decorator and its declaration are written with, and nothing that was decided on the way there. -/
inductive Field
  | key (column : String) (strategy : KeyStrategy) (script : String)
  | choice (column : String) (labels : List String) (nullable : Bool)
  | value (column : String) (type : ColumnType) (nullable : Bool) (maxLength : Option Int32)
      (default : Option DefaultValue)
  | relation (relation : Relation)
  deriving Repr, DecidableEq

namespace Field

/-- The property type of a key column: generated keys have the type of what generates them, whatever
the column is declared as. -/
def keyScript (c : Column) : KeyStrategy → String
  | .generatedUuid => "string"
  | .generatedSequence => "number"
  | .plain => (ColumnType.ofNative c.dataType).script

/-- The field of a plain column that is no key. A column with labels has no default and no length:
what the labels are is all that is said of it. -/
def ofColumn (t : Table) (c : Column) : Field :=
  match t.enumLabelsFor c.name with
  | some labels => choice c.name labels c.isNullable
  | none =>
      value c.name (ColumnType.ofNative c.dataType) c.isNullable c.maxLength
        (DefaultValue.ofPlainColumn c.default)

end Field

/-- **An entity**: everything that its file says, in the order in which it says it. -/
structure Entity where
  table : String
  className : String
  /-- The classes of other entities that it refers to, each once, in the order of its relations. -/
  imports : List String
  moduleSuffix : String
  fields : List Field
  deriving Repr, DecidableEq

namespace Entity

/-- **The classes that relations refer to** (`related_types`), without the class itself. They are
compared as class names and not as tables, since it is the class that an import binds. -/
def related (className : String) (relations : List Relation) : List String :=
  ((relations.map Relation.target).filter (· ≠ className)).eraseDups

/-- **The fields of an entity** (`entity_fields`), in their order. The strategy of a key field is
looked up by the name of its column, so that columns of one name have one strategy. -/
def fieldsOf (t : Table) (r : Resolution) : List Field :=
  let strategies := r.keyStrategies t
  -- one list is gone through twice, so that keys come first and both keep the order of the table
  r.plain.filterMap (fun c =>
      (strategies.find? c.name).map fun s => Field.key c.name s (Field.keyScript c s))
    ++ (r.plain.filter fun c => (strategies.find? c.name).isNone).map (Field.ofColumn t)
    ++ r.relations.map Field.relation

/-- A module is imported without the `.ts` of its file. Files of another kind are imported under
their whole name. -/
def moduleSuffixOf (fileSuffix : String) : String :=
  (Text.withoutEnding? ".ts" fileSuffix).getD fileSuffix

/-- **The entity of a table.** -/
def ofTable (settings : GeneratorSettings) (t : Table) : Entity :=
  let r := Resolution.ofTable settings.referenceSuffix t
  -- the name is not checked against the decorators that every file imports
  let name := Naming.className t.name
  { table := t.name
    className := name
    imports := related name r.relations
    moduleSuffix := moduleSuffixOf settings.fileSuffix
    fields := fieldsOf t r }

end Entity

end CatalogEntities
