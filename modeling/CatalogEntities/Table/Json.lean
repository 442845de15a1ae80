import CatalogEntities.Json.Decode
import CatalogEntities.Table

/-!
# `Table/Json.lean` — tables as structured data

A table is an object with the fields of a table, and so are its columns and foreign keys; the labels
are an object from column names to lists of labels. What is written back always has every field,
with null for what a column does not have.

Nothing has a default here except what a column may lack. Labels are read into a
dictionary, so of a column that is named twice the later list counts.
-/

set_option autoImplicit false

namespace CatalogEntities

open CatalogEntities.Shape (Fault)
open CatalogEntities.Json

namespace Column

def shape : String := "struct ColumnDescriptor with 6 elements"

def toJson (c : Column) : Json :=
  .object
    [ ("name", .string c.name),
      ("data_type", .string c.dataType),
      ("max_length", .orNull (fun n => .integer n.toInt) c.maxLength),
      ("is_nullable", .bool c.isNullable),
      ("default", .orNull .string c.default),
      ("udt_name", .string c.udtName) ]

/-- **A column** from an object or an array. Only the two fields that may be null may also be
missing from an object; in an array nothing may. -/
def ofJson : Json.Decoder Column
  | .object fields => do
      let m := members fields
      let dataType ← field m "data_type" decodeString
      let default ← field m "default" (decodeOption decodeString)
      let isNullable ← field m "is_nullable" decodeBool
      let maxLength ← field m "max_length" (decodeOption decodeSigned32)
      let name ← field m "name" decodeString
      let udtName ← field m "udt_name" decodeString
      let name ← required "name" name
      let dataType ← required "data_type" dataType
      let isNullable ← required "is_nullable" isNullable
      let udtName ← required "udt_name" udtName
      return ⟨name, dataType, maxLength.getD none, isNullable, default.getD none, udtName⟩
  | .array items => do
      let name ← element items 0 shape decodeString
      let dataType ← element items 1 shape decodeString
      let maxLength ← element items 2 shape (decodeOption decodeSigned32)
      let isNullable ← element items 3 shape decodeBool
      let default ← element items 4 shape (decodeOption decodeString)
      let udtName ← element items 5 shape decodeString
      noneBeyond items 6
      return ⟨name, dataType, maxLength, isNullable, default, udtName⟩
  | value => value.refuse "struct ColumnDescriptor"

end Column

namespace ForeignKey

def shape : String := "struct ForeignKeyDescriptor with 3 elements"

def toJson (fk : ForeignKey) : Json :=
  .object
    [ ("column", .string fk.column),
      ("ref_table", .string fk.refTable),
      ("ref_column", .string fk.refColumn) ]

/-- **A foreign key** from an object or an array. -/
def ofJson : Json.Decoder ForeignKey
  | .object fields => do
      let m := members fields
      let column ← field m "column" decodeString
      let refColumn ← field m "ref_column" decodeString
      let refTable ← field m "ref_table" decodeString
      let column ← required "column" column
      let refTable ← required "ref_table" refTable
      let refColumn ← required "ref_column" refColumn
      return ⟨column, refTable, refColumn⟩
  | .array items => do
      let column ← element items 0 shape decodeString
      let refTable ← element items 1 shape decodeString
      let refColumn ← element items 2 shape decodeString
      noneBeyond items 3
      return ⟨column, refTable, refColumn⟩
  | value => value.refuse "struct ForeignKeyDescriptor"

end ForeignKey

namespace EnumLabels

def toJson (labels : EnumLabels) : Json :=
  .object (labels.byColumn.mapValues Json.strings).entries

/-- **Labels** from an object of lists, with an entry for every name in the object, also where its
list is empty. -/
def ofJson : Json.Decoder EnumLabels := fun value =>
  (decodeMap (decodeList decodeString) value).map fun pairs => ⟨Dictionary.ofList pairs⟩

end EnumLabels

namespace Table

def shape : String := "struct TableDescriptor with 5 elements"

def toJson (t : Table) : Json :=
  .object
    [ ("name", .string t.name),
      ("columns", .array (t.columns.map Column.toJson)),
      ("primary_key", .strings t.primaryKey),
      ("foreign_keys", .array (t.foreignKeys.map ForeignKey.toJson)),
      ("enum_labels", t.enumLabels.toJson) ]

/-- **A table** from an object or an array. That its key and its foreign keys name columns which it
has is not asked here; the renderer has to cope with those that do not. -/
def ofJson : Json.Decoder Table
  | .object fields => do
      let m := members fields
      let columns ← field m "columns" (decodeList Column.ofJson)
      let enumLabels ← field m "enum_labels" EnumLabels.ofJson
      let foreignKeys ← field m "foreign_keys" (decodeList ForeignKey.ofJson)
      let name ← field m "name" decodeString
      let primaryKey ← field m "primary_key" (decodeList decodeString)
      let name ← required "name" name
      let columns ← required "columns" columns
      let primaryKey ← required "primary_key" primaryKey
      let foreignKeys ← required "foreign_keys" foreignKeys
      let enumLabels ← required "enum_labels" enumLabels
      return ⟨name, columns, primaryKey, foreignKeys, enumLabels⟩
  | .array items => do
      let name ← element items 0 shape decodeString
      let columns ← element items 1 shape (decodeList Column.ofJson)
      let primaryKey ← element items 2 shape (decodeList decodeString)
      let foreignKeys ← element items 3 shape (decodeList ForeignKey.ofJson)
      let enumLabels ← element items 4 shape EnumLabels.ofJson
      noneBeyond items 5
      return ⟨name, columns, primaryKey, foreignKeys, enumLabels⟩
  | value => value.refuse "struct TableDescriptor"

end Table

end CatalogEntities
