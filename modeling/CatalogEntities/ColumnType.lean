/-!
# `ColumnType.lean` — native column types and what they become

A native type name decides two things: the storage kind that the column decorator is given and
the TypeScript type of the property. Names that are not in the table lose nothing: the storage
kind is the native name and the property has type `any`.

The name is the one that the catalog reports for the column, without its length, and is compared as
it stands. So the answer is a function of the name, and a table cannot be wrong about its types:
there is no native type that has no column type.
-/

set_option autoImplicit false

namespace CatalogEntities

/-- **What a native type becomes.** -/
structure ColumnType where
  storage : String
  script : String
  deriving Repr, DecidableEq

namespace ColumnType

/-- The TypeScript type of columns whose native type is not known. -/
def unknownScript : String := "any"

def uuid : String := "uuid"

/-- The native types that are known. Large integers are strings, because they exceed what a
script number holds exactly. The last entry stands for all types that a database defines for itself;
enumerations are among them, but have labels and are told by those first. -/
def known : List (String × ColumnType) :=
  [ ("smallint", ⟨"smallint", "number"⟩),
    ("integer", ⟨"int", "number"⟩),
    ("bigint", ⟨"bigint", "string"⟩),
    ("numeric", ⟨"decimal", "number"⟩),
    ("real", ⟨"real", "number"⟩),
    ("double precision", ⟨"double precision", "number"⟩),
    ("character varying", ⟨"varchar", "string"⟩),
    ("character", ⟨"char", "string"⟩),
    ("text", ⟨"text", "string"⟩),
    ("boolean", ⟨"boolean", "boolean"⟩),
    ("timestamp with time zone", ⟨"timestamp with time zone", "Date"⟩),
    ("timestamp without time zone", ⟨"timestamp", "Date"⟩),
    ("date", ⟨"date", "Date"⟩),
    ("json", ⟨"json", "string"⟩),
    ("jsonb", ⟨"jsonb", "string"⟩),
    (uuid, ⟨"uuid", "string"⟩),
    ("USER-DEFINED", ⟨"enum", "string"⟩) ]

/-- **The column type of a native type name** (`map_type`). -/
def ofNative (native : String) : ColumnType :=
  (known.lookup native).getD ⟨native, unknownScript⟩

end ColumnType

end CatalogEntities
