import CatalogEntities.Entity

/-!
# `Entity/Source.lean` — the source text of an entity

One entity is one file: a header, the decorators' import, one import for each related class, an
empty line and the class with its fields. Every line ends with a line feed; an empty line stands
between fields.

Names, labels and expressions are quoted where the text wants a literal. A default that counts as
a literal is written as it stands.

What is quoted cannot end its own literal, but a line feed in it is written as a line feed. That is
the one way in which a name can change the lines of a file, and the statements about lines say for
each file how many it has.
-/

set_option autoImplicit false

namespace CatalogEntities

open CatalogEntities.Text

/-- The options of a decorator, in braces. There is always at least the name, so no empty pair of
braces is written. -/
def objectLiteral (entries : List String) : String :=
  "\x7b " ++ ", ".intercalate entries ++ " \x7d"

/-- The value of a default option (`default_option`): a literal as it stands, anything else as a
function that returns the expression for the database to evaluate. -/
def DefaultValue.source (d : DefaultValue) : String :=
  if d.kind.isLiteral then d.raw else "() => " ++ doubleQuoted d.raw

namespace Field

/-- The entry that tells the name of the column, which every field has. The property may be called
otherwise, and need not be an identifier. -/
def nameEntry (column : String) : String := "name: " ++ singleQuoted column

/-- The entry of a column that accepts null, if it does. -/
def nullableEntry (nullable : Bool) : List String := if nullable then ["nullable: true"] else []

/-- A property type that also admits null, if it does. -/
def orNull (script : String) (nullable : Bool) : String :=
  if nullable then script ++ " | null" else script

/-- The decorator of a key column (`primary_key_field`). Only a key that nobody generates is a
`PrimaryColumn`; no decorator of a key says whether null is allowed. -/
def keyDecorator (column : String) : KeyStrategy → String
  | .generatedUuid => "@PrimaryGeneratedColumn('uuid', " ++ objectLiteral [nameEntry column] ++ ")"
  | .generatedSequence => "@PrimaryGeneratedColumn(" ++ objectLiteral [nameEntry column] ++ ")"
  | .plain => "@PrimaryColumn(" ++ objectLiteral [nameEntry column] ++ ")"

/-- The declaration of a property below its decorators. -/
def declaration (name script : String) : String := Naming.propertyKey name ++ ": " ++ script ++ ";"

/-- **The lines of a field** (`primary_key_field`, `enum_field`, `column_field`, `relation_field`):
its decorators and its declaration. Each kind writes its options in one fixed order, the name first.
A choice writes its labels twice, as options for the database and as the union that is the type of
the property. -/
def lines : Field → List String
  | key column strategy script =>
      [keyDecorator column strategy, declaration column script]
  | choice column labels nullable =>
      let quoted := labels.map doubleQuoted
      let entries :=
        nameEntry column :: ("enum: [" ++ ", ".intercalate quoted ++ "]") :: nullableEntry nullable
      [ "@Column('enum', " ++ objectLiteral entries ++ ")",
        declaration column (orNull (" | ".intercalate quoted) nullable) ]
  | value column type nullable maxLength default =>
      let entries :=
        nameEntry column :: nullableEntry nullable
          ++ (maxLength.map fun n => "length: " ++ toString n.toInt).toList
          ++ (default.map fun d => "default: " ++ d.source).toList
      [ "@Column(" ++ singleQuoted type.storage ++ ", " ++ objectLiteral entries ++ ")",
        declaration column (orNull type.script nullable) ]
  | relation r =>
      [ "@ManyToOne(() => " ++ r.target ++ ")",
        "@JoinColumn(" ++ objectLiteral [nameEntry r.column] ++ ")",
        declaration r.property r.target ]

/-- The text of a field, indented inside its class. -/
def source (f : Field) : String := String.join (f.lines.map fun line => "  " ++ line ++ "\n")

end Field

namespace Entity

/-- The first line of every file. -/
def header : String :=
  "// Generated by pg-entitygen from the database catalog. Manual edits are overwritten."

def decoratorImport : String :=
  "import \x7b Entity, PrimaryGeneratedColumn, PrimaryColumn, Column, ManyToOne, JoinColumn \x7d "
    ++ "from 'typeorm';"

/-- The import of one related class, from the module beside this one that bears its name. -/
def importLine (moduleSuffix name : String) : String :=
  "import \x7b " ++ name ++ " \x7d from " ++ singleQuoted ("./" ++ name ++ moduleSuffix) ++ ";"

/-- The lines before the class body, its first line included. -/
def headLines (e : Entity) : List String :=
  [header, decoratorImport] ++ e.imports.map (importLine e.moduleSuffix)
    ++ ["", "@Entity(" ++ singleQuoted e.table ++ ")", "export class " ++ e.className ++ " \x7b"]

/-- **The source text of an entity** (`render_entity`). The head ends with a line feed and every
field does, so joining the fields with line feeds puts an empty line between them; a class without
fields is closed on the line below its name. -/
def source (e : Entity) : String :=
  String.join (e.headLines.map (· ++ "\n"))
    ++ "\n".intercalate (e.fields.map Field.source) ++ "\x7d\n"

end Entity

/-- **An entity file**: its name in the output directory and its contents. The table goes along for
the report, in which files are known by their tables. -/
structure EntityFile where
  table : String
  name : String
  contents : String
  deriving Repr, DecidableEq

/-- **The entity file of a table** (`emit_entity`). Of the settings only the two suffixes matter,
and nothing else of the run: no clock, no other table, no earlier file. -/
def EntityFile.ofTable (settings : GeneratorSettings) (t : Table) : EntityFile :=
  ⟨t.name, Naming.fileName t.name settings.fileSuffix, (Entity.ofTable settings t).source⟩

end CatalogEntities
