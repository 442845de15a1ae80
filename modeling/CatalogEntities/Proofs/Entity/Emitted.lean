import CatalogEntities.Entity.Source

/-!
# `Proofs/Entity/Emitted.lean` — what an entity is made of

A table says more than its entity does: concrete type names, referenced columns, the attributes of
columns that became relations. `Table.emitted` is what remains, field by field and in the words of
the catalog: native type names instead of what they become, default texts instead of what kind of
text they are.

`Entity.ofTable_eq_ofEmitted` says that nothing else goes into an entity. Whether the text of an
entity also shows all of it is another matter, see `Proofs/Entity/Determined.lean`.

The words are those of the catalog so that the two directions are not trivially one. A field holds
the storage kind and the property type that a native type becomes, and a default with the kind that
it was sorted into; what is told of it here holds the native type and the text. That the file tells
these as well means that neither the mapping of types nor the sorting of defaults loses anything.
-/

set_option autoImplicit false

namespace CatalogEntities

/-- **What an entity tells about a column or a relation.** -/
inductive EmittedField
  /-- A key column, where its values come from, and its property type. The property type stands for
  the native type here, since a generated key does not show the latter. -/
  | key (column : String) (strategy : KeyStrategy) (script : String)
  /-- An enumeration column with its labels. -/
  | choice (column : String) (labels : List String) (nullable : Bool)
  /-- Any other plain column with its native type and the default text that it keeps. -/
  | value (column dataType : String) (nullable : Bool) (maxLength : Option Int32)
      (default : Option String)
  /-- A relation: the column that holds it and the class that it leads to. -/
  | relation (column target : String)
  deriving Repr, DecidableEq

namespace EmittedField

/-- What is told of a key column. -/
def ofKey (c : Column) (s : KeyStrategy) : EmittedField := key c.name s (Field.keyScript c s)

/-- What is told of a plain column that is no key. -/
def ofColumn (t : Table) (c : Column) : EmittedField :=
  match t.enumLabelsFor c.name with
  | some labels => choice c.name labels c.isNullable
  | none =>
      value c.name c.dataType c.isNullable c.maxLength
        ((DefaultValue.ofPlainColumn c.default).map (·.raw))

/-- What is told of a relation. -/
def ofRelation (r : Relation) : EmittedField := relation r.column r.target

/-- The relation that a field stands for, if it does. The name of its property is not told but
computed from the column, as the suffix is part of the settings. -/
def relation? (referenceSuffix : String) : EmittedField → Option Relation
  | relation column target => some ⟨Relation.propertyName referenceSuffix column, target, column⟩
  | _ => none

/-- **The field that is made of what is told.** -/
def field (referenceSuffix : String) : EmittedField → Field
  | key column strategy script => .key column strategy script
  | choice column labels nullable => .choice column labels nullable
  | value column dataType nullable maxLength default =>
      .value column (ColumnType.ofNative dataType) nullable maxLength
        (default.map DefaultValue.classify)
  | relation column target =>
      .relation ⟨Relation.propertyName referenceSuffix column, target, column⟩

end EmittedField

/-- **What the entity of a table tells**: its key columns, its other plain columns and its
relations, each group in the order of the table. -/
def Table.emitted (settings : GeneratorSettings) (t : Table) : List EmittedField :=
  let r := Resolution.ofTable settings.referenceSuffix t
  let strategies := r.keyStrategies t
  r.plain.filterMap (fun c => (strategies.find? c.name).map (EmittedField.ofKey c))
    ++ (r.plain.filter fun c => (strategies.find? c.name).isNone).map (EmittedField.ofColumn t)
    ++ r.relations.map EmittedField.ofRelation

/-- The entity that is made of a table's name and what is told of its fields. -/
def Entity.ofEmitted (settings : GeneratorSettings) (name : String)
    (fields : List EmittedField) : Entity :=
  { table := name
    className := Naming.className name
    imports :=
      related (Naming.className name)
        (fields.filterMap (EmittedField.relation? settings.referenceSuffix))
    moduleSuffix := moduleSuffixOf settings.fileSuffix
    fields := fields.map (EmittedField.field settings.referenceSuffix) }

/-! ## Nothing else goes into an entity -/

namespace EmittedField

/-- Telling a column and making a field of that is making the field of the column. The default comes
back since sorting a text keeps it. -/
theorem field_ofColumn (referenceSuffix : String) (t : Table) (c : Column) :
    (ofColumn t c).field referenceSuffix = Field.ofColumn t c := by
  unfold ofColumn Field.ofColumn
  cases t.enumLabelsFor c.name with
  | some labels => rfl
  | none =>
    have hdefault : ((DefaultValue.ofPlainColumn c.default).map (·.raw)).map DefaultValue.classify
        = DefaultValue.ofPlainColumn c.default := by
      unfold DefaultValue.ofPlainColumn
      cases c.default with
      | none => rfl
      | some text =>
        rw [Option.bind_some]
        split
        · rfl
        · rw [Option.map_some, Option.map_some, DefaultValue.raw_classify]
    show Field.value _ _ _ _ _ = _
    rw [hdefault]

theorem relation?_ofColumn (referenceSuffix : String) (t : Table) (c : Column) :
    (ofColumn t c).relation? referenceSuffix = none := by
  unfold ofColumn
  cases t.enumLabelsFor c.name <;> rfl

end EmittedField

namespace Table

/-- The relations of an entity are those of its table. -/
theorem filterMap_relation?_emitted (settings : GeneratorSettings) (t : Table) :
    (t.emitted settings).filterMap (EmittedField.relation? settings.referenceSuffix) =
      (Resolution.ofTable settings.referenceSuffix t).relations := by
  -- of the three groups the first two hold no relations, the third nothing else
  have hkeys : ∀ (cs : List Column) (strategies : Dictionary KeyStrategy),
      (cs.filterMap fun c => (strategies.find? c.name).map (EmittedField.ofKey c)).filterMap
        (EmittedField.relation? settings.referenceSuffix) = [] := by
    intro cs strategies
    rw [List.filterMap_filterMap, List.filterMap_eq_nil_iff]
    intro c _
    cases strategies.find? c.name <;> rfl
  have hothers : ∀ cs : List Column, (cs.map (EmittedField.ofColumn t)).filterMap
      (EmittedField.relation? settings.referenceSuffix) = [] := by
    intro cs
    rw [List.filterMap_map, List.filterMap_eq_nil_iff]
    exact fun c _ => EmittedField.relation?_ofColumn settings.referenceSuffix t c
  have hrelations : ∀ fks : List ForeignKey,
      ((fks.map (Relation.ofForeignKey settings.referenceSuffix)).map
        EmittedField.ofRelation).filterMap (EmittedField.relation? settings.referenceSuffix) =
        fks.map (Relation.ofForeignKey settings.referenceSuffix) := by
    intro fks
    rw [List.filterMap_map, List.filterMap_map, ← List.filterMap_eq_map]
    rfl
  unfold emitted
  rw [List.filterMap_append, List.filterMap_append, hkeys, hothers]
  exact hrelations _

/-- The fields of an entity are made of what is told of them. -/
theorem map_field_emitted (settings : GeneratorSettings) (t : Table) :
    (t.emitted settings).map (EmittedField.field settings.referenceSuffix) =
      Entity.fieldsOf t (Resolution.ofTable settings.referenceSuffix t) := by
  unfold emitted Entity.fieldsOf
  simp only [List.map_append, List.map_filterMap, List.map_map]
  congr 1
  · congr 1
    · refine congrArg (List.filterMap · _) (funext fun c => ?_)
      rw [Option.map_map]
      rfl
    · exact List.map_congr_left fun c _ =>
        EmittedField.field_ofColumn settings.referenceSuffix t c
  · unfold Resolution.ofTable
    rw [List.map_map, List.map_map]
    rfl

end Table

/-- **An entity is made of its table's name and what is told of its fields.** -/
theorem Entity.ofTable_eq_ofEmitted (settings : GeneratorSettings) (t : Table) :
    ofTable settings t = ofEmitted settings t.name (t.emitted settings) := by
  unfold ofTable ofEmitted
  rw [t.filterMap_relation?_emitted settings, t.map_field_emitted settings]

end CatalogEntities
