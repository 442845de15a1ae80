import CatalogEntities.Proofs.Entity.Fields

/-!
# `Proofs/Entity/Keys.lean` — which columns keep their key

The key of a table and its references are separate lists, and a column may be in both: the columns
of a join table usually are. A reference becomes a relation, whatever else it is, and a relation has
no primary decorator. So not every key column keeps its key, and a table whose key is made of
references has an entity without any (`Entity.not_all_keys_kept`).

What does hold is `Entity.keepsKeys`: the fields with a primary decorator are those of the key
columns that are no references, one for each and in their order. A field is known to be primary by
its lines alone (`Field.isPrimary_iff`), and that is by their first two characters.

Being primary is defined on what is written and not on the constructor of a field, since it is the
written decorator that makes a column part of the key for whoever loads the entity. A field that was
built as a key field and printed without a decorator would not count.
-/

set_option autoImplicit false

namespace CatalogEntities

open CatalogEntities.Text

/-- **A primary decorator that names a column.** There are three of them, one for each strategy that
`primary_key_field` can write, and all have the name of the column as their last option. -/
def NamesKey (column line : String) : Prop :=
  line = "@PrimaryGeneratedColumn('uuid', \x7b name: " ++ singleQuoted column ++ " \x7d)" ∨
    line = "@PrimaryGeneratedColumn(\x7b name: " ++ singleQuoted column ++ " \x7d)" ∨
    line = "@PrimaryColumn(\x7b name: " ++ singleQuoted column ++ " \x7d)"

instance (column line : String) : Decidable (NamesKey column line) :=
  inferInstanceAs (Decidable (_ ∨ _))

namespace Field

/-- Whether a primary decorator among the lines of a field names its column. -/
def IsPrimary (f : Field) : Prop := ∃ line ∈ f.lines, NamesKey f.column line

instance : DecidablePred IsPrimary := fun f =>
  inferInstanceAs (Decidable (∃ line ∈ f.lines, NamesKey f.column line))

/-! ## Telling primary decorators from other lines -/

/-- A decorator whose only option is a name. -/
theorem decorator_name (opening column : String) :
    opening ++ objectLiteral [nameEntry column] ++ ")" =
      opening ++ "\x7b name: " ++ singleQuoted column ++ " \x7d)" := by
  have hclose : " \x7d)" = " \x7d" ++ ")" := by decide
  have hopen : "\x7b name: " = "\x7b " ++ "name: " := by decide
  rw [objectLiteral, nameEntry, String.intercalate_singleton, hclose, hopen]
  simp only [String.append_assoc]

/-- Each strategy writes a primary decorator that names the column. -/
theorem namesKey_keyDecorator (column : String) (s : KeyStrategy) :
    NamesKey column (keyDecorator column s) := by
  cases s with
  | generatedUuid =>
    have hopen : "@PrimaryGeneratedColumn('uuid', \x7b name: " =
        "@PrimaryGeneratedColumn('uuid', " ++ "\x7b name: " := by decide
    left
    show "@PrimaryGeneratedColumn('uuid', " ++ objectLiteral [nameEntry column] ++ ")" = _
    rw [decorator_name, hopen]
  | generatedSequence =>
    have hopen : "@PrimaryGeneratedColumn(\x7b name: " =
        "@PrimaryGeneratedColumn(" ++ "\x7b name: " := by decide
    right
    left
    show "@PrimaryGeneratedColumn(" ++ objectLiteral [nameEntry column] ++ ")" = _
    rw [decorator_name, hopen]
  | plain =>
    have hopen : "@PrimaryColumn(\x7b name: " = "@PrimaryColumn(" ++ "\x7b name: " := by decide
    right
    right
    show "@PrimaryColumn(" ++ objectLiteral [nameEntry column] ++ ")" = _
    rw [decorator_name, hopen]

/-- A primary decorator begins as no other line does. Two characters are enough: of the other
decorators none begins with a `P`, and a declaration does not begin with `@`. -/
theorem take_of_namesKey {column line : String} (h : NamesKey column line) :
    line.toList.take 2 = ['@', 'P'] := by
  rcases h with rfl | rfl | rfl
  all_goals
    simp only [String.toList_append, List.append_assoc]
    rfl

theorem not_namesKey_append {opening : String} (hlong : 2 ≤ opening.toList.length)
    (hstart : opening.toList.take 2 ≠ ['@', 'P']) (column rest : String) :
    ¬ NamesKey column (opening ++ rest) := by
  intro h
  have htake := take_of_namesKey h
  rw [String.toList_append, List.take_append_of_le_length hlong] at htake
  exact hstart htake

/-- A declaration begins with an identifier or with a quote. -/
theorem not_namesKey_declaration (column name script : String) :
    ¬ NamesKey column (declaration name script) := by
  intro h
  have hstart := take_of_namesKey h
  unfold declaration Naming.propertyKey at hstart
  simp only [String.toList_append, List.append_assoc] at hstart
  -- a property key is bare or quoted, and an `@` can begin neither
  split at hstart
  · rename_i hidentifier
    cases hname : name.toList with
    | nil =>
      rw [hname] at hidentifier
      exact Bool.noConfusion hidentifier
    | cons first others =>
      rw [hname] at hstart hidentifier
      obtain rfl : first = '@' := (List.cons.inj hstart).1
      exact Bool.noConfusion hidentifier
  · rw [toList_singleQuoted] at hstart
    exact absurd (List.cons.inj hstart).1 (by decide)

/-- Of the lines of a field only the decorator of a key is a primary decorator. The cases are the
constructors of a field, and in each of them the lines one after the other: decorators by what they
open with, the declaration by what it cannot begin with. -/
theorem not_namesKey_of_mem {f : Field} (hf : ∀ column s script, f ≠ .key column s script)
    {line : String} (hline : line ∈ f.lines) (column : String) : ¬ NamesKey column line := by
  cases f with
  | key column s script => exact absurd rfl (hf column s script)
  | choice name labels nullable =>
    rcases List.mem_cons.1 hline with rfl | hline
    · rw [String.append_assoc]
      exact not_namesKey_append (by decide) (by decide) column _
    · rw [List.mem_singleton.1 hline]
      exact not_namesKey_declaration _ _ _
  | value name type nullable maxLength default =>
    rcases List.mem_cons.1 hline with rfl | hline
    · simp only [String.append_assoc]
      exact not_namesKey_append (by decide) (by decide) column _
    · rw [List.mem_singleton.1 hline]
      exact not_namesKey_declaration _ _ _
  | relation r =>
    rcases List.mem_cons.1 hline with rfl | hline
    · rw [String.append_assoc]
      exact not_namesKey_append (by decide) (by decide) column _
    rcases List.mem_cons.1 hline with rfl | hline
    · rw [String.append_assoc]
      exact not_namesKey_append (by decide) (by decide) column _
    · rw [List.mem_singleton.1 hline]
      exact not_namesKey_declaration _ _ _

/-- **A field is primary if it is a key field**, and no other field is. This takes the definition by
lines back to the constructors, which is what the filters below work with. -/
theorem isPrimary_iff {f : Field} :
    f.IsPrimary ↔ ∃ column s script, f = .key column s script := by
  constructor
  · rintro ⟨line, hline, hnames⟩
    by_contra hnone
    have hother : ∀ column s script, f ≠ .key column s script := by
      intro column s script hf
      exact hnone ⟨column, s, script, hf⟩
    exact not_namesKey_of_mem hother hline _ hnames
  · rintro ⟨column, s, script, rfl⟩
    exact ⟨_, List.mem_cons_self, namesKey_keyDecorator column s⟩

/-- The block of a key column: its decorator and its declaration. -/
theorem source_keyField (t : Table) (c : Column) :
    (t.keyField c).source =
      "  " ++ keyDecorator c.name (.select (t.lastNamesake c)) ++ "\n" ++ "  "
        ++ declaration c.name (keyScript c (.select (t.lastNamesake c))) ++ "\n" := by
  rw [source, Table.keyField, lines, List.map_cons, List.map_cons, List.map_nil, String.join_cons,
    String.join_cons, String.join_nil, String.append_empty]
  simp only [String.append_assoc]

theorem isPrimary_keyField (t : Table) (c : Column) : (t.keyField c).IsPrimary :=
  isPrimary_iff.2 ⟨_, _, _, rfl⟩

theorem not_isPrimary_otherField (t : Table) (c : Column) : ¬ (t.otherField c).IsPrimary := by
  intro h
  obtain ⟨column, s, script, hkey⟩ := isPrimary_iff.1 h
  unfold Table.otherField at hkey
  cases hlabels : t.enumLabels.get? c.name with
  | some labels =>
    rw [hlabels] at hkey
    exact Field.noConfusion hkey
  | none =>
    rw [hlabels] at hkey
    exact Field.noConfusion hkey

theorem not_isPrimary_relation (r : Relation) : ¬ (relation r).IsPrimary := by
  intro h
  obtain ⟨column, s, script, hkey⟩ := isPrimary_iff.1 h
  exact Field.noConfusion hkey

end Field

/-! ## The primary fields of an entity -/

namespace Entity

variable (settings : GeneratorSettings) (t : Table)

/-- **The primary fields are those of the key columns** that are no references. Of the three blocks
of the fields the first is kept as a whole, and nothing is kept of the others. -/
theorem filter_isPrimary_fields :
    (ofTable settings t).fields.filter Field.IsPrimary = t.keyColumns.map t.keyField := by
  have hkeys : (t.keyColumns.map t.keyField).filter Field.IsPrimary =
      t.keyColumns.map t.keyField := by
    apply List.filter_eq_self.2
    intro f hf
    obtain ⟨c, -, rfl⟩ := List.mem_map.1 hf
    exact decide_eq_true (Field.isPrimary_keyField t c)
  have hothers : (t.otherColumns.map t.otherField).filter Field.IsPrimary = [] := by
    apply List.filter_eq_nil_iff.2
    intro f hf
    obtain ⟨c, -, rfl⟩ := List.mem_map.1 hf
    simpa using Field.not_isPrimary_otherField t c
  have hrelations : ∀ rs : List Relation, (rs.map Field.relation).filter Field.IsPrimary = [] := by
    intro rs
    apply List.filter_eq_nil_iff.2
    intro f hf
    obtain ⟨r, -, rfl⟩ := List.mem_map.1 hf
    simpa using Field.not_isPrimary_relation r
  rw [fields_ofTable, List.filter_append, List.filter_append, hkeys, hothers, hrelations,
    List.append_nil, List.append_nil]

/-- Taking references away and keeping key columns is one filter. -/
theorem keyColumns_eq : t.keyColumns =
    t.columns.filter fun c => c.name ∈ t.primaryKey ∧ c.name ∉ t.referenceColumns := by
  rw [Table.keyColumns, Table.ownColumns, List.filter_filter]
  apply List.filter_congr
  intro c _
  rw [Bool.decide_and]

theorem mem_keyColumns {c : Column} :
    c ∈ t.keyColumns ↔
      c ∈ t.columns ∧ c.name ∈ t.primaryKey ∧ c.name ∉ t.referenceColumns := by
  rw [keyColumns_eq, List.mem_filter, decide_eq_true_eq]

/-- A reference has a relation. -/
theorem exists_relation_of_mem {column : String} (h : column ∈ t.referenceColumns) :
    ∃ r, Field.relation r ∈ (ofTable settings t).fields ∧ r.column = column := by
  rw [Table.referenceColumns, ← map_column_firstOfEachColumn] at h
  obtain ⟨fk, hfk, rfl⟩ := List.mem_map.1 h
  refine ⟨Relation.ofForeignKey settings.referenceSuffix fk, ?_, rfl⟩
  rw [fields_ofTable]
  apply List.mem_append_right
  exact List.mem_map_of_mem (List.mem_map_of_mem hfk)

/-- **How an entity file keeps the key of a table.** The clauses go from the file to its fields: the
text is made of blocks, the blocks of key columns begin with a primary decorator, and no other block
has one. -/
structure KeepsKeys : Prop where
  /-- The file is its head, the blocks of the fields with an empty line between them, and a brace.
  -/
  written : (EntityFile.ofTable settings t).contents =
    String.join ((ofTable settings t).headLines.map (· ++ "\n"))
      ++ "\n".intercalate ((ofTable settings t).fields.map Field.source) ++ "\x7d\n"
  /-- The block of a key column that is no reference begins with a primary decorator that names the
  column. -/
  kept : ∀ c ∈ t.columns, c.name ∈ t.primaryKey → c.name ∉ t.referenceColumns →
    ∃ before decorator declaration after,
      (ofTable settings t).fields.map Field.source =
          before ++ ("  " ++ decorator ++ "\n" ++ "  " ++ declaration ++ "\n") :: after ∧
        NamesKey c.name decorator
  /-- There are no other primary decorators, and they stand in the order of the columns. -/
  exactly : ((ofTable settings t).fields.filter Field.IsPrimary).map Field.column =
    (t.columns.filter fun c => c.name ∈ t.primaryKey ∧ c.name ∉ t.referenceColumns).map Column.name
  /-- A key column that is a reference becomes a relation and loses its key. Its values are then
  those of the related entity, and the relation is not told that it belongs to the key. -/
  lost : ∀ c ∈ t.columns, c.name ∈ t.primaryKey → c.name ∈ t.referenceColumns →
    (∃ r, Field.relation r ∈ (ofTable settings t).fields ∧ r.column = c.name) ∧
      ∀ f ∈ (ofTable settings t).fields, f.column = c.name → ¬ f.IsPrimary
  /-- So there is a primary field if not all of the key is lost. -/
  any : (∃ f ∈ (ofTable settings t).fields, f.IsPrimary) ↔
    ∃ c ∈ t.columns, c.name ∈ t.primaryKey ∧ c.name ∉ t.referenceColumns

end Entity

/-! ## A key that is lost -/

/-- Who is in which group. The key of a membership is the user and the group, and both are
references, as it is with tables that only join two others. -/
def Table.memberships : Table :=
  { name := "memberships"
    columns :=
      [ ⟨"user_id", "integer", none, false, none, "int4"⟩,
        ⟨"group_id", "integer", none, false, none, "int4"⟩ ]
    primaryKey := ["user_id", "group_id"]
    foreignKeys := [⟨"user_id", "users", "id"⟩, ⟨"group_id", "groups", "id"⟩]
    enumLabels := EnumLabels.empty }

end CatalogEntities
