import CatalogEntities.Proofs.Dictionary
import CatalogEntities.Proofs.Entity.Imports
import Mathlib.Data.List.Forall2
import Mathlib.Data.List.Nodup

/-!
# `Proofs/Entity/Fields.lean` — one field for every column, in a fixed order

Where a column goes is decided in four places: foreign keys take columns away, of the foreign keys
of a column all but the first are dropped, the key columns get strategies, and the columns that have
one are put in front. `Entity.inFixedOrder` says what these come to together, for tables in which
names repeat and keys name columns that do not exist.

Two readings carry it. A strategy that is looked up by a name is that of the last column of the name
(`find?_keyStrategies`), so a lookup answers exactly for the names of key columns. And dropping
foreign keys while walking along them is the same as dropping columns that stood before
(`map_column_firstOfEachColumn`).

The lists that the statement speaks of (`Table.keyColumns`, `Table.otherColumns`,
`Table.referenceColumns`) are defined here from the table alone, by filtering. They know nothing of
the dictionary of strategies that the program builds and consumes on the way, so that the theorem
compares two descriptions and does not repeat one. The modules on entities that follow take the
fields from `Entity.fields_ofTable` and do not open `Entity.ofTable` again.
-/

set_option autoImplicit false

namespace CatalogEntities

/-! ## The columns of a table by what becomes of them -/

namespace Table

/-- The local columns of the foreign keys, each where it stands first. -/
def referenceColumns (t : Table) : List String := (t.foreignKeys.map ForeignKey.column).eraseDups

/-- The columns that no foreign key takes away, as they stand in the table. A name that repeats is
taken away, or kept, wherever it stands. -/
def ownColumns (t : Table) : List Column := t.columns.filter (·.name ∉ t.referenceColumns)

/-- The key columns among them, in the order of the table: not in that of the key, which may list
names in another order, twice, or without a column. -/
def keyColumns (t : Table) : List Column := t.ownColumns.filter (·.name ∈ t.primaryKey)

/-- The columns that are neither references nor in the key. -/
def otherColumns (t : Table) : List Column := t.ownColumns.filter (·.name ∉ t.primaryKey)

/-- The last of the columns that share the name of a column. It is looked for from the end of the
table, and there is one, so that the column itself is only a placeholder
(`exists_lastNamesake`). -/
def lastNamesake (t : Table) (c : Column) : Column :=
  (t.ownColumns.reverse.find? (·.name = c.name)).getD c

/-- The field of a key column. Its values come about as those of the last column of its name. -/
def keyField (t : Table) (c : Column) : Field :=
  .key c.name (.select (t.lastNamesake c)) (Field.keyScript c (.select (t.lastNamesake c)))

/-- The field of a column that is neither a key column nor a reference. Labels go before the type:
a column that has some is a choice, whatever its type is. -/
def otherField (t : Table) (c : Column) : Field :=
  match t.enumLabels.get? c.name with
  | some labels => .choice c.name labels c.isNullable
  | none =>
      .value c.name (.ofNative c.dataType) c.isNullable c.maxLength
        (DefaultValue.ofPlainColumn c.default)

/-- The field of a reference. It leads where the first foreign key of the column leads, and a second
foreign key on the same column leaves no trace. -/
def IsReferenceField (t : Table) (suffix column : String) (f : Field) : Prop :=
  ∃ fk, t.foreignKeys.find? (·.column = column) = some fk ∧
    f = .relation
      ⟨Relation.propertyName suffix column, Naming.className fk.refTable, column⟩

variable {t : Table}

theorem mem_referenceColumns {column : String} :
    column ∈ t.referenceColumns ↔ ∃ fk ∈ t.foreignKeys, fk.column = column := by
  rw [referenceColumns, List.mem_eraseDups, List.mem_map]

/-- The question that the program asks of each column, as membership in a list. -/
theorem foreignKeyFor_eq_none_iff {column : String} :
    t.foreignKeyFor column = none ↔ column ∉ t.referenceColumns := by
  rw [foreignKeyFor, List.find?_eq_none, mem_referenceColumns]
  simp

/-- The columns that are resolved to plain fields are those that no foreign key takes away. -/
theorem plain_eq_ownColumns (suffix : String) (t : Table) :
    (Resolution.ofTable suffix t).plain = t.ownColumns := by
  refine List.filter_congr fun c _ => ?_
  rw [Bool.eq_iff_iff, Option.isNone_iff_eq_none, foreignKeyFor_eq_none_iff]
  simp

theorem not_mem_referenceColumns {c : Column} (h : c ∈ t.ownColumns) :
    c.name ∉ t.referenceColumns := by
  simpa using (List.mem_filter.1 h).2

/-- Taking the key columns out of the others loses none and doubles none. -/
theorem perm_ownColumns (t : Table) : (t.keyColumns ++ t.otherColumns).Perm t.ownColumns := by
  have hothers : t.otherColumns = t.ownColumns.filter fun c => !decide (c.name ∈ t.primaryKey) :=
    List.filter_congr fun c _ => by rw [decide_not]
  rw [hothers]
  exact List.filter_append_perm _ _

/-- **Nothing stands behind the last column of a name that has the name too.** The table is cut at
that column, which is what makes "the last" a statement about the order of columns and not about
`find?`. -/
theorem exists_lastNamesake {c : Column} (h : c ∈ t.ownColumns) :
    t.ownColumns.reverse.find? (·.name = c.name) = some (t.lastNamesake c) ∧
      ∃ before after, t.ownColumns = before ++ t.lastNamesake c :: after ∧
        (t.lastNamesake c).name = c.name ∧ ∀ d ∈ after, d.name ≠ c.name := by
  cases hfound : t.ownColumns.reverse.find? (·.name = c.name) with
  | none => exact absurd (List.find?_eq_none.1 hfound c (List.mem_reverse.2 h)) (by simp)
  | some last =>
    have hlast : t.lastNamesake c = last := by rw [lastNamesake, hfound, Option.getD_some]
    obtain ⟨hname, after, before, hsplit, hafter⟩ := List.find?_eq_some_iff_append.1 hfound
    rw [hlast]
    refine ⟨rfl, before.reverse, after.reverse, ?_, by simpa using hname, ?_⟩
    · rw [← List.reverse_reverse t.ownColumns, hsplit]
      simp
    · intro d hd
      simpa using hafter d (List.mem_reverse.1 hd)

end Table

/-- The column that a field is made of. -/
def Field.column : Field → String
  | key column .. => column
  | choice column .. => column
  | value column .. => column
  | relation r => r.column

/-! ## Strategies -/

theorem lookup_map_name (cs : List Column) (name : String) :
    (cs.map fun c => (c.name, KeyStrategy.select c)).lookup name =
      (cs.find? (·.name = name)).map KeyStrategy.select := by
  induction cs with
  | nil => rfl
  | cons c rest ih =>
    rw [List.map_cons, List.lookup_cons, List.find?_cons, ih]
    by_cases h : c.name = name
    · simp [h]
    · simp [h, beq_eq_false_iff_ne.2 (Ne.symm h)]

/-- **A strategy is that of the last column of a name**, and only names of the key have one. The
strategies are collected into a dictionary, where a later entry replaces an earlier one. -/
theorem find?_keyStrategies (suffix : String) (t : Table) (name : String) :
    ((Resolution.ofTable suffix t).keyStrategies t).find? name =
      if name ∈ t.primaryKey then
        (t.ownColumns.reverse.find? (·.name = name)).map KeyStrategy.select
      else none := by
  rw [Resolution.keyStrategies, Dictionary.find?_ofList, Table.plain_eq_ownColumns,
    ← List.map_reverse, lookup_map_name, ← List.filter_reverse, List.find?_filter]
  split
  · -- a column of the name is in the key as the name is
    rename_i hkey
    refine congrArg (Option.map _) (congrArg (List.find? · _) (funext fun c => ?_))
    rw [Bool.eq_iff_iff]
    simp only [Table.isPrimary, List.contains_iff_mem, decide_eq_true_eq]
    constructor
    · exact And.right
    · rintro rfl
      exact ⟨hkey, rfl⟩
  · rename_i hkey
    rw [Option.map_eq_none_iff, List.find?_eq_none]
    intro c _ hboth
    simp only [Table.isPrimary, List.contains_iff_mem, decide_eq_true_eq] at hboth
    exact hkey (hboth.2 ▸ hboth.1)

section

variable (suffix : String) {t : Table} {c : Column}

/-- The key columns have strategies, the other columns that are left have none. So the lookups that
the program makes while it walks along the columns never miss a key column. -/
theorem find?_keyStrategies_of_mem (h : c ∈ t.ownColumns) :
    ((Resolution.ofTable suffix t).keyStrategies t).find? c.name =
      if c.name ∈ t.primaryKey then some (.select (t.lastNamesake c)) else none := by
  rw [find?_keyStrategies, (Table.exists_lastNamesake h).1]
  rfl

/-- The columns that are looked up and found are the key columns, each with its own strategy. -/
theorem filterMap_keyStrategies {cs : List Column} (h : ∀ c ∈ cs, c ∈ t.ownColumns) :
    cs.filterMap (fun c =>
        (((Resolution.ofTable suffix t).keyStrategies t).find? c.name).map fun s =>
          Field.key c.name s (Field.keyScript c s)) =
      (cs.filter (·.name ∈ t.primaryKey)).map t.keyField := by
  induction cs with
  | nil => rfl
  | cons c rest ih =>
    rw [List.filterMap_cons, List.filter_cons, ih fun d hd => h d (List.mem_cons_of_mem _ hd),
      find?_keyStrategies_of_mem suffix (h c List.mem_cons_self)]
    by_cases hkey : c.name ∈ t.primaryKey
    · simp [hkey, Table.keyField]
    · simp [hkey]

/-- And the columns for which the lookup fails are the others. -/
theorem filter_isNone_keyStrategies :
    (t.ownColumns.filter fun c =>
        (((Resolution.ofTable suffix t).keyStrategies t).find? c.name).isNone) =
      t.otherColumns := by
  refine List.filter_congr fun c hc => ?_
  rw [find?_keyStrategies_of_mem suffix hc]
  by_cases hkey : c.name ∈ t.primaryKey <;> simp [hkey]

theorem ofColumn_eq_otherField (h : c ∈ t.ownColumns) : Field.ofColumn t c = t.otherField c := by
  have hlabels : t.enumLabelsFor c.name = t.enumLabels.get? c.name := by
    rw [Table.enumLabelsFor,
      Table.foreignKeyFor_eq_none_iff.2 (Table.not_mem_referenceColumns h)]
    rfl
  rw [Field.ofColumn, hlabels]
  rfl

end

/-! ## Relations -/

/-- It does not matter whether repetitions or unwanted elements go first. The recursion is that of
`eraseDups`, on the rest without the first element, so it is on the length of the list. -/
theorem eraseDups_filter {α : Type} [BEq α] [LawfulBEq α] (keeps : α → Bool) :
    ∀ xs : List α, (xs.filter keeps).eraseDups = xs.eraseDups.filter keeps
  | [] => rfl
  | x :: rest => by
    rw [List.eraseDups_cons]
    cases hx : keeps x with
    | true =>
      rw [List.filter_cons_of_pos hx, List.filter_cons_of_pos hx, List.eraseDups_cons,
        ← eraseDups_filter keeps (rest.filter (!· == x)), List.filter_filter, List.filter_filter]
      simp only [Bool.and_comm]
    | false =>
      -- what equals `x` is unwanted too, so nothing is dropped for its sake
      rw [List.filter_cons_of_neg (by simp [hx]), List.filter_cons_of_neg (by simp [hx]),
        ← eraseDups_filter keeps (rest.filter (!· == x)), List.filter_filter]
      refine congrArg List.eraseDups (List.filter_congr fun y _ => ?_)
      by_cases hy : y = x
      · simp [hy, hx]
      · simp [hy]
termination_by xs => xs.length
decreasing_by all_goals exact Nat.lt_succ_of_le (List.length_filter_le ..)

/-- Dropping the foreign keys of a column that had one is dropping a column that stood before. -/
theorem map_column_firstOfEachColumn (fks : List ForeignKey) :
    (firstOfEachColumn fks).map ForeignKey.column = (fks.map ForeignKey.column).eraseDups := by
  induction fks with
  | nil => rfl
  | cons fk rest ih =>
    rw [firstOfEachColumn, List.map_cons, List.map_cons, List.eraseDups_cons, eraseDups_filter,
      ← ih, List.filter_map]
    refine congrArg (List.cons _) (congrArg (List.map _) (List.filter_congr fun other _ => ?_))
    by_cases h : other.column = fk.column <;> simp [h]

/-- What is kept is the first foreign key of its column. -/
theorem find?_of_mem_firstOfEachColumn {fks : List ForeignKey} {fk : ForeignKey}
    (h : fk ∈ firstOfEachColumn fks) : fks.find? (·.column = fk.column) = some fk := by
  induction fks with
  | nil => exact absurd h List.not_mem_nil
  | cons first rest ih =>
    rw [List.find?_cons]
    rcases List.mem_cons.1 h with rfl | h
    · simp
    · obtain ⟨hrest, hne⟩ := List.mem_filter.1 h
      have hne : ¬ first.column = fk.column := fun heq => by simp [heq] at hne
      rw [decide_eq_false hne]
      exact ih hrest

/-- **The references of a table become relations one by one.** -/
theorem forall₂_isReferenceField (suffix : String) (t : Table) :
    List.Forall₂ (t.IsReferenceField suffix) t.referenceColumns
      ((Resolution.ofTable suffix t).relations.map Field.relation) := by
  rw [Table.referenceColumns, ← map_column_firstOfEachColumn, Resolution.ofTable, List.map_map,
    List.forall₂_map_left_iff, List.forall₂_map_right_iff, List.forall₂_same]
  intro fk hfk
  exact ⟨fk, find?_of_mem_firstOfEachColumn hfk, rfl⟩

/-! ## The fields of an entity -/

namespace Entity

/-- **The fields of an entity**, in three blocks. All statements on fields go through this
equation. -/
theorem fields_ofTable (settings : GeneratorSettings) (t : Table) :
    (ofTable settings t).fields =
      t.keyColumns.map t.keyField ++ t.otherColumns.map t.otherField
        ++ (Resolution.ofTable settings.referenceSuffix t).relations.map Field.relation := by
  have hothers : t.otherColumns.map (Field.ofColumn t) = t.otherColumns.map t.otherField :=
    List.map_congr_left fun c hc => ofColumn_eq_otherField (List.mem_of_mem_filter hc)
  show fieldsOf t _ = _
  simp only [fieldsOf]
  rw [Table.plain_eq_ownColumns, filterMap_keyStrategies _ fun c hc => hc,
    filter_isNone_keyStrategies, hothers]
  rfl

theorem column_otherField (t : Table) (c : Column) : (t.otherField c).column = c.name := by
  unfold Table.otherField
  cases t.enumLabels.get? c.name <;> rfl

/-- The fields that carry a default are those of value columns, and it is the default that the
column keeps. -/
theorem exists_of_value_mem {settings : GeneratorSettings} {t : Table} {column : String}
    {type : ColumnType} {nullable : Bool} {maxLength : Option Int32}
    {default : Option DefaultValue}
    (h : Field.value column type nullable maxLength default ∈ (ofTable settings t).fields) :
    ∃ c ∈ t.otherColumns, default = DefaultValue.ofPlainColumn c.default := by
  rw [fields_ofTable, List.mem_append, List.mem_append] at h
  rcases h with (h | h) | h
  · obtain ⟨c, -, hc⟩ := List.mem_map.1 h
    exact Field.noConfusion hc
  · obtain ⟨c, hmem, hc⟩ := List.mem_map.1 h
    unfold Table.otherField at hc
    cases hlabels : t.enumLabels.get? c.name with
    | some labels =>
      rw [hlabels] at hc
      exact Field.noConfusion hc
    | none =>
      rw [hlabels] at hc
      injection hc with _ _ _ _ hdefault
      exact ⟨c, hmem, hdefault.symm⟩
  · obtain ⟨r, -, hr⟩ := List.mem_map.1 h
    exact Field.noConfusion hr

/-- The columns of the fields: key columns, other columns and references, each as they stand. -/
theorem map_column_fields (settings : GeneratorSettings) (t : Table) :
    (ofTable settings t).fields.map Field.column =
      t.keyColumns.map Column.name ++ t.otherColumns.map Column.name ++ t.referenceColumns := by
  have hrelations : ((Resolution.ofTable settings.referenceSuffix t).relations.map
      Field.relation).map Field.column = t.referenceColumns := by
    rw [Table.referenceColumns, ← map_column_firstOfEachColumn, Resolution.ofTable, List.map_map,
      List.map_map]
    rfl
  have hothers : (t.otherColumns.map t.otherField).map Field.column =
      t.otherColumns.map Column.name := by
    rw [List.map_map]
    exact List.map_congr_left fun c _ => column_otherField t c
  rw [fields_ofTable, List.map_append, List.map_append, hrelations, hothers, List.map_map]
  rfl

theorem count_ownColumns (t : Table) (name : String) :
    (t.keyColumns.map Column.name ++ t.otherColumns.map Column.name).count name =
      (t.ownColumns.map Column.name).count name := by
  rw [← List.map_append]
  exact (t.perm_ownColumns.map _).count_eq name

/-- How many fields a column has. A name that repeats has as many fields as columns, unless it is a
reference, and a name that only a foreign key mentions has its relation all the same. -/
theorem count_column_fields (settings : GeneratorSettings) (t : Table) (name : String) :
    ((ofTable settings t).fields.map Field.column).count name =
      if name ∈ t.referenceColumns then 1 else (t.columns.map Column.name).count name := by
  rw [map_column_fields, List.count_append, count_ownColumns]
  split
  · -- a reference is among no columns of their own, and it is listed once
    rename_i href
    have hown : (t.ownColumns.map Column.name).count name = 0 := by
      refine List.count_eq_zero.2 fun hmem => ?_
      obtain ⟨c, hc, rfl⟩ := List.mem_map.1 hmem
      exact Table.not_mem_referenceColumns hc href
    rw [hown, Nat.zero_add]
    exact List.count_eq_one_of_mem (nodup_eraseDups _) href
  · -- both counts are lengths of filters of the columns, and these agree column by column
    rename_i href
    rw [List.count_eq_zero.2 href, Nat.add_zero, List.count_eq_length_filter,
      List.count_eq_length_filter, List.filter_map, List.filter_map, List.length_map,
      List.length_map, Table.ownColumns, List.filter_filter]
    refine congrArg List.length (List.filter_congr fun c _ => ?_)
    by_cases hname : c.name = name
    · simp [hname, href]
    · simp [hname]

/-- **What it is for an entity file to have the fields of a table in the fixed order.** -/
structure InFixedOrder (settings : GeneratorSettings) (t : Table) : Prop where
  /-- The class body: key columns, then the other columns, then one relation for each reference,
  with an empty line between two of them. -/
  body : ∃ relations,
    List.Forall₂ (t.IsReferenceField settings.referenceSuffix) t.referenceColumns relations ∧
      (ofTable settings t).fields =
        t.keyColumns.map t.keyField ++ t.otherColumns.map t.otherField ++ relations ∧
      (EntityFile.ofTable settings t).contents =
        String.join ((ofTable settings t).headLines.map (· ++ "\n"))
          ++ "\n".intercalate ((t.keyColumns.map t.keyField ++ t.otherColumns.map t.otherField
            ++ relations).map Field.source) ++ "\x7d\n"
  /-- A column that is no reference has a field wherever it stands, a reference has one. -/
  once : ∀ name, ((ofTable settings t).fields.map Field.column).count name =
    if name ∈ t.referenceColumns then 1 else (t.columns.map Column.name).count name
  /-- A reference is a relation and nothing else. -/
  onlyRelations : ∀ f ∈ (ofTable settings t).fields, f.column ∈ t.referenceColumns →
    ∃ r, f = .relation r
  /-- Of columns with one name the last decides how their values come about. The others keep their
  place and their type. -/
  lastDecides : ∀ c ∈ t.ownColumns, ∃ before after,
    t.ownColumns = before ++ t.lastNamesake c :: after ∧ (t.lastNamesake c).name = c.name ∧
      ∀ d ∈ after, d.name ≠ c.name
  /-- A strategy is found for the key columns and for no other. -/
  noneMissed : ∀ c ∈ t.ownColumns,
    ((Resolution.ofTable settings.referenceSuffix t).keyStrategies t).find? c.name =
      if c ∈ t.keyColumns then some (.select (t.lastNamesake c)) else none

/-- **Every column has its field**, whatever repeats in a table and whatever its keys name. -/
theorem inFixedOrder (settings : GeneratorSettings) (t : Table) : InFixedOrder settings t where
  body := by
    refine ⟨_, forall₂_isReferenceField settings.referenceSuffix t, fields_ofTable settings t, ?_⟩
    rw [← fields_ofTable]
    rfl
  once := count_column_fields settings t
  onlyRelations := by
    intro f hf href
    rw [fields_ofTable, List.mem_append, List.mem_append] at hf
    -- a field of the first two blocks is made of a column that is no reference
    rcases hf with (hf | hf) | hf
    · obtain ⟨c, hc, rfl⟩ := List.mem_map.1 hf
      exact absurd href (Table.not_mem_referenceColumns (List.mem_of_mem_filter hc))
    · obtain ⟨c, hc, rfl⟩ := List.mem_map.1 hf
      rw [column_otherField] at href
      exact absurd href (Table.not_mem_referenceColumns (List.mem_of_mem_filter hc))
    · obtain ⟨r, -, rfl⟩ := List.mem_map.1 hf
      exact ⟨r, rfl⟩
  lastDecides := fun c hc => (Table.exists_lastNamesake hc).2
  noneMissed := by
    intro c hc
    have hkey : c ∈ t.keyColumns ↔ c.name ∈ t.primaryKey := by
      rw [Table.keyColumns, List.mem_filter]
      simp [hc]
    rw [find?_keyStrategies_of_mem _ hc]
    simp only [hkey]

end Entity

end CatalogEntities
