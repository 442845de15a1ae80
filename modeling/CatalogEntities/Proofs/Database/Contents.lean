import CatalogEntities.Proofs.Database.Rows
import Mathlib.Data.List.Basic
import Mathlib.Data.List.Pairwise
import Mathlib.Data.List.Perm.Basic

/-!
# `Proofs/Database/Contents.lean` — what the queries say about a database

`Contents` is a database as it is meant: schemas, relations with their columns, keys and references,
and types with labels, all in their own order. `Contents.descriptor` reads a table off it. What the
system keeps are rows in no order at all, and what a client gets are the results of queries over
these rows. That the results are the table (`Shows.primaryKeyOf_eq` and its likes) rests on
the identities in the rows, by which every join finds what belongs together and nothing else.

Each of the four equations goes the same way. The rows of one relation are found among all rows, up
to their order (`filter_owned`); the joins are followed from these (`attributesOf_perm`,
`constraintsOf_perm`); and sorting brings the result into the order of the table, since no two rows
have one sort key (`inOrder_eq`). Nothing may be assumed of a relation but what the system itself
sees to, and that is `Contents.WellFormed`: a column that was dropped still has an attribute, a
foreign key may pair columns in any order, and two schemas may have tables of one name.
-/

set_option autoImplicit false

namespace CatalogEntities

/-! ## Databases -/

/-- **A column of a relation.** Its number says where it stands; numbers of columns that are gone
stay free. -/
structure StoredColumn where
  number : Int
  /-- The identity of its type, by which its labels are found. -/
  type : Nat
  column : Column
  deriving DecidableEq

/-- An attribute that is no column: one of the system's own, or a column that was dropped. -/
structure HiddenAttribute where
  number : Int
  type : Nat
  name : String
  isDropped : Bool
  deriving DecidableEq

/-- A key with its columns in the order in which it was declared. -/
structure StoredKey where
  name : String
  columns : List StoredColumn
  deriving DecidableEq

/-- **A foreign key** with the columns of its two sides, pair by pair. -/
structure StoredReference where
  name : String
  /-- The identity of the relation that it leads to, and the name that this has. -/
  target : Nat
  refTable : String
  pairs : List (StoredColumn × StoredColumn)
  deriving DecidableEq

/-- **A relation**: a table, a view or whatever else has columns. -/
structure StoredRelation where
  id : Nat
  schema : SchemaRow
  name : String
  kind : String
  /-- The columns in ordinal order. -/
  columns : List StoredColumn
  hidden : List HiddenAttribute
  primaryKey : Option StoredKey
  otherKeys : List StoredKey
  /-- The foreign keys in the order of their names. -/
  references : List StoredReference
  deriving DecidableEq

/-- **A type with labels**, in their sort order. -/
structure StoredEnum where
  id : Nat
  labels : List (ℚ × String)
  deriving DecidableEq

/-- **A database.** Relations of all schemas are in one list, as those of one schema may refer to
those of another. -/
structure Contents where
  schemas : List SchemaRow
  relations : List StoredRelation
  enums : List StoredEnum

/-! ## Tables as they are described -/

namespace Contents

/-- The labels of a type. A type that is no enumeration has none. -/
def labelsOf (d : Contents) (type : Nat) : List (ℚ × String) :=
  ((d.enums.find? (·.id = type)).map StoredEnum.labels).getD []

/-- **The description of a relation**: columns in ordinal order, key columns in key order, foreign
keys in the order of the constraints and labels in sort order. -/
def descriptor (d : Contents) (x : StoredRelation) : Table where
  name := x.name
  columns := x.columns.map StoredColumn.column
  primaryKey := ((x.primaryKey.map StoredKey.columns).getD []).map (·.column.name)
  foreignKeys := x.references.flatMap fun fk =>
    fk.pairs.map fun p => ⟨p.1.column.name, fk.refTable, p.2.column.name⟩
  enumLabels := .ofList (x.columns.flatMap fun c =>
    (d.labelsOf c.type).map fun l => (c.column.name, l.2))

/-- The tables of a schema, without its views. -/
def baseTables (d : Contents) (schema : String) : List StoredRelation :=
  d.relations.filter fun x => x.schema.name = schema && x.kind = StoredTable.baseTable

def tables (d : Contents) (schema : String) : List Table :=
  (d.baseTables schema).map d.descriptor

end Contents

/-- **What a database system sees to in a relation.** -/
structure StoredRelation.WellFormed (d : Contents) (x : StoredRelation) : Prop where
  schema : x.schema ∈ d.schemas
  /-- Columns are numbered in their order, and from one. -/
  ascending : x.columns.Pairwise fun a b => a.number < b.number
  positive : ∀ c ∈ x.columns, 0 < c.number
  /-- Any other attribute is marked as no column, and has a number of its own. -/
  hidden : ∀ a ∈ x.hidden, a.number ≤ 0 ∨ a.isDropped = true
  apart : ∀ a ∈ x.hidden, ∀ c ∈ x.columns, a.number ≠ c.number
  /-- The key is made of columns of the relation, none of them twice. -/
  primaryKey : ∀ k, x.primaryKey = some k → k.columns.Nodup ∧ ∀ c ∈ k.columns, c ∈ x.columns
  /-- The names of constraints are unique. -/
  constraints : x.references.Pairwise fun a b => a.name < b.name
  /-- A foreign key leads to a relation that is there, and to columns of it. -/
  references : ∀ fk ∈ x.references, ∃ y ∈ d.relations, y.id = fk.target ∧ y.name = fk.refTable ∧
    ∀ p ∈ fk.pairs, p.1 ∈ x.columns ∧ p.2 ∈ y.columns

/-- **What a database system sees to**: identities are unique, and so are names where they are. -/
structure Contents.WellFormed (d : Contents) : Prop where
  schemaIds : (d.schemas.map SchemaRow.id).Nodup
  ids : (d.relations.map StoredRelation.id).Nodup
  names : (d.relations.map fun x => (x.schema.name, x.name)).Nodup
  enumIds : (d.enums.map StoredEnum.id).Nodup
  labels : ∀ e ∈ d.enums, e.labels.Pairwise fun a b => a.1 < b.1
  relations : ∀ x ∈ d.relations, x.WellFormed d

/-- The labels of a type are in their sort order. -/
theorem Contents.WellFormed.labelsOf_pairwise {d : Contents} (hd : d.WellFormed) (type : Nat) :
    (d.labelsOf type).Pairwise fun l m => l.1 < m.1 := by
  unfold Contents.labelsOf
  cases hfound : d.enums.find? fun e => e.id = type with
  | none => exact .nil
  | some e => exact hd.labels e (List.mem_of_find?_eq_some hfound)

/-! ## Databases as rows -/

namespace StoredRelation

variable (x : StoredRelation)

/-- A relation as the system lists it, -/
def row : RelationRow := ⟨x.id, x.schema.id, x.name⟩

/-- and as the information schema does. -/
def tableRow : TableRow := ⟨x.schema.name, x.name, x.kind⟩

/-- The same for a column: the information schema has its description, -/
def columnRow (c : StoredColumn) : ColumnRow := ⟨x.schema.name, x.name, c.number, c.column⟩

/-- and the system its number and the identity of its type. -/
def attributeRow (c : StoredColumn) : AttributeRow :=
  ⟨x.id, c.number, c.column.name, c.type, false⟩

def hiddenRow (a : HiddenAttribute) : AttributeRow :=
  ⟨x.id, a.number, a.name, a.type, a.isDropped⟩

/-- The attributes of a relation, those among them that are no columns behind the others. -/
def attributeRows : List AttributeRow :=
  x.columns.map x.attributeRow ++ x.hidden.map x.hiddenRow

/-- A key leads nowhere, so it has no other side. -/
def keyRow (kind : ConstraintKind) (k : StoredKey) : ConstraintRow :=
  ⟨k.name, kind, x.id, 0, k.columns.map StoredColumn.number, []⟩

/-- A foreign key with its two sides apart, paired by position. -/
def referenceRow (fk : StoredReference) : ConstraintRow :=
  ⟨fk.name, .foreignKey, x.id, fk.target, fk.pairs.map (·.1.number), fk.pairs.map (·.2.number)⟩

def constraintRows : List ConstraintRow :=
  x.primaryKey.toList.map (x.keyRow .primaryKey) ++ x.otherKeys.map (x.keyRow .other)
    ++ x.references.map x.referenceRow

end StoredRelation

def StoredEnum.labelRows (e : StoredEnum) : List LabelRow :=
  e.labels.map fun l => ⟨e.id, l.1, l.2⟩

/-- **The rows show a database**, in whatever order they are kept. They are those of all its
relations together, and nothing says that rows of one relation stand next to each other. -/
structure SystemRows.Shows (r : SystemRows) (d : Contents) : Prop where
  schemas : r.schemas.Perm d.schemas
  relations : r.relations.Perm (d.relations.map StoredRelation.row)
  attributes : r.attributes.Perm (d.relations.flatMap StoredRelation.attributeRows)
  constraints : r.constraints.Perm (d.relations.flatMap StoredRelation.constraintRows)
  labels : r.labels.Perm (d.enums.flatMap StoredEnum.labelRows)
  tables : r.tables.Perm (d.relations.map StoredRelation.tableRow)
  columns : r.columns.Perm (d.relations.flatMap fun x => x.columns.map x.columnRow)

/-- The rows of a database in one order, so that there are some for every database. -/
def Contents.rows (d : Contents) : SystemRows where
  schemas := d.schemas
  relations := d.relations.map StoredRelation.row
  attributes := d.relations.flatMap StoredRelation.attributeRows
  constraints := d.relations.flatMap StoredRelation.constraintRows
  labels := d.enums.flatMap StoredEnum.labelRows
  tables := d.relations.map StoredRelation.tableRow
  columns := d.relations.flatMap fun x => x.columns.map x.columnRow

theorem Contents.shows_rows (d : Contents) : d.rows.Shows d :=
  ⟨.refl _, .refl _, .refl _, .refl _, .refl _, .refl _, .refl _⟩

/-! ## What belongs to one element of a list -/

section

variable {α β κ : Type}

/-- If only one element of a list yields something, that is all there is. -/
theorem flatMap_eq_of_mem {L : List α} (hnodup : L.Nodup) {x : α} (hx : x ∈ L) {g : α → List β}
    (h : ∀ y ∈ L, y ≠ x → g y = []) : L.flatMap g = g x := by
  induction L with
  | nil => exact absurd hx List.not_mem_nil
  | cons y rest ih =>
    obtain ⟨hy, hrest⟩ := List.nodup_cons.1 hnodup
    rw [List.flatMap_cons]
    rcases List.mem_cons.1 hx with rfl | hmem
    · have hothers : rest.flatMap g = [] := by
        rw [List.flatMap_eq_nil_iff]
        intro z hz
        exact h z (List.mem_cons_of_mem _ hz) fun heq => hy (heq ▸ hz)
      rw [hothers, List.append_nil]
    · have hne : y ≠ x := fun heq => hy (heq ▸ hmem)
      rw [h y List.mem_cons_self hne, List.nil_append]
      exact ih hrest hmem fun z hz => h z (List.mem_cons_of_mem _ hz)

/-- **The rows of one owner** among the rows of all. Owners have identities, each row has that of
its owner, and so a condition on the identity picks the rows that the owner brought along. This is
what every join does here. -/
theorem filter_owned [DecidableEq κ] {rows : List β} {L : List α} {f : α → List β} {id : α → κ}
    (owner : β → κ) (hrows : rows.Perm (L.flatMap f)) (hid : (L.map id).Nodup)
    (howner : ∀ y ∈ L, ∀ b ∈ f y, owner b = id y) {x : α} (hx : x ∈ L) (holds : β → Bool) :
    (rows.filter fun b => owner b = id x && holds b).Perm ((f x).filter holds) := by
  refine (hrows.filter _).trans (.of_eq ?_)
  rw [List.filter_flatMap, flatMap_eq_of_mem (List.Nodup.of_map _ hid) hx]
  · refine List.filter_congr fun b hb => ?_
    simp [howner x hx b hb]
  · -- a row of another owner has another identity
    intro y hy hne
    rw [List.filter_eq_nil_iff]
    intro b hb hboth
    have hsame : id y = id x := by
      rw [← howner y hy b hb]
      simpa using (Bool.and_eq_true_iff.1 hboth).1
    exact hne (List.inj_on_of_nodup_map hid hy hx hsame)

/-- With one row for each owner there is one row, and no order to speak of. -/
theorem filter_id_eq [DecidableEq κ] {rows : List β} {L : List α} {f : α → β} {id : α → κ}
    {owner : β → κ} (hrows : rows.Perm (L.map f)) (hid : (L.map id).Nodup)
    (howner : ∀ y, owner (f y) = id y) {x : α} (hx : x ∈ L) :
    (rows.filter fun b => owner b = id x) = [f x] := by
  have hflat : rows.Perm (L.flatMap fun y => [f y]) := by
    rw [← List.map_eq_flatMap]
    exact hrows
  have howned := filter_owned owner hflat hid
    (fun y _ b hb => by rw [List.mem_singleton.1 hb]; exact howner y) hx fun _ => true
  simp only [Bool.and_true, List.filter_true] at howned
  exact List.perm_singleton.1 howned

theorem pairwise_idxOf [DecidableEq α] {l : List α} (h : l.Nodup) :
    l.Pairwise fun a b => l.idxOf a < l.idxOf b := by
  rw [List.pairwise_iff_getElem]
  intro i j hi hj hij
  rw [h.idxOf_getElem, h.idxOf_getElem]
  exact hij

theorem pairwise_zipIdx (l : List α) : l.zipIdx.Pairwise fun a b => a.2 < b.2 := by
  rw [List.pairwise_iff_getElem]
  intro i j hi hj hij
  simpa [List.getElem_zipIdx] using hij

/-- **Rows in groups** are in the order of both their keys, if the groups are in the order of the
first and each group is in the order of the second. Foreign keys are sorted in this way by
constraint and position, and labels by column and sort order. -/
theorem pairwise_groups {κ₁ κ₂ γ : Type} [LinearOrder κ₁] [LinearOrder κ₂] {groups : List α}
    {first : α → κ₁} {members : α → List β} {second : β → κ₂} (value : α → β → γ)
    (hgroups : groups.Pairwise fun a b => first a < first b)
    (hmembers : ∀ a ∈ groups, (members a).Pairwise fun p q => second p < second q) :
    (groups.flatMap fun a => (members a).map fun p =>
      (toLex (first a, second p), value a p)).Pairwise fun p q => p.1 < q.1 := by
  rw [List.pairwise_flatMap]
  constructor
  · intro a ha
    rw [List.pairwise_map]
    refine (hmembers a ha).imp fun hlt => ?_
    exact Prod.Lex.toLex_lt_toLex.2 (Or.inr ⟨rfl, hlt⟩)
  · refine hgroups.imp fun {a b} hlt => ?_
    intro p hp q hq
    obtain ⟨_, -, rfl⟩ := List.mem_map.1 hp
    obtain ⟨_, -, rfl⟩ := List.mem_map.1 hq
    exact Prod.Lex.toLex_lt_toLex.2 (Or.inl hlt)

end

/-! ## What the joins find -/

namespace SystemRows.Shows

variable {r : SystemRows} {d : Contents} {x : StoredRelation}

section

variable (h : r.Shows d) (hd : d.WellFormed) (hx : x ∈ d.relations)
include h hd hx

/-- A relation is found by its identity. -/
theorem relation_eq : (r.relations.filter fun t => t.id = x.id) = [x.row] :=
  filter_id_eq h.relations hd.ids (fun _ => rfl) hx

/-- A relation is found by its names. The join is with the schemas, and both names must be those
that are looked for: tables of one name stand in different schemas. -/
theorem named_eq : r.named x.schema.name x.name = [x.row] := by
  have hschema : ∀ y ∈ d.relations, ∀ holds : SchemaRow → Bool,
      (r.schemas.filter fun n => n.id = y.schema.id && holds n).Perm
        ([y.schema].filter holds) := by
    intro y hy holds
    have hschemas : r.schemas.Perm (d.schemas.flatMap fun n => [n]) := by
      rw [← List.map_eq_flatMap, List.map_id']
      exact h.schemas
    exact filter_owned SchemaRow.id hschemas hd.schemaIds
      (fun n _ b hb => by rw [List.mem_singleton.1 hb]) (hd.relations y hy).schema holds
  unfold SystemRows.named
  simp only [Bool.and_assoc]
  refine List.perm_singleton.1 ((h.relations.flatMap_right _).trans ?_)
  rw [List.flatMap_map, flatMap_eq_of_mem (List.Nodup.of_map _ hd.ids) hx]
  · have hown := (hschema x hx fun n => n.name = x.schema.name && x.name = x.name).map
      fun _ => x.row
    have hone : ([x.schema].filter fun n =>
        decide (n.name = x.schema.name) && decide (x.name = x.name)) = [x.schema] := by
      simp
    rw [hone] at hown
    exact hown
  · -- any other relation differs in a name from what is looked for
    intro y hy hne
    have hother := (hschema y hy fun n => n.name = x.schema.name && y.name = x.name).map
      fun _ => y.row
    have hnames : ¬ (y.schema.name = x.schema.name ∧ y.name = x.name) := by
      rintro ⟨hschema, hname⟩
      exact hne (List.inj_on_of_nodup_map hd.names hy hx (Prod.ext hschema hname))
    have hnone : ([y.schema].filter fun n =>
        decide (n.name = x.schema.name) && decide (y.name = x.name)) = [] := by
      rw [List.filter_eq_nil_iff]
      intro n hn hboth
      rw [List.mem_singleton.1 hn] at hboth
      exact hnames (by simpa using hboth)
    rw [hnone] at hother
    exact List.perm_nil.1 hother

/-- The attributes of a relation are found by its identity, -/
theorem attributesOf_perm (holds : AttributeRow → Bool) :
    (r.attributesOf x.row holds).Perm (x.attributeRows.filter holds) := by
  refine filter_owned AttributeRow.relation h.attributes hd.ids (fun y _ a ha => ?_) hx holds
  rcases List.mem_append.1 ha with ha | ha
  · obtain ⟨c, -, rfl⟩ := List.mem_map.1 ha
    rfl
  · obtain ⟨c, -, rfl⟩ := List.mem_map.1 ha
    rfl

/-- and so are its constraints of one kind. -/
theorem constraintsOf_perm (kind : ConstraintKind) :
    (r.constraintsOf x.row kind).Perm (x.constraintRows.filter (·.kind = kind)) := by
  refine filter_owned ConstraintRow.relation h.constraints hd.ids (fun y _ c hc => ?_) hx _
  rcases List.mem_append.1 hc with hc | hc
  · rcases List.mem_append.1 hc with hc | hc
    · obtain ⟨k, -, rfl⟩ := List.mem_map.1 hc
      rfl
    · obtain ⟨k, -, rfl⟩ := List.mem_map.1 hc
      rfl
  · obtain ⟨fk, -, rfl⟩ := List.mem_map.1 hc
    rfl

/-- Of the attributes that are columns, those with some property. -/
theorem attributesOf_columns (holds : AttributeRow → Bool)
    (hhidden : ∀ a ∈ x.hidden, holds (x.hiddenRow a) = false) :
    (r.attributesOf x.row holds).Perm
      ((x.columns.filter fun c => holds (x.attributeRow c)).map x.attributeRow) := by
  refine (h.attributesOf_perm hd hx holds).trans (.of_eq ?_)
  have hnone : (x.hidden.map x.hiddenRow).filter holds = [] := by
    rw [List.filter_eq_nil_iff]
    intro row hrow
    obtain ⟨a, ha, rfl⟩ := List.mem_map.1 hrow
    simp [hhidden a ha]
  rw [StoredRelation.attributeRows, List.filter_append, hnone, List.append_nil, List.filter_map]
  rfl

/-- A column is found by its number. -/
theorem attributesOf_number {c : StoredColumn} (hc : c ∈ x.columns) :
    (r.attributesOf x.row fun a => a.number = c.number) = [x.attributeRow c] := by
  have hwell := hd.relations x hx
  have hnumbers : (x.columns.map StoredColumn.number).Nodup :=
    List.pairwise_map.2 (hwell.ascending.imp fun hlt => hlt.ne)
  have hone : (x.columns.filter fun b => b.number = c.number) = [c] :=
    filter_id_eq (.of_eq (List.map_id' _).symm) hnumbers (fun _ => rfl) hc
  have hperm := h.attributesOf_columns hd hx (fun a => decide (a.number = c.number))
    fun a ha => decide_eq_false (hwell.apart a ha c hc)
  exact List.perm_singleton.1 (hperm.trans (.of_eq (congrArg (List.map x.attributeRow) hone)))

omit hx in
/-- The labels of a type are found by its identity. -/
theorem labels_perm (type : Nat) : (r.labels.filter fun e => e.type = type).Perm
    ((d.labelsOf type).map fun l => ⟨type, l.1, l.2⟩) := by
  unfold Contents.labelsOf
  cases hfound : d.enums.find? fun e => e.id = type with
  | none =>
    -- no labels belong to a type that is none of the enumerations
    refine (h.labels.filter _).trans (.of_eq ?_)
    rw [List.filter_flatMap, List.flatMap_eq_nil_iff.2]
    · rfl
    intro e he
    rw [List.filter_eq_nil_iff]
    intro row hrow htype
    obtain ⟨l, -, rfl⟩ := List.mem_map.1 hrow
    exact List.find?_eq_none.1 hfound e he (by simpa using htype)
  | some e =>
    obtain rfl : e.id = type := by simpa using List.find?_some hfound
    have howned := filter_owned LabelRow.type h.labels hd.enumIds (fun e _ row hrow => by
      obtain ⟨l, -, rfl⟩ := List.mem_map.1 hrow
      rfl) (List.mem_of_find?_eq_some hfound) fun _ => true
    simp only [Bool.and_true, List.filter_true] at howned
    exact howned

end

/-! ## What the queries select -/

section

variable (h : r.Shows d) (hd : d.WellFormed) (hx : x ∈ d.relations)
include h hd hx

/-- **The columns** come from the information schema, which has them by name, and are sorted by
position (`load_columns`). -/
theorem columnsOf_eq :
    r.columnsOf x.schema.name x.name = (d.descriptor x).columns := by
  have howned := filter_owned (fun c : ColumnRow => (c.schema, c.table)) h.columns hd.names
    (fun y _ c hc => by
      obtain ⟨_, -, rfl⟩ := List.mem_map.1 hc
      rfl) hx fun _ => true
  have hrows : (r.columns.filter fun c => c.schema = x.schema.name && c.table = x.name).Perm
      (x.columns.map x.columnRow) := by
    simpa only [Prod.mk.injEq, Bool.decide_and, Bool.and_true, List.filter_true] using howned
  unfold SystemRows.columnsOf
  rw [inOrder_eq (hrows.map _)]
  · rw [List.map_map, List.map_map]
    rfl
  · rw [List.map_map, List.pairwise_map]
    exact (hd.relations x hx).ascending

theorem constraintsOf_primaryKey : (r.constraintsOf x.row .primaryKey).Perm
    (x.primaryKey.toList.map (x.keyRow .primaryKey)) := by
  refine (h.constraintsOf_perm hd hx .primaryKey).trans (.of_eq ?_)
  simp [StoredRelation.constraintRows, List.filter_map, Function.comp_def,
    StoredRelation.keyRow, StoredRelation.referenceRow]

theorem constraintsOf_foreignKey : (r.constraintsOf x.row .foreignKey).Perm
    (x.references.map x.referenceRow) := by
  refine (h.constraintsOf_perm hd hx .foreignKey).trans (.of_eq ?_)
  simp [StoredRelation.constraintRows, List.filter_map, Function.comp_def,
    StoredRelation.keyRow, StoredRelation.referenceRow]

/-- **The primary key** is what `load_primary_key` selects: the attributes whose numbers are in the
key, sorted by where they stand in it. -/
theorem primaryKeyOf_eq :
    r.primaryKeyOf x.schema.name x.name = (d.descriptor x).primaryKey := by
  have hwell := hd.relations x hx
  have hnumbers : (x.columns.map StoredColumn.number).Nodup :=
    List.pairwise_map.2 (hwell.ascending.imp fun hlt => hlt.ne)
  have hinj : ∀ b ∈ x.columns, ∀ c ∈ x.columns, b.number = c.number → b = c :=
    fun b hb c hc heq => List.inj_on_of_nodup_map hnumbers hb hc heq
  unfold SystemRows.primaryKeyOf
  rw [h.named_eq hd hx, List.flatMap_singleton]
  have hrows := (h.constraintsOf_primaryKey hd hx).flatMap_right fun c =>
    (r.attributesOf x.row fun a => c.keys.contains a.number).map fun a =>
      (c.keys.idxOf a.number, a.name)
  cases hkey : x.primaryKey with
  | none =>
    -- no constraint of the kind, so no rows
    rw [hkey] at hrows
    rw [inOrder_eq hrows .nil, Contents.descriptor, hkey]
    rfl
  | some k =>
    obtain ⟨hnodup, hcolumns⟩ := hwell.primaryKey k hkey
    have hkeys : (k.columns.map StoredColumn.number).Nodup :=
      hnodup.map_on fun b hb c hc => hinj b (hcolumns b hb) c (hcolumns c hc)
    -- the join runs over the columns of the table, in whatever order: sorting is by the key
    have hmembers : (x.columns.filter fun c =>
        (k.columns.map StoredColumn.number).contains c.number).Perm k.columns := by
      refine (List.perm_ext_iff_of_nodup ((List.Nodup.of_map _ hnumbers).filter _) hnodup).2 ?_
      intro c
      rw [List.mem_filter, List.contains_iff_mem, List.mem_map]
      constructor
      · rintro ⟨hc, b, hb, heq⟩
        exact hinj b (hcolumns b hb) c hc heq ▸ hb
      · intro hc
        exact ⟨hcolumns c hc, c, hc, rfl⟩
    -- an attribute that is no column has a number of its own, which no key can have
    have hattributes := (h.attributesOf_columns hd hx
      (fun a => (k.columns.map StoredColumn.number).contains a.number) fun a ha => by
        rw [← Bool.not_eq_true, List.contains_iff_mem, List.mem_map]
        rintro ⟨c, hc, heq⟩
        exact hwell.apart a ha c (hcolumns c hc) heq.symm).trans (hmembers.map x.attributeRow)
    rw [hkey, Option.toList_some, List.map_singleton, List.flatMap_singleton] at hrows
    rw [inOrder_eq (hrows.trans (hattributes.map _)), Contents.descriptor, hkey]
    · rw [List.map_map, List.map_map]
      rfl
    · have hplaces := List.pairwise_map.1 (pairwise_idxOf hkeys)
      rw [List.map_map, List.pairwise_map]
      exact hplaces

/-- **The pairs of a foreign key** find their columns on both sides: the relation that it leads to
by its identity, and the two columns of each pair by their numbers. -/
theorem referenceRow_eq {fk : StoredReference} (hfk : fk ∈ x.references) :
    ((r.relations.filter fun rt => rt.id = (x.referenceRow fk).target).flatMap fun rt =>
      ((x.referenceRow fk).keys.zip (x.referenceRow fk).targetKeys).zipIdx.flatMap fun k =>
        (r.attributesOf x.row fun a => a.number = k.1.1).flatMap fun a =>
          (r.attributesOf rt fun ra => ra.number = k.1.2).map fun ra =>
            (toLex ((x.referenceRow fk).name, k.2), (⟨a.name, rt.name, ra.name⟩ : ForeignKey))) =
      fk.pairs.zipIdx.map fun q =>
        (toLex (fk.name, q.2), ⟨q.1.1.column.name, fk.refTable, q.1.2.column.name⟩) := by
  obtain ⟨y, hy, hid, hname, hpairs⟩ := (hd.relations x hx).references fk hfk
  have htarget : (x.referenceRow fk).target = y.id := hid.symm
  have hzip : (x.referenceRow fk).keys.zip (x.referenceRow fk).targetKeys =
      fk.pairs.map fun p => (p.1.number, p.2.number) := List.zip_map'
  rw [htarget, h.relation_eq hd hy, List.flatMap_singleton, hzip, List.zipIdx_map,
    List.flatMap_map, List.map_eq_flatMap]
  -- the joins for one pair give one row
  refine List.flatMap_congr fun q hq => ?_
  obtain ⟨hlocal, hremote⟩ := hpairs q.1 (List.fst_mem_of_mem_zipIdx hq)
  have hone := h.attributesOf_number hd hx hlocal
  have hother := h.attributesOf_number hd hy hremote
  simp only [Prod.map]
  rw [hone, List.flatMap_singleton, hother, List.map_singleton, ← hname]
  rfl

/-- **The foreign keys** are what `load_foreign_keys` selects: a row for each pair of columns,
sorted by constraint and by position. -/
theorem foreignKeysOf_eq :
    r.foreignKeysOf x.schema.name x.name = (d.descriptor x).foreignKeys := by
  unfold SystemRows.foreignKeysOf
  rw [h.named_eq hd hx, List.flatMap_singleton]
  have hrows := (h.constraintsOf_foreignKey hd hx).flatMap_right fun c =>
    (r.relations.filter fun rt => rt.id = c.target).flatMap fun rt =>
      (c.keys.zip c.targetKeys).zipIdx.flatMap fun k =>
        (r.attributesOf x.row fun a => a.number = k.1.1).flatMap fun a =>
          (r.attributesOf rt fun ra => ra.number = k.1.2).map fun ra =>
            (toLex (c.name, k.2), (⟨a.name, rt.name, ra.name⟩ : ForeignKey))
  rw [List.flatMap_map, List.flatMap_congr fun fk hfk => h.referenceRow_eq hd hx hfk] at hrows
  rw [inOrder_eq hrows]
  · rw [List.map_flatMap, Contents.descriptor]
    refine List.flatMap_congr fun fk _ => ?_
    rw [List.map_map]
    conv_rhs => rw [← List.zipIdx_map_fst 0 fk.pairs, List.map_map]
    rfl
  · -- by the names of the constraints, and within one by the position of the pair
    exact pairwise_groups
      (fun (fk : StoredReference) (q : (StoredColumn × StoredColumn) × Nat) =>
        (⟨q.1.1.column.name, fk.refTable, q.1.2.column.name⟩ : ForeignKey))
      (hd.relations x hx).constraints fun fk _ => pairwise_zipIdx fk.pairs


/-- **The labels** are what `load_enum_labels` collects: a row for each label of a column whose type
has some, sorted by column and by the order of the type. -/
theorem enumLabelsOf_eq :
    EnumLabels.ofList (r.enumLabelsOf x.schema.name x.name) = (d.descriptor x).enumLabels := by
  have hwell := hd.relations x hx
  have hcolumns : (x.columns.filter fun c =>
      decide (0 < (x.attributeRow c).number) && !(x.attributeRow c).isDropped) = x.columns := by
    rw [List.filter_eq_self]
    intro c hc
    simp [StoredRelation.attributeRow, hwell.positive c hc]
  have hattributes := h.attributesOf_columns hd hx (fun a => decide (0 < a.number) && !a.isDropped)
    fun a ha => by
      rcases hwell.hidden a ha with hnumber | hdropped
      · simp [StoredRelation.hiddenRow, Int.not_lt.2 hnumber]
      · simp [StoredRelation.hiddenRow, hdropped]
  rw [hcolumns] at hattributes
  -- a type that has no labels adds no rows
  have hlabels : (x.columns.flatMap fun c => (r.labels.filter fun e => e.type = c.type).map
      fun e => (toLex (c.number, e.order), (c.column.name, e.label))).Perm
      (x.columns.flatMap fun c => (d.labelsOf c.type).map
        fun l => (toLex (c.number, l.1), (c.column.name, l.2))) := by
    refine List.Perm.flatMap_left x.columns fun c _ => ?_
    have hc := (h.labels_perm hd c.type).map fun e =>
      (toLex (c.number, e.order), (c.column.name, e.label))
    rw [List.map_map] at hc
    exact hc
  have hrows := hattributes.flatMap_right fun a => (r.labels.filter fun e => e.type = a.type).map
    fun e => (toLex (a.number, e.order), (a.name, e.label))
  rw [List.flatMap_map] at hrows
  unfold SystemRows.enumLabelsOf
  rw [h.named_eq hd hx, List.flatMap_singleton, inOrder_eq (hrows.trans hlabels)]
  · rw [List.map_flatMap, Contents.descriptor]
    refine congrArg EnumLabels.ofList (List.flatMap_congr fun c _ => ?_)
    rw [List.map_map]
    rfl
  · -- by the numbers of the columns, and within one by the sort order of its labels
    exact pairwise_groups (fun (c : StoredColumn) (l : ℚ × String) => (c.column.name, l.2))
      hwell.ascending fun c _ => hd.labelsOf_pairwise c.type

end

/-! ## What is listed -/

/-- A listing has the names of the tables that it accepts, and no others. -/
theorem baseTables_perm (h : r.Shows d) (schema : String) (accepts : String → Bool) :
    (r.baseTables schema accepts).Perm
      (((d.baseTables schema).map StoredRelation.name).filter accepts) := by
  refine (List.mergeSort_perm _ _).trans (((h.tables.filter _).map _).trans (.of_eq ?_))
  rw [List.filter_map, List.map_map, Contents.baseTables, List.filter_map, List.filter_filter]
  exact congrArg (List.map StoredRelation.name) (List.filter_congr fun x _ => Bool.and_comm _ _)

/-! ## A server of the rows -/

/-- Names under which there is no relation select nothing. -/
theorem named_eq_nil (h : r.Shows d) (hd : d.WellFormed) {schema table : String}
    (hnone : ∀ x ∈ d.relations, ¬ (x.schema.name = schema ∧ x.name = table)) :
    r.named schema table = [] := by
  unfold SystemRows.named
  rw [List.flatMap_eq_nil_iff]
  intro t ht
  obtain ⟨x, hx, rfl⟩ := List.mem_map.1 (h.relations.mem_iff.1 ht)
  rw [List.map_eq_nil_iff, List.filter_eq_nil_iff]
  intro n hn hall
  simp only [Bool.and_eq_true, decide_eq_true_eq] at hall
  obtain ⟨⟨hid, hschema⟩, hname⟩ := hall
  obtain rfl := List.inj_on_of_nodup_map hd.schemaIds (h.schemas.mem_iff.1 hn)
    (hd.relations x hx).schema hid
  exact hnone x hx ⟨hschema, hname⟩

/-- Nor are there columns under such names. -/
theorem columnsOf_eq_nil (h : r.Shows d) {schema table : String}
    (hnone : ∀ x ∈ d.relations, ¬ (x.schema.name = schema ∧ x.name = table)) :
    r.columnsOf schema table = [] := by
  have hrows : (r.columns.filter fun c => c.schema = schema && c.table = table) = [] := by
    rw [List.filter_eq_nil_iff]
    intro c hc hboth
    obtain ⟨x, hx, hrow⟩ := List.mem_flatMap.1 (h.columns.mem_iff.1 hc)
    obtain ⟨_, -, rfl⟩ := List.mem_map.1 hrow
    simp only [Bool.and_eq_true, decide_eq_true_eq] at hboth
    exact hnone x hx hboth
  rw [SystemRows.columnsOf, hrows, List.map_nil, inOrder_nil]

end SystemRows.Shows

/-- The results of the queries about a relation, as a server holds them. -/
def SystemRows.stored (r : SystemRows) (t : TableRow) : StoredTable where
  schema := t.schema
  name := t.name
  kind := t.kind
  columns := r.columnsOf t.schema t.name
  primaryKey := r.primaryKeyOf t.schema t.name
  foreignKeys := r.foreignKeysOf t.schema t.name
  enumLabels := r.enumLabelsOf t.schema t.name

/-- A server that holds the rows, refuses nobody and fails at no query. -/
def SystemRows.server (r : SystemRows) : DatabaseServer where
  tables := r.tables.map r.stored
  encrypts := false
  turnsAway := none
  fails := fun _ => none

/-- **Every database has a server that answers from it.** So a statement about servers that answer
from a database is about something, for every database. -/
theorem SystemRows.answersFrom_server {r : SystemRows} {d : Contents} (h : r.Shows d)
    (hd : d.WellFormed) : r.server.AnswersFrom r := by
  have hnames : ∀ schema accepts, r.server.tableNames schema accepts =
      r.baseTables schema accepts := by
    intro schema accepts
    unfold DatabaseServer.tableNames SystemRows.baseTables SystemRows.server
    rw [List.filter_map, List.map_map]
    rfl
  have htable : ∀ schema table, r.server.table schema table =
      ⟨table, r.columnsOf schema table, r.primaryKeyOf schema table,
        r.foreignKeysOf schema table, .ofList (r.enumLabelsOf schema table)⟩ := by
    intro schema table
    unfold DatabaseServer.table
    cases hstored : r.server.stored? schema table with
    | some found =>
      obtain ⟨t, -, rfl⟩ := List.mem_map.1 (List.mem_of_find?_eq_some hstored)
      have hsame := List.find?_some hstored
      simp only [Bool.and_eq_true, decide_eq_true_eq] at hsame
      have hschema : t.schema = schema := hsame.1
      have hname : t.name = table := hsame.2
      rw [← hschema, ← hname]
      rfl
    | none =>
      -- the server holds no such table, since there is no relation of the name
      have hnone : ∀ x ∈ d.relations, ¬ (x.schema.name = schema ∧ x.name = table) := by
        rintro x hx ⟨rfl, rfl⟩
        have hrow : r.stored x.tableRow ∈ r.server.tables :=
          List.mem_map_of_mem (h.tables.mem_iff.2 (List.mem_map_of_mem hx))
        exact List.find?_eq_none.1 hstored _ hrow
          (by simp [SystemRows.stored, StoredRelation.tableRow])
      have hnamed := h.named_eq_nil hd hnone
      unfold SystemRows.primaryKeyOf SystemRows.foreignKeysOf SystemRows.enumLabelsOf
      simp only [hnamed, h.columnsOf_eq_nil hnone, List.flatMap_nil, inOrder_nil]
      rfl
  exact {
    listAll := fun schema excluded => hnames schema _
    listRequested := fun schema requested => hnames schema _
    columns := fun schema table => by rw [htable]
    primaryKey := fun schema table => by rw [htable]
    foreignKeys := fun schema table => by rw [htable]
    enumLabels := fun schema table => by rw [htable] }

end CatalogEntities
