import CatalogEntities.Proofs.Entity.Fields

/-!
# `Proofs/Entity/Indistinct.lean` — what no entity file shows

A table holds more than its entity file shows, and what is left out of the file depends on what
becomes of a column: of a key column its length is, of an enumeration column its native type, of a
reference everything but where it leads. `Table.Indistinct` collects all of this in one relation
between two tables, in the words of the catalog, and `EntityFile.ofTable_eq_of_indistinct` says that
the files of such tables are the same.

The roles themselves come from lists that differ between the two tables. So the relation does not
fix the lists. It fixes the own columns one by one, each pair in one role that both tables give it
(`Table.IndistinctColumns`), and the references by where they lead.

The proof follows the three blocks of `Entity.fields_ofTable`. For each block corresponding columns
are shown to make equal fields, and `Indistinct.map_filter_eq` carries that to the lists. The one
step that looks beyond a pair of columns is the strategy of a key, which comes from the last column
of a name: that these correspond too is `Indistinct.lastNamesake`.
-/

set_option autoImplicit false

namespace CatalogEntities

/-- Whether a column has no default but one that takes its value from a sequence. A default of that
kind is read for the strategy of a key and kept nowhere. -/
def Column.KeepsNoDefault (c : Column) : Prop := c.default = none ∨ c.hasSequenceDefault = true

instance (c : Column) : Decidable c.KeepsNoDefault := inferInstanceAs (Decidable (_ ∨ _))

namespace Table

/-- **Two columns of two tables that no entity tells apart**, by the role that they both have. What
is not mentioned may differ, the concrete type name always. -/
inductive IndistinctColumns (t u : Table) (c d : Column) : Prop
  /-- Of a key column the type shows, and of its default only whether it is a sequence. -/
  | key (name : c.name = d.name) (left : c.name ∈ t.primaryKey) (right : d.name ∈ u.primaryKey)
      (dataType : c.dataType = d.dataType) (sequence : c.hasSequenceDefault = d.hasSequenceDefault)
  /-- Of a column with labels neither the type nor the default nor the length shows. -/
  | choice (name : c.name = d.name) (left : c.name ∉ t.primaryKey) (right : d.name ∉ u.primaryKey)
      (labelled : (t.enumLabels.get? c.name).isSome)
      (labels : t.enumLabels.get? c.name = u.enumLabels.get? d.name)
      (nullable : c.isNullable = d.isNullable)
  /-- Of any other column everything shows but a default that is not kept. -/
  | value (name : c.name = d.name) (left : c.name ∉ t.primaryKey) (right : d.name ∉ u.primaryKey)
      (labels : t.enumLabels.get? c.name = u.enumLabels.get? d.name)
      (nullable : c.isNullable = d.isNullable) (dataType : c.dataType = d.dataType)
      (maxLength : c.maxLength = d.maxLength)
      (default : c.default = d.default ∨ c.KeepsNoDefault ∧ d.KeepsNoDefault)

/-- **Two tables that no entity tells apart.** Keys and labels are mentioned only through the
columns that they are about: names in them that no column has may come and go. -/
structure Indistinct (t u : Table) : Prop where
  name : t.name = u.name
  /-- The local columns of foreign keys are the same, in the order in which they stand first. -/
  references : t.referenceColumns = u.referenceColumns
  /-- The first foreign key of a column leads to the same table. -/
  targets : ∀ column,
    (t.foreignKeyFor column).map ForeignKey.refTable =
      (u.foreignKeyFor column).map ForeignKey.refTable
  /-- The columns that are no references correspond in their order. -/
  columns : List.Forall₂ (IndistinctColumns t u) t.ownColumns u.ownColumns

variable {t u : Table} {c d : Column}

namespace IndistinctColumns

theorem name_eq (h : IndistinctColumns t u c d) : c.name = d.name := by
  cases h <;> assumption

theorem mem_primaryKey_iff (h : IndistinctColumns t u c d) :
    c.name ∈ t.primaryKey ↔ d.name ∈ u.primaryKey := by
  cases h with
  | key _ left right => exact iff_of_true left right
  | choice _ left right => exact iff_of_false left right
  | value _ left right => exact iff_of_false left right

/-- In a role with a key, two columns agree in all that a key field is made of. -/
theorem of_mem (h : IndistinctColumns t u c d) (hkey : c.name ∈ t.primaryKey) :
    c.dataType = d.dataType ∧ c.hasSequenceDefault = d.hasSequenceDefault := by
  cases h with
  | key _ _ _ dataType sequence => exact ⟨dataType, sequence⟩
  | choice _ left => exact absurd hkey left
  | value _ left => exact absurd hkey left

end IndistinctColumns

/-! ## Key columns -/

/-- Searches in corresponding lists find corresponding elements. -/
theorem find?_of_forall₂ {α β : Type} {R : α → β → Prop} {p : α → Bool} {q : β → Bool}
    (hpq : ∀ {x y}, R x y → p x = q y) {xs : List α} {ys : List β} (h : List.Forall₂ R xs ys) :
    Option.Rel R (xs.find? p) (ys.find? q) := by
  induction h with
  | nil => exact .none
  | @cons x y xs ys hxy _ ih =>
    rw [List.find?_cons, List.find?_cons, ← hpq hxy]
    cases p x with
    | true => exact .some hxy
    | false => exact ih

theorem select_congr (hdata : c.dataType = d.dataType)
    (hsequence : c.hasSequenceDefault = d.hasSequenceDefault) :
    KeyStrategy.select c = KeyStrategy.select d := by
  rw [KeyStrategy.select, KeyStrategy.select, hdata, hsequence]

theorem keyScript_congr (hdata : c.dataType = d.dataType) (s : KeyStrategy) :
    Field.keyScript c s = Field.keyScript d s := by
  cases s with
  | generatedUuid => rfl
  | generatedSequence => rfl
  | plain => rw [Field.keyScript, Field.keyScript, hdata]

/-- The last columns of a name correspond, as the columns do. Both tables are searched from the end,
with conditions that agree on corresponding columns. -/
theorem Indistinct.lastNamesake (h : Indistinct t u) (hcd : IndistinctColumns t u c d) :
    IndistinctColumns t u (t.lastNamesake c) (u.lastNamesake d) := by
  have hfound : Option.Rel (IndistinctColumns t u)
      (t.ownColumns.reverse.find? (·.name = c.name))
      (u.ownColumns.reverse.find? (·.name = d.name)) := by
    apply find?_of_forall₂ _ (List.forall₂_reverse_iff.2 h.columns)
    intro x y hxy
    rw [hxy.name_eq, hcd.name_eq]
  rw [Table.lastNamesake, Table.lastNamesake]
  generalize t.ownColumns.reverse.find? (·.name = c.name) = left at hfound
  generalize u.ownColumns.reverse.find? (·.name = d.name) = right at hfound
  cases hfound with
  | some hlast => exact hlast
  | none => exact hcd

/-- The last column of a name has the name. -/
theorem name_lastNamesake (t : Table) (c : Column) : (t.lastNamesake c).name = c.name := by
  rw [lastNamesake]
  cases hfound : t.ownColumns.reverse.find? (·.name = c.name) with
  | none => rfl
  | some last => simpa using List.find?_some hfound

/-- So corresponding key columns make one field. -/
theorem Indistinct.keyField_eq (h : Indistinct t u) (hcd : IndistinctColumns t u c d)
    (hkey : c.name ∈ t.primaryKey) : t.keyField c = u.keyField d := by
  have hlast := h.lastNamesake hcd
  have hlastKey : (t.lastNamesake c).name ∈ t.primaryKey := by
    rw [name_lastNamesake]
    exact hkey
  obtain ⟨hlastData, hlastSequence⟩ := hlast.of_mem hlastKey
  have hstrategy := select_congr hlastData hlastSequence
  rw [keyField, keyField, hcd.name_eq, hstrategy, keyScript_congr (hcd.of_mem hkey).1]

/-! ## The other columns -/

theorem ofPlainColumn_of_keepsNoDefault (h : c.KeepsNoDefault) :
    DefaultValue.ofPlainColumn c.default = none := by
  unfold DefaultValue.ofPlainColumn
  rcases h with hnone | hsequence
  · rw [hnone]
    rfl
  · obtain ⟨text, htext, hmentions⟩ := (Option.any_eq_true _ _).1 hsequence
    rw [htext, Option.bind_some, if_pos hmentions]

/-- And so do corresponding columns that are in no key, by the cases of their role. -/
theorem IndistinctColumns.otherField_eq (h : IndistinctColumns t u c d)
    (hother : c.name ∉ t.primaryKey) : t.otherField c = u.otherField d := by
  unfold otherField
  cases h with
  | key _ left => exact absurd left hother
  | choice name _ _ labelled labels nullable =>
    obtain ⟨found, hfound⟩ := Option.isSome_iff_exists.1 labelled
    rw [← labels, hfound, name, nullable]
  | value name _ _ labels nullable dataType maxLength default =>
    have hdefault :
        DefaultValue.ofPlainColumn c.default = DefaultValue.ofPlainColumn d.default := by
      rcases default with hsame | ⟨hleft, hright⟩
      · rw [hsame]
      · rw [ofPlainColumn_of_keepsNoDefault hleft, ofPlainColumn_of_keepsNoDefault hright]
    rw [← labels, name, nullable, dataType, maxLength, hdefault]

/-! ## References -/

/-- A reference has one field, and what it is depends on where the reference leads alone. -/
theorem Indistinct.isReferenceField (h : Indistinct t u) (suffix : String) {column : String}
    {f g : Field} (hf : t.IsReferenceField suffix column f)
    (hg : u.IsReferenceField suffix column g) : f = g := by
  obtain ⟨fk, hfk, rfl⟩ := hf
  obtain ⟨other, hother, rfl⟩ := hg
  have htargets := h.targets column
  rw [foreignKeyFor, foreignKeyFor, hfk, hother] at htargets
  rw [Option.some.inj htargets]

/-- The relations are the same. Both are lists of fields for the same references, one for each, and
the induction is on the references. -/
theorem Indistinct.relations_eq (h : Indistinct t u) (suffix : String) :
    (Resolution.ofTable suffix t).relations = (Resolution.ofTable suffix u).relations := by
  have hleft := forall₂_isReferenceField suffix t
  have hright := forall₂_isReferenceField suffix u
  rw [← h.references] at hright
  have hfields : (Resolution.ofTable suffix t).relations.map Field.relation =
      (Resolution.ofTable suffix u).relations.map Field.relation := by
    generalize t.referenceColumns = columns at hleft hright
    generalize (Resolution.ofTable suffix t).relations.map Field.relation = fs at hleft
    generalize (Resolution.ofTable suffix u).relations.map Field.relation = gs at hright
    induction hleft generalizing gs with
    | nil => exact (List.forall₂_nil_left_iff.1 hright).symm
    | @cons column f columns fs hf _ ih =>
      obtain ⟨g, gs, hg, hrest, rfl⟩ := List.forall₂_cons_left_iff.1 hright
      rw [h.isReferenceField suffix hf hg, ih gs hrest]
  exact List.map_injective_iff.2 (fun _ _ heq => Field.relation.inj heq) hfields

/-! ## The fields -/

/-- Corresponding columns that make the same fields make the same list of fields. -/
theorem Indistinct.map_filter_eq (h : Indistinct t u) {p q : Column → Bool} {f g : Column → Field}
    (hpq : ∀ {c d}, IndistinctColumns t u c d → (p c ↔ q d))
    (hfg : ∀ {c d}, IndistinctColumns t u c d → p c → f c = g d) :
    (t.ownColumns.filter p).map f = (u.ownColumns.filter q).map g := by
  have hcolumns := h.columns
  generalize t.ownColumns = cs at hcolumns
  generalize u.ownColumns = ds at hcolumns
  induction hcolumns with
  | nil => rfl
  | @cons c d cs ds hcd _ ih =>
    by_cases hp : p c
    · rw [List.filter_cons_of_pos hp, List.filter_cons_of_pos ((hpq hcd).1 hp), List.map_cons,
        List.map_cons, hfg hcd hp, ih]
    · rw [List.filter_cons_of_neg hp, List.filter_cons_of_neg fun hq => hp ((hpq hcd).2 hq), ih]

/-- **The fields are the same**, block by block. -/
theorem Indistinct.fields_eq (h : Indistinct t u) (settings : GeneratorSettings) :
    (Entity.ofTable settings t).fields = (Entity.ofTable settings u).fields := by
  have hkeys : t.keyColumns.map t.keyField = u.keyColumns.map u.keyField := by
    apply h.map_filter_eq
    · intro c d hcd
      simp only [decide_eq_true_eq]
      exact hcd.mem_primaryKey_iff
    · intro c d hcd hkey
      exact h.keyField_eq hcd (of_decide_eq_true hkey)
  have hothers : t.otherColumns.map t.otherField = u.otherColumns.map u.otherField := by
    apply h.map_filter_eq
    · intro c d hcd
      simp only [decide_eq_true_eq]
      exact not_congr hcd.mem_primaryKey_iff
    · intro c d hcd hother
      exact hcd.otherField_eq (of_decide_eq_true hother)
  rw [Entity.fields_ofTable, Entity.fields_ofTable, hkeys, hothers, h.relations_eq]

end Table

/-- A value column that keeps a default has one that does not come from a sequence. -/
theorem DefaultValue.not_mentions_of_ofPlainColumn {default : Option String} {d : DefaultValue}
    (h : ofPlainColumn default = some d) : Text.mentions d.raw sequenceMarker = false := by
  obtain ⟨text, -, hnone, rfl⟩ := exists_of_ofPlainColumn h
  rw [raw_classify]
  exact hnone

/-- **Tables that differ in what an entity does not carry have the same file**, whatever they are
generated with. In particular no field carries a default that comes from a sequence. -/
theorem EntityFile.ofTable_eq_of_indistinct {t u : Table} (h : t.Indistinct u)
    (settings : GeneratorSettings) :
    ofTable settings t = ofTable settings u ∧
      ∀ column type nullable maxLength d,
        Field.value column type nullable maxLength (some d) ∈
            (Entity.ofTable settings t).fields →
          Text.mentions d.raw DefaultValue.sequenceMarker = false := by
  constructor
  · have hentity : Entity.ofTable settings t = Entity.ofTable settings u := by
      have himports :
          (Entity.ofTable settings t).imports = (Entity.ofTable settings u).imports := by
        show Entity.related _ _ = Entity.related _ _
        rw [h.name, h.relations_eq]
      calc Entity.ofTable settings t
          = ⟨t.name, Naming.className t.name, (Entity.ofTable settings t).imports,
              Entity.moduleSuffixOf settings.fileSuffix, (Entity.ofTable settings t).fields⟩ := rfl
        _ = ⟨u.name, Naming.className u.name, (Entity.ofTable settings u).imports,
              Entity.moduleSuffixOf settings.fileSuffix, (Entity.ofTable settings u).fields⟩ := by
          rw [h.name, himports, h.fields_eq settings]
        _ = Entity.ofTable settings u := rfl
    rw [ofTable, ofTable, hentity, h.name]
  · intro column type nullable maxLength d hmem
    obtain ⟨c, -, hdefault⟩ := Entity.exists_of_value_mem hmem
    exact DefaultValue.not_mentions_of_ofPlainColumn hdefault.symm

/-! ## Two tables with one file -/

/-- Orders with a generated number, a state, a serial number that is no key, and a customer. -/
def Table.orders : Table :=
  { name := "orders"
    columns :=
      [ ⟨"id", "integer", none, false, some "nextval('orders_id_seq'::regclass)", "int4"⟩,
        ⟨"customer_id", "integer", none, false, none, "int4"⟩,
        ⟨"state", "USER-DEFINED", none, true, some "'new'::order_state", "order_state"⟩,
        ⟨"serial", "bigint", none, true, some "nextval('serials'::regclass)", "int8"⟩ ]
    primaryKey := ["id"]
    foreignKeys := [⟨"customer_id", "customers", "id"⟩, ⟨"customer_id", "clients", "id"⟩]
    enumLabels := EnumLabels.ofList [("state", "new"), ("id", "one"), ("state", "paid")] }

/-- The same orders with everything changed that no entity shows: lengths, concrete types, what is
referenced beside the table, the order and repetitions of the key, names in it that no column has,
and the labels of columns that are keys or references. -/
def Table.retoldOrders : Table :=
  { name := "orders"
    columns :=
      [ ⟨"id", "integer", some 10, true, some "1 + nextval('numbers')", "id_number"⟩,
        ⟨"state", "text", some 20, true, none, "text"⟩,
        ⟨"serial", "bigint", none, true, none, "bigint"⟩ ]
    primaryKey := ["customer_id", "id", "ghost", "id"]
    foreignKeys := [⟨"customer_id", "customers", "number"⟩]
    enumLabels :=
      EnumLabels.ofList [("customer_id", "one"), ("state", "new"), ("ghost", "two"),
        ("state", "paid")] }

theorem Table.indistinct_retoldOrders : orders.Indistinct retoldOrders where
  name := rfl
  references := by decide
  targets := by
    intro column
    by_cases hcolumn : "customer_id" = column
    · rw [← hcolumn]
      decide
    · simp [foreignKeyFor, orders, retoldOrders, hcolumn]
  columns := by
    have hleft : orders.ownColumns =
        [orders.columns[0], orders.columns[2], orders.columns[3]] := by decide
    have hright : retoldOrders.ownColumns = retoldOrders.columns := by decide
    rw [hleft, hright]
    refine .cons ?_ (.cons ?_ (.cons ?_ .nil))
    · exact .key (by decide) (by decide) (by decide) (by decide) (by decide)
    · exact .choice (by decide) (by decide) (by decide) (by decide) (by decide) (by decide)
    · exact .value (by decide) (by decide) (by decide) (by decide) (by decide) (by decide)
        (by decide) (.inr (by decide))

/-- The two tables have one file. -/
theorem EntityFile.ofTable_retoldOrders :
    Table.orders.Indistinct Table.retoldOrders ∧
      ofTable .defaults Table.orders = ofTable .defaults Table.retoldOrders :=
  ⟨Table.indistinct_retoldOrders,
    (ofTable_eq_of_indistinct Table.indistinct_retoldOrders .defaults).1⟩

end CatalogEntities
