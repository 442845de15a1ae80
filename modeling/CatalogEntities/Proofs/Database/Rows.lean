import CatalogEntities.Database.Server
import Mathlib.Algebra.Order.Ring.Rat
import Mathlib.Data.List.Nodup
import Mathlib.Data.Prod.Lex
import Mathlib.Data.String.Basic

/-!
# `Proofs/Database/Rows.lean` — what the queries of a run select

A database system describes its tables in tables of its own. `SystemRows` is what these hold, as far
as the queries look at it, and nothing is said about the order in which the rows are kept. The
queries are read as they are written: joins and conditions pick rows, and the result is in the order
of its sort key.

Two of the tables are views of the information schema, which tell of tables and columns by name. The
others belong to the system itself, and there relations and types have identities.

A join is a `flatMap` with a `filter` inside, in the order in which the query names its tables, and
`ORDER BY` is sorting pairs of a key and a row by the key (`inOrder`). Which of two rows with one
key comes first is left open by the language of queries; sorting here keeps them as they come, which
makes no difference, as `inOrder_eq` shows that the keys of these queries tell all rows apart.
-/

set_option autoImplicit false

namespace CatalogEntities

/-! ## The rows -/

/-- A row of `pg_namespace`. -/
structure SchemaRow where
  /-- Its identity in the system, `oid`. -/
  id : Nat
  name : String
  deriving Repr, DecidableEq

/-- A row of `pg_class`. -/
structure RelationRow where
  id : Nat
  /-- The identity of its schema, `relnamespace`. -/
  schema : Nat
  name : String
  deriving Repr, DecidableEq

/-- A row of `pg_attribute`. -/
structure AttributeRow where
  relation : Nat
  /-- Where it stands in its relation, `attnum`: positive for columns, negative for the attributes
  of the system. -/
  number : Int
  name : String
  type : Nat
  isDropped : Bool
  deriving Repr, DecidableEq

/-- What a constraint is, as far as the queries ask: `contype` is `p`, `f` or anything else. -/
inductive ConstraintKind
  | primaryKey
  | foreignKey
  | other
  deriving Repr, DecidableEq

/-- A row of `pg_constraint`, with the attribute numbers of the columns on both sides. -/
structure ConstraintRow where
  name : String
  kind : ConstraintKind
  relation : Nat
  /-- The relation that a foreign key leads to, and zero for other constraints. -/
  target : Nat
  keys : List Int
  targetKeys : List Int
  deriving Repr, DecidableEq

/-- A row of `pg_enum`. -/
structure LabelRow where
  type : Nat
  /-- The sort order, which need not be whole: labels can be put between others later. -/
  order : ℚ
  label : String
  deriving DecidableEq

/-- A row of `information_schema.tables`. -/
structure TableRow where
  schema : String
  name : String
  kind : String
  deriving Repr, DecidableEq

/-- A row of `information_schema.columns`. -/
structure ColumnRow where
  schema : String
  table : String
  position : Int
  column : Column
  deriving Repr, DecidableEq

/-- **What a database system knows about its tables.** The lists are bags of rows: no statement
depends on their order. -/
structure SystemRows where
  schemas : List SchemaRow
  relations : List RelationRow
  attributes : List AttributeRow
  constraints : List ConstraintRow
  labels : List LabelRow
  tables : List TableRow
  columns : List ColumnRow

/-! ## Order -/

section

variable {κ α : Type}

/-- The rows of a result in the order of their sort keys. -/
def inOrder [LE κ] [DecidableLE κ] (rows : List (κ × α)) : List α :=
  (rows.mergeSort fun a b => decide (a.1 ≤ b.1)).map Prod.snd

theorem inOrder_nil [LE κ] [DecidableLE κ] : inOrder ([] : List (κ × α)) = [] := by
  simp [inOrder]

/-- **No two rows with one sort key, so one order.** Rows that are a permutation of an expected list
come out as that list, if the keys of the list ascend. -/
theorem inOrder_eq [LinearOrder κ] {rows expected : List (κ × α)} (hperm : rows.Perm expected)
    (hsorted : expected.Pairwise fun a b => a.1 < b.1) :
    inOrder rows = expected.map Prod.snd := by
  have hkeys : (expected.map Prod.fst).Nodup :=
    List.pairwise_map.2 (hsorted.imp fun hlt => hlt.ne)
  refine congrArg (List.map Prod.snd) (List.Perm.eq_of_pairwise ?_
    (List.pairwise_mergeSort ?_ ?_ rows) (hsorted.imp fun hlt => decide_eq_true hlt.le)
    ((List.mergeSort_perm rows _).trans hperm))
  · -- two rows of which neither comes before the other have one key, so they are one row
    intro a b ha hb hab hba
    have hkey : a.1 = b.1 := le_antisymm (of_decide_eq_true hab) (of_decide_eq_true hba)
    exact List.inj_on_of_nodup_map hkeys (hperm.mem_iff.1 (List.mem_mergeSort.1 ha)) hb hkey
  · intro a b c hab hbc
    exact decide_eq_true ((of_decide_eq_true hab).trans (of_decide_eq_true hbc))
  · intro a b
    simpa using le_total a.1 b.1

end

/-! ## The queries -/

namespace SystemRows

variable (r : SystemRows) (schema table : String)

/-- The tables that both listings select. -/
def baseTables (accepts : String → Bool) : List String :=
  ((r.tables.filter fun t =>
      t.schema = schema && t.kind = StoredTable.baseTable && accepts t.name).map
    TableRow.name).mergeSort

/-- `LIST_ALL_TABLES`: all tables but those that are excluded. -/
def listAll (excluded : List String) : List String :=
  r.baseTables schema fun name => !excluded.contains name

/-- `LIST_REQUESTED_TABLES`: the tables that are asked for. -/
def listRequested (requested : List String) : List String :=
  r.baseTables schema requested.contains

/-- `COLUMNS_QUERY`: the columns, by their position. -/
def columnsOf : List Column :=
  inOrder ((r.columns.filter fun c => c.schema = schema && c.table = table).map fun c =>
    (c.position, c.column))

/-- The relations of a name in the schemas of a name. -/
def named : List RelationRow :=
  r.relations.flatMap fun t =>
    (r.schemas.filter fun n => n.id = t.schema && n.name = schema && t.name = table).map fun _ => t

/-- The constraints of a relation that are of some kind. -/
def constraintsOf (t : RelationRow) (kind : ConstraintKind) : List ConstraintRow :=
  r.constraints.filter fun c => c.relation = t.id && c.kind = kind

/-- The attributes of a relation that a join asks for. -/
def attributesOf (t : RelationRow) (holds : AttributeRow → Bool) : List AttributeRow :=
  r.attributes.filter fun a => a.relation = t.id && holds a

/-- `PRIMARY_KEY_QUERY`: the key columns, by where they stand in the key. -/
def primaryKeyOf : List String :=
  inOrder <| (r.named schema table).flatMap fun t =>
    (r.constraintsOf t .primaryKey).flatMap fun c =>
      (r.attributesOf t fun a => c.keys.contains a.number).map fun a =>
        (c.keys.idxOf a.number, a.name)

/-- `FOREIGN_KEY_QUERY`: the two sides of the foreign keys, column by column. The two lists of
numbers are unnested together, so that they go in pairs with a position. -/
def foreignKeysOf : List ForeignKey :=
  inOrder <| (r.named schema table).flatMap fun t =>
    (r.constraintsOf t .foreignKey).flatMap fun c =>
      (r.relations.filter fun rt => rt.id = c.target).flatMap fun rt =>
        (c.keys.zip c.targetKeys).zipIdx.flatMap fun k =>
          (r.attributesOf t fun a => a.number = k.1.1).flatMap fun a =>
            (r.attributesOf rt fun ra => ra.number = k.1.2).map fun ra =>
              (toLex (c.name, k.2), (⟨a.name, rt.name, ra.name⟩ : ForeignKey))

/-- `ENUM_LABELS_QUERY`: the labels of columns whose type has labels. The join is on the type of the
attribute, whatever that is called. -/
def enumLabelsOf : List (String × String) :=
  inOrder <| (r.named schema table).flatMap fun t =>
    (r.attributesOf t fun a => 0 < a.number && !a.isDropped).flatMap fun a =>
      (r.labels.filter fun e => e.type = a.type).map fun e =>
        (toLex (a.number, e.order), (a.name, e.label))

end SystemRows

/-- **A server answers with the rows that the queries select.** Each clause is one of the six
queries, for all of its parameters. -/
structure DatabaseServer.AnswersFrom (server : DatabaseServer) (r : SystemRows) : Prop where
  listAll : ∀ schema excluded,
    server.tableNames schema (fun name => !excluded.contains name) = r.listAll schema excluded
  listRequested : ∀ schema requested,
    server.tableNames schema requested.contains = r.listRequested schema requested
  columns : ∀ schema table, (server.table schema table).columns = r.columnsOf schema table
  primaryKey : ∀ schema table, (server.table schema table).primaryKey = r.primaryKeyOf schema table
  foreignKeys : ∀ schema table,
    (server.table schema table).foreignKeys = r.foreignKeysOf schema table
  enumLabels : ∀ schema table,
    (server.table schema table).enumLabels = .ofList (r.enumLabelsOf schema table)

end CatalogEntities
