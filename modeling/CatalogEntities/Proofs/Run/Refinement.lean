import CatalogEntities.Proofs.Catalog
import CatalogEntities.Proofs.Database.Contents
import CatalogEntities.Proofs.Dictionary
import CatalogEntities.Proofs.Run.Turn
import CatalogEntities.Run

/-!
# `Proofs/Run/Refinement.lean` — a database and its tables held in memory

A run over a database does to the files what a run over the descriptions of its base tables does,
and reports the same (`overDatabase_refines`). So all that is known of runs over tables in memory
holds over databases too, and what else a database contains makes no difference.

The two catalogs are not equal: they have names of their own, one of them tells more, and they
differ on tables that no run asks for. What a step does depends on none of this. The simulation is
therefore between states that have the same files and the same jobs (`Alike`), one step first and
then a whole schedule.

What a run says on its way is left out of the relation, because a session tells how many rows it
read and memory has none to count. The report is in it.
-/

set_option autoImplicit false

namespace CatalogEntities

/-! ## Steps that are alike -/

namespace Progress

variable {catalog other : Catalog} {settings : GeneratorSettings}

/-- Two states of a run that at most differ in what has been told. -/
def Alike (p q : Progress) : Prop := q.files = p.files ∧ q.jobs = p.jobs

/-- A turn that comes to the same in both catalogs, but for what is told. -/
def Agrees (catalog other : Catalog) (settings : GeneratorSettings) (turn : Turn) : Prop :=
  (turn.job.step other settings turn.files).files =
      (turn.job.step catalog settings turn.files).files ∧
    (turn.job.step other settings turn.files).result =
      (turn.job.step catalog settings turn.files).result

/-- **One step keeps states alike**, if the turn comes to the same in both catalogs. -/
theorem alike_advance {p q : Progress} (halike : Alike p q) {i : Nat}
    (h : ∀ job, p.jobs[i]? = some job → Agrees catalog other settings ⟨i, job, p.files⟩) :
    Alike (p.advance catalog settings i).1 (q.advance other settings i).1 ∧
      (q.advance other settings i).2 = (p.advance catalog settings i).2 := by
  obtain ⟨hfiles, hjobs⟩ := halike
  unfold advance
  rw [hjobs]
  cases hjob : p.jobs[i]? with
  | none => exact ⟨⟨hfiles, hjobs⟩, rfl⟩
  | some job =>
    obtain ⟨hstep, hresult⟩ := h job hjob
    dsimp only at hstep hresult ⊢
    rw [hfiles, hresult]
    cases (job.step catalog settings p.files).result with
    | ok next => exact ⟨⟨hstep, rfl⟩, rfl⟩
    | error f => exact ⟨⟨hstep, rfl⟩, rfl⟩

/-- **Whole schedules are alike** if all their turns agree. -/
theorem alike_follow {schedule : Schedule} {p q : Progress} (halike : Alike p q)
    (h : ∀ turn ∈ p.turns catalog settings schedule, Agrees catalog other settings turn) :
    Alike (p.follow catalog settings schedule).1 (q.follow other settings schedule).1 ∧
      (q.follow other settings schedule).2 = (p.follow catalog settings schedule).2 := by
  induction schedule generalizing p q with
  | nil => exact ⟨halike, rfl⟩
  | cons i rest ih =>
    rw [turns] at h
    have hfirst : ∀ job, p.jobs[i]? = some job →
        Agrees catalog other settings ⟨i, job, p.files⟩ := by
      intro job hjob
      rw [hjob] at h
      exact h _ List.mem_cons_self
    obtain ⟨hnext, hended⟩ := alike_advance halike hfirst
    rw [follow, follow]
    rcases hp : p.advance catalog settings i with ⟨p', ended⟩
    rcases hq : q.advance other settings i with ⟨q', ended'⟩
    rw [hp, hq] at hnext hended
    obtain rfl : ended' = ended := hended
    cases ended' with
    | error f => exact ⟨hnext, rfl⟩
    | ok _ =>
      refine ih hnext fun turn hturn => ?_
      cases hjob : p.jobs[i]? with
      | none =>
        -- nobody had this turn, so nothing has changed
        rw [hjob] at h
        have hsame : p' = p := by
          rw [advance, hjob] at hp
          exact (Prod.mk.inj hp).1.symm
        rw [hsame] at hturn
        exact h turn hturn
      | some job =>
        rw [hjob] at h
        dsimp only at h
        rw [hp] at h
        exact h turn (List.mem_cons_of_mem _ hturn)

end Progress

/-! ## Runs that are alike -/

namespace Run

section

variable {catalog other : Catalog} {settings : GeneratorSettings} {requested : List String}

/-- How a table is described decides what a job on it does. -/
theorem agrees_of_describe {turn : Turn} {table : String}
    (hjob : turn.job.IsFor catalog settings table)
    (h : other.describe table = catalog.describe table) :
    Progress.Agrees catalog other settings turn := by
  obtain ⟨i, job, now⟩ := turn
  cases job with
  | waiting asked =>
    have hasked : asked = table := hjob
    unfold Progress.Agrees
    show (Job.render other settings asked now).files =
        (Job.render catalog settings asked now).files ∧
      (Job.render other settings asked now).result = (Job.render catalog settings asked now).result
    unfold Job.render
    rw [hasked, h]
    cases catalog.describe table with
    | error f => exact ⟨rfl, rfl⟩
    | ok t => cases settings.dryRun <;> exact ⟨rfl, rfl⟩
  | rendered file => exact ⟨rfl, rfl⟩
  | staged file => exact ⟨rfl, rfl⟩
  | finished done => exact ⟨rfl, rfl⟩

/-- **Catalogs that list and describe alike** lead to the same files and the same report. -/
theorem scheduled_alike (schedule : Schedule) (fs : FileSystem)
    (hlist : other.list requested settings.excludedTables =
      catalog.list requested settings.excludedTables)
    (hdescribe : ∀ table ∈ tables catalog settings requested,
      other.describe table = catalog.describe table) :
    (scheduled other settings requested schedule fs).files =
        (scheduled catalog settings requested schedule fs).files ∧
      (scheduled other settings requested schedule fs).outcome =
        (scheduled catalog settings requested schedule fs).outcome := by
  cases hset : catalog.list requested settings.excludedTables with
  | error f =>
    rw [scheduled_of_list_error hset, scheduled_of_list_error (hlist.trans hset)]
    exact ⟨rfl, rfl⟩
  | ok set =>
    -- making the directory and deciding the claims do not ask the catalog
    have hother := hlist.trans hset
    rcases hbase : prepare settings fs with ⟨base, made⟩
    cases made with
    | error f =>
      have hrun : (scheduled catalog settings requested schedule fs).files = base ∧ _ :=
        scheduled_of_prepare_error hset hbase
      have hrun' : (scheduled other settings requested schedule fs).files = base ∧ _ :=
        scheduled_of_prepare_error hother hbase
      exact ⟨hrun'.1.trans hrun.1.symm, hrun'.2.trans hrun.2.symm⟩
    | ok _ =>
      have hturns : ∀ turn ∈ (begun settings set base).turns catalog settings
          (schedule ++ Schedule.standard (begun settings set base).jobs.length),
          Progress.Agrees catalog other settings turn := by
        intro turn hturn
        have hmem : turn ∈ turns catalog settings requested schedule fs := by
          rw [turns, hset, hbase]
          exact hturn
        obtain ⟨table, htable, hjob⟩ := isFor_of_mem_turns hmem
        exact agrees_of_describe hjob (hdescribe table (List.mem_of_getElem? htable))
      obtain ⟨⟨hfiles, hjobs⟩, hended⟩ :=
        Progress.alike_follow (p := begun settings set base) ⟨rfl, rfl⟩ hturns
      rcases hp : carriedOut catalog settings set schedule base with ⟨p, ended⟩
      rcases hq : carriedOut other settings set schedule base with ⟨q, ended'⟩
      unfold carriedOut at hp hq
      rw [hp, hq] at hfiles hjobs hended
      obtain rfl : ended' = ended := hended
      cases ended' with
      | error f =>
        obtain ⟨hleft, hfailed⟩ := scheduled_of_error hset hbase hp
        obtain ⟨hleft', hfailed'⟩ := scheduled_of_error hother hbase hq
        exact ⟨hleft'.trans (hfiles.trans hleft.symm), hfailed'.trans hfailed.symm⟩
      | ok _ =>
        obtain ⟨hleft, hdone⟩ := scheduled_of_ok hset hbase hp
        obtain ⟨hleft', hdone'⟩ := scheduled_of_ok hother hbase hq
        have hreport : q.jobs = p.jobs := hjobs
        rw [hdone, hdone', hreport]
        exact ⟨hleft'.trans (hfiles.trans hleft.symm), rfl⟩

end

end Run

/-! ## Tables in memory -/

namespace MemoryCatalog

variable {tables : List Table}

/-- Tables of different names are listed by their names, in order. -/
theorem names_ofTables (hnodup : (tables.map Table.name).Nodup) :
    (ofTables tables).tables.names = (tables.map Table.name).mergeSort := by
  have hnames := (ofTables tables).tables.pairwise_names
  refine List.Perm.eq_of_pairwise (fun _ _ _ _ => String.le_antisymm)
    (hnames.imp fun hlt => le_of_lt hlt) (pairwise_mergeSort_names _) ?_
  refine .trans ?_ (List.mergeSort_perm _ _).symm
  refine (List.perm_ext_iff_of_nodup (hnames.imp fun hlt => String.ne_of_lt hlt) hnodup).2 ?_
  intro name
  unfold ofTables
  rw [Dictionary.mem_names_ofList]
  constructor
  · rintro ⟨p, hp, rfl⟩
    obtain ⟨t, ht, rfl⟩ := List.mem_map.1 hp
    exact List.mem_map_of_mem ht
  · intro hname
    obtain ⟨t, ht, rfl⟩ := List.mem_map.1 hname
    exact ⟨(t.name, t), List.mem_map_of_mem ht, rfl⟩

/-- Tables of different names are described as they are. -/
theorem describe_ofTables (hnodup : (tables.map Table.name).Nodup) {t : Table} (ht : t ∈ tables) :
    (ofTables tables).describe t.name = .ok t := by
  have hfound : (ofTables tables).tables.find? t.name = some t := by
    unfold ofTables
    rw [Dictionary.find?_ofList, ← List.map_reverse]
    obtain ⟨before, after, hsplit⟩ := List.append_of_mem (List.mem_reverse.2 ht)
    rw [List.lookup_eq_some_iff]
    refine ⟨before.map fun t => (t.name, t), after.map fun t => (t.name, t), ?_, ?_⟩
    · rw [hsplit, List.map_append, List.map_cons]
    · -- a table of the same name further in front would be the same name twice
      intro p hp
      obtain ⟨u, hu, rfl⟩ := List.mem_map.1 hp
      have hreversed : ((before ++ t :: after).map Table.name).Nodup := by
        rw [← hsplit, List.map_reverse, List.nodup_reverse]
        exact hnodup
      rw [List.map_append, List.nodup_append] at hreversed
      have hne := hreversed.2.2 u.name (List.mem_map_of_mem hu) t.name
        (List.mem_map_of_mem List.mem_cons_self)
      simpa using hne.symm
  have hbroken : (ofTables tables).broken.find? t.name = none := rfl
  unfold describe
  rw [hbroken, hfound]

end MemoryCatalog

/-! ## A database and its tables -/

section

variable {d : Contents} {r : SystemRows}

/-- The base tables of one schema have different names, since no two relations of a schema share
one. -/
theorem Contents.WellFormed.nodup_names (hd : d.WellFormed) (schema : String) :
    ((d.tables schema).map Table.name).Nodup := by
  rw [Contents.tables, List.map_map]
  have hpairs : (d.baseTables schema).Pairwise fun x y =>
      (x.schema.name, x.name) ≠ (y.schema.name, y.name) :=
    (List.pairwise_map.1 hd.names).filter _
  refine List.pairwise_map.2 (hpairs.imp_of_mem ?_)
  intro x y hx hy hne hname
  have hschema : ∀ z ∈ d.baseTables schema, z.schema.name = schema := by
    intro z hz
    have hboth := (List.mem_filter.1 hz).2
    simp only [Bool.and_eq_true, decide_eq_true_eq] at hboth
    exact hboth.1
  exact hne (Prod.ext ((hschema x hx).trans (hschema y hy).symm) hname)

/-- What a server lists are the tables in memory. -/
theorem tableNames_eq (hd : d.WellFormed) (hr : r.Shows d) {server : DatabaseServer}
    (h : server.AnswersFrom r) (schema : String) :
    (server.tableNames schema fun _ => true) =
      (MemoryCatalog.ofTables (d.tables schema)).tables.names := by
  have hlisted : (server.tableNames schema fun _ => true) = r.listAll schema [] :=
    h.listAll schema []
  have hnames : (d.tables schema).map Table.name =
      (d.baseTables schema).map StoredRelation.name := by
    rw [Contents.tables, List.map_map]
    rfl
  have hperm : (r.listAll schema []).Perm ((d.tables schema).map Table.name) := by
    rw [hnames]
    exact (hr.baseTables_perm schema _).trans (.of_eq (List.filter_eq_self.2 fun _ _ => rfl))
  -- both are the same names in ascending order, and there is one such list
  rw [hlisted, MemoryCatalog.names_ofTables (hd.nodup_names schema)]
  exact List.Perm.eq_of_pairwise (fun _ _ _ _ => String.le_antisymm)
    (pairwise_mergeSort_names _) (pairwise_mergeSort_names _)
    (hperm.trans (List.mergeSort_perm _ _).symm)

/-- **What a server knows of a relation is its description.** -/
theorem table_eq_descriptor (hd : d.WellFormed) (hr : r.Shows d) {server : DatabaseServer}
    (h : server.AnswersFrom r) {x : StoredRelation} (hx : x ∈ d.relations) :
    { server.table x.schema.name x.name with name := x.name } = d.descriptor x := by
  have hcolumns := (h.columns _ _).trans (hr.columnsOf_eq hd hx)
  have hprimaryKey := (h.primaryKey _ _).trans (hr.primaryKeyOf_eq hd hx)
  have hforeignKeys := (h.foreignKeys _ _).trans (hr.foreignKeysOf_eq hd hx)
  have henumLabels := (h.enumLabels _ _).trans (hr.enumLabelsOf_eq hd hx)
  dsimp only
  rw [hcolumns, hprimaryKey, hforeignKeys, henumLabels]
  rfl

end

/-- **A database that serves a request**: it is reached, answers from what it contains, and
refuses no query of the run. -/
structure Network.Serves (network : Network) (settings : Settings) (requested : List String)
    (d : Contents) : Prop where
  wellFormed : d.WellFormed
  reached : ∃ s r, Session.connect network settings.database = .ok s ∧ r.Shows d ∧
    s.server.AnswersFrom r ∧
    s.ask (.listing s.schema requested settings.generator.excludedTables) () = .ok () ∧
    ∀ table ∈ Run.tables s.catalog settings.generator requested, ∀ query,
      s.ask (.describe query s.schema table) () = .ok ()

/-- **The base tables of the schema, held in memory**: each is what its relation describes, with
nothing of how a server would find that out. -/
def Contents.memory (d : Contents) (settings : Settings) : Catalog :=
  (MemoryCatalog.ofTables (d.tables settings.database.schema)).catalog

namespace Run

variable {network : Network} {settings : Settings} {requested : List String} {d : Contents}

/-- **A run over a database does what a run over its tables does.** -/
theorem overDatabase_eq_memory (h : network.Serves settings requested d) (schedule : Schedule)
    (fs : FileSystem) :
    (overDatabase network settings requested schedule fs).files =
        (scheduled (d.memory settings) settings.generator requested schedule fs).files ∧
      (overDatabase network settings requested schedule fs).outcome =
        (scheduled (d.memory settings) settings.generator requested schedule fs).outcome := by
  obtain ⟨s, r, hconnect, hr, hserver, hlisted, hdescribed⟩ := h.reached
  have hd := h.wellFormed
  have hschema := Session.schema_of_connect hconnect
  have hlist : (d.memory settings).list requested settings.generator.excludedTables =
      s.catalog.list requested settings.generator.excludedTables := by
    show _ = s.list _ _
    rw [Session.list_of_answered hlisted, tableNames_eq hd hr hserver, hschema]
    rfl
  have hdescribe : ∀ table ∈ tables s.catalog settings.generator requested,
      (d.memory settings).describe table = s.catalog.describe table := by
    intro table htable
    -- a table of the run is one of the base tables
    obtain ⟨t, ht, rfl⟩ : ∃ t ∈ d.tables settings.database.schema, t.name = table := by
      have hset := hlist.symm
      rw [tables_of_list hset] at htable
      have hfound := (Claim.claimed_sublist _ _).subset htable
      have hname := (TableSet.found_select_sublist _ _ _).subset hfound
      rw [MemoryCatalog.names_ofTables (hd.nodup_names _), List.mem_mergeSort] at hname
      exact List.mem_map.1 hname
    have hanswered := hdescribed _ htable
    obtain ⟨x, hx, rfl⟩ := List.mem_map.1 ht
    obtain ⟨hmem, hboth⟩ := List.mem_filter.1 hx
    simp only [Bool.and_eq_true, decide_eq_true_eq] at hboth
    show MemoryCatalog.describe _ _ = s.describe _
    rw [MemoryCatalog.describe_ofTables (hd.nodup_names _) ht,
      Session.describe_of_answered hanswered, hschema, ← hboth.1,
      ← table_eq_descriptor hd hr hserver hmem]
  obtain ⟨hfiles, houtcome⟩ := scheduled_alike schedule fs hlist hdescribe
  unfold overDatabase
  rw [hconnect]
  exact ⟨hfiles.symm, houtcome.symm⟩

/-- **What it is for a run over a database to refine the run over its base tables.** -/
structure Refines (network : Network) (settings : Settings) (requested : List String)
    (d : Contents) (schedule : Schedule) (fs : FileSystem) : Prop where
  /-- The same files afterwards, byte by byte and directory by directory. -/
  files : (overDatabase network settings requested schedule fs).files =
    (scheduled (d.memory settings) settings.generator requested schedule fs).files
  /-- The same report, or the same failure. -/
  outcome : (overDatabase network settings requested schedule fs).outcome =
    (scheduled (d.memory settings) settings.generator requested schedule fs).outcome
  /-- A database with the same base tables in the schema would do as well, whatever else it has. -/
  elsewhere : ∀ (other : Network) (d' : Contents), other.Serves settings requested d' →
    d'.tables settings.database.schema = d.tables settings.database.schema →
    (overDatabase other settings requested schedule fs).files =
        (overDatabase network settings requested schedule fs).files ∧
      (overDatabase other settings requested schedule fs).outcome =
        (overDatabase network settings requested schedule fs).outcome

/-- **A database refines its base tables held in memory**, for every request, in every order of
steps and whatever files there are. -/
theorem overDatabase_refines (h : network.Serves settings requested d) (schedule : Schedule)
    (fs : FileSystem) : Refines network settings requested d schedule fs := by
  obtain ⟨hfiles, houtcome⟩ := overDatabase_eq_memory h schedule fs
  refine ⟨hfiles, houtcome, ?_⟩
  intro other d' hother htables
  obtain ⟨hfiles', houtcome'⟩ := overDatabase_eq_memory hother schedule fs
  have hmemory : d'.memory settings = d.memory settings := by
    unfold Contents.memory
    rw [htables]
  rw [hfiles', houtcome', hmemory]
  exact ⟨hfiles.symm, houtcome.symm⟩

/-! ## A depot -/

def publicSchema : SchemaRow := ⟨2200, "public"⟩

def archiveSchema : SchemaRow := ⟨16384, "archive"⟩

def orderId : StoredColumn :=
  ⟨1, 23, ⟨"id", "integer", none, false, some "nextval('orders_id_seq'::regclass)", "int4"⟩⟩

def orderState : StoredColumn :=
  ⟨3, 90, ⟨"state", "USER-DEFINED", none, false, none, "order_state"⟩⟩

def orderParent : StoredColumn := ⟨4, 23, ⟨"parent_id", "integer", none, true, none, "int4"⟩⟩

/-- A table that refers to itself, with a column that is gone. -/
def depotOrders : StoredRelation where
  id := 100
  schema := publicSchema
  name := "orders"
  kind := StoredTable.baseTable
  columns := [orderId, orderState, orderParent]
  hidden := [⟨-1, 27, "ctid", false⟩, ⟨2, 0, "........pg.dropped.2........", true⟩]
  primaryKey := some ⟨"orders_pkey", [orderId]⟩
  otherKeys := []
  references := [⟨"orders_parent_fkey", 100, "orders", [(orderParent, orderId)]⟩]

def plainRelation (id : Nat) (schema : SchemaRow) (name kind : String) : StoredRelation :=
  ⟨id, schema, name, kind, [orderId], [], none, [], []⟩

/-- A table, a view beside it, and a table of the same name in another schema. -/
def depot : Contents where
  schemas := [publicSchema, archiveSchema]
  relations :=
    [ plainRelation 101 publicSchema "totals" "VIEW",
      plainRelation 102 archiveSchema "orders" StoredTable.baseTable, depotOrders ]
  enums := [⟨90, [(1, "draft"), (3 / 2, "sent"), (2, "paid")]⟩]

/-- The depot breaks no rule of a database. -/
theorem wellFormed_depot : depot.WellFormed where
  schemaIds := by decide
  ids := by decide
  names := by decide
  enumIds := by decide
  labels := by decide +kernel
  relations := by
    have hplain : ∀ id name kind, ∀ schema ∈ depot.schemas,
        (plainRelation id schema name kind).WellFormed depot := by
      intro id name kind schema hschema
      constructor
      · exact hschema
      all_goals simp [plainRelation, orderId]
    intro x hx
    simp only [depot, List.mem_cons, List.not_mem_nil, or_false] at hx
    rcases hx with rfl | rfl | rfl
    · exact hplain _ _ _ _ (by decide)
    · exact hplain _ _ _ _ (by decide)
    · refine ⟨by decide, by decide, by decide, by decide, by decide, ?_, by decide, by decide⟩
      intro k hk
      rw [← Option.some.inj hk]
      decide

def depotSettings : Settings where
  database := ⟨"127.0.0.1", 5432, "depot", "reader", "", "public", "disable"⟩
  generator := { GeneratorSettings.defaults with outputDir := "out" }

def depotNetwork : Network := ⟨fun _ => .ok depot.rows.server⟩

theorem serves_depot : depotNetwork.Serves depotSettings ["totals", "orders"] depot where
  wellFormed := wellFormed_depot
  reached :=
    ⟨⟨depot.rows.server, "public", true⟩, depot.rows, rfl, depot.shows_rows,
      SystemRows.answersFrom_server depot.shows_rows wellFormed_depot, rfl, fun _ _ _ => rfl⟩

/-- A request for a view and a table: the view is no base table, and so is missing in both runs. -/
theorem overDatabase_refines_depot :
    depotNetwork.Serves depotSettings ["totals", "orders"] depot ∧
      Refines depotNetwork depotSettings ["totals", "orders"] depot [] ⟨[], []⟩ :=
  ⟨serves_depot, overDatabase_refines serves_depot [] ⟨[], []⟩⟩

end Run

end CatalogEntities
